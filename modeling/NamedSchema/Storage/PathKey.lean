import NamedSchema.Text.Parts

/-!
# Paths as keys

Two paths are the same key if they have the same components: separators that are repeated or at the
end do not count, nor does a dot that stands for the directory it is in. No file is looked at, so two
paths to one file may well be different keys.
-/
namespace NamedSchema

inductive PathComponent where
  | root
  /-- A dot that the path starts with; other dots are no components. -/
  | current
  | parent
  | name (text : String)
  deriving DecidableEq, Repr

namespace PathComponent

/-- What a path starts with besides a name, given its parts. -/
def start? (parts : List String) : Option PathComponent :=
  if parts.head? = some "." then some .current
  else if parts.head? = some "" && 1 < parts.length then some .root
  else none

/-- The component that a part of a path stands for wherever it is. -/
def ofPart? (part : String) : Option PathComponent :=
  if part = "" || part = "." then none
  else if part = ".." then some .parent
  else some (.name part)

end PathComponent

/-- A path up to the way it is spelled. -/
@[ext] structure PathKey where
  components : List PathComponent
  deriving DecidableEq, Repr

def PathKey.ofText (path : String) : PathKey :=
  let parts := Text.parts '/' path
  ⟨(PathComponent.start? parts).toList ++ parts.filterMap PathComponent.ofPart?⟩

end NamedSchema

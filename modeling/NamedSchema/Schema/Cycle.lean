import NamedSchema.Schema.Basic

/-!
# Cycles on one level

A union leads to its alternatives and an alias without a container to its target, for the same value.
A type that leads to itself in this way describes nothing, so it is searched for, depth first in the
order of the document, and reported with the chain that leads back to it.
-/
namespace NamedSchema.TypeMap

def next (types : TypeMap) (name : String) : List String :=
  ((types.find? name).map TypeDefinition.sameLevel).getD []

/-- Visits a type and all that it leads to. `trail` holds the types on the way to it, nearest first,
and `done` those that lead to no cycle; the answer is `done` with what has been visited, or a chain
that ends where it begins. The fuel exceeds the length of any trail. -/
def visit (types : TypeMap) : (fuel : Nat) → (trail done : List String) → (name : String) →
    Except (List String) (List String)
  | 0, _, done, _ => .ok done
  | fuel + 1, trail, done, name =>
    if done.contains name then .ok done
    else if trail.contains name then
      .error (name :: (trail.takeWhile (· ≠ name)).reverse ++ [name])
    else do
      let done ← (types.next name).foldlM (visit types fuel (name :: trail)) done
      return name :: done

/-- The first chain of types that ends where it begins, if there is one and the types are visited in
the given order. -/
def cycleAlong? (types : TypeMap) (order : List String) : Option (List String) :=
  match order.foldlM (visit types (types.length + 2) []) [] with
  | .ok _ => none
  | .error chain => some chain

/-- The first such chain in the order of the document. -/
def cycle? (types : TypeMap) : Option (List String) := types.cycleAlong? types.names

end NamedSchema.TypeMap

/-!
# Paths into documents

Where in a document something stands: a start, and the keys and indices that lead on from it. A path
is written with a slash before each key and brackets around each index; the root is a single slash,
to which the first key adds none.
-/
namespace NamedSchema

inductive Path where
  /-- A place that is given by its text. -/
  | start (text : String)
  | member (parent : Path) (key : String)
  | entry (parent : Path) (index : Nat)
  deriving DecidableEq, Repr

namespace Path

def rootText : String := "/"

def root : Path := start rootText

def memberText (parent key : String) : String :=
  if parent = rootText then "/" ++ key else parent ++ "/" ++ key

def entryText (parent : String) (index : Nat) : String :=
  parent ++ "[" ++ toString index ++ "]"

def text : Path → String
  | start text => text
  | member parent key => memberText parent.text key
  | entry parent index => entryText parent.text index

end Path

end NamedSchema

import NamedSchema.Storage.Files
import NamedSchema.Text.Parts

/-!
# File trees

Files and directories in memory, under a directory that is also where relative paths start. A path
may pass through a directory by its name, stay with a dot and go back with two; every directory that
it passes has to exist.
-/
namespace NamedSchema

inductive FileNode where
  | directory
  | file (octets : ByteArray)

/-- Nodes by the names that lead to them; the directory at the root is not listed. -/
structure FileTree where
  /-- The canonical path of the root. -/
  base : String
  nodes : List (List String × FileNode)

namespace FileTree

def empty (base : String) : FileTree := ⟨base, []⟩

def node? (t : FileTree) (place : List String) : Option FileNode :=
  if place.isEmpty then some .directory else (t.nodes.find? (·.1 = place)).map (·.2)

def isDirectory (t : FileTree) (place : List String) : Bool :=
  match t.node? place with
  | some .directory => true
  | _ => false

/-- The place that one part of a path leads to. -/
def step? (t : FileTree) (place : List String) (part : String) : Option (List String) :=
  if !t.isDirectory place then none
  else if part = "" || part = "." then some place
  else if part = ".." then if place.isEmpty then none else some place.dropLast
  else
    let next := place ++ [part]
    if (t.node? next).isSome then some next else none

/-- The place that a path leads to; a path may also start with that of the root. -/
def resolve? (t : FileTree) (path : String) : Option (List String) :=
  if path = "" then none
  else
    match Text.parts '/' path with
    | "" :: _ => none
    | parts =>
      (if parts.head? = some t.base then parts.drop 1 else parts).foldlM t.step? []

def pathOf (t : FileTree) (place : List String) : String := "/".intercalate (t.base :: place)

/-- What is said of a path that leads nowhere. -/
def nothingThereReason : String := "No such file or directory (os error 2)"

def canonical (t : FileTree) (path : String) : Except String String :=
  match t.resolve? path with
  | some place => .ok (t.pathOf place)
  | none => .error nothingThereReason

def view (t : FileTree) (path : String) : FileView :=
  match (t.resolve? path).bind t.node? with
  | some (.file octets) => .ofOctets octets
  | _ => .absent

def files (t : FileTree) : Files := ⟨t.view, t.canonical⟩

/-- The place a path names, whether or not anything is there. -/
def placeOf (path : String) : List String :=
  (Text.parts '/' path).foldl (fun place part =>
    if part = "" || part = "." then place
    else if part = ".." then place.dropLast
    else place ++ [part]) []

def put (t : FileTree) (place : List String) (node : FileNode) : FileTree :=
  { t with nodes := (place, node) :: t.nodes.filter (·.1 ≠ place) }

/-- Writes a node, and the directories that lead to it if they are missing. -/
def write (t : FileTree) (path : String) (node : FileNode) : FileTree :=
  let place := placeOf path
  let t := (List.range (place.length - 1)).foldl (fun t n =>
    let parent := place.take (n + 1)
    if (t.node? parent).isSome then t else t.put parent .directory) t
  if place.isEmpty then t else t.put place node

/-- Removes a node and all that is beneath it. -/
def remove (t : FileTree) (path : String) : FileTree :=
  match t.resolve? path with
  | none | some [] => t
  | some place => { t with nodes := t.nodes.filter fun entry => !place.isPrefixOf entry.1 }

end FileTree

end NamedSchema

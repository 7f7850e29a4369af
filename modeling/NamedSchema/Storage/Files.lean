import NamedSchema.Validation.Walk

/-!
# Stored schemas and documents

What can be seen of the files under some paths, and the reading of schemas and JSON documents from
them. A path that is no file, a file that is no text and a text that is refused are told apart.
-/
namespace NamedSchema

inductive FileView where
  /-- No file: nothing, or something else. -/
  | absent
  | unreadable (reason : String)
  | text (content : String)
  deriving DecidableEq, Repr

structure Files where
  view : String → FileView
  /-- The one path among all that lead to the same place, or why there is none. -/
  canonical : String → Except String String

/-- What is said of a file whose octets are no text. -/
def notTextReason : String := "stream did not contain valid UTF-8"

def FileView.ofOctets (octets : ByteArray) : FileView :=
  match String.fromUTF8? octets with
  | some content => .text content
  | none => .unreadable notTextReason

namespace Files

def readText (files : Files) (path : String) : Except SchemaError String :=
  match files.view path with
  | .absent => .error (.notAFile path)
  | .unreadable reason => .error (.unreadable path reason)
  | .text content => .ok content

def loadSchema (files : Files) (path : String) : Except SchemaError Schema := do
  let content ← files.readText path
  match Json.read content with
  | .ok document => Schema.load .standard document
  | .error fault => .error (.invalidJsonFile path fault)

end Files

def Validator.validateFile (v : Validator) (files : Files) (path : String) :
    Except SchemaError Report := do
  return v.validateText (← files.readText path)

end NamedSchema

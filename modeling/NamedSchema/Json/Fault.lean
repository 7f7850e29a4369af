/-!
# Faults in JSON text

Where a text stops being JSON, and why. A `Mark` counts lines from one and, on its line, the bytes
consumed so far; a `Fault` is a cause at a mark.
-/
namespace NamedSchema.Json

/-- A place in a text: its line, and the number of bytes of that line before it. -/
structure Mark where
  line : Nat
  column : Nat
  deriving DecidableEq, Repr

namespace Mark

def start : Mark := ⟨1, 0⟩

def advance (m : Mark) (c : Char) : Mark :=
  if c = '\n' then ⟨m.line + 1, 0⟩ else ⟨m.line, m.column + c.utf8Size⟩

def advanceAll (m : Mark) (cs : List Char) : Mark := cs.foldl advance m

/-- The place after `n` bytes of the rest of the text; the end of the text stops it. -/
def skipBytes (m : Mark) : Nat → List Char → Mark
  | _, [] => m
  | 0, _ => m
  | n + 1, c :: rest =>
    if c.utf8Size ≤ n + 1 then (m.advance c).skipBytes (n + 1 - c.utf8Size) rest
    else ⟨m.line, m.column + n + 1⟩
  termination_by _ cs => cs.length

end Mark

/-- Why a text is not the JSON that was asked for. The causes from `mismatch` on concern a text that
is JSON of another shape. -/
inductive Cause where
  | eofInArray
  | eofInObject
  | eofInString
  | eofInValue
  | missingColon
  | missingArraySeparator
  | missingObjectSeparator
  | unknownWord
  | missingValue
  | invalidEscape
  | invalidNumber
  | numberOutOfRange
  | controlCharacter
  | keyNotString
  | unpairedSurrogate
  | unfinishedSurrogatePair
  | trailingComma
  | trailingCharacters
  | nestingTooDeep
  | mismatch (found expected : String)
  | refused (found expected : String)
  | wrongLength (found : Nat) (expected : String)
  | missingField (name : String)
  | duplicateField (name : String)
  deriving DecidableEq, Repr

def Cause.message : Cause → String
  | eofInArray => "EOF while parsing a list"
  | eofInObject => "EOF while parsing an object"
  | eofInString => "EOF while parsing a string"
  | eofInValue => "EOF while parsing a value"
  | missingColon => "expected `:`"
  | missingArraySeparator => "expected `,` or `]`"
  | missingObjectSeparator => "expected `,` or `\x7d`"
  | unknownWord => "expected ident"
  | missingValue => "expected value"
  | invalidEscape => "invalid escape"
  | invalidNumber => "invalid number"
  | numberOutOfRange => "number out of range"
  | controlCharacter => "control character (\\u0000-\\u001F) found while parsing a string"
  | keyNotString => "key must be a string"
  | unpairedSurrogate => "lone leading surrogate in hex escape"
  | unfinishedSurrogatePair => "unexpected end of hex escape"
  | trailingComma => "trailing comma"
  | trailingCharacters => "trailing characters"
  | nestingTooDeep => "recursion limit exceeded"
  | mismatch found expected => "invalid type: " ++ found ++ ", expected " ++ expected
  | refused found expected => "invalid value: " ++ found ++ ", expected " ++ expected
  | wrongLength found expected => "invalid length " ++ toString found ++ ", expected " ++ expected
  | missingField name => "missing field `" ++ name ++ "`"
  | duplicateField name => "duplicate field `" ++ name ++ "`"

structure Fault where
  cause : Cause
  mark : Mark
  deriving DecidableEq, Repr

def Fault.message (f : Fault) : String :=
  f.cause.message ++ " at line " ++ toString f.mark.line ++ " column " ++ toString f.mark.column

def Fault.located (f : Fault) : String :=
  "[" ++ toString f.mark.line ++ ":" ++ toString f.mark.column ++ "] " ++ f.message

end NamedSchema.Json

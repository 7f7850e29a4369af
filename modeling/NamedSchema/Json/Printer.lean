import NamedSchema.Json.Basic
import NamedSchema.Decimal.Layout

/-!
# JSON text

Two ways to write a value: `Json.compact` without any blanks, and `Json.pretty` with one member or
element a line, indented by two blanks a level. Strings escape the quote, the backslash and the
control characters and nothing else.
-/
namespace NamedSchema

/-- The number as JSON text: floats always show a fraction or an exponent. -/
def JsonNumber.text : JsonNumber → String
  | int i => toString i
  | float f => Decimal.json.text f

namespace Json

def hexDigit (n : Nat) : Char :=
  if n < 10 then Char.ofNat (48 + n) else Char.ofNat (87 + n)

def escapeChar (c : Char) : List Char :=
  if c = '"' then ['\\', '"']
  else if c = '\\' then ['\\', '\\']
  else if c = '\n' then ['\\', 'n']
  else if c = '\r' then ['\\', 'r']
  else if c = '\t' then ['\\', 't']
  else if c = '\x08' then ['\\', 'b']
  else if c = '\x0c' then ['\\', 'f']
  else if c.toNat < 32 then
    ['\\', 'u', '0', '0', hexDigit (c.toNat / 16), hexDigit (c.toNat % 16)]
  else [c]

def quote (s : String) : String :=
  String.ofList ('"' :: s.toList.flatMap escapeChar ++ ['"'])

mutual

def compact : Json → String
  | null => "null"
  | bool true => "true"
  | bool false => "false"
  | num n => n.text
  | str s => quote s
  | arr items => "[" ++ ",".intercalate (compactItems items) ++ "]"
  | obj members => "\x7b" ++ ",".intercalate (compactMembers members) ++ "\x7d"

def compactItems : List Json → List String
  | [] => []
  | v :: rest => compact v :: compactItems rest

def compactMembers : List (String × Json) → List String
  | [] => []
  | (k, v) :: rest => (quote k ++ ":" ++ compact v) :: compactMembers rest

end

/-- A bracketed block of lines: the closing bracket stands on its own line at the outer level. -/
def block (opening closing margin : String) : List String → String
  | [] => opening ++ closing
  | lines =>
    opening ++ ",".intercalate (lines.map fun line => "\n" ++ margin ++ "  " ++ line) ++
      "\n" ++ margin ++ closing

mutual

/-- The value over several lines, each further line indented by `margin`. -/
def prettyAt (margin : String) : Json → String
  | arr items => block "[" "]" margin (prettyItems (margin ++ "  ") items)
  | obj members => block "\x7b" "\x7d" margin (prettyMembers (margin ++ "  ") members)
  | null => "null"
  | bool b => compact (bool b)
  | num n => n.text
  | str s => quote s

def prettyItems (margin : String) : List Json → List String
  | [] => []
  | v :: rest => prettyAt margin v :: prettyItems margin rest

def prettyMembers (margin : String) : List (String × Json) → List String
  | [] => []
  | (k, v) :: rest => (quote k ++ ": " ++ prettyAt margin v) :: prettyMembers margin rest

end

/-- The value with one member or element a line. -/
def pretty (v : Json) : String := prettyAt "" v

/-- The value as it stands in a sentence: a string without its quotes, anything else compact. -/
def display : Json → String
  | str s => s
  | v => compact v

end Json

end NamedSchema

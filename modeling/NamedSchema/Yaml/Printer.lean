import NamedSchema.Json.Printer
import NamedSchema.Yaml.Cursor
import NamedSchema.Yaml.Scalar

/-!
# YAML text

Writes a JSON value in block style: a mapping's members are indented by two blanks a level, the
entries of a sequence are not indented more than the key before them, and lines are never folded.
A string is written plain if it reads back as itself, else in single quotes, as a literal block if
it has line feeds, and in double quotes if it has characters that do not print.
-/
namespace NamedSchema.Yaml

/-! ## Scalars -/

def isPrintable (c : Char) : Bool :=
  let n := c.toNat
  n = 0x0A || (0x20 ≤ n && n ≤ 0x7E) || (0xA0 ≤ n && n ≤ 0xFFFD && n ≠ 0xFEFF) || 0x10000 ≤ n

/-- Whether a plain scalar may not start with a character that is followed by another. -/
def isLeadingIndicator (c : Char) (next : Option Char) : Bool :=
  "#,[]\x7b\x7d&*!|>'\"%@`".toList.contains c ||
    ((c = '?' || c = ':' || c = '-') && Cursor.isGap next)

/-- Whether a plain scalar would end, or turn into a key, at a later character. -/
def hasInnerIndicator : List Char → Bool
  | a :: b :: rest =>
    (b = ':' && Cursor.isGap rest.head?) || (b = '#' && Cursor.isGap (some a)) ||
      hasInnerIndicator (b :: rest)
  | _ => false

/-- Whether a text has a character of one kind right before one of another. -/
def hasPair (first second : Char → Bool) : List Char → Bool
  | a :: b :: rest => (first a && second b) || hasPair first second (b :: rest)
  | _ => false

def isSpace (c : Char) : Bool := c = ' '

/-- Whether a text, read as a scalar in block context, is the scalar it is. -/
def isPlain (cs : List Char) : Bool :=
  match cs with
  | [] => false
  | c :: rest =>
    !isLeadingIndicator c rest.head? && !hasInnerIndicator cs && !cs.any isBreak &&
      c ≠ ' ' && cs.getLast? ≠ some ' ' && cs.take 3 ≠ ['-', '-', '-'] &&
      cs.take 3 ≠ ['.', '.', '.']

/-- Whether a text can only be written with escapes. -/
def needsEscapes (cs : List Char) : Bool :=
  cs.any (!isPrintable ·) || hasPair isSpace isBreak cs

def codeEscape (n : Nat) : List Char :=
  let (letter, width) := if n ≤ 0xFF then ('x', 2) else if n ≤ 0xFFFF then ('u', 4) else ('U', 8)
  let digits := (Nat.toDigits 16 n).map Char.toUpper
  letter :: List.replicate (width - digits.length) '0' ++ digits

def escapedChar (c : Char) : List Char :=
  if c = '"' || c = '\\' then ['\\', c]
  else if isPrintable c && !isBreak c then [c]
  else
    '\\' ::
      match c.toNat with
      | 0x00 => ['0']
      | 0x07 => ['a']
      | 0x08 => ['b']
      | 0x09 => ['t']
      | 0x0A => ['n']
      | 0x0B => ['v']
      | 0x0C => ['f']
      | 0x0D => ['r']
      | 0x1B => ['e']
      | 0x85 => ['N']
      | 0x2028 => ['L']
      | 0x2029 => ['P']
      | n => codeEscape n

def doubleQuoted (cs : List Char) : List Char := '"' :: cs.flatMap escapedChar ++ ['"']

/-- Indents what follows line breaks. -/
def indentLines (margin : List Char) : (broken : Bool) → List Char → List Char
  | _, [] => []
  | broken, c :: rest =>
    if isBreak c then c :: indentLines margin true rest
    else (if broken then margin else []) ++ c :: indentLines margin false rest

def margin (indent : Nat) : List Char := List.replicate indent ' '

def singleQuoted (indent : Nat) (cs : List Char) : List Char :=
  let inner := cs.flatMap fun c => if c = '\'' then ['\'', '\''] else [c]
  let tail := if cs.getLast?.any isBreak then margin indent else []
  '\'' :: indentLines (margin indent) false inner ++ tail ++ ['\'']

/-- What says how the line breaks at the end of a literal block are meant. -/
def chompingMark (cs : List Char) : List Char :=
  match cs.reverse with
  | [] => ['-']
  | last :: rest =>
    if !isBreak last then ['-'] else if rest.head?.all isBreak then ['+'] else []

def literalBlock (indent : Nat) (cs : List Char) : List Char :=
  let width := if cs.head?.any fun c => c = ' ' || isBreak c then ['2'] else []
  '|' :: width ++ chompingMark cs ++ '\n' :: indentLines (margin indent) true cs

/-- A string whose further lines are indented by some columns. -/
def stringText (indent : Nat) (s : String) : List Char :=
  let cs := s.toList
  if cs.contains '\n' then
    if needsEscapes cs || cs.getLast? = some ' ' then doubleQuoted cs else literalBlock indent cs
  else
    let meant := match Scalar.ofPlain s with
      | .text => !Scalar.isPadded cs
      | _ => false
    if meant && isPlain cs && !needsEscapes cs then cs
    else if needsEscapes cs || hasPair isBreak isSpace cs then doubleQuoted cs
    else singleQuoted indent cs

def keyText (s : String) : List Char :=
  if s.toList.any isBreak then doubleQuoted s.toList else stringText 0 s

/-! ## Values -/

/-- Ends a line, unless it has ended with a block. -/
def endLine (cs : List Char) : List Char :=
  if cs.getLast?.any isBreak then cs else cs ++ ['\n']

/-- Lines that start at some column, of which the first has been reached. -/
def joinLines (indent : Nat) : List (List Char) → List Char
  | [] => []
  | [line] => line
  | line :: rest => line ++ margin indent ++ joinLines indent rest

mutual

/-- What follows the colon of a member that starts at some column. -/
def afterColon (indent : Nat) : Json → List Char
  | .null => endLine " null".toList
  | .bool b => endLine (' ' :: (toString b).toList)
  | .num n => endLine (' ' :: n.text.toList)
  | .str s => endLine (' ' :: stringText (indent + 2) s)
  | .arr [] => endLine " []".toList
  | .arr (v :: rest) =>
    '\n' :: margin indent ++ joinLines indent (afterDash indent v :: entryLines indent rest)
  | .obj [] => endLine " \x7b\x7d".toList
  | .obj ((k, v) :: rest) =>
    '\n' :: margin (indent + 2) ++ joinLines (indent + 2)
      ((keyText k ++ ':' :: afterColon (indent + 2) v) :: memberLines (indent + 2) rest)

/-- An entry of a sequence, whose dash stands at some column. -/
def afterDash (indent : Nat) : Json → List Char
  | .null => endLine "- null".toList
  | .bool b => endLine ("- ".toList ++ (toString b).toList)
  | .num n => endLine ("- ".toList ++ n.text.toList)
  | .str s => endLine ("- ".toList ++ stringText (indent + 2) s)
  | .arr [] => endLine "- []".toList
  | .arr (v :: rest) =>
    "- ".toList ++ joinLines (indent + 2)
      (afterDash (indent + 2) v :: entryLines (indent + 2) rest)
  | .obj [] => endLine "- \x7b\x7d".toList
  | .obj ((k, v) :: rest) =>
    "- ".toList ++ joinLines (indent + 2)
      ((keyText k ++ ':' :: afterColon (indent + 2) v) :: memberLines (indent + 2) rest)

def memberLines (indent : Nat) : List (String × Json) → List (List Char)
  | [] => []
  | (k, v) :: rest => (keyText k ++ ':' :: afterColon indent v) :: memberLines indent rest

def entryLines (indent : Nat) : List Json → List (List Char)
  | [] => []
  | v :: rest => afterDash indent v :: entryLines indent rest

end

/-- The value as a YAML text. -/
def write (v : Json) : String :=
  String.ofList <|
    match v with
    | .arr (v :: rest) => joinLines 0 (entryLines 0 (v :: rest))
    | .obj (m :: rest) => joinLines 0 (memberLines 0 (m :: rest))
    | v => (afterColon 0 v).drop 1

end NamedSchema.Yaml

import NamedSchema.Yaml.Fault

/-!
# Reading positions in YAML text

A cursor stands in front of the rest of a text. Lines end with a carriage return, a line feed, both,
or one of the three Unicode line ends; the first four are read as a line feed.
-/
namespace NamedSchema.Yaml

structure Cursor where
  rest : List Char
  mark : Mark

def isBreak (c : Char) : Bool :=
  c = '\r' || c = '\n' || c.toNat = 0x85 || c.toNat = 0x2028 || c.toNat = 0x2029

def isBlank (c : Char) : Bool := c = ' ' || c = '\t'

/-- Letters, digits, hyphens and underscores of ASCII. -/
def isWordChar (c : Char) : Bool := c.isAlphanum || c = '_' || c = '-'

def hexValue? (c : Char) : Option Nat :=
  if '0' ≤ c ∧ c ≤ '9' then some (c.toNat - 48)
  else if 'a' ≤ c ∧ c ≤ 'f' then some (c.toNat - 87)
  else if 'A' ≤ c ∧ c ≤ 'F' then some (c.toNat - 55)
  else none

namespace Cursor

def ofText (cs : List Char) : Cursor := ⟨cs, Mark.start⟩

def head? (c : Cursor) : Option Char := c.rest.head?

def second? (c : Cursor) : Option Char := (c.rest.drop 1).head?

def isAt (c : Cursor) (x : Char) : Bool := c.rest.head? = some x

def skip (c : Cursor) : Cursor :=
  match c.rest with
  | [] => c
  | _ :: rest => ⟨rest, c.mark.next⟩

def skipMany : Nat → Cursor → Cursor
  | 0, c => c
  | n + 1, c => skipMany n c.skip

/-- Reads a line break, if there is one: what it is read as, and the rest. -/
def readBreak (c : Cursor) : List Char × Cursor :=
  match c.rest with
  | '\r' :: '\n' :: rest => (['\n'], ⟨rest, c.mark.nextLine 2⟩)
  | x :: rest =>
    if isBreak x then
      (if x.toNat = 0x2028 ∨ x.toNat = 0x2029 then [x] else ['\n'], ⟨rest, c.mark.nextLine 1⟩)
    else ([], c)
  | [] => ([], c)

def skipBreak (c : Cursor) : Cursor := c.readBreak.2

/-- Behind the characters that satisfy a test; none of them may be a line break. -/
def skipWhile (test : Char → Bool) (c : Cursor) : Cursor :=
  skipMany (c.rest.takeWhile test).length c

def readWhile (test : Char → Bool) (c : Cursor) : List Char × Cursor :=
  let cs := c.rest.takeWhile test
  (cs, skipMany cs.length c)

/-- Whether a character, or the end of the text, is a blank or a line break. -/
def isGap : Option Char → Bool
  | none => true
  | some x => isBlank x || isBreak x

def isLineEnd : Option Char → Bool
  | none => true
  | some x => isBreak x

def atGap (c : Cursor) : Bool := isGap c.head?

def atLineEnd (c : Cursor) : Bool := isLineEnd c.head?

/-- Behind a comment, at the end of the line. -/
def skipComment (c : Cursor) : Cursor :=
  if c.isAt '#' then c.skipWhile fun x => !isBreak x else c

/-- Whether a line begins here with three hyphens or three dots that stand alone. -/
def atDocumentMarker (c : Cursor) : Bool :=
  c.mark.column = 0 &&
    match c.rest with
    | '-' :: '-' :: '-' :: rest => isGap rest.head?
    | '.' :: '.' :: '.' :: rest => isGap rest.head?
    | _ => false

def fail {α : Type} (c : Cursor) (cause : Cause) (context : Context) (start : Mark) :
    Except Fault α :=
  .error ⟨cause, c.mark, some (context, start)⟩

end Cursor

abbrev Read (α : Type) := Cursor → Except Fault (α × Cursor)

end NamedSchema.Yaml

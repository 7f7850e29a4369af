import NamedSchema.Pattern.Syntax
import NamedSchema.Unicode.Property
import NamedSchema.Unicode.GeneralCategory

/-!
# Reading positions in a pattern

A cursor stands in front of a character of a pattern. While blanks are ignored, comments run from
`#` to the end of the line and count as blanks.
-/
namespace NamedSchema.Pattern

def blanks : Unicode.CodeSet := (Unicode.property? "whitespace").getD []

def letters : Unicode.CodeSet := (Unicode.property? "alphabetic").getD []

def numerics : Unicode.CodeSet := Unicode.ofCategories ["Nd", "Nl", "No"]

def isBlank (c : Char) : Bool := blanks.contains c.toNat

structure Cursor where
  rest : List Char
  place : Place
  ignoresBlanks : Bool
  /-- The names of the groups opened so far. -/
  names : List (String × Span)

abbrev Read (α : Type) := Cursor → Except Fault (α × Cursor)

namespace Cursor

def ofText (text : String) : Cursor := ⟨text.toList, Place.start, false, []⟩

def atEnd (c : Cursor) : Bool := c.rest.isEmpty

def advance (c : Cursor) : Cursor :=
  match c.rest with
  | [] => c
  | x :: rest => { c with rest := rest, place := c.place.advance x }

def skip : Nat → Cursor → Cursor
  | 0, c => c
  | n + 1, c => skip n c.advance

/-- The place and the rest of a text behind blanks and comments. -/
def blanksFrom (inComment : Bool) (place : Place) : List Char → Place × List Char
  | [] => (place, [])
  | x :: rest =>
    if inComment then blanksFrom (x ≠ '\n') (place.advance x) rest
    else if isBlank x then blanksFrom false (place.advance x) rest
    else if x = '#' then blanksFrom true (place.advance x) rest
    else (place, x :: rest)

def skipBlanks (c : Cursor) : Cursor :=
  if c.ignoresBlanks then
    let (place, rest) := blanksFrom false c.place c.rest
    { c with rest := rest, place := place }
  else c

def next (c : Cursor) : Cursor :=
  match c.rest with
  | [] => c
  | _ => c.advance.skipBlanks

def charSpan (c : Cursor) : Span := ⟨c.place, c.advance.place⟩

/-- The part of the pattern from a place up to the cursor. -/
def since (c : Cursor) (start : Place) : Span := ⟨start, c.place⟩

def here (c : Cursor) : Span := Span.point c.place

def startsWith (c : Cursor) (text : String) : Bool := text.toList.isPrefixOf c.rest

/-- The character that follows the next one. Where blanks are ignored it is looked for behind
blanks and one `#`; if nothing else is left, it is the character directly behind. -/
def second? (c : Cursor) : Option Char :=
  let behind := c.rest.drop 1
  if c.ignoresBlanks then
    let shown := behind.dropWhile isBlank
    let shown := match shown with
      | '#' :: rest => rest.dropWhile isBlank
      | shown => shown
    if shown.isEmpty then behind.head? else shown.head?
  else behind.head?

end Cursor

def fail {α : Type} (cause : Cause) (span : Span) : Except Fault α := .error ⟨cause, span, none⟩

end NamedSchema.Pattern

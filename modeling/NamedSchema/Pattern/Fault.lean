/-!
# Faults in patterns

Where a pattern goes wrong and why, and the report that shows the place: the lines of the pattern
with carets under the faulty part. Lines and columns count characters from one.
-/
namespace NamedSchema.Pattern

structure Place where
  line : Nat
  column : Nat
  deriving DecidableEq, Repr

namespace Place

def start : Place := ⟨1, 1⟩

def advance (p : Place) (c : Char) : Place :=
  if c = '\n' then ⟨p.line + 1, 1⟩ else ⟨p.line, p.column + 1⟩

def le (a b : Place) : Bool := a.line < b.line || (a.line == b.line && a.column ≤ b.column)

end Place

structure Span where
  start : Place
  stop : Place
  deriving DecidableEq, Repr

namespace Span

def point (p : Place) : Span := ⟨p, p⟩

def inOneLine (s : Span) : Bool := s.start.line == s.stop.line

/-- Spans in order of their starts, then of their ends. -/
def le (a b : Span) : Bool := if a.start = b.start then a.stop.le b.stop else a.start.le b.start

end Span

inductive Cause where
  | classEscape
  | classRange
  | classRangeBoundary
  | classUnclosed
  | decimalEmpty
  | decimalInvalid
  | hexEmpty
  | hexNotScalar
  | hexDigit
  | escapeUnfinished
  | escapeUnknown
  | negationDangling
  | flagDuplicate
  | negationRepeated
  | flagUnfinished
  | flagUnknown
  | nameDuplicate
  | nameEmpty
  | nameInvalid
  | nameUnfinished
  | groupUnclosed
  | groupUnopened
  | nestingTooDeep (limit : Nat)
  | countInvalid
  | countUnclosed
  | boundaryUnclosed
  | boundaryUnknown
  | boundaryOrCountUnfinished
  | repetitionOfNothing
  | propertySpelling
  | backreference
  | lookAround
  | unicodeNotAllowed
  | invalidEncoding
  | propertyUnknown
  | propertyValueUnknown
  deriving DecidableEq, Repr

def Cause.message : Cause → String
  | classEscape => "invalid escape sequence found in character class"
  | classRange => "invalid character class range, the start must be <= the end"
  | classRangeBoundary => "invalid range boundary, must be a literal"
  | classUnclosed => "unclosed character class"
  | decimalEmpty => "repetition quantifier expects a valid decimal"
  | decimalInvalid => "decimal literal invalid"
  | hexEmpty => "hexadecimal literal empty"
  | hexNotScalar => "hexadecimal literal is not a Unicode scalar value"
  | hexDigit => "invalid hexadecimal digit"
  | escapeUnfinished => "incomplete escape sequence, reached end of pattern prematurely"
  | escapeUnknown => "unrecognized escape sequence"
  | negationDangling => "dangling flag negation operator"
  | flagDuplicate => "duplicate flag"
  | negationRepeated => "flag negation operator repeated"
  | flagUnfinished => "expected flag but got end of regex"
  | flagUnknown => "unrecognized flag"
  | nameDuplicate => "duplicate capture group name"
  | nameEmpty => "empty capture group name"
  | nameInvalid => "invalid capture group character"
  | nameUnfinished => "unclosed capture group name"
  | groupUnclosed => "unclosed group"
  | groupUnopened => "unopened group"
  | nestingTooDeep limit =>
    "exceed the maximum number of nested parentheses/brackets (" ++ toString limit ++ ")"
  | countInvalid => "invalid repetition count range, the start must be <= the end"
  | countUnclosed => "unclosed counted repetition"
  | boundaryUnclosed =>
    "special word boundary assertion is either unclosed or contains an invalid character"
  | boundaryUnknown =>
    "unrecognized special word boundary assertion, valid choices are: start, end, start-half or " ++
      "end-half"
  | boundaryOrCountUnfinished =>
    "found either the beginning of a special word boundary or a bounded repetition on a \\b with " ++
      "an opening brace, but no closing brace"
  | repetitionOfNothing => "repetition operator missing expression"
  | propertySpelling => "invalid Unicode character class"
  | backreference => "backreferences are not supported"
  | lookAround => "look-around, including look-ahead and look-behind, is not supported"
  | unicodeNotAllowed => "Unicode not allowed here"
  | invalidEncoding => "pattern can match invalid UTF-8"
  | propertyUnknown => "Unicode property not found"
  | propertyValueUnknown => "Unicode property value not found"

/-- A cause, the part of the pattern it concerns, and an earlier part that it conflicts with. -/
structure Fault where
  cause : Cause
  span : Span
  earlier : Option Span
  deriving DecidableEq, Repr

namespace Fault

/-- The lines of a text, without their line feeds and the carriage returns before them. -/
def linesFrom (current : List Char) : List Char → List String
  | [] => if current.isEmpty then [] else [String.ofList current.reverse]
  | '\n' :: rest =>
    let line := match current with
      | '\r' :: before => before
      | line => line
    String.ofList line.reverse :: linesFrom [] rest
  | c :: rest => linesFrom (c :: current) rest

def spaces (n : Nat) : String := String.ofList (List.replicate n ' ')

/-- Carets under spans of one line, in order; `column` counts the characters written so far. -/
def carets (column : Nat) : List Span → String
  | [] => ""
  | s :: rest =>
    let gap := s.start.column - 1 - column
    let width := max 1 (s.stop.column - s.start.column)
    spaces gap ++ String.ofList (List.replicate width '^') ++ carets (column + gap + width) rest

/-- The lines of the pattern with the carets of the spans that lie in one line. -/
def marked (width : Nat) (spans : List Span) (number : Nat) : List String → String
  | [] => ""
  | line :: rest =>
    let lead :=
      if width = 0 then "    "
      else spaces (width - (toString number).length) ++ toString number ++ ": "
    let here := spans.filter fun s => s.start.line = number
    let notes :=
      if here.isEmpty then ""
      else spaces (if width = 0 then 4 else width + 2) ++ carets 0 here ++ "\n"
    lead ++ line ++ "\n" ++ notes ++ marked width spans (number + 1) rest

/-- A span of several lines in words. -/
def wide (s : Span) : String :=
  "on line " ++ toString s.start.line ++ " (column " ++ toString s.start.column ++
    ") through line " ++ toString s.stop.line ++ " (column " ++ toString (s.stop.column - 1) ++ ")"

/-- The report on a faulty pattern. A pattern of several lines stands between rules, with numbered
lines. -/
def report (f : Fault) (pattern : String) : String :=
  let cs := pattern.toList
  let lines := linesFrom [] cs
  let count := lines.length + if cs.getLast? = some '\n' then 1 else 0
  let width := if count ≤ 1 then 0 else (toString count).length
  let spans := (f.span :: f.earlier.toList).mergeSort Span.le
  let body := marked width (spans.filter Span.inOneLine) 1 lines
  let outcome := "error: " ++ f.cause.message
  let wides := spans.filter fun s => !s.inOneLine
  if '\n' ∈ cs then
    let rule := String.ofList (List.replicate 79 '~') ++ "\n"
    "regex parse error:\n" ++ rule ++ body ++ rule ++
      (if wides.isEmpty then "" else "\n".intercalate (wides.map wide) ++ "\n") ++ outcome
  else "regex parse error:\n" ++ body ++ outcome

end Fault

end NamedSchema.Pattern

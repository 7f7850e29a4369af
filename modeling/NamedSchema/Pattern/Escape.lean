import NamedSchema.Pattern.Cursor

/-!
# Escapes

What a backslash makes of the characters behind it: literals, classes and assertions.
-/
namespace NamedSchema.Pattern

/-- Characters with a meaning of their own somewhere in a pattern. -/
def isMeta (c : Char) : Bool := "\\.+*?()|[]\x7b\x7d^$#&-~".toList.contains c

def isEscapable (c : Char) : Bool :=
  isMeta c || (c.toNat < 128 && !c.isAlphanum && c ≠ '<' && c ≠ '>')

def hexValue? (c : Char) : Option Nat :=
  if '0' ≤ c ∧ c ≤ '9' then some (c.toNat - 48)
  else if 'a' ≤ c ∧ c ≤ 'f' then some (c.toNat - 87)
  else if 'A' ≤ c ∧ c ≤ 'F' then some (c.toNat - 55)
  else none

/-- The character with the code point written by hexadecimal digits, if there is one. -/
def scalar? (digits : List Nat) : Option Char :=
  let n := digits.foldl (fun n d => n * 16 + d) 0
  if n.isValidChar then some (Char.ofNat n) else none

def readHexFixed : Nat → Read (List Nat)
  | 0, c => .ok ([], c)
  | n + 1, c =>
    match c.rest with
    | [] => fail .escapeUnfinished c.here
    | x :: _ =>
      match hexValue? x with
      | none => fail .hexDigit c.charSpan
      | some d => do
        let (ds, c) ← readHexFixed n c.next
        return (d :: ds, c)

/-- Hexadecimal digits up to a closing brace, which is not read. -/
def readHexBraced (brace : Place) : (fuel : Nat) → Read (List Nat)
  | 0, c => fail .escapeUnfinished (c.since brace)
  | fuel + 1, c =>
    match c.rest with
    | [] => fail .escapeUnfinished (c.since brace)
    | '\x7d' :: _ => .ok ([], c)
    | x :: _ =>
      match hexValue? x with
      | none => fail .hexDigit c.charSpan
      | some d => do
        let (ds, c) ← readHexBraced brace fuel c.next
        return (d :: ds, c)

/-- A literal by its code point; the cursor stands behind the letter that announces `count` digits,
and `start` is the place of the backslash. -/
def readHex (start : Place) (count : Nat) : Read Literal := fun c =>
  match c.rest with
  | [] => fail .escapeUnfinished c.here
  | '\x7b' :: _ => do
    let (digits, closing) ← readHexBraced c.place (c.rest.length + 1) c.next
    let after := closing.next
    if digits.isEmpty then fail .hexEmpty (after.since c.place)
    else
      match scalar? digits with
      | none => fail .hexNotScalar (closing.since c.advance.place)
      | some char => return (⟨after.since start, char, false⟩, after)
  | _ => do
    let (digits, after) ← readHexFixed count c
    match scalar? digits with
    | none => fail .hexNotScalar (after.since c.place)
    | some char => return (⟨after.since start, char, count == 2⟩, after)

def readBraced : (fuel : Nat) → Read (List Char)
  | 0, c => fail .escapeUnfinished c.here
  | fuel + 1, c =>
    match c.rest with
    | [] => fail .escapeUnfinished c.here
    | '\x7d' :: _ => .ok ([], c)
    | x :: _ => do
      let (xs, c) ← readBraced fuel c.next
      return (x :: xs, c)

/-- Splits a text at the first place where `mark` stands. -/
def splitAtMark (mark : List Char) : List Char → Option (List Char × List Char)
  | [] => none
  | x :: rest =>
    if mark.isPrefixOf (x :: rest) then some ([], (x :: rest).drop mark.length)
    else (splitAtMark mark rest).map fun (before, after) => (x :: before, after)

/-- A query as it stands between braces: a name, or a name and a value. -/
def PropertyQuery.ofText (text : List Char) : PropertyQuery :=
  let parts := ((splitAtMark ['!', '='] text).orElse fun _ => splitAtMark [':'] text).orElse
    fun _ => splitAtMark ['='] text
  match parts with
  | some (name, value) => .valued (String.ofList name) (String.ofList value)
  | none => .named (String.ofList text)

def readProperty (start : Place) (negated : Bool) : Read Property := fun c =>
  let inside := c.next
  match inside.rest with
  | [] => fail .escapeUnfinished inside.here
  | '\x7b' :: _ => do
    let (text, closing) ← readBraced (inside.rest.length + 1) inside.next
    let after := closing.advance
    return (⟨after.since start, negated, .ofText text⟩, after)
  | '\\' :: _ => fail .propertySpelling inside.charSpan
  | x :: _ =>
    let after := inside.next
    return (⟨after.since start, negated, .named x.toString⟩, after)

def isBoundaryLetter (c : Char) : Bool := c.isAlpha || c = '-'

def boundaryName : (fuel : Nat) → Cursor → List Char × Cursor
  | 0, c => ([], c)
  | fuel + 1, c =>
    match c.rest with
    | [] => ([], c)
    | x :: _ =>
      if isBoundaryLetter x then
        let (xs, c) := boundaryName fuel c.next
        (x :: xs, c)
      else ([], c)

def boundaryKind? : String → Option Assertion
  | "start" => some .wordStart
  | "end" => some .wordEnd
  | "start-half" => some .wordStartHalf
  | "end-half" => some .wordEndHalf
  | _ => none

/-- A word boundary; the cursor stands behind the `b`. Braces that hold no letters are left to be
read as a repetition. -/
def readBoundary (start : Place) : Read Node := fun c =>
  match c.rest with
  | '\x7b' :: _ =>
    let inside := c.next
    match inside.rest with
    | [] => fail .boundaryOrCountUnfinished (inside.since start)
    | x :: _ =>
      if isBoundaryLetter x then
        let (name, closing) := boundaryName inside.rest.length inside
        match closing.rest with
        | '\x7d' :: _ =>
          match boundaryKind? (String.ofList name) with
          | some kind => return (.assertion (closing.advance.since start) kind, closing.advance)
          | none => fail .boundaryUnknown (closing.since inside.place)
        | _ => fail .boundaryUnclosed (closing.since c.place)
      else return (.assertion (c.since start) .boundary, c)
  | _ => return (.assertion (c.since start) .boundary, c)

def letterEscape? : Char → Option Char
  | 'a' => some '\x07'
  | 'f' => some '\x0c'
  | 't' => some '\t'
  | 'n' => some '\n'
  | 'r' => some '\r'
  | 'v' => some '\x0b'
  | _ => none

def letterClass? : Char → Option (Bool × LetterClass)
  | 'd' => some (false, .digit)
  | 's' => some (false, .space)
  | 'w' => some (false, .word)
  | 'D' => some (true, .digit)
  | 'S' => some (true, .space)
  | 'W' => some (true, .word)
  | _ => none

def letterAssertion? : Char → Option Assertion
  | 'A' => some .textStart
  | 'z' => some .textEnd
  | 'B' => some .noBoundary
  | '<' => some .wordStart
  | '>' => some .wordEnd
  | _ => none

def hexDigits? : Char → Option Nat
  | 'x' => some 2
  | 'u' => some 4
  | 'U' => some 8
  | _ => none

/-- What an escape stands for; the cursor stands at the backslash. -/
def readEscape : Read Node := fun c =>
  let start := c.place
  let inside := c.advance
  match inside.rest with
  | [] => fail .escapeUnfinished (inside.since start)
  | x :: _ =>
    let after := inside.advance
    let span := after.since start
    if x.isDigit then fail .backreference span
    else if let some count := hexDigits? x then
      (readHex start count inside.next).map fun (l, c) => (.literal l, c)
    else if x = 'p' ∨ x = 'P' then
      (readProperty start (x = 'P') inside).map fun (p, c) => (.property p, c)
    else if let some (negated, kind) := letterClass? x then
      .ok (.letter ⟨span, negated, kind⟩, after)
    else if isEscapable x then .ok (.literal ⟨span, x, false⟩, after)
    else if let some char := letterEscape? x then .ok (.literal ⟨span, char, false⟩, after)
    else if x = 'b' then readBoundary start after
    else if let some kind := letterAssertion? x then .ok (.assertion span kind, after)
    else fail .escapeUnknown span

end NamedSchema.Pattern

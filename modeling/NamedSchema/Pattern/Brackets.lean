import NamedSchema.Pattern.Escape

/-!
# Sets in brackets

Reads the sets of characters that are written in brackets: literals, ranges, classes, nested sets,
and the three operators, which bind equally and to the left.
-/
namespace NamedSchema.Pattern

/-- A part of a set that was read as an escape. -/
def Node.asItem : Node → Except Fault CharSet
  | .literal l => .ok (.literal l)
  | .letter l => .ok (.letter l)
  | .property p => .ok (.property p)
  | n => fail .classEscape n.span

def Node.asBound : Node → Except Fault Literal
  | .literal l => .ok l
  | n => fail .classRangeBoundary n.span

/-- The items of a set as one set; `start` is where they were expected. -/
def CharSet.ofItems (start : Place) : List CharSet → CharSet
  | [] => .empty (Span.point start)
  | [item] => item
  | item :: rest => .union ⟨item.span.start, ((rest.getLast?.map CharSet.span).getD item.span).stop⟩
      (item :: rest)

/-- An operator that waits for its right side. -/
abbrev Pending := Option (SetOperator × CharSet)

/-- The set that is complete when `right` has been read. -/
def Pending.close (right : CharSet) : Pending → CharSet
  | none => right
  | some (operator, left) => .combined ⟨left.span.start, right.span.stop⟩ operator left right

def asciiClass? (c : Cursor) : Option (CharSet × Cursor) :=
  match c.rest with
  | '[' :: ':' :: rest =>
    let (negated, rest) := match rest with
      | '^' :: rest => (true, rest)
      | rest => (false, rest)
    let name := rest.takeWhile (· ≠ ':')
    if (rest.drop name.length).take 2 = [':', ']'] then
      (AsciiClass.ofName? (String.ofList name)).map fun kind =>
        let after := c.skip ((if negated then 3 else 2) + name.length + 2)
        (.ascii (after.since c.place) negated kind, after)
    else none
  | _ => none

def readSetAtom : Read Node := fun c =>
  match c.rest with
  | '\\' :: _ => readEscape c
  | x :: _ => .ok (.literal ⟨c.charSpan, x, false⟩, c.advance)
  | [] => fail .classUnclosed c.here

/-- An item or a range of a set whose opening part is `opening`. A hyphen before a bracket or
another hyphen makes no range. -/
def readSetItem (opening : Span) : Read CharSet := fun c => do
  let (first, c) ← readSetAtom c
  let c := c.skipBlanks
  match c.rest with
  | [] => fail .classUnclosed opening
  | '-' :: _ =>
    if c.second? = some ']' ∨ c.second? = some '-' then return (← first.asItem, c)
    else
      let c := c.next
      if c.atEnd then fail .classUnclosed opening
      else
        let (last, c) ← readSetAtom c
        let span : Span := ⟨first.span.start, last.span.stop⟩
        let low ← first.asBound
        let high ← last.asBound
        if low.char ≤ high.char then return (.range span low high, c)
        else fail .classRange span
  | _ => return (← first.asItem, c)

def readHyphens (start : Place) : (fuel : Nat) → List CharSet → Read (List CharSet)
  | 0, items, c => .ok (items, c)
  | fuel + 1, items, c =>
    match c.rest with
    | '-' :: _ =>
      if c.next.atEnd then fail .classUnclosed (Span.point start)
      else readHyphens start fuel (.literal ⟨c.charSpan, '-', false⟩ :: items) c.next
    | _ => .ok (items, c)

/-- The opening of a set at its bracket: whether it is negated, and the hyphens or the bracket it
opens with, last one first. -/
def readOpening : Read (Bool × List CharSet) := fun c =>
  let start := c.place
  let c := c.next
  if c.atEnd then fail .classUnclosed (c.since start)
  else
    let negated := c.rest.head? = some '^'
    let c := if negated then c.next else c
    if c.atEnd then fail .classUnclosed (c.since start)
    else do
      let (items, c) ← readHyphens start c.rest.length [] c
      if items.isEmpty ∧ c.rest.head? = some ']' then
        if c.next.atEnd then fail .classUnclosed (c.next.since start)
        else return ((negated, [.literal ⟨c.charSpan, ']', false⟩]), c.next)
      else return ((negated, items), c)

def setOperator? : List Char → Option SetOperator
  | '&' :: '&' :: _ => some .intersection
  | '-' :: '-' :: _ => some .difference
  | '~' :: '~' :: _ => some .symmetricDifference
  | _ => none

mutual

/-- A set in brackets; the cursor stands at the opening bracket. -/
def readSet : (fuel : Nat) → Read CharSet
  | 0, c => fail .classUnclosed c.here
  | fuel + 1, c => do
    let ((negated, items), inside) ← readOpening c
    let opening := inside.since c.place
    let (content, after) ← readSetItems fuel opening none inside.place items inside
    return (.bracketed (after.since c.place) negated content, after)

/-- The rest of a set up to its closing bracket: `items` holds what has been read since the last
operator or the opening, last one first, and `start` is where that was. -/
def readSetItems : (fuel : Nat) → (opening : Span) → Pending → (start : Place) →
    (items : List CharSet) → Read CharSet
  | 0, opening, _, _, _, _ => fail .classUnclosed opening
  | fuel + 1, opening, pending, start, items, c =>
    let c := c.skipBlanks
    match c.rest with
    | [] => fail .classUnclosed opening
    | ']' :: _ => .ok (pending.close (.ofItems start items.reverse), c.advance)
    | '[' :: _ =>
      match asciiClass? c with
      | some (item, c) => readSetItems fuel opening pending start (item :: items) c
      | none => do
        let (item, c) ← readSet fuel c
        readSetItems fuel opening pending start (item :: items) c
    | rest =>
      match setOperator? rest with
      | some operator =>
        let left := pending.close (.ofItems start items.reverse)
        let c := c.skip 2
        readSetItems fuel opening (some (operator, left)) c.place [] c
      | none => do
        let (item, c) ← readSetItem opening c
        readSetItems fuel opening pending start (item :: items) c

end

end NamedSchema.Pattern

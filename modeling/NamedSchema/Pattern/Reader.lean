import NamedSchema.Pattern.Brackets

/-!
# Reading patterns

Reads a text as a pattern: branches of sequences of literals, classes, assertions, groups and
repetitions. `Node.ofText` is the whole of it.
-/
namespace NamedSchema.Pattern

/-- Items in order as one node; `start` is where the first was expected. -/
def Node.ofItems (span : Span) : List Node → Node
  | [] => .empty span
  | [item] => item
  | items => .sequence span items

def Node.repeatable : Node → Bool
  | .empty _ => false
  | .flags .. => false
  | _ => true

/-- The item that a repetition operator at the cursor applies to, and the items before it. -/
def takeRepeated (items : List Node) (c : Cursor) : Except Fault (Node × List Node) :=
  match items with
  | item :: before => if item.repeatable then .ok (item, before) else fail .repetitionOfNothing c.here
  | [] => fail .repetitionOfNothing c.here

/-- A question mark that makes a repetition lazy makes no difference to what it matches. -/
def skipLazy (c : Cursor) : Cursor := if c.rest.head? = some '?' then c.advance else c

def repeated (item : Node) (c : Cursor) (least : Nat) (most : Option Nat) : Node :=
  .repetition ⟨item.span.start, c.place⟩ least most item

def readSimpleRepetition (least : Nat) (most : Option Nat) (items : List Node) :
    Read (List Node) := fun c => do
  let (item, before) ← takeRepeated items c
  let c := skipLazy c.advance
  return (repeated item c least most :: before, c)

def readDigits : (fuel : Nat) → Cursor → List Char × Cursor
  | 0, c => ([], c)
  | fuel + 1, c =>
    match c.rest with
    | [] => ([], c)
    | x :: _ =>
      if x.isDigit then
        let (xs, c) := readDigits fuel c.next
        (x :: xs, c)
      else ([], c)

def skipWhite : (fuel : Nat) → Cursor → Cursor
  | 0, c => c
  | fuel + 1, c =>
    match c.rest with
    | [] => c
    | x :: _ => if isBlank x then skipWhite fuel c.advance else c

/-- A count, below 2³², among blanks. The cursor moves on even where there is none. -/
def readCount (c : Cursor) : Except Fault Nat × Cursor :=
  let c := skipWhite c.rest.length c
  let (digits, after) := readDigits c.rest.length c
  let span := after.since c.place
  let n : Nat := digits.foldl (fun n d => n * 10 + (d.toNat - 48)) 0
  let count := if digits.isEmpty then fail .decimalEmpty span
    else if n < Nat.pow 2 32 then .ok n
    else fail .decimalInvalid span
  (count, skipWhite after.rest.length after)

/-- The least and the greatest number of a counted repetition, up to its closing brace, which is not
read; `start` is the place of the opening brace. -/
def readRange (start : Place) : Read (Nat × Option Nat) := fun c =>
  if c.atEnd then fail .countUnclosed (c.since start)
  else
    let (low, c) := readCount c
    match c.rest with
    | [] => fail .countUnclosed (c.since start)
    | ',' :: _ =>
      let c := c.next
      match c.rest with
      | [] => fail .countUnclosed (c.since start)
      | '\x7d' :: _ => do return ((← low, none), c)
      | _ => do
        let low ← low
        let (high, c) := readCount c
        return ((low, some (← high)), c)
    | _ => do
      let low ← low
      return ((low, some low), c)

def readCountedRepetition (items : List Node) : Read (List Node) := fun c => do
  let (item, before) ← takeRepeated items c
  let ((least, most), closing) ← readRange c.place c.next
  if closing.rest.head? = some '\x7d' then
    let after := skipLazy closing.next
    if most.all (least ≤ ·) then return (repeated item after least most :: before, after)
    else fail .countInvalid (after.since c.place)
  else fail .countUnclosed (closing.since c.place)

def flag? : Char → Option Flag
  | 'i' => some .caseInsensitive
  | 'm' => some .multiLine
  | 's' => some .dotMatchesNewLine
  | 'U' => some .swapGreed
  | 'u' => some .unicode
  | 'R' => some .carriageReturns
  | 'x' => some .ignoreBlanks
  | _ => none

def givenFlag? (f : Flag) : List (Flag × Span) → Option Span
  | [] => none
  | (g, span) :: rest => if g = f then some span else givenFlag? f rest

/-- Flags up to a colon or a closing parenthesis, which is not read. `given` holds the flags read so
far, `minus` the span of the minus sign, after which flags are cleared, and `dangling` says that it
was read last. -/
def readFlags : (fuel : Nat) → (given : List (Flag × Span)) → (minus : Option Span) →
    (dangling : Bool) → FlagChange → Read (FlagChange × Bool)
  | 0, _, _, _, _, c => fail .flagUnfinished c.here
  | fuel + 1, given, minus, dangling, change, c =>
    match c.rest with
    | [] => fail .flagUnfinished c.here
    | x :: _ =>
      if x = ':' ∨ x = ')' then
        match minus, dangling with
        | some span, true => fail .negationDangling span
        | _, _ => .ok ((change, given.isEmpty && minus.isNone), c)
      else if x = '-' then
        match minus with
        | some span => .error ⟨.negationRepeated, c.charSpan, some span⟩
        | none => readFlags fuel given (some c.charSpan) true change c.advance
      else
        match flag? x with
        | none => fail .flagUnknown c.charSpan
        | some f =>
          match givenFlag? f given with
          | some span => .error ⟨.flagDuplicate, c.charSpan, some span⟩
          | none =>
            let change : FlagChange :=
              if minus.isSome then { change with cleared := f :: change.cleared }
              else { change with set := f :: change.set }
            readFlags fuel ((f, c.charSpan) :: given) minus false change c.advance

/-- The characters of a group's name up to its closing bracket, which is not read. -/
def readNameChars (first : Bool) : (fuel : Nat) → Read (List Char)
  | 0, c => fail .nameUnfinished c.here
  | fuel + 1, c =>
    match c.rest with
    | [] => fail .nameUnfinished c.here
    | '>' :: _ => .ok ([], c)
    | x :: _ =>
      let allowed := x = '_' || letters.contains x.toNat ||
        (!first && (x = '.' || x = '[' || x = ']' || numerics.contains x.toNat))
      if allowed then do
        let (xs, c) ← readNameChars false fuel c.advance
        return (x :: xs, c)
      else fail .nameInvalid c.charSpan

/-- A group's name and its closing bracket; no name is given twice. -/
def readName : Read Unit := fun c => do
  let (name, closing) ← readNameChars true (c.rest.length + 1) c
  let span := closing.since c.place
  let name := String.ofList name
  if name.isEmpty then fail .nameEmpty c.here
  else
    match closing.names.find? fun n => n.1 == name with
    | some (_, earlier) => .error ⟨.nameDuplicate, span, some earlier⟩
    | none => return ((), { closing.advance with names := (name, span) :: closing.names })

/-- What a parenthesis opens: a group, or flags for the rest of the group it stands in. -/
inductive Opening where
  | group (captures : Bool) (change : FlagChange)
  | flags (change : FlagChange)

def readGroupOpening : Read Opening := fun c =>
  let parenthesis := c.charSpan
  let inside := c.advance.skipBlanks
  let lookAround (length : Nat) := fail .lookAround ((inside.skip length).since c.place)
  if inside.startsWith "?=" || inside.startsWith "?!" then lookAround 2
  else if inside.startsWith "?<=" || inside.startsWith "?<!" then lookAround 3
  else if inside.startsWith "?P<" then
    (readName (inside.skip 3)).map fun (_, c) => (.group true ⟨[], []⟩, c)
  else if inside.startsWith "?<" then
    (readName (inside.skip 2)).map fun (_, c) => (.group true ⟨[], []⟩, c)
  else if inside.startsWith "?" then
    let start := inside.advance
    if start.atEnd then fail .groupUnclosed parenthesis
    else do
      let ((change, unchanged), closing) ← readFlags (start.rest.length + 1) [] none false ⟨[], []⟩ start
      if closing.rest.head? = some ':' then return (.group false change, closing.advance)
      else if unchanged then fail .repetitionOfNothing inside.here
      else return (.flags change, closing.advance)
  else .ok (.group true ⟨[], []⟩, inside)

def readItem (fuel : Nat) : Read Node := fun c =>
  match c.rest with
  | '[' :: _ => (readSet fuel c).map fun (s, c) => (.set s, c)
  | '\\' :: _ => readEscape c
  | '.' :: _ => .ok (.dot c.charSpan, c.advance)
  | '^' :: _ => .ok (.assertion c.charSpan .lineStart, c.advance)
  | '$' :: _ => .ok (.assertion c.charSpan .lineEnd, c.advance)
  | x :: _ => .ok (.literal ⟨c.charSpan, x, false⟩, c.advance)
  | [] => fail .escapeUnfinished c.here

/-- The branches of a group, or of the whole pattern, up to a closing parenthesis or the end.
`branches` holds the complete branches and `items` the items of the current one, last ones first;
`outer` and `start` are where the first and the current branch begin. -/
def readBranches : (fuel : Nat) → (outer start : Place) → (branches items : List Node) → Read Node
  | 0, _, _, _, _, c => fail .groupUnclosed c.here
  | fuel + 1, outer, start, branches, items, c =>
    let c := c.skipBlanks
    let branch := Node.ofItems (c.since start) items.reverse
    let whole := match branches with
      | [] => branch
      | _ => .alternation (c.since outer) (branch :: branches).reverse
    match c.rest with
    | [] => .ok (whole, c)
    | ')' :: _ => .ok (whole, c)
    | '|' :: _ =>
      let c := c.advance
      readBranches fuel outer c.place (branch :: branches) [] c
    | '(' :: _ => do
      let (opening, inside) ← readGroupOpening c
      match opening with
      | .flags change =>
        let ignores := (change.value? .ignoreBlanks).getD inside.ignoresBlanks
        let node := Node.flags (inside.since c.place) change
        readBranches fuel outer start branches (node :: items)
          { inside with ignoresBlanks := ignores }
      | .group captures change =>
        let ignores := (change.value? .ignoreBlanks).getD inside.ignoresBlanks
        let (body, closing) ← readBranches fuel inside.place inside.place [] []
          { inside with ignoresBlanks := ignores }
        if closing.atEnd then fail .groupUnclosed c.charSpan
        else
          let after := { closing.advance with ignoresBlanks := c.ignoresBlanks }
          let node := Node.group (after.since c.place) captures change body
          readBranches fuel outer start branches (node :: items) after
    | '?' :: _ => do
      let (items, c) ← readSimpleRepetition 0 (some 1) items c
      readBranches fuel outer start branches items c
    | '*' :: _ => do
      let (items, c) ← readSimpleRepetition 0 none items c
      readBranches fuel outer start branches items c
    | '+' :: _ => do
      let (items, c) ← readSimpleRepetition 1 none items c
      readBranches fuel outer start branches items c
    | '\x7b' :: _ => do
      let (items, c) ← readCountedRepetition items c
      readBranches fuel outer start branches items c
    | _ => do
      let (item, c) ← readItem (c.rest.length + 1) c
      readBranches fuel outer start branches (item :: items) c

def Node.ofText (text : String) : Except Fault Node := do
  let c := Cursor.ofText text
  let (node, rest) ← readBranches (c.rest.length + 2) c.place c.place [] [] c
  if rest.atEnd then
    match node.tooDeep? nestingLimit with
    | some span => fail (.nestingTooDeep nestingLimit) span
    | none => return node
  else fail .groupUnopened rest.charSpan

end NamedSchema.Pattern

import NamedSchema.Yaml.ScalarText
import NamedSchema.Yaml.Token

/-!
# The tokens of a YAML text

Indentation opens and closes block collections, and a token may turn out to be a mapping's key when
a colon follows it on its line. So a scan keeps the columns of the open block collections and, for
each flow collection, the last token that may still become a key; when the colon comes, the tokens
that open the mapping and announce the key are put in front of it.

A token is settled once no key can be announced before it. Where a text is at fault, the tokens that
are settled by then still stand.
-/
namespace NamedSchema.Yaml

structure PossibleKey where
  /-- Whether the text is at fault if it is none. -/
  required : Bool
  /-- How many tokens stand before it. -/
  number : Nat
  mark : Mark
  deriving DecidableEq, Repr

/-- A key stands on a line of its colon and is at most 1024 characters long. -/
def PossibleKey.isStale (k : PossibleKey) (m : Mark) : Bool :=
  k.mark.line < m.line || k.mark.index + 1024 < m.index

/-- The settled tokens, and the fault behind them if there is one. -/
structure TokenList where
  tokens : List Token
  fault : Option Fault

structure Scan where
  cursor : Cursor
  /-- Last one first. -/
  tokens : List Token
  count : Nat
  /-- The possible key of the innermost collection. -/
  key : Option PossibleKey
  /-- The possible keys around each open flow collection, innermost first. -/
  outerKeys : List (Option PossibleKey)
  /-- The columns of the open block collections, innermost first. -/
  indents : List Nat
  /-- Whether a key may start here. -/
  keyAllowed : Bool

namespace Scan

def ofText (cs : List Char) : Scan := ⟨Cursor.ofText cs, [], 0, none, [], [], true⟩

def mark (s : Scan) : Mark := s.cursor.mark

def inFlow (s : Scan) : Bool := !s.outerKeys.isEmpty

/-- The least column of a further line of a scalar. -/
def contentColumn (s : Scan) : Nat := (s.indents.head?.map (· + 1)).getD 0

def emit (kind : TokenKind) (mark : Mark) (s : Scan) : Scan :=
  { s with tokens := ⟨kind, mark⟩ :: s.tokens, count := s.count + 1 }

/-- Puts a token in front of the one that has `number` tokens before it. -/
def emitBefore (number : Nat) (kind : TokenKind) (mark : Mark) (s : Scan) : Scan :=
  let later := s.count - number
  { s with
    tokens := s.tokens.take later ++ ⟨kind, mark⟩ :: s.tokens.drop later
    count := s.count + 1 }

def emitHere (kind : TokenKind) (width : Nat) (s : Scan) : Scan :=
  { s.emit kind s.mark with cursor := s.cursor.skipMany width }

def allowKey (allowed : Bool) (s : Scan) : Scan := { s with keyAllowed := allowed }

/-! ## Possible keys -/

def keyFault {α : Type} (s : Scan) (k : PossibleKey) : Except Fault α :=
  .error ⟨.keyWithoutColon, s.mark, some (.simpleKey, k.mark)⟩

/-- The possible key of this collection is no key. -/
def dropKey (s : Scan) : Except Fault Scan :=
  match s.key.filter PossibleKey.required with
  | some k => s.keyFault k
  | none => .ok { s with key := none }

/-- The next token may be a key, if a key may start here. -/
def saveKey (s : Scan) : Except Fault Scan :=
  if s.keyAllowed then do
    let k : PossibleKey :=
      ⟨!s.inFlow && s.indents.head? = some s.mark.column, s.count, s.mark⟩
    let s ← s.dropKey
    return { s with key := some k }
  else .ok s

/-- Possible keys that have become stale are none. -/
def dropStaleKeys (s : Scan) : Except Fault Scan :=
  let stale (k : PossibleKey) := k.isStale s.mark
  match (s.key :: s.outerKeys).findSome? fun k => k.filter fun k => k.required && stale k with
  | some k => s.keyFault k
  | none =>
    .ok { s with
      key := s.key.filter (!stale ·), outerKeys := s.outerKeys.map (·.filter (!stale ·)) }

def settled (s : Scan) : Nat :=
  (s.key :: s.outerKeys).foldl (fun n k => (k.map fun k => min n k.number).getD n) s.count

/-! ## Block collections -/

/-- Opens a block collection at a column, unless one is open there or further right. -/
def openBlock (column : Nat) (emit : Scan → Scan) (s : Scan) : Scan :=
  if !s.inFlow && s.indents.head?.all (· < column) then
    { emit s with indents := column :: s.indents }
  else s

/-- Closes the block collections that satisfy a test, from the innermost on. -/
def closeBlocks (test : Nat → Bool) (s : Scan) : Scan :=
  if s.inFlow then s
  else
    let closed := (s.indents.takeWhile test).length
    { (List.range closed).foldl (fun s _ => s.emit .blockEnd s.mark) s with
      indents := s.indents.drop closed }

def closeAll (s : Scan) : Except Fault Scan := do
  return (← (s.closeBlocks fun _ => true).dropKey).allowKey false

/-! ## Single tokens -/

/-- Behind blanks, comments and line breaks. -/
def skipGap : (fuel : Nat) → Scan → Scan
  | 0, s => s
  | fuel + 1, s =>
    let c := if s.mark.index = 0 && s.cursor.head?.any (·.toNat = 0xFEFF) then s.cursor.skip
      else s.cursor
    let tabs := s.inFlow || !s.keyAllowed
    let c := (c.skipWhile fun x => x = ' ' || (tabs && x = '\t')).skipComment
    if c.head?.any isBreak then
      skipGap fuel { s with cursor := c.skipBreak, keyAllowed := s.keyAllowed || !s.inFlow }
    else { s with cursor := c }

/-- The end of the text counts as the start of a line. -/
def finish (s : Scan) : Except Fault Scan := do
  let m := s.mark
  let m : Mark := if m.column = 0 then m else ⟨m.index, m.line + 1, 0⟩
  let s ← { s with cursor := ⟨[], m⟩ }.closeAll
  return s.emit .streamEnd m

def directive (s : Scan) : Except Fault Scan := do
  let s ← s.closeAll
  let (kind, c) ← readDirective s.cursor
  return { s.emit kind s.mark with cursor := c }

def documentMarker (kind : TokenKind) (s : Scan) : Except Fault Scan := do
  return (← s.closeAll).emitHere kind 3

def openFlow (kind : TokenKind) (s : Scan) : Except Fault Scan := do
  let s ← s.saveKey
  return { s.emitHere kind 1 with
    key := none, outerKeys := s.key :: s.outerKeys, keyAllowed := true }

def closeFlow (kind : TokenKind) (s : Scan) : Except Fault Scan := do
  let s ← s.dropKey
  return { s.emitHere kind 1 with
    key := s.outerKeys.head?.getD none, outerKeys := s.outerKeys.drop 1, keyAllowed := false }

def comma (s : Scan) : Except Fault Scan := do
  return ((← s.dropKey).allowKey true).emitHere .comma 1

/-- A token that opens a block collection if it stands at the start of one. -/
def openingIndicator (collection : TokenKind) (refusal : Cause) (s : Scan) :
    Except Fault Scan :=
  if s.inFlow then .ok s
  else if s.keyAllowed then .ok (s.openBlock s.mark.column (·.emit collection s.mark))
  else .error ⟨refusal, s.mark, none⟩

def entry (s : Scan) : Except Fault Scan := do
  let s ← s.openingIndicator .blockSequence .entryNotAllowed
  return ((← s.dropKey).allowKey true).emitHere .entry 1

def explicitKey (s : Scan) : Except Fault Scan := do
  let s ← s.openingIndicator .blockMapping .keyNotAllowed
  return ((← s.dropKey).allowKey !s.inFlow).emitHere .key 1

/-- A colon announces the possible key before it. -/
def value (s : Scan) : Except Fault Scan := do
  match s.key with
  | some k =>
    let s := (s.emitBefore k.number .key k.mark).openBlock k.mark.column
      (·.emitBefore k.number .blockMapping k.mark)
    return { s with key := none, keyAllowed := false }.emitHere .value 1
  | none =>
    let s ← s.openingIndicator .blockMapping .valueNotAllowed
    return (s.allowKey !s.inFlow).emitHere .value 1

/-- A token that may be a key. -/
def keyToken (read : Read TokenKind) (s : Scan) : Except Fault Scan := do
  let s := (← s.saveKey).allowKey false
  let (kind, c) ← read s.cursor
  return { s.emit kind s.mark with cursor := c }

def blockScalar (literal : Bool) (s : Scan) : Except Fault Scan := do
  let s := (← s.dropKey).allowKey true
  let (text, c) ← readBlock literal s.contentColumn s.cursor
  return { s.emit (.scalar text false) s.mark with cursor := c }

/-- A plain scalar; a key may start behind it if a line break follows. -/
def plainScalar (s : Scan) : Except Fault Scan := do
  let s := (← s.saveKey).allowKey false
  let ((text, broken), c) ← readPlain s.inFlow s.contentColumn s.cursor
  return { s.emit (.scalar text true) s.mark with cursor := c, keyAllowed := broken }

def readTextAs (kind : List Char → TokenKind) (read : Read (List Char)) : Read TokenKind :=
  fun c => do
    let (text, c) ← read c
    return (kind text, c)

def startsPlain (flow : Bool) (x : Char) (next : Option Char) : Bool :=
  if x = '-' then !next.any isBlank
  else if x = '?' || x = ':' then !flow && !Cursor.isGap next
  else !(Cursor.isGap (some x) || ",[]\x7b\x7d#&*!|>'\"%@`".toList.contains x)

def token (s : Scan) : Except Fault Scan :=
  match s.cursor.rest with
  | [] => s.finish
  | x :: rest =>
    let alone := Cursor.isGap rest.head?
    if s.mark.column = 0 && x = '%' then s.directive
    else if s.cursor.atDocumentMarker then
      s.documentMarker (if x = '-' then .documentStart else .documentEnd)
    else if x = '[' then s.openFlow .openSequence
    else if x = '\x7b' then s.openFlow .openMapping
    else if x = ']' then s.closeFlow .closeSequence
    else if x = '\x7d' then s.closeFlow .closeMapping
    else if x = ',' then s.comma
    else if x = '-' && alone then s.entry
    else if x = '?' && (s.inFlow || alone) then s.explicitKey
    else if x = ':' && (s.inFlow || alone) then s.value
    else if x = '*' then s.keyToken (readTextAs .aliasTo (readName .aliasName))
    else if x = '&' then s.keyToken (readTextAs .anchor (readName .anchor))
    else if x = '!' then s.keyToken (readTag s.inFlow)
    else if (x = '|' || x = '>') && !s.inFlow then s.blockScalar (x = '|')
    else if x = '\'' || x = '"' then
      s.keyToken (readTextAs (.scalar · false) (readQuoted (x = '\'')))
    else if startsPlain s.inFlow x rest.head? then s.plainScalar
    else s.cursor.fail .noToken .token s.mark

def next (s : Scan) : Except Fault Scan := do
  let s ← (skipGap (s.cursor.rest.length + 1) s).dropStaleKeys
  let s ← (s.closeBlocks (s.mark.column < ·)).token
  s.dropStaleKeys

def hasEnded (s : Scan) : Bool := s.tokens.head?.any (·.kind = .streamEnd)

/-- Scans on to the end or the first fault; `settled` tokens are known to be settled. -/
def run : (fuel settled : Nat) → Scan → TokenList
  | 0, _, s => ⟨s.tokens.reverse, none⟩
  | fuel + 1, settled, s =>
    match s.next with
    | .error fault => ⟨s.tokens.reverse.take settled, some fault⟩
    | .ok s => if s.hasEnded then ⟨s.tokens.reverse, none⟩ else run fuel s.settled s

end Scan

def TokenList.ofText (text : String) : TokenList :=
  Scan.run (2 * text.length + 2) 0 (Scan.ofText text.toList)

end NamedSchema.Yaml

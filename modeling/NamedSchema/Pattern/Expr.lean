import NamedSchema.Pattern.CharClass

/-!
# The meaning of patterns

A pattern as an expression: what the flags, the groups and the names say has been worked out, and
what is left is characters, conditions on a place, sequences, choices and repetitions.
-/
namespace NamedSchema.Pattern
open Unicode

/-- The conditions on a place between two characters. Those on words tell by `unicode` which
characters form words. -/
inductive Condition where
  | textStart
  | textEnd
  | lineStart (carriageReturns : Bool)
  | lineEnd (carriageReturns : Bool)
  | boundary (unicode : Bool)
  | noBoundary (unicode : Bool)
  | wordStart (unicode : Bool)
  | wordEnd (unicode : Bool)
  | wordStartHalf (unicode : Bool)
  | wordEndHalf (unicode : Bool)
  deriving DecidableEq, Repr

def inWord (unicode : Bool) : Option Char → Bool
  | some c => (LetterClass.word.codes unicode).contains c.toNat
  | none => false

def Condition.holds (before after : Option Char) : Condition → Bool
  | textStart => before.isNone
  | textEnd => after.isNone
  | lineStart false => before.isNone || before = some '\n'
  | lineStart true =>
    before.isNone || before = some '\n' || (before = some '\r' && after ≠ some '\n')
  | lineEnd false => after.isNone || after = some '\n'
  | lineEnd true =>
    after.isNone || after = some '\r' || (after = some '\n' && before ≠ some '\r')
  | boundary u => inWord u before != inWord u after
  | noBoundary u => inWord u before == inWord u after
  | wordStart u => !inWord u before && inWord u after
  | wordEnd u => inWord u before && !inWord u after
  | wordStartHalf u => !inWord u before
  | wordEndHalf u => !inWord u after

def Assertion.condition (m : Mode) : Assertion → Condition
  | lineStart => if m.multiLine then .lineStart m.carriageReturns else .textStart
  | lineEnd => if m.multiLine then .lineEnd m.carriageReturns else .textEnd
  | textStart => .textStart
  | textEnd => .textEnd
  | boundary => .boundary m.unicode
  | noBoundary => .noBoundary m.unicode
  | wordStart => .wordStart m.unicode
  | wordEnd => .wordEnd m.unicode
  | wordStartHalf => .wordStartHalf m.unicode
  | wordEndHalf => .wordEndHalf m.unicode

/-- A pattern without its spelling. -/
inductive Expr where
  | empty
  | one (codes : CodeSet)
  | condition (value : Condition)
  | seq (first second : Expr)
  | either (first second : Expr)
  | repeated (least : Nat) (most : Option Nat) (body : Expr)
  | captured (body : Expr)

namespace Expr

def sequence : List Expr → Expr
  | [] => empty
  | [e] => e
  | e :: rest => seq e (sequence rest)

/-- A choice between single characters is a single character. -/
def or : Expr → Expr → Expr
  | one a, one b => one (a.union b)
  | a, b => either a b

def choice : List Expr → Expr
  | [] => one []
  | [e] => e
  | e :: rest => e.or (choice rest)

def onlyEmpty : Expr → Bool
  | empty => true
  | one _ => false
  | condition _ => true
  | seq a b => a.onlyEmpty && b.onlyEmpty
  | either a b => a.onlyEmpty && b.onlyEmpty
  | repeated _ most body => most = some 0 || body.onlyEmpty
  | captured body => body.onlyEmpty

/-- Whether the expression may match the empty text, conditions aside. -/
def mayBeEmpty : Expr → Bool
  | empty => true
  | one _ => false
  | condition _ => true
  | seq a b => a.mayBeEmpty && b.mayBeEmpty
  | either a b => a.mayBeEmpty || b.mayBeEmpty
  | repeated least _ body => least = 0 || body.mayBeEmpty
  | captured body => body.mayBeEmpty

/-- A repetition; where the body is never more than empty, one time is as good as many. -/
def times (least : Nat) (most : Option Nat) (body : Expr) : Expr :=
  let (least, most) :=
    if body.onlyEmpty then (min least 1, some (min (most.getD 1) 1)) else (least, most)
  if most = some 0 then empty
  else if least = 1 ∧ most = some 1 then body
  else repeated least most body

end Expr

/-- Every character, or every one that does not end a line. -/
def Mode.dot (m : Mode) : CodeSet :=
  if m.dotMatchesNewLine then .all
  else if m.carriageReturns then (CodeSet.ofPairs [(10, 10), (13, 13)]).complement
  else (CodeSet.ofPairs [(10, 10)]).complement

mutual

def Node.meaning (m : Mode) : Node → Except Fault (Expr × Mode)
  | .empty _ => .ok (.empty, m)
  | .flags _ change => .ok (.empty, m.apply change)
  | .literal l => do
    let c ← l.character m
    let folds := m.caseInsensitive && (m.unicode || c.toNat < 128)
    return (.one (if folds then m.foldCase (single c) else single c), m)
  | .dot span => if m.unicode then .ok (.one m.dot, m) else .error ⟨.invalidEncoding, span, none⟩
  | .assertion _ kind => .ok (.condition (kind.condition m), m)
  | .letter l => do return (.one (← l.codes m), m)
  | .property p => do return (.one (← p.codes m), m)
  | .set s => do return (.one (← s.codes m), m)
  | .repetition _ least most body => do
    let (e, m) ← body.meaning m
    return (.times least most e, m)
  | .group _ captures change body => do
    let (e, _) ← body.meaning (m.apply change)
    return (if captures then .captured e else e, m)
  | .alternation _ branches => do
    let (es, m) ← Node.meanings m branches
    return (.choice es, m)
  | .sequence _ items => do
    let (es, m) ← Node.meanings m items
    return (.sequence es, m)

/-- The meanings of some nodes in order; the flags pass from one to the next. -/
def Node.meanings (m : Mode) : List Node → Except Fault (List Expr × Mode)
  | [] => .ok ([], m)
  | n :: rest => do
    let (e, m) ← n.meaning m
    let (es, m) ← Node.meanings m rest
    return (e :: es, m)

end

end NamedSchema.Pattern

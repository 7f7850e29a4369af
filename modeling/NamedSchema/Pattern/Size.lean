import NamedSchema.Pattern.Expr

/-!
# The size of patterns

How much room the state machines of a pattern take. A search uses two machines over bytes, one that
reads forwards and knows the groups and one that reads backwards and does not; a pattern is too
large if either takes more than ten mebibytes. A counted repetition takes room for every copy of
its body, and a set of characters takes room for the byte sequences that encode them.
-/
namespace NamedSchema.Pattern
open Unicode

structure ByteRange where
  low : Nat
  high : Nat
  deriving DecidableEq

def encode (c : Nat) : List Nat :=
  if c < 0x80 then [c]
  else if c < 0x800 then [0xC0 + c / 64, 0x80 + c % 64]
  else if c < 0x10000 then [0xE0 + c / 4096, 0x80 + c / 64 % 64, 0x80 + c % 64]
  else [0xF0 + c / 262144, 0x80 + c / 4096 % 64, 0x80 + c / 64 % 64, 0x80 + c % 64]

/-- Cuts a range at the first of some last codes that lies inside it. -/
def cutAt (r : CodeRange) : List Nat → Option (CodeRange × CodeRange)
  | [] => none
  | last :: rest =>
    if r.first ≤ last ∧ last < r.last then some (⟨r.first, last⟩, ⟨last + 1, r.last⟩)
    else cutAt r rest

/-- Cuts a range whose ends have codes of equal length where some of their final bytes, `units` to
choose from, do not run over all values. -/
def cutUneven (r : CodeRange) : List Nat → Option (CodeRange × CodeRange)
  | [] => none
  | unit :: rest =>
    if r.first / unit = r.last / unit then cutUneven r rest
    else if r.first % unit ≠ 0 then
      let last := r.first / unit * unit + (unit - 1)
      some (⟨r.first, last⟩, ⟨last + 1, r.last⟩)
    else if r.last % unit ≠ unit - 1 then
      let first := r.last / unit * unit
      some (⟨r.first, first - 1⟩, ⟨first, r.last⟩)
    else cutUneven r rest

/-- The sequences of byte ranges that encode the code points of a range, in order. -/
def byteSequences : (fuel : Nat) → CodeRange → List (List ByteRange)
  | 0, _ => []
  | fuel + 1, r =>
    if 0xD800 ≤ r.first ∧ r.last ≤ 0xDFFF then []
    else
      match (cutAt r [0x7F, 0x7FF, 0xD7FF, 0xDFFF, 0xFFFF]).orElse
          fun _ => if r.last < 128 then none else cutUneven r [64, 4096, 262144] with
      | some (a, b) => byteSequences fuel a ++ byteSequences fuel b
      | none => [List.zipWith ByteRange.mk (encode r.first) (encode r.last)]

def sequencesOf (s : CodeSet) : List (List ByteRange) := s.flatMap (byteSequences 40)

/-- Groups sequences in order by their first ranges. -/
def byHead : List (List ByteRange) → List (ByteRange × List (List ByteRange))
  | [] => []
  | [] :: rest => byHead rest
  | (b :: tail) :: rest =>
    match byHead rest with
    | (c, tails) :: others =>
      if b = c then (c, tail :: tails) :: others else (b, [tail]) :: (c, tails) :: others
    | [] => [(b, [tail])]

/-- The sets of sequences that remain after each beginning, among those known, without repetition;
`depth` exceeds the length of the sequences. -/
def remainders : (depth : Nat) → List (List (List ByteRange)) → List (List ByteRange) →
    List (List (List ByteRange))
  | 0, known, _ => known
  | depth + 1, known, sequences =>
    if sequences = [[]] || known.contains sequences then known
    else (byHead sequences).foldl (fun known b => remainders depth known b.2) (sequences :: known)

/-- How many different nonempty beginnings some sequences have; `depth` exceeds their length. -/
def beginnings : (depth : Nat) → List (List ByteRange) → Nat
  | 0, _ => 0
  | depth + 1, sequences =>
    (byHead sequences).foldl (fun n b => n + 1 + beginnings depth b.2) 0

/-- The room for a state, for a transition out of a set of them, and for a branch. -/
def stateRoom : Nat := 32
def transitionRoom : Nat := 8
def branchRoom : Nat := 4

def setRoom (reverse : Bool) (s : CodeSet) : Nat :=
  let codePoints := (s.map fun r => r.last + 1 - r.first).foldl (· + ·) 0
  if codePoints = 1 then
    (s.map fun r => (encode r.first).length).foldl (· + ·) 0 * stateRoom
  else if isAscii s then 2 * stateRoom + s.length * transitionRoom
  else
    let sequences := sequencesOf s
    if reverse then
      (2 + beginnings 5 sequences) * stateRoom + sequences.length * branchRoom
    else
      let states := remainders 5 [] sequences
      (1 + states.length) * stateRoom +
        (states.map fun rest => (byHead rest).length).foldl (· + ·) 0 * transitionRoom

def Expr.room (reverse : Bool) : Expr → Nat
  | .empty => stateRoom
  | .one codes => setRoom reverse codes
  | .condition _ => stateRoom
  | .seq a b => a.room reverse + b.room reverse
  | .either a b => 2 * stateRoom + 2 * branchRoom + a.room reverse + b.room reverse
  | .captured body => (if reverse then 0 else 2 * stateRoom) + body.room reverse
  | .repeated least most body =>
    let copy := body.room reverse
    let loop := stateRoom + 2 * branchRoom
    match most with
    | some n =>
      if least = 0 ∧ n = 1 then loop + stateRoom + copy
      else if n = least then n * copy
      else least * copy + stateRoom + (n - least) * (copy + loop)
    | none =>
      if least = 0 then
        if body.mayBeEmpty then copy + 2 * loop + stateRoom else copy + loop
      else least * copy + loop

/-- How much room a machine may take. -/
def roomLimit : Nat := 10485760

/-- Whether both machines of an expression fit. -/
def Expr.fits (e : Expr) : Bool :=
  let frame := 6 * stateRoom
  frame + e.room false ≤ roomLimit && frame + e.room true ≤ roomLimit

end NamedSchema.Pattern

/-!
# Shortest decimal digits

The fewest decimal digits that read back as a given binary floating point number, and among those
the nearest to it. The number is decoded into `mantissa * 2 ^ exponent`, the reals that round to it
form an interval, and for one digit, two digits and so on the two neighbours of the number on that
decimal grid are tested in exact arithmetic. The first grid with a point in the interval wins.
-/
namespace NamedSchema.Decimal

/-- The decimal number `digits * 10 ^ exponent`. -/
structure Digits where
  digits : Nat
  exponent : Int
  deriving DecidableEq, Repr

/-- The magnitude `mantissa * 2 ^ exponent` of a finite floating point number. `narrow` marks the
lower end of a binade, where the gap below the number is half the gap above it. -/
structure Magnitude where
  mantissa : Nat
  exponent : Int
  narrow : Bool
  deriving DecidableEq, Repr

inductive Decoded where
  | nan
  | infinity (negative : Bool)
  | finite (negative : Bool) (magnitude : Magnitude)

def decode (bits : UInt64) : Decoded :=
  let negative := bits >>> 63 != 0
  let biased := ((bits >>> 52) &&& 0x7FF).toNat
  let fraction := (bits &&& 0xFFFFFFFFFFFFF).toNat
  if biased = 0x7FF then
    if fraction = 0 then .infinity negative else .nan
  else if biased = 0 then
    .finite negative ⟨fraction, -1074, false⟩
  else
    .finite negative ⟨Nat.pow 2 52 + fraction, (biased : Int) - 1075, fraction = 0 ∧ biased ≠ 1⟩

structure Ratio where
  num : Nat
  den : Nat

def Ratio.scaled (n : Nat) (b : Nat) (e : Int) : Ratio :=
  if 0 ≤ e then ⟨n * Nat.pow b e.toNat, 1⟩ else ⟨n, Nat.pow b (-e).toNat⟩

def Ratio.le (a b : Ratio) : Bool := a.num * b.den ≤ b.num * a.den

def Ratio.lt (a b : Ratio) : Bool := a.num * b.den < b.num * a.den

/-- The exponent of the first decimal digit: `10 ^ e ≤ r < 10 ^ (e + 1)` for a positive `r`. -/
def Ratio.leadingExponent (r : Ratio) : Int :=
  let guess : Int := (Nat.toDigits 10 r.num).length - (Nat.toDigits 10 r.den).length
  if (Ratio.scaled 1 10 guess).le r then guess else guess - 1

def Ratio.steps (r : Ratio) (e : Int) : Nat :=
  if 0 ≤ e then r.num / (r.den * Nat.pow 10 e.toNat) else r.num * Nat.pow 10 (-e).toNat / r.den

/-- Twice the distance of `r` from the grid point `c * 10 ^ e` compared with one step: whether the
point below is nearer than the point above, a tie going to the even one. -/
def Ratio.nearerBelow (r : Ratio) (c : Nat) (e : Int) : Bool :=
  let middle := Ratio.scaled (2 * c + 1) 10 e
  let twice : Ratio := ⟨2 * r.num, r.den⟩
  twice.lt middle || (twice.le middle && c % 2 == 0)

/-- The reals that round to a magnitude: from `low` to `high`, ends included iff `closed`. -/
structure Interval where
  low : Ratio
  high : Ratio
  closed : Bool

def Magnitude.interval (m : Magnitude) : Interval where
  low := Ratio.scaled (4 * m.mantissa - if m.narrow then 1 else 2) 2 (m.exponent - 2)
  high := Ratio.scaled (4 * m.mantissa + 2) 2 (m.exponent - 2)
  closed := m.mantissa % 2 == 0

def Interval.contains (i : Interval) (r : Ratio) : Bool :=
  if i.closed then i.low.le r && r.le i.high else i.low.lt r && r.lt i.high

/-- The point of the grid `10 ^ e` that reads back, if one of the two neighbours does. -/
def onGrid? (r : Ratio) (i : Interval) (e : Int) : Option Digits :=
  let c := r.steps e
  let below := i.contains (Ratio.scaled c 10 e)
  let above := i.contains (Ratio.scaled (c + 1) 10 e)
  if below && above then
    some (if r.nearerBelow c e then ⟨c, e⟩ else ⟨c + 1, e⟩)
  else if below then some ⟨c, e⟩
  else if above then some ⟨c + 1, e⟩
  else none

def Digits.trim : Nat → Digits → Digits
  | 0, d => d
  | fuel + 1, d =>
    if d.digits ≠ 0 ∧ d.digits % 10 = 0 then Digits.trim fuel ⟨d.digits / 10, d.exponent + 1⟩ else d

/-- Tries the grids with `n`, `n + 1`, … digits; seventeen always suffice. -/
def search (r : Ratio) (i : Interval) (leading : Int) : Nat → Nat → Digits
  | 0, _ => ⟨r.steps (leading - 16), leading - 16⟩
  | fuel + 1, n =>
    match onGrid? r i (leading - (n - 1)) with
    | some d => d
    | none => search r i leading fuel (n + 1)

/-- The shortest digits of a magnitude; zero has the single digit `0`. -/
def Magnitude.shortest (m : Magnitude) : Digits :=
  if m.mantissa = 0 then ⟨0, 0⟩
  else
    let r := Ratio.scaled m.mantissa 2 m.exponent
    (search r m.interval r.leadingExponent 17 1).trim 18

end NamedSchema.Decimal

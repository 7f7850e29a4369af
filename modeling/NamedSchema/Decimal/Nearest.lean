import NamedSchema.Decimal.Shortest

/-!
# The nearest floating point number

Rounds a positive rational to binary64: to nearest, a tie to the even mantissa, in exact arithmetic.
-/
namespace NamedSchema.Decimal

/-- The exponent `k` with `2 ^ k ≤ r < 2 ^ (k + 1)` for a positive `r`. -/
def Ratio.binaryExponent (r : Ratio) : Int :=
  let guess : Int := (r.num.log2 : Int) - r.den.log2
  if (Ratio.scaled 1 2 guess).le r then guess else guess - 1

/-- The quotient to the nearest whole number, a tie going to the even one. -/
def Ratio.round (r : Ratio) : Nat :=
  let q := r.num / r.den
  let twice := 2 * (r.num % r.den)
  if twice < r.den ∨ (twice = r.den ∧ q % 2 = 0) then q else q + 1

def Ratio.inSteps (r : Ratio) (e : Int) : Ratio :=
  if 0 ≤ e then ⟨r.num, r.den * Nat.pow 2 e.toNat⟩ else ⟨r.num * Nat.pow 2 (-e).toNat, r.den⟩

/-- The nearest number, if there is one that is not infinite. The mantissa's carry runs over into the
exponent. -/
def Ratio.nearest? (r : Ratio) : Option Float :=
  let e := max (r.binaryExponent - 52) (-1074)
  let bits := (e + 1074).toNat * Nat.pow 2 52 + (r.inSteps e).round
  if bits < 0x7FF * Nat.pow 2 52 then some (Float.ofBits bits.toUInt64) else none

/-- The number nearest to `digits * 10 ^ exponent`; nothing if it is too large. -/
def nearest? (d : Digits) : Option Float :=
  let leading := d.exponent + (toString d.digits).length
  if d.digits = 0 ∨ leading < -400 then some 0.0
  else if leading > 400 then none
  else (Ratio.scaled d.digits 10 d.exponent).nearest?

end NamedSchema.Decimal

import NamedSchema.Json.Basic
import NamedSchema.Json.Fault

/-!
# Number literals

A literal is an optional minus sign, whole digits without a leading zero, an optional fraction and
an optional exponent. A literal of whole digits alone is an integer where it fits into 64 bits,
signed or unsigned; every other literal is a float. A float's digits are gathered into a 64-bit
significand while they fit, and the significand is scaled once by a power of ten, so that a literal
of many digits need not be the nearest float.
-/
namespace NamedSchema.Json

/-- The parts of a number literal, digits as numbers below ten. -/
structure Numeral where
  negative : Bool
  whole : List Nat
  fraction : Option (List Nat)
  /-- Whether the exponent is positive, and its digits. -/
  exponent : Option (Bool × List Nat)

def digitValue (c : Char) : Nat := c.toNat - 48

def isDigit (c : Char) : Bool := '0' ≤ c ∧ c ≤ '9'

/-- The leading digits of a text, and what follows them. -/
def splitDigits (cs : List Char) : List Nat × List Char :=
  ((cs.takeWhile isDigit).map digitValue, cs.dropWhile isDigit)

/-- What reading a literal stopped at: a cause, and the number of bytes beyond the rest. -/
structure Stop where
  cause : Cause
  beyond : Nat
  rest : List Char

def splitExponent (cs : List Char) : Except Stop ((Bool × List Nat) × List Char) :=
  let (positive, cs) := match cs with
    | '+' :: rest => (true, rest)
    | '-' :: rest => (false, rest)
    | _ => (true, cs)
  match splitDigits cs with
  | ([], []) => .error ⟨.eofInValue, 0, []⟩
  | ([], rest) => .error ⟨.invalidNumber, 1, rest⟩
  | (digits, rest) => .ok ((positive, digits), rest)

def splitFraction (cs : List Char) : Except Stop (List Nat × List Char) :=
  match splitDigits cs with
  | ([], []) => .error ⟨.eofInValue, 0, []⟩
  | ([], rest) => .error ⟨.invalidNumber, 1, rest⟩
  | (digits, rest) => .ok (digits, rest)

/-- The whole digits: a single zero, or digits that start with another one. -/
def splitWhole (cs : List Char) : Except Stop (List Nat × List Char) :=
  match cs with
  | [] => .error ⟨.eofInValue, 0, []⟩
  | '0' :: rest =>
    match rest with
    | c :: _ => if isDigit c then .error ⟨.invalidNumber, 1, rest⟩ else .ok ([0], rest)
    | [] => .ok ([0], [])
  | c :: rest =>
    if isDigit c then .ok (splitDigits (c :: rest)) else .error ⟨.invalidNumber, 1, c :: rest⟩

def Numeral.split (cs : List Char) : Except Stop (Numeral × List Char) := do
  let (negative, cs) := match cs with
    | '-' :: rest => (true, rest)
    | _ => (false, cs)
  let (whole, cs) ← splitWhole cs
  let (fraction, cs) ← match cs with
    | '.' :: rest => do
      let (digits, rest) ← splitFraction rest
      pure (some digits, rest)
    | _ => pure (none, cs)
  let (exponent, cs) ← match cs with
    | c :: rest =>
      if c = 'e' ∨ c = 'E' then do
        let (e, rest) ← splitExponent rest
        pure (some e, rest)
      else pure (none, cs)
    | [] => pure (none, cs)
  return (⟨negative, whole, fraction, exponent⟩, cs)

def maxSignificand : Nat := Nat.pow 2 64 - 1

/-- Whole digits: those that fit into the significand, and how many do not. -/
def gatherWhole (significand : Nat) : List Nat → Nat × Nat
  | [] => (significand, 0)
  | d :: rest =>
    if significand * 10 + d ≤ maxSignificand then gatherWhole (significand * 10 + d) rest
    else (significand, rest.length + 1)

/-- Fraction digits: those that fit, and how many they are. -/
def gatherFraction (significand taken : Nat) : List Nat → Nat × Nat
  | [] => (significand, taken)
  | d :: rest =>
    if significand * 10 + d ≤ maxSignificand then
      gatherFraction (significand * 10 + d) (taken + 1) rest
    else (significand, taken)

/-- The exponent's digits as a number below `2 ^ 31`, or how many digits stand after the first
that takes it beyond. -/
def gatherExponent (value : Nat) : List Nat → Except Nat Nat
  | [] => .ok value
  | d :: rest =>
    if value * 10 + d < Nat.pow 2 31 then gatherExponent (value * 10 + d) rest else .error rest.length

def powerOfTen (n : Nat) : Float := Float.ofScientific 1 false n

/-- `f * 10 ^ e` by one multiplication or division, after steps of `1e308` for a small `e`; nothing
if the result is too large. -/
def scale : Nat → Float → Int → Option Float
  | 0, f, _ => some f
  | fuel + 1, f, e =>
    if e.natAbs ≤ 308 then
      if 0 ≤ e then
        let g := f * powerOfTen e.natAbs
        if g.isInf then none else some g
      else some (f / powerOfTen e.natAbs)
    else if f == 0.0 then some f
    else if 0 ≤ e then none
    else scale fuel (f / powerOfTen 308) (e + 308)

def signed (negative : Bool) (f : Float) : Float := if negative then -f else f

/-- The number a literal stands for, or how many of its last digits stand after the place where it
is found to be too large. -/
def Numeral.value (n : Numeral) : Except Nat JsonNumber :=
  let (significand, dropped) := gatherWhole 0 n.whole
  match n.fraction, n.exponent, dropped with
  | none, none, 0 =>
    if ¬ n.negative then .ok (.int significand)
    else if 0 < significand ∧ significand ≤ Nat.pow 2 63 then .ok (.int (-(significand : Int)))
    else .ok (.float (-(Float.ofNat significand)))
  | fraction, exponent, dropped =>
    let (significand, taken) := gatherFraction significand 0 (fraction.getD [])
    let base : Int := (dropped : Int) - taken
    let finish (e : Int) : Except Nat JsonNumber :=
      match scale 4 (Float.ofNat significand) e with
      | some f => .ok (.float (signed n.negative f))
      | none => .error 0
    match exponent with
    | none => finish base
    | some (positive, digits) =>
      match gatherExponent 0 digits with
      | .ok e => finish (if positive then base + e else base - e)
      | .error left =>
        if positive ∧ significand ≠ 0 then .error left
        else .ok (.float (signed n.negative 0.0))

end NamedSchema.Json

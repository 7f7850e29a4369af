import NamedSchema.Decimal.Shortest

/-!
# Layouts of decimal numbers

How the shortest digits of a floating point number are written. A `Layout` says which exponents are
written positionally and what a whole number ends with; the two layouts of this library are `plain`,
for bounds, and `json`, for numbers inside JSON text.
-/
namespace NamedSchema.Decimal

structure Layout where
  /-- Whether a number whose first digit has this exponent is written without an exponent. -/
  positional : Int → Bool
  /-- What follows the digits of a whole number. -/
  wholeSuffix : String

/-- Never an exponent, and no fraction for whole numbers. -/
def plain : Layout := ⟨fun _ => true, ""⟩

/-- Positional from `0.00001` up to sixteen digits, and always a fraction or an exponent. -/
def json : Layout := ⟨fun e => -5 ≤ e ∧ e ≤ 15, ".0"⟩

def zeros (n : Nat) : String := String.ofList (List.replicate n '0')

def Layout.positionalText (l : Layout) (d : Digits) : String :=
  let text := toString d.digits
  if 0 ≤ d.exponent then text ++ zeros d.exponent.toNat ++ l.wholeSuffix
  else
    let places := (-d.exponent).toNat
    if text.length ≤ places then "0." ++ zeros (places - text.length) ++ text
    else
      let cs := text.toList
      String.ofList (cs.take (cs.length - places)) ++ "." ++
        String.ofList (cs.drop (cs.length - places))

/-- One digit, the others after a point, and a signed exponent. -/
def exponentText (d : Digits) (leading : Int) : String :=
  let head := match (toString d.digits).toList with
    | [] => ""
    | [c] => c.toString
    | c :: rest => c.toString ++ "." ++ String.ofList rest
  head ++ "e" ++ (if leading < 0 then "-" else "+") ++ toString leading.natAbs

def Digits.leading (d : Digits) : Int :=
  d.exponent + ((toString d.digits).length : Int) - 1

def Layout.digitsText (l : Layout) (d : Digits) : String :=
  if d.digits = 0 ∨ l.positional d.leading then l.positionalText d
  else exponentText d d.leading

def Layout.text (l : Layout) (f : Float) : String :=
  match decode f.toBits with
  | .nan => "NaN"
  | .infinity negative => if negative then "-inf" else "inf"
  | .finite negative m => (if negative then "-" else "") ++ l.digitsText m.shortest

end NamedSchema.Decimal

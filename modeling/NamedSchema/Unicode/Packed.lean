import NamedSchema.Unicode.CodeSet

/-!
# Packed tables

The tables of character properties are kept as text. A number is written in base 32, first digit
first: its last digit is one of `0`–`9`, `a`–`v`, the digits before it are `A`–`Z`, `w`–`z`, `+`,
`-`. A set is a sequence of pairs: the code points left out before a range, and the code points of
the range after its first. Blanks and line breaks mean nothing.
-/
namespace NamedSchema.Unicode

/-- A digit of a packed number: its value, and whether it is the last one. -/
def packedDigit (c : Char) : Nat × Bool :=
  let n := c.toNat
  if '0' ≤ c ∧ c ≤ '9' then (n - 48, true)
  else if 'a' ≤ c ∧ c ≤ 'v' then (n - 87, true)
  else if 'A' ≤ c ∧ c ≤ 'Z' then (n - 65, false)
  else if 'w' ≤ c ∧ c ≤ 'z' then (n - 93, false)
  else if c = '+' then (30, false)
  else (31, false)

/-- The numbers of a packed text, after a number begun with value `value`. -/
def unpackFrom (value : Nat) : List Char → List Nat
  | [] => []
  | c :: rest =>
    match packedDigit c with
    | (d, true) => (value * 32 + d) :: unpackFrom 0 rest
    | (d, false) => unpackFrom (value * 32 + d) rest

/-- The text without blanks and line breaks. -/
def packedDigits (text : String) : List Char := text.toList.filter fun c => c ≠ ' ' ∧ c ≠ '\n'

def unpackNumbers (text : String) : List Nat := unpackFrom 0 (packedDigits text)

/-- The ranges of a packed set, from the code point `next` on. -/
def rangesFrom (next : Nat) : List Nat → List CodeRange
  | gap :: more :: rest => ⟨next + gap, next + gap + more⟩ :: rangesFrom (next + gap + more + 1) rest
  | _ => []

/-- The set packed in a text. -/
def unpackSet (text : String) : CodeSet := rangesFrom 0 (unpackNumbers text)

end NamedSchema.Unicode

import NamedSchema.Decimal.Nearest

/-!
# What plain scalars stand for

A plain scalar is null, a boolean, an integer or a float if it looks like one, else a string.
Integers may be written in base two, eight and sixteen, and decimal digits that begin with a zero
are no number.
-/
namespace NamedSchema.Yaml

/-- What a text stands for. Integers that do not fit into 64 bits are told apart. -/
inductive Scalar where
  | null
  | bool (value : Bool)
  | int (value : Int)
  | wideInt
  | float (value : Float)
  | text

namespace Scalar

def isNull (s : String) : Bool := ["null", "Null", "NULL", "~"].contains s

def bool? (s : String) : Option Bool :=
  if ["true", "True", "TRUE"].contains s then some true
  else if ["false", "False", "FALSE"].contains s then some false
  else none

/-! ## Integers -/

def digit? (base : Nat) (c : Char) : Option Nat :=
  let value :=
    if '0' ≤ c ∧ c ≤ '9' then some (c.toNat - 48)
    else if 'a' ≤ c ∧ c ≤ 'f' then some (c.toNat - 87)
    else if 'A' ≤ c ∧ c ≤ 'F' then some (c.toNat - 55)
    else none
  value.filter (· < base)

/-- A number of one digit or more. -/
def number? (base : Nat) (cs : List Char) : Option Nat :=
  if cs.isEmpty then none
  else cs.foldl (fun n c => do return (← n) * base + (← digit? base c)) (some 0)

/-- Several decimal digits after a zero, perhaps with a sign. -/
def isPadded (cs : List Char) : Bool :=
  let digits := match cs with
    | '-' :: rest | '+' :: rest => rest
    | _ => cs
  match digits with
  | '0' :: c :: rest => (c :: rest).all Char.isDigit
  | _ => false

def magnitude? (cs : List Char) : Option Nat :=
  match cs with
  | '0' :: 'x' :: rest => number? 16 rest
  | '0' :: 'o' :: rest => number? 8 rest
  | '0' :: 'b' :: rest => number? 2 rest
  | _ => if isPadded cs then none else number? 10 cs

def int? (cs : List Char) : Option Int :=
  match cs with
  | '+' :: rest => (magnitude? rest).map Int.ofNat
  | '-' :: rest => (magnitude? rest).map (-Int.ofNat ·)
  | _ => (magnitude? cs).map Int.ofNat

/-- Integers of at most 128 bits, those of more than 64 told apart. -/
def ofInt? (i : Int) : Option Scalar :=
  if -Int.ofNat (Nat.pow 2 63) ≤ i ∧ i < Int.ofNat (Nat.pow 2 64) then some (int i)
  else if -Int.ofNat (Nat.pow 2 127) ≤ i ∧ i < Int.ofNat (Nat.pow 2 128) then some wideInt
  else none

/-! ## Floats -/

/-- The exponent after its letter. -/
def exponent? (cs : List Char) : Option Int :=
  match cs with
  | '+' :: rest => (number? 10 rest).map Int.ofNat
  | '-' :: rest => (number? 10 rest).map (-Int.ofNat ·)
  | _ => (number? 10 cs).map Int.ofNat

/-- Digits with an optional point among them and an optional exponent. -/
def unsignedFloat? (cs : List Char) : Option Float :=
  let whole := cs.takeWhile Char.isDigit
  let rest := cs.dropWhile Char.isDigit
  let (fraction, rest) := match rest with
    | '.' :: rest => (rest.takeWhile Char.isDigit, rest.dropWhile Char.isDigit)
    | _ => ([], rest)
  let digits := whole ++ fraction
  let exponent := match rest with
    | [] => some 0
    | c :: rest => if c = 'e' ∨ c = 'E' then exponent? rest else none
  do
    let n ← number? 10 digits
    let e ← exponent
    Decimal.nearest? ⟨n, e - fraction.length⟩

/-- A finite float with an optional sign. -/
def finiteFloat? (cs : List Char) : Option Float :=
  match cs with
  | '+' :: rest => unsignedFloat? rest
  | '-' :: rest => (unsignedFloat? rest).map (-·)
  | _ => unsignedFloat? cs

def float? (s : String) : Option Float :=
  if [".inf", ".Inf", ".INF", "+.inf", "+.Inf", "+.INF"].contains s then some (1 / 0)
  else if ["-.inf", "-.Inf", "-.INF"].contains s then some (-1 / 0)
  else if [".nan", ".NaN", ".NAN"].contains s then some (0 / 0)
  else finiteFloat? s.toList

def ofPlain (s : String) : Scalar :=
  if s.isEmpty || isNull s then null
  else
    match bool? s, (int? s.toList).bind ofInt? with
    | some b, _ => bool b
    | none, some i => i
    | none, none =>
      if isPadded s.toList then text else ((float? s).map float).getD text

end Scalar

end NamedSchema.Yaml

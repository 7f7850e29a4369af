/-!
# JSON values

A JSON value as a document holds it: objects keep their members in document order, and a number
keeps the kind of its literal, so that `1` and `1.0` stay apart. Two comparisons are defined:
`Json.same` is equality of documents up to the order of object members, and `Json.alike` also
identifies two numbers of different kinds that stand for the same quantity.
-/
namespace NamedSchema

/-- A number is an integer or a binary floating point number, as its literal says. -/
inductive JsonNumber where
  | int (value : Int)
  | float (value : Float)

namespace JsonNumber

def toFloat : JsonNumber → Float
  | int i => Float.ofInt i
  | float f => f

/-- Equality within a kind; numbers of different kinds differ. -/
def same : JsonNumber → JsonNumber → Bool
  | int a, int b => a == b
  | float a, float b => a == b
  | _, _ => false

/-- Equality as floating point numbers, whatever the kinds. -/
def alike (a b : JsonNumber) : Bool := a.toFloat == b.toFloat

end JsonNumber

/-- A JSON value. The members of an object stand in document order. -/
inductive Json where
  | null
  | bool (value : Bool)
  | num (value : JsonNumber)
  | str (value : String)
  | arr (items : List Json)
  | obj (members : List (String × Json))

instance : Inhabited Json := ⟨.null⟩

namespace Json

def lookup (key : String) : List (String × Json) → Option Json
  | [] => none
  | (k, v) :: rest => if k = key then some v else lookup key rest

/-- Sets a member: a key that is present keeps its place and takes the new value, any other key
goes to the end. -/
def insert (key : String) (value : Json) : List (String × Json) → List (String × Json)
  | [] => [(key, value)]
  | (k, v) :: rest => if k = key then (k, value) :: rest else (k, v) :: insert key value rest

def keys (members : List (String × Json)) : List String := members.map (·.1)

@[simp] theorem lookup_insert_self (key : String) (value : Json) (members : List (String × Json)) :
    lookup key (insert key value members) = some value := by
  induction members with
  | nil => simp [insert, lookup]
  | cons m rest ih =>
    obtain ⟨k, v⟩ := m
    by_cases h : k = key <;> simp [insert, lookup, h, ih]

@[simp] theorem lookup_insert_of_ne {key other : String} (value : Json) (members : List (String × Json))
    (h : other ≠ key) : lookup other (insert key value members) = lookup other members := by
  induction members with
  | nil => simp [insert, lookup, Ne.symm h]
  | cons m rest ih =>
    obtain ⟨k, v⟩ := m
    by_cases hk : k = key
    · subst hk
      simp [insert, lookup, Ne.symm h]
    · by_cases ho : k = other
      · subst ho
        simp [insert, lookup, h]
      · simp [insert, lookup, hk, ho, ih]

/-- Setting a member lists a new key once, at the end, and leaves the other keys in place. -/
theorem keys_insert (key : String) (value : Json) (members : List (String × Json)) :
    keys (insert key value members) =
      if key ∈ keys members then keys members else keys members ++ [key] := by
  induction members with
  | nil => simp [insert, keys]
  | cons m rest ih =>
    obtain ⟨k, v⟩ := m
    by_cases hk : k = key
    · simp [insert, keys, hk]
    · have hk' : ¬ key = k := fun h => hk h.symm
      by_cases hm : key ∈ keys rest
      · simp only [insert, hk, if_false, keys, List.map_cons] at ih ⊢
        simp only [keys] at hm
        simp [ih, hm]
      · simp only [insert, hk, if_false, keys, List.map_cons] at ih ⊢
        simp only [keys] at hm
        simp [ih, hm, hk']

mutual

/-- Equality of values up to the order of object members. -/
def same : Json → Json → Bool
  | null, null => true
  | bool a, bool b => a == b
  | num a, num b => a.same b
  | str a, str b => a == b
  | arr xs, arr ys => sameItems xs ys
  | obj xs, obj ys => xs.length == ys.length && sameMembers xs ys
  | _, _ => false

def sameItems : List Json → List Json → Bool
  | [], [] => true
  | x :: xs, y :: ys => same x y && sameItems xs ys
  | _, _ => false

/-- Every member of the first list has an equal counterpart in the second. -/
def sameMembers : List (String × Json) → List (String × Json) → Bool
  | [], _ => true
  | (k, v) :: rest, ys =>
    (match lookup k ys with
      | some w => same v w
      | none => false) && sameMembers rest ys

end

/-- Equality for lists of values: numbers are compared as quantities, all else as documents. -/
def alike : Json → Json → Bool
  | num a, num b => a.alike b
  | a, b => same a b

def isNull : Json → Bool
  | null => true
  | _ => false

def asString? : Json → Option String
  | str s => some s
  | _ => none

def asObject? : Json → Option (List (String × Json))
  | obj members => some members
  | _ => none

/-- The elements of an array; any other value has none. -/
def items : Json → List Json
  | arr xs => xs
  | _ => []

def asFloat? : Json → Option Float
  | num n => some n.toFloat
  | _ => none

def elementCount? : Json → Option Nat
  | arr xs => some xs.length
  | obj members => some members.length
  | _ => none

end Json

end NamedSchema

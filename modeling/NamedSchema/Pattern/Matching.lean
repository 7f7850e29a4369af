import NamedSchema.Pattern.Expr

/-!
# Searching by patterns

A set of places in a text is kept as a number whose bit `i` tells whether place `i` belongs to it.
An expression takes the places where a match may begin to those where it may end, all at once, so
that a search takes no more rounds than the text has places for each repetition.
-/
namespace NamedSchema.Pattern

abbrev Places := Nat

/-- An expression in a given text: characters and conditions have become the places where they
hold. -/
inductive Placed where
  /-- Goes on from these places without moving. -/
  | stay (places : Places)
  /-- Moves on by one from these places. -/
  | step (places : Places)
  | seq (first second : Placed)
  | either (first second : Placed)
  | repeated (least : Nat) (most : Option Nat) (body : Placed)

namespace Places

/-- The places from `i` on where a test on the character holds. -/
def ofChars (test : Char → Bool) : List Char → Places
  | [] => 0
  | c :: rest => (if test c then 1 else 0) + 2 * ofChars test rest

/-- The places where a test on both neighbours holds, the end of the text included. -/
def ofGaps (test : Option Char → Option Char → Bool) (before : Option Char) : List Char → Places
  | [] => if test before none then 1 else 0
  | c :: rest => (if test before (some c) then 1 else 0) + 2 * ofGaps test (some c) rest

def without (a b : Places) : Places := a ^^^ (a &&& b)

def iterate (step : Places → Places) : Nat → Places → Places
  | 0, s => s
  | n + 1, s =>
    let t := step s
    if t = s then s else iterate step n t

/-- All places reached by at most a number of steps: `seen` holds those reached before, `latest`
those of them that were reached last. -/
def reach (step : Places → Places) : Nat → (seen latest : Places) → Places
  | 0, seen, _ => seen
  | n + 1, seen, latest =>
    let fresh := without (step latest) seen
    if fresh = 0 then seen else reach step n (seen ||| fresh) fresh

end Places

def Expr.place (text : List Char) : Expr → Placed
  | .empty => .stay (Places.ofGaps (fun _ _ => true) none text)
  | .one codes => .step (Places.ofChars (fun c => codes.contains c.toNat) text)
  | .condition c => .stay (Places.ofGaps (fun before after => c.holds before after) none text)
  | .seq a b => .seq (a.place text) (b.place text)
  | .either a b => .either (a.place text) (b.place text)
  | .repeated least most body => .repeated least most (body.place text)
  | .captured body => body.place text

/-- The places where a match may end that begins at one of some places; `size` is at least the
number of places in the text. -/
def Placed.ends (size : Nat) : Placed → Places → Places
  | .stay places, s => s &&& places
  | .step places, s => (s &&& places) <<< 1
  | .seq a b, s => b.ends size (a.ends size s)
  | .either a b, s => a.ends size s ||| b.ends size s
  | .repeated least most body, s =>
    let begun := Places.iterate (body.ends size) least s
    Places.reach (body.ends size) ((most.map (· - least)).getD size) begun begun

def Expr.occursIn (e : Expr) (text : String) : Bool :=
  let cs := text.toList
  let size := cs.length + 1
  (e.place cs).ends size (Nat.pow 2 size - 1) ≠ 0

end NamedSchema.Pattern

/-!
# Sets of code points

A set of code points as a list of ranges, ends included. A list is *canonical* when its ranges are
in order and no two of them touch; `CodeSet.ofRanges` makes it so, and the operations on sets give
canonical lists for canonical ones.
-/
namespace NamedSchema.Unicode

structure CodeRange where
  first : Nat
  last : Nat
  deriving DecidableEq, Repr

abbrev CodeSet := List CodeRange

def maxCode : Nat := 0x10FFFF

namespace CodeSet

def contains (s : CodeSet) (c : Nat) : Bool := s.any fun r => r.first ≤ c && c ≤ r.last

/-- Joins neighbours of a list sorted by first code point: `open` is the range under construction. -/
def joinFrom (current : CodeRange) : List CodeRange → CodeSet
  | [] => [current]
  | r :: rest =>
    if r.first ≤ current.last + 1 then joinFrom ⟨current.first, max current.last r.last⟩ rest
    else current :: joinFrom r rest

/-- The set of the code points of some ranges, empty ones left out. -/
def ofRanges (ranges : List CodeRange) : CodeSet :=
  match (ranges.filter fun r => r.first ≤ r.last).mergeSort fun a b => a.first ≤ b.first with
  | [] => []
  | r :: rest => joinFrom r rest

def ofPairs (pairs : List (Nat × Nat)) : CodeSet := ofRanges (pairs.map fun p => ⟨p.1, p.2⟩)

def union (a b : CodeSet) : CodeSet := ofRanges (a ++ b)

/-- The code points from `low` on that are in no range of a canonical list. -/
def gapsFrom (low : Nat) : CodeSet → CodeSet
  | [] => if low ≤ maxCode then [⟨low, maxCode⟩] else []
  | r :: rest =>
    if low < r.first then ⟨low, r.first - 1⟩ :: gapsFrom (r.last + 1) rest
    else gapsFrom (r.last + 1) rest

def complement (s : CodeSet) : CodeSet := gapsFrom 0 s

def inter (a b : CodeSet) : CodeSet := (a.complement.union b.complement).complement

def diff (a b : CodeSet) : CodeSet := a.inter b.complement

def symmDiff (a b : CodeSet) : CodeSet := (a.union b).diff (a.inter b)

def all : CodeSet := [⟨0, maxCode⟩]

def ascii : CodeSet := [⟨0, 0x7F⟩]

end CodeSet

end NamedSchema.Unicode

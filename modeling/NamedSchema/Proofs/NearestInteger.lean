import Mathlib.Tactic.Ring
import NamedSchema.Decimal.Nearest

/-!
# The nearest integer with 53 significant bits

Beyond `2 ^ 53` the integers that a binary64 number can be lie `2, 4, 8, …` apart. An integer is
rounded to the nearest of them, a tie going to the one with an even mantissa. Rounding keeps the
order of integers and leaves those alone that have at most 53 significant bits, so two integers can
only become equal if both lie beyond `2 ^ 53`.
-/
namespace NamedSchema

namespace Decimal.Ratio
variable {n m d k : Nat}

theorem le_round (hd : 0 < d) (h : k * d ≤ n) : k ≤ round ⟨n, d⟩ := by
  have hq : k ≤ n / d := (Nat.le_div_iff_mul_le hd).mpr h
  simp only [round]
  split <;> omega

theorem round_le (hd : 0 < d) (h : n ≤ k * d) : round ⟨n, d⟩ ≤ k := by
  have hsplit := Nat.div_add_mod n d
  have hq : n / d ≤ k := Nat.div_le_of_le_mul (by rwa [Nat.mul_comm])
  simp only [round]
  split
  · exact hq
  next hup =>
    -- rounding up leaves a remainder, so the quotient lies below `k`
    have hpos : 0 < n % d := by omega
    have hlt : n / d < k := (Nat.div_lt_iff_lt_mul hd).mpr (by
      refine h.lt_of_ne fun heq => ?_
      rw [heq, Nat.mul_mod_left] at hpos
      exact hpos.false)
    omega

theorem round_mono (hd : 0 < d) (h : n ≤ m) : round ⟨n, d⟩ ≤ round ⟨m, d⟩ := by
  have hn := Nat.div_add_mod n d
  have hm := Nat.div_add_mod m d
  have hlt := Nat.mod_lt n hd
  rcases (Nat.div_le_div_right (c := d) h).lt_or_eq with hq | hq
  · calc round ⟨n, d⟩ ≤ n / d + 1 := by simp only [round]; split <;> omega
      _ ≤ m / d := hq
      _ ≤ round ⟨m, d⟩ := by simp only [round]; split <;> omega
  · have hr : n % d ≤ m % d := by
      rw [hq] at hn
      omega
    simp only [round, hq]
    split <;> split <;> omega

theorem round_mul_self (hd : 0 < d) : round ⟨k * d, d⟩ = k :=
  Nat.le_antisymm (round_le hd le_rfl) (le_round hd le_rfl)

/-- Rounding depends on the quotient alone. -/
theorem round_mul_right (hk : 0 < k) : round ⟨n * k, d * k⟩ = round ⟨n, d⟩ := by
  have htwice : 2 * (n % d * k) = 2 * (n % d) * k := (Nat.mul_assoc _ _ _).symm
  simp only [round, Nat.mul_div_mul_right _ _ hk, Nat.mul_mod_mul_right, htwice,
    Nat.mul_lt_mul_right hk, Nat.mul_left_inj hk.ne']

end Decimal.Ratio

namespace Binary64
open Decimal

/-- How far apart the numbers with 53 significant bits lie around `n`. -/
def spacing (n : Nat) : Nat := 2 ^ (n.log2 - 52)

/-- The number of steps of that size that comes nearest to `n`, a tie going to the even one. -/
def significand (n : Nat) : Nat := Ratio.round ⟨n, spacing n⟩

/-- The nearest number with 53 significant bits. -/
def nearestNat (n : Nat) : Nat := significand n * spacing n

def nearest (i : Int) : Int := i.sign * nearestNat i.natAbs

variable {n m : Nat} {i j : Int}

theorem spacing_pos (n : Nat) : 0 < spacing n := Nat.two_pow_pos _

theorem log2_le_of_lt (h : n < 2 ^ 53) : n.log2 ≤ 52 := by
  by_cases hn : n = 0
  · rw [hn]
    decide
  · exact Nat.le_of_lt_succ ((Nat.log2_lt hn).mpr h)

theorem le_log2_of_le (h : 2 ^ 53 ≤ n) : 52 ≤ n.log2 := by
  have := (Nat.le_log2 (by omega)).mpr h
  omega

theorem nearestNat_of_lt (h : n < 2 ^ 53) : nearestNat n = n := by
  have hone : spacing n = 1 := by
    rw [spacing, Nat.sub_eq_zero_of_le (log2_le_of_lt h), Nat.pow_zero]
  have hround := Ratio.round_mul_self (k := n) Nat.one_pos
  rw [Nat.mul_one] at hround
  rw [nearestNat, significand, hone, hround, Nat.mul_one]

theorem two_pow_eq_mul_spacing (h : 52 ≤ n.log2) : 2 ^ n.log2 = 2 ^ 52 * spacing n := by
  rw [spacing, ← Nat.pow_add, Nat.add_sub_cancel' h]

/-- A number of more than 52 bits has a significand of 53 bits, or one that is just carried. -/
theorem significand_bounds (h : 52 ≤ n.log2) : 2 ^ 52 ≤ significand n ∧ significand n ≤ 2 ^ 53 := by
  have hpow := two_pow_eq_mul_spacing h
  constructor
  · refine Ratio.le_round (spacing_pos n) ?_
    rw [← hpow]
    exact Nat.log2_self_le (by rintro rfl; exact absurd h (by decide))
  · refine Ratio.round_le (spacing_pos n) ?_
    have hself := (Nat.lt_log2_self (n := n)).le
    rw [Nat.pow_succ, hpow] at hself
    calc n ≤ 2 ^ 52 * spacing n * 2 := hself
      _ = 2 ^ 53 * spacing n := by ring

theorem two_pow_log2_le_nearestNat (hn : n ≠ 0) : 2 ^ n.log2 ≤ nearestNat n := by
  by_cases h : n < 2 ^ 53
  · rw [nearestNat_of_lt h]
    exact Nat.log2_self_le hn
  · have hlog := le_log2_of_le (Nat.le_of_not_lt h)
    rw [two_pow_eq_mul_spacing hlog]
    exact Nat.mul_le_mul_right _ (significand_bounds hlog).1

theorem nearestNat_le_two_pow (n : Nat) : nearestNat n ≤ 2 ^ (n.log2 + 1) := by
  by_cases h : n < 2 ^ 53
  · rw [nearestNat_of_lt h]
    exact Nat.lt_log2_self.le
  · have hlog := le_log2_of_le (Nat.le_of_not_lt h)
    calc nearestNat n ≤ 2 ^ 53 * spacing n :=
          Nat.mul_le_mul_right _ (significand_bounds hlog).2
      _ = 2 ^ n.log2 * 2 := by
          rw [two_pow_eq_mul_spacing hlog]
          ring

theorem log2_mul_two_pow (hn : n ≠ 0) (k : Nat) : (n * 2 ^ k).log2 = n.log2 + k := by
  refine (Nat.log2_eq_iff (Nat.mul_ne_zero hn (Nat.two_pow_pos k).ne')).mpr ⟨?_, ?_⟩
  · rw [Nat.pow_add]
    exact Nat.mul_le_mul_right _ (Nat.log2_self_le hn)
  · rw [Nat.add_right_comm, Nat.pow_add]
    exact Nat.mul_lt_mul_of_pos_right Nat.lt_log2_self (Nat.two_pow_pos k)

/-- Rounding commutes with scaling by a power of two. -/
theorem nearestNat_mul_two_pow (n k : Nat) : nearestNat (n * 2 ^ k) = nearestNat n * 2 ^ k := by
  rcases Nat.eq_zero_or_pos n with rfl | hn
  · rw [Nat.zero_mul, nearestNat_of_lt (Nat.two_pow_pos 53), Nat.zero_mul]
  have hlog := log2_mul_two_pow hn.ne' k
  by_cases h : n < 2 ^ 53
  · -- the step around the product divides it
    have hsmall := log2_le_of_lt h
    rw [nearestNat_of_lt h, nearestNat, significand, spacing, hlog]
    have hsplit : n * 2 ^ k = n * 2 ^ (k - (n.log2 + k - 52)) * 2 ^ (n.log2 + k - 52) := by
      rw [Nat.mul_assoc, ← Nat.pow_add, Nat.sub_add_cancel (by omega)]
    rw [hsplit, Ratio.round_mul_self (Nat.two_pow_pos _)]
  · have hlarge := le_log2_of_le (Nat.le_of_not_lt h)
    have hspacing : spacing (n * 2 ^ k) = spacing n * 2 ^ k := by
      rw [spacing, spacing, hlog, ← Nat.pow_add]
      congr 1
      omega
    rw [nearestNat, significand, hspacing, Ratio.round_mul_right (Nat.two_pow_pos k),
      ← Nat.mul_assoc, ← significand, ← nearestNat]

theorem nearestNat_mono (h : n ≤ m) : nearestNat n ≤ nearestNat m := by
  rcases Nat.eq_zero_or_pos n with rfl | hn
  · rw [nearestNat_of_lt (Nat.two_pow_pos 53)]
    exact Nat.zero_le _
  have hlog : n.log2 ≤ m.log2 :=
    (Nat.le_log2 (by omega)).mpr ((Nat.log2_self_le hn.ne').trans h)
  rcases hlog.lt_or_eq with hlt | heq
  · calc nearestNat n ≤ 2 ^ (n.log2 + 1) := nearestNat_le_two_pow n
      _ ≤ 2 ^ m.log2 := Nat.pow_le_pow_right Nat.two_pos hlt
      _ ≤ nearestNat m := two_pow_log2_le_nearestNat (by omega)
  · have hspacing : spacing n = spacing m := by rw [spacing, heq, spacing]
    rw [nearestNat, nearestNat, significand, significand, hspacing]
    exact Nat.mul_le_mul_right _ (Ratio.round_mono (spacing_pos m) h)

theorem two_pow_le_nearestNat (h : 2 ^ 53 ≤ n) : 2 ^ 53 ≤ nearestNat n := by
  have hself : nearestNat (2 ^ 53) = 2 ^ 53 := by decide
  exact hself ▸ nearestNat_mono h

@[simp] theorem nearest_natCast (n : Nat) : nearest n = nearestNat n := by
  rcases Nat.eq_zero_or_pos n with rfl | hn
  · rfl
  · rw [nearest, Int.sign_natCast_of_ne_zero hn.ne', Int.natAbs_natCast, one_mul]

@[simp] theorem nearest_neg (i : Int) : nearest (-i) = -nearest i := by
  rw [nearest, nearest, Int.sign_neg, Int.natAbs_neg, neg_mul]

theorem natAbs_nearest (i : Int) : (nearest i).natAbs = nearestNat i.natAbs := by
  rcases Int.natAbs_eq i with h | h <;> rw [h]
  · rw [nearest_natCast, Int.natAbs_natCast, Int.natAbs_natCast]
  · rw [nearest_neg, nearest_natCast, Int.natAbs_neg, Int.natAbs_neg, Int.natAbs_natCast,
      Int.natAbs_natCast]

theorem nearest_of_lt (h : i.natAbs < 2 ^ 53) : nearest i = i := by
  rw [nearest, nearestNat_of_lt h, Int.sign_mul_natAbs]

theorem nearest_mono (h : i ≤ j) : nearest i ≤ nearest j := by
  rcases Int.natAbs_eq i with hi | hi <;> rcases Int.natAbs_eq j with hj | hj <;> rw [hi, hj]
  · simp only [nearest_natCast]
    exact_mod_cast nearestNat_mono (by omega)
  · -- only zero is both at least zero and at most a negated magnitude
    have hzero : i.natAbs = 0 ∧ j.natAbs = 0 := by omega
    rw [hzero.1, hzero.2]
    rfl
  · simp only [nearest_neg, nearest_natCast]
    omega
  · simp only [nearest_neg, nearest_natCast]
    exact neg_le_neg (by exact_mod_cast nearestNat_mono (by omega))

theorem nearest_le_nearest_iff : nearest i ≤ nearest j ↔ i ≤ j ∨ nearest i = nearest j := by
  constructor
  · intro h
    rcases h.lt_or_eq with hlt | heq
    · exact .inl (le_of_not_gt fun hji => (nearest_mono hji.le).not_gt hlt)
    · exact .inr heq
  · rintro (h | h)
    · exact nearest_mono h
    · exact h.le

/-- Two integers with the same nearest one are equal, unless both lie beyond 53 bits. -/
theorem nearest_eq_iff_of_lt (h : i.natAbs < 2 ^ 53 ∨ j.natAbs < 2 ^ 53) :
    nearest i = nearest j ↔ i = j := by
  have key {a b : Int} (ha : a.natAbs < 2 ^ 53) (hab : nearest a = nearest b) : a = b := by
    rw [nearest_of_lt ha] at hab
    have hb : b.natAbs < 2 ^ 53 := by
      by_contra hb
      have hfar := two_pow_le_nearestNat (Nat.le_of_not_lt hb)
      rw [← natAbs_nearest, ← hab] at hfar
      omega
    rwa [nearest_of_lt hb] at hab
  refine ⟨fun heq => ?_, congrArg nearest⟩
  rcases h with hi | hj
  · exact key hi heq
  · exact (key hj heq.symm).symm

end Binary64

end NamedSchema

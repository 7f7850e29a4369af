import Mathlib
import NamedSchema.Proofs.NearestInteger

/-!
# Integers as floating point numbers

A binary64 number that is zero or normal is ordered as the rational number it stands for. The
number that an integer of at most 64 bits is converted to stands for the nearest integer with 53
significant bits; so converted integers are compared as their nearest ones.
-/
namespace NamedSchema

namespace Binary64
open Decimal
open Float.Model Float.Model.UnpackedFloat

/-! ## The value of a number -/

/-- The rational number that a finite number stands for. -/
def value : UnpackedFloat → ℚ
  | .finite sign mantissa exponent _ => sign.apply mantissa * 2 ^ exponent
  | _ => 0

def FullMantissa (m : ℕ) : Prop := 2 ^ 52 ≤ m ∧ m < 2 ^ 53

/-- Zero, or a number with a full mantissa whose exponent fits its field. -/
def Normal : UnpackedFloat → Prop
  | .zero _ => True
  | .finite _ mantissa exponent _ => FullMantissa mantissa ∧ -1074 ≤ exponent ∧ exponent ≤ 971
  | _ => False

theorem FullMantissa.pos {m : ℕ} (h : FullMantissa m) : 0 < m := (Nat.two_pow_pos 52).trans_le h.1

theorem fullMantissa_iff {m : ℕ} (hm : m ≠ 0) : FullMantissa m ↔ m.log2 = 52 :=
  (Nat.log2_eq_iff hm).symm

theorem FullMantissa.log2_eq {m : ℕ} (h : FullMantissa m) : m.log2 = 52 :=
  (fullMantissa_iff h.pos.ne').mp h

theorem mul_two_zpow_lt {m n : ℕ} {d e : ℤ} (hm : FullMantissa m) (hn : FullMantissa n)
    (h : d < e) : (m : ℚ) * 2 ^ d < n * 2 ^ e := by
  have hm' : (m : ℚ) < 2 ^ 53 := by exact_mod_cast hm.2
  have hn' : (2 ^ 52 : ℚ) ≤ n := by exact_mod_cast hn.1
  calc (m : ℚ) * 2 ^ d < 2 ^ 53 * 2 ^ d := mul_lt_mul_of_pos_right hm' (by positivity)
    _ = 2 ^ 52 * 2 ^ (d + 1) := by
      rw [zpow_add_one₀ two_ne_zero]
      ring
    _ ≤ 2 ^ 52 * 2 ^ e :=
      mul_le_mul_of_nonneg_left (zpow_le_zpow_right₀ one_le_two h) (by positivity)
    _ ≤ n * 2 ^ e := mul_le_mul_of_nonneg_right hn' (by positivity)

theorem compare_map {α β : Type} [LinearOrder α] [LinearOrder β] {f : α → β} (hf : StrictMono f)
    (x y : α) : compare (f x) (f y) = compare x y := by
  rw [← cmp_eq_compare, ← cmp_eq_compare, hf.cmp_map_eq]

theorem compare_neg_neg (x y : ℚ) : compare (-x) (-y) = (compare x y).swap := by
  have hanti : StrictAnti fun q : ℚ => -q := fun _ _ => neg_lt_neg
  rw [← cmp_eq_compare, ← cmp_eq_compare, cmp_swap]
  exact hanti.cmp_map_eq x y

/-- Of two mantissas with 53 bits, the one with the greater exponent is the greater quantity. -/
theorem compare_mul_two_zpow {m n : ℕ} {d e : ℤ} (hm : FullMantissa m) (hn : FullMantissa n) :
    compare ((m : ℚ) * 2 ^ d) (n * 2 ^ e) = (compare d e).then (compare m n) := by
  rcases lt_trichotomy d e with h | rfl | h
  · rw [compare_lt_iff_lt.mpr h, compare_lt_iff_lt.mpr (mul_two_zpow_lt hm hn h)]
    rfl
  · have hmono : StrictMono fun k : ℕ => (k : ℚ) * 2 ^ d := fun j k hjk =>
      mul_lt_mul_of_pos_right (by exact_mod_cast hjk) (by positivity)
    rw [compare_eq_iff_eq.mpr (rfl : d = d)]
    exact compare_map hmono m n
  · rw [compare_gt_iff_gt.mpr h, compare_gt_iff_gt.mpr (mul_two_zpow_lt hn hm h)]
    rfl

theorem value_positive {m : ℕ} {e : ℤ} (hm : 0 < m) :
    value (.finite .positive m e hm) = m * 2 ^ e := by
  rw [value, Sign.apply, Int.cast_natCast]

theorem value_negative {m : ℕ} {e : ℤ} (hm : 0 < m) :
    value (.finite .negative m e hm) = -(m * 2 ^ e) := by
  rw [value, Sign.apply, Int.cast_neg, Int.cast_natCast, neg_mul]

theorem value_pos {m : ℕ} {e : ℤ} (hm : 0 < m) : 0 < value (.finite .positive m e hm) := by
  rw [value_positive]
  positivity

theorem value_neg {m : ℕ} {e : ℤ} (hm : 0 < m) : value (.finite .negative m e hm) < 0 := by
  rw [value_negative, neg_lt_zero]
  positivity

variable {a b : UnpackedFloat}

theorem compare_eq (ha : Normal a) (hb : Normal b) :
    a.compare b = some (compare (value a) (value b)) := by
  match a, b, ha, hb with
  | .zero _, .zero _, _, _ => rfl
  | .zero _, .finite .positive _ _ hm, _, _ =>
    exact congrArg some (compare_lt_iff_lt.mpr (value_pos hm)).symm
  | .zero _, .finite .negative _ _ hm, _, _ =>
    exact congrArg some (compare_gt_iff_gt.mpr (value_neg hm)).symm
  | .finite .positive _ _ hm, .zero _, _, _ =>
    exact congrArg some (compare_gt_iff_gt.mpr (value_pos hm)).symm
  | .finite .negative _ _ hm, .zero _, _, _ =>
    exact congrArg some (compare_lt_iff_lt.mpr (value_neg hm)).symm
  | .finite .positive _ _ hm, .finite .negative _ _ hn, _, _ =>
    exact congrArg some (compare_gt_iff_gt.mpr ((value_neg hn).trans (value_pos hm))).symm
  | .finite .negative _ _ hm, .finite .positive _ _ hn, _, _ =>
    exact congrArg some (compare_lt_iff_lt.mpr ((value_neg hm).trans (value_pos hn))).symm
  | .finite .positive _ _ hm, .finite .positive _ _ hn, ha, hb =>
    rw [value_positive, value_positive, compare_mul_two_zpow ha.1 hb.1]
    rfl
  | .finite .negative _ _ hm, .finite .negative _ _ hn, ha, hb =>
    rw [value_negative, value_negative, compare_neg_neg, compare_mul_two_zpow ha.1 hb.1]
    rfl

structure Stands (f : Float) (i : ℤ) : Prop where
  normal : Normal f.toModel.unpack
  value_eq : value f.toModel.unpack = i

namespace Stands
variable {f g : Float} {i j : ℤ}

theorem compare (hf : Stands f i) (hg : Stands g j) :
    f.toModel.unpack.compare g.toModel.unpack = some (Ord.compare i j) := by
  rw [compare_eq hf.normal hg.normal, hf.value_eq, hg.value_eq, compare_map Int.cast_strictMono]

theorem le_iff (hf : Stands f i) (hg : Stands g j) : f ≤ g ↔ i ≤ j := by
  have hle : f ≤ g ↔ f.toModel.unpack.le g.toModel.unpack = true := decide_eq_true_iff
  rw [hle, UnpackedFloat.le, hf.compare hg, Option.any_some, ← compare_le_iff_le,
    Ordering.isLE_iff_ne_gt]

theorem beq_iff (hf : Stands f i) (hg : Stands g j) : (f == g) = true ↔ i = j := by
  have hbeq : (f == g) = f.toModel.unpack.beq g.toModel.unpack := rfl
  rw [hbeq, UnpackedFloat.beq, hf.compare hg, beq_iff_eq, Option.some.injEq, compare_eq_iff_eq]

end Stands

/-! ## Rounding a mantissa -/

/-- Shifting right keeps the quotient, whether the remainder reaches one half, and whether it is
neither zero nor one half. -/
theorem shiftRight_eq (m k : ℕ) :
    (⟨m, false, false⟩ : ExtendedMantissa) >>> k =
      ⟨m / 2 ^ k, decide (2 ^ k ≤ 2 * (m % 2 ^ k)),
        decide (2 * (m % 2 ^ k) ≠ 0 ∧ 2 * (m % 2 ^ k) ≠ 2 ^ k)⟩ := by
  induction k with
  | zero =>
    have hone : m % 1 = 0 := Nat.mod_one m
    simp [HShiftRight.hShiftRight, Nat.repeat, hone]
  | succ k ih =>
    have hpos : 0 < 2 ^ k := Nat.two_pow_pos k
    have hlt := Nat.mod_lt m hpos
    -- the bit that is shifted out becomes the upper half of the remainder
    have hmod : m % 2 ^ (k + 1) = m % 2 ^ k + 2 ^ k * (m / 2 ^ k % 2) := by
      rw [Nat.pow_succ, Nat.mod_mul]
    have hdiv : m / 2 ^ (k + 1) = m / 2 ^ k / 2 := by
      rw [Nat.pow_succ, Nat.div_div_eq_div_mul]
    have hstep : (⟨m, false, false⟩ : ExtendedMantissa) >>> (k + 1) =
      ((⟨m, false, false⟩ : ExtendedMantissa) >>> k).shiftRightOne := rfl
    rw [hstep, ih, hmod, hdiv, Nat.pow_succ]
    generalize 2 ^ k = half at hpos hlt ⊢
    generalize m % half = r at hlt ⊢
    have hbit := Nat.mod_two_eq_zero_or_one (m / half)
    refine congrArg₂ (ExtendedMantissa.mk _) ?_ ?_
    · rw [Bool.eq_iff_iff, bne_iff_ne, decide_eq_true_eq]
      rcases hbit with hbit | hbit <;> rw [hbit] <;> omega
    · rw [Bool.eq_iff_iff, Bool.or_eq_true, decide_eq_true_eq, decide_eq_true_eq,
        decide_eq_true_eq]
      rcases hbit with hbit | hbit <;> rw [hbit] <;> omega

theorem roundedMantissa_eq (m : ℕ) (half rest : Bool) :
    (⟨m, half, rest⟩ : ExtendedMantissa).roundedMantissa =
      if half = false then m else if rest = true then m + 1 else m + m % 2 := by
  cases half <;> cases rest <;> rfl

/-- The bits that are shifted out say how to round. -/
theorem roundedMantissa_shiftRight (m k : ℕ) :
    ((⟨m, false, false⟩ : ExtendedMantissa) >>> k).roundedMantissa = Ratio.round ⟨m, 2 ^ k⟩ := by
  have hpos : 0 < 2 ^ k := Nat.two_pow_pos k
  rw [shiftRight_eq, roundedMantissa_eq, Ratio.round]
  simp only [decide_eq_false_iff_not, decide_eq_true_eq]
  split_ifs <;> omega

theorem shiftToTargetExponent_eq {m : ℕ} {e : ℤ} (hm : 52 ≤ m.log2)
    (he : -1074 ≤ e + (m.log2 - 52 : ℕ)) :
    shiftToTargetExponent .binary64 m e .exact =
      ((⟨m, false, false⟩ : ExtendedMantissa) >>> (m.log2 - 52), e + (m.log2 - 52 : ℕ)) := by
  have hshift : (Format.binary64.targetExponent (totalExponent m e) - e).toNat = m.log2 - 52 := by
    change (max ((m.log2 : ℤ) + 1 + e - (53 : ℕ)) (-1074) - e).toNat = _
    omega
  rw [shiftToTargetExponent, shiftToExponent, hshift]
  rfl

theorem fullMantissa_significand {m : ℕ} (hm : 52 ≤ m.log2) :
    FullMantissa (significand m) ∨ significand m = 2 ^ 53 := by
  obtain ⟨hlow, hhigh⟩ := significand_bounds hm
  rcases hhigh.lt_or_eq with hlt | heq
  · exact .inl ⟨hlow, hlt⟩
  · exact .inr heq

/-- The mantissa is rounded to a significand, whose carry moves into the exponent. -/
theorem roundWithAccuracy_eq (s : Sign) {m : ℕ} {e : ℤ} (hm : 52 ≤ m.log2)
    (he : -1074 ≤ e + (m.log2 - 52 : ℕ)) :
    ∃ h, roundWithAccuracy .binary64 s m e .exact =
      if significand m < 2 ^ 53 then .finite s (significand m) (e + (m.log2 - 52 : ℕ)) h
      else .finite s (2 ^ 52) (e + (m.log2 - 52 : ℕ) + 1) (Nat.two_pow_pos 52) := by
  have hfirst := roundedMantissa_shiftRight m (m.log2 - 52)
  rw [← spacing, ← significand] at hfirst
  have hpos : 0 < significand m := by
    have := (significand_bounds hm).1
    omega
  refine ⟨hpos, ?_⟩
  rw [roundWithAccuracy, shiftToTargetExponent_eq hm he]
  dsimp only
  rw [hfirst]
  rcases fullMantissa_significand hm with hfull | hcarry
  · have hlog := hfull.log2_eq
    rw [if_pos hfull.2, shiftToTargetExponent_eq hlog.ge (by omega), hlog]
    simp only [Nat.sub_self, Nat.cast_zero, add_zero]
    exact dif_neg hpos.ne'
  · rw [if_neg hcarry.not_lt, hcarry, shiftToTargetExponent_eq (by decide) (by omega)]
    rfl

theorem roundWithAccuracy_self (s : Sign) {m : ℕ} {e : ℤ} (hm : FullMantissa m)
    (he : -1074 ≤ e) : roundWithAccuracy .binary64 s m e .exact = .finite s m e hm.pos := by
  have hlog := hm.log2_eq
  have hself : significand m = m := by
    have hnearest := nearestNat_of_lt hm.2
    rwa [nearestNat, spacing, hlog, Nat.sub_self, Nat.pow_zero, Nat.mul_one] at hnearest
  obtain ⟨_, heq⟩ := roundWithAccuracy_eq s hlog.ge (by omega : -1074 ≤ e + (m.log2 - 52 : ℕ))
  simpa only [hself, if_pos hm.2, hlog, Nat.sub_self, Nat.cast_zero, add_zero] using heq

theorem normal_roundWithAccuracy (s : Sign) {m : ℕ} {e : ℤ} (hm : 52 ≤ m.log2)
    (hlow : -1074 ≤ e + (m.log2 - 52 : ℕ)) (hhigh : e + (m.log2 - 52 : ℕ) ≤ 970) :
    Normal (roundWithAccuracy .binary64 s m e .exact) := by
  obtain ⟨_, heq⟩ := roundWithAccuracy_eq s hm hlow
  rw [heq]
  split
  next hlt => exact ⟨⟨(significand_bounds hm).1, hlt⟩, hlow, by omega⟩
  next => exact ⟨⟨le_rfl, by decide⟩, by omega, by omega⟩

theorem value_roundWithAccuracy (s : Sign) {m : ℕ} {e : ℤ} (hm : 52 ≤ m.log2)
    (he : -1074 ≤ e + (m.log2 - 52 : ℕ)) :
    value (roundWithAccuracy .binary64 s m e .exact) = s.apply (nearestNat m) * 2 ^ e := by
  have hvalue : value (roundWithAccuracy .binary64 s m e .exact) =
      s.apply (significand m) * 2 ^ (e + (m.log2 - 52 : ℕ)) := by
    obtain ⟨_, heq⟩ := roundWithAccuracy_eq s hm he
    rw [heq]
    rcases fullMantissa_significand hm with hfull | hcarry
    · rw [if_pos hfull.2, value]
    · rw [if_neg hcarry.not_lt, hcarry, value, zpow_add_one₀ two_ne_zero]
      cases s <;> simp only [Sign.apply] <;> push_cast <;> ring
  have hstep : (2 : ℚ) ^ (e + (m.log2 - 52 : ℕ)) = spacing m * 2 ^ e := by
    rw [zpow_add₀ two_ne_zero, zpow_natCast, spacing, Nat.cast_pow, Nat.cast_two, mul_comm]
  rw [hvalue, hstep, nearestNat]
  cases s <;> simp only [Sign.apply] <;> push_cast <;> ring

/-! ## Packing -/

theorem FullMantissa.toNat_append {m : ℕ} (hm : FullMantissa m) :
    (1#1 ++ BitVec.ofNat 52 m).toNat = m := by
  obtain ⟨hlow, hhigh⟩ := hm
  rw [BitVec.toNat_append, ← Nat.shiftLeft_add_eq_or_of_lt (BitVec.isLt _), BitVec.toNat_ofNat,
    Nat.shiftLeft_eq]
  change 1 * 2 ^ 52 + m % 2 ^ 52 = m
  omega

theorem pack_finite {s : Sign} {m : ℕ} {e : ℤ} (hpos : 0 < m) (hm : FullMantissa m)
    (he : -1074 ≤ e ∧ e ≤ 971) :
    UnpackedFloat.pack .binary64 (.finite s m e hpos) =
      packComponents .binary64 s (BitVec.ofNat 11 (e + 1075).toNat) (BitVec.ofNat 52 m) := by
  have hlog : m.log2 + 1 = 53 := congrArg (· + 1) hm.log2_eq
  have hbiased : (e + (1023 : ℕ) + (52 : ℕ)).toNat = (e + 1075).toNat := by omega
  have hfield : ¬2 ^ 11 ≤ (e + 1075).toNat + 1 := by omega
  rw [← hbiased] at hfield ⊢
  exact (if_neg hfield).trans (if_pos hlog)

theorem unpack_packComponents {s : Sign} {m biased : ℕ} (hpos : 0 < m)
    (hm : FullMantissa m) (he : 1 ≤ biased ∧ biased ≤ 2046) :
    UnpackedFloat.unpack .binary64
        (packComponents .binary64 s (BitVec.ofNat 11 biased) (BitVec.ofNat 52 m)) =
      .finite s m (biased - 1075) hpos := by
  have hfield : (BitVec.ofNat 11 biased).toNat = biased := by
    rw [BitVec.toNat_ofNat, Nat.mod_eq_of_lt (by omega)]
  -- the exponent field is neither of the two that are set apart
  have hfinite : BitVec.ofNat 11 biased ≠ -1#11 := fun h => by
    rw [h] at hfield
    change 2047 = _ at hfield
    omega
  have hnonzero : BitVec.ofNat 11 biased ≠ 0#11 := fun h => by
    rw [h] at hfield
    change 0 = _ at hfield
    omega
  rw [UnpackedFloat.unpack]
  simp only [unpackMantissa_packComponents, unpackExponent_packComponents,
    unpackSign_packComponents, Sign.ofBitVec_toBitVec, if_neg hfinite, if_neg hnonzero, hfield,
    hm.toNat_append]
  rfl

theorem unpack_pack (ha : Normal a) : (Float.Model.pack a).unpack = a := by
  match a, ha with
  | .zero .positive, _ => rfl
  | .zero .negative, _ => rfl
  | .finite s m e hpos, ⟨hm, he⟩ =>
    change UnpackedFloat.unpack .binary64 (UnpackedFloat.pack .binary64 (.finite s m e hpos)) = _
    rw [pack_finite hpos hm he, unpack_packComponents hpos hm (by omega)]
    congr 1
    omega

theorem stands_pack {i : ℤ} (ha : Normal a) (hvalue : value a = i) :
    Stands (.ofModel (.pack a)) i where
  normal := (unpack_pack ha).symm ▸ ha
  value_eq := (congrArg value (unpack_pack ha)).trans hvalue

/-! ## Converted integers -/

theorem fullMantissa_shifted {n : ℕ} (hn : n ≠ 0) (h : n < 2 ^ 53) :
    FullMantissa (n * 2 ^ (52 - n.log2)) := by
  have hlog := log2_le_of_lt h
  refine (fullMantissa_iff (by positivity)).mpr ?_
  rw [log2_mul_two_pow hn]
  omega

/-- A number below `2 ^ 53` keeps its bits, shifted up to 53 of them. -/
theorem round_of_lt (s : Sign) {n : ℕ} (hn : n ≠ 0) (h : n < 2 ^ 53) :
    ∃ hpos, UnpackedFloat.round .binary64 s n 0 =
      .finite s (n * 2 ^ (52 - n.log2)) (-(52 - n.log2 : ℕ)) hpos := by
  have hlog := log2_le_of_lt h
  have hshift : (0 - Format.binary64.targetExponent (totalExponent n 0)).toNat = 52 - n.log2 := by
    change (0 - max ((n.log2 : ℤ) + 1 + 0 - (53 : ℕ)) (-1074)).toNat = _
    omega
  refine ⟨by positivity, ?_⟩
  rw [UnpackedFloat.round, decreaseExponent, hshift, Nat.shiftLeft_eq, zero_sub]
  exact roundWithAccuracy_self s (fullMantissa_shifted hn h) (by omega)

theorem ofUInt64_of_lt {n : ℕ} (hn : n ≠ 0) (h : n < 2 ^ 53) :
    UnpackedFloat.ofUInt64 .binary64 n.toUInt64 = UnpackedFloat.round .binary64 .positive n 0 := by
  have hword : n.toUInt64.toNat = n := UInt64.toNat_ofNat_of_lt (h.trans (by decide))
  have hgt : compare (n : ℤ) 0 = .gt := compare_gt_iff_gt.mpr (by omega)
  rw [UnpackedFloat.ofUInt64, hword, UnpackedFloat.ofNat, UnpackedFloat.ofInt,
    UnpackedFloat.normalize, hgt, Int.toNat_natCast]

/-- A number below `2 ^ 53` is converted as a machine word and multiplied by one. -/
theorem ofNat_eq_of_lt {n : ℕ} (hn : n ≠ 0) (h : n < 2 ^ 53) :
    Float.ofNat n = .ofModel (.pack (roundWithAccuracy .binary64 .positive
      (n * 2 ^ (104 - n.log2)) (-(104 - n.log2 : ℕ)) .exact)) := by
  have hlog := log2_le_of_lt h
  have hfast : Float.ofNat n = n.toUInt64.toFloat * Float.ofBits 0x3FF0000000000000 := by
    change Float.ofScientific n false 0 = _
    rw [Float.ofScientific, dif_pos ⟨h, by decide⟩]
    rfl
  have hone : (Float.ofBits 0x3FF0000000000000).toModel.unpack =
    .finite .positive (2 ^ 52) (-52) (by decide) := rfl
  obtain ⟨hpos, hround⟩ := round_of_lt .positive hn h
  have hword : n.toUInt64.toFloat.toModel.unpack =
      .finite .positive (n * 2 ^ (52 - n.log2)) (-(52 - n.log2 : ℕ)) hpos := by
    change (Float.Model.pack (UnpackedFloat.ofUInt64 .binary64 n.toUInt64)).unpack = _
    rw [ofUInt64_of_lt hn h, hround]
    exact unpack_pack ⟨fullMantissa_shifted hn h, by omega, by omega⟩
  have hmantissa : n * 2 ^ (52 - n.log2) * 2 ^ 52 = n * 2 ^ (104 - n.log2) := by
    rw [Nat.mul_assoc, ← Nat.pow_add]
    congr 2
    omega
  have hexponent : -((52 - n.log2 : ℕ) : ℤ) + -52 = -(104 - n.log2 : ℕ) := by omega
  rw [hfast]
  change Float.ofModel (.pack (UnpackedFloat.mul .binary64 n.toUInt64.toFloat.toModel.unpack
    (Float.ofBits 0x3FF0000000000000).toModel.unpack)) = _
  rw [hword, hone, UnpackedFloat.mul, hmantissa, hexponent]
  rfl

/-- A greater number is shifted up by the length of a mantissa and multiplied by one. -/
theorem ofNat_eq_of_le {n : ℕ} (h : 2 ^ 53 ≤ n) :
    Float.ofNat n = .ofModel (.pack (roundWithAccuracy .binary64 .positive
      (n * 2 ^ 53) (-(53 : ℕ)) .exact)) := by
  have hslow : Float.ofNat n = .ofModel (.ofScientific n 0) := by
    change Float.ofScientific n false 0 = _
    rw [Float.ofScientific, dif_neg (by omega)]
    rfl
  have hnotSmall : ¬(0 : ℤ) < -(2 ^ Format.binary64.exponentBits + n.log2) := by
    have : (0 : ℤ) < 2 ^ Format.binary64.exponentBits := by positivity
    omega
  rw [hslow, Float.Model.ofScientific, UnpackedFloat.ofScientific, dif_neg (by omega),
    if_neg (by decide), if_neg hnotSmall, if_pos le_rfl]
  change Float.ofModel (.pack (roundWithAccuracy .binary64 .positive (n <<< 53 * 1)
    (-(53 : ℕ) + 0) .exact)) = _
  rw [Nat.mul_one, Nat.shiftLeft_eq, add_zero]

theorem exists_ofNat_eq {n : ℕ} (hn : n ≠ 0) :
    ∃ k : ℕ, 52 ≤ n.log2 + k ∧ Float.ofNat n =
      .ofModel (.pack (roundWithAccuracy .binary64 .positive (n * 2 ^ k) (-k) .exact)) := by
  by_cases h : n < 2 ^ 53
  · exact ⟨104 - n.log2, by omega, ofNat_eq_of_lt hn h⟩
  · exact ⟨53, by omega, ofNat_eq_of_le (Nat.le_of_not_lt h)⟩

theorem stands_ofNat {n : ℕ} (h : n < 2 ^ 64) : Stands (Float.ofNat n) (nearestNat n) := by
  rcases Nat.eq_zero_or_pos n with rfl | hn
  · exact ⟨trivial, rfl⟩
  obtain ⟨k, hk, heq⟩ := exists_ofNat_eq hn.ne'
  have hlog : (n * 2 ^ k).log2 = n.log2 + k := log2_mul_two_pow hn.ne' k
  have hsmall : n.log2 < 64 := (Nat.log2_lt hn.ne').mpr h
  rw [heq]
  refine stands_pack (normal_roundWithAccuracy _ (by omega) (by omega) (by omega)) ?_
  rw [value_roundWithAccuracy _ (by omega) (by omega), nearestNat_mul_two_pow, Sign.apply]
  push_cast
  rw [zpow_neg, zpow_natCast, mul_assoc, mul_inv_cancel₀ (by positivity), mul_one]

theorem Stands.neg {f : Float} {i : ℤ} (hf : Stands f i) : Stands (-f) (-i) := by
  have hneg : Normal f.toModel.unpack.neg ∧
      value f.toModel.unpack.neg = -value f.toModel.unpack := by
    match f.toModel.unpack, hf.normal with
    | .zero _, _ => exact ⟨trivial, neg_zero.symm⟩
    | .finite .positive _ _ hm, h =>
      refine ⟨h, ?_⟩
      rw [value_positive]
      exact value_negative hm
    | .finite .negative _ _ hm, h =>
      refine ⟨h, ?_⟩
      rw [value_negative, neg_neg]
      exact value_positive hm
  refine stands_pack hneg.1 ?_
  rw [hneg.2, hf.value_eq, Int.cast_neg]

/-- An integer of at most 64 bits is converted to the number for the nearest integer. -/
theorem stands_ofInt {i : ℤ} (h : i.natAbs < 2 ^ 64) : Stands (Float.ofInt i) (nearest i) := by
  match i, h with
  | .ofNat n, h =>
    rw [Int.ofNat_eq_natCast, nearest_natCast]
    exact stands_ofNat h
  | .negSucc n, h =>
    rw [Int.negSucc_eq, nearest_neg, ← Nat.cast_succ, nearest_natCast]
    exact (stands_ofNat h).neg

end Binary64

end NamedSchema

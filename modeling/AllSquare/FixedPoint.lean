import Mathlib.Algebra.Order.Floor.Ring
import Mathlib.Tactic.Linarith
import Mathlib.Tactic.FieldSimp
import Mathlib.Tactic.Ring

/-! # Fixed-point quantization

A scaled value is written on a wire as the nearest integer number of steps,
halves away from zero, clamped to the range the integer type holds. Main
results:

* `quantize_grid` — a value already on the grid is its own quantization;
* `abs_quantize_div_sub_le` — within the range, quantization moves a value by
  half a step at most, and outside it goes to the nearer end
  (`quantize_of_le`, `quantize_of_ge`);
* `quantize_mono`, `quantize_idem` — it is monotone and idempotent;
* `roundAway_eq_neg_iff` — which values round to a given negative integer.
-/

namespace FixedPoint

variable {K : Type*} [Field K] [LinearOrder K] [IsStrictOrderedRing K] [FloorRing K]

/-- The nearest integer, halves away from zero. -/
def roundAway (x : K) : ℤ := if 0 ≤ x then ⌊x + 1 / 2⌋ else ⌈x - 1 / 2⌉

/-- Clamp an integer to a range. -/
def clamp (lo hi n : ℤ) : ℤ := max lo (min hi n)

/-- The number of steps of `1 / scale` nearest to `x`, clamped to a range. -/
def quantize (lo hi : ℤ) (scale x : K) : ℤ := clamp lo hi (roundAway (x * scale))

@[simp] theorem roundAway_intCast (n : ℤ) : roundAway (n : K) = n := by
  unfold roundAway
  split
  · rw [Int.floor_eq_iff]
    constructor <;> linarith
  · rw [Int.ceil_eq_iff]
    constructor <;> linarith

theorem clamp_eq_self {lo hi n : ℤ} (hlo : lo ≤ n) (hhi : n ≤ hi) : clamp lo hi n = n := by
  unfold clamp
  omega

/-- A value on the grid is its own quantization. -/
theorem quantize_grid {lo hi n : ℤ} {scale : K} (hs : scale ≠ 0) (hlo : lo ≤ n) (hhi : n ≤ hi) :
    quantize lo hi scale ((n : K) / scale) = n := by
  unfold quantize
  -- the scale cancels, and an integer is its own rounding whichever side of 0 it is on
  rw [div_mul_cancel₀ _ hs, roundAway_intCast, clamp_eq_self hlo hhi]

/-! ## Rounding -/

/-- Rounding moves a value by a half at most. -/
theorem abs_roundAway_sub_le (x : K) : |(roundAway x : K) - x| ≤ 1 / 2 := by
  unfold roundAway
  rw [abs_le]
  split
  · have hle := Int.floor_le (x + 1 / 2)
    have hlt := Int.lt_floor_add_one (x + 1 / 2)
    constructor <;> linarith
  · have hle := Int.le_ceil (x - 1 / 2)
    have hlt := Int.ceil_lt_add_one (x - 1 / 2)
    constructor <;> linarith

theorem roundAway_nonneg {x : K} (hx : 0 ≤ x) : 0 ≤ roundAway x := by
  unfold roundAway
  rw [if_pos hx]
  apply Int.floor_nonneg.2
  linarith

theorem roundAway_nonpos {x : K} (hx : x < 0) : roundAway x ≤ 0 := by
  unfold roundAway
  rw [if_neg (not_le.2 hx), Int.ceil_le, Int.cast_zero]
  linarith

theorem roundAway_mono {x y : K} (hxy : x ≤ y) : roundAway x ≤ roundAway y := by
  by_cases hx : 0 ≤ x
  · have hy : 0 ≤ y := hx.trans hxy
    unfold roundAway
    rw [if_pos hx, if_pos hy]
    apply Int.floor_le_floor
    linarith
  · rw [not_le] at hx
    by_cases hy : 0 ≤ y
    -- the two branches meet at zero
    · exact (roundAway_nonpos hx).trans (roundAway_nonneg hy)
    · unfold roundAway
      rw [if_neg (not_le.2 hx), if_neg hy]
      apply Int.ceil_le_ceil
      linarith

/-- The values that round to a negative integer: its half-open interval has the
end farther from zero excluded. -/
theorem roundAway_eq_neg_iff {n : ℤ} (hn : n < 0) (x : K) :
    roundAway x = n ↔ (n : K) - 1 / 2 < x ∧ x ≤ n + 1 / 2 := by
  have hcast : (n : K) ≤ -1 := by
    have h : n ≤ -1 := by omega
    exact_mod_cast h
  by_cases hx : 0 ≤ x
  · have hround := roundAway_nonneg hx
    apply iff_of_false
    · omega
    · rintro ⟨-, hle⟩
      linarith
  · unfold roundAway
    rw [if_neg hx, Int.ceil_eq_iff]
    constructor
    · rintro ⟨hlt, hle⟩
      constructor <;> linarith
    · rintro ⟨hlt, hle⟩
      constructor <;> linarith

/-! ## Clamping -/

theorem clamp_mono (lo hi : ℤ) {n m : ℤ} (h : n ≤ m) : clamp lo hi n ≤ clamp lo hi m := by
  unfold clamp
  omega

theorem le_clamp (lo hi n : ℤ) : lo ≤ clamp lo hi n := by
  unfold clamp
  omega

theorem clamp_le {lo hi : ℤ} (h : lo ≤ hi) (n : ℤ) : clamp lo hi n ≤ hi := by
  unfold clamp
  omega

theorem clamp_of_le {lo hi n : ℤ} (hn : n ≤ lo) : clamp lo hi n = lo := by
  unfold clamp
  omega

theorem clamp_of_ge {lo hi n : ℤ} (h : lo ≤ hi) (hn : hi ≤ n) : clamp lo hi n = hi := by
  unfold clamp
  omega

/-! ## Quantization -/

section Quantize

variable {lo hi : ℤ} {scale : K}

theorem quantize_mono (hs : 0 < scale) {x y : K} (hxy : x ≤ y) :
    quantize lo hi scale x ≤ quantize lo hi scale y := by
  apply clamp_mono
  apply roundAway_mono
  exact mul_le_mul_of_nonneg_right hxy hs.le

/-- Quantizing twice is quantizing once. -/
theorem quantize_idem (h : lo ≤ hi) (hs : scale ≠ 0) (x : K) :
    quantize lo hi scale ((quantize lo hi scale x : K) / scale) = quantize lo hi scale x :=
  quantize_grid hs (le_clamp lo hi _) (clamp_le h _)

theorem quantize_of_le {x : K} (hx : x * scale ≤ lo) : quantize lo hi scale x = lo := by
  apply clamp_of_le
  rw [← roundAway_intCast (K := K) lo]
  exact roundAway_mono hx

theorem quantize_of_ge (h : lo ≤ hi) {x : K} (hx : hi ≤ x * scale) :
    quantize lo hi scale x = hi := by
  apply clamp_of_ge h
  rw [← roundAway_intCast (K := K) hi]
  exact roundAway_mono hx

/-- Within the range nothing is clamped. -/
theorem quantize_eq_roundAway {x : K} (hlo : lo ≤ x * scale) (hhi : x * scale ≤ hi) :
    quantize lo hi scale x = roundAway (x * scale) := by
  apply clamp_eq_self
  · rw [← roundAway_intCast (K := K) lo]
    exact roundAway_mono hlo
  · rw [← roundAway_intCast (K := K) hi]
    exact roundAway_mono hhi

/-- Within the range quantization moves a value by half a step at most. -/
theorem abs_quantize_div_sub_le (hs : 0 < scale) {x : K} (hlo : lo ≤ x * scale)
    (hhi : x * scale ≤ hi) :
    |(quantize lo hi scale x : K) / scale - x| ≤ 1 / (2 * scale) := by
  have hstep : (roundAway (x * scale) : K) / scale - x =
      (roundAway (x * scale) - x * scale) / scale := by
    field_simp
  rw [quantize_eq_roundAway hlo hhi, hstep, abs_div, abs_of_pos hs]
  calc |(roundAway (x * scale) : K) - x * scale| / scale
      ≤ 1 / 2 / scale := div_le_div_of_nonneg_right (abs_roundAway_sub_le _) hs.le
    _ = 1 / (2 * scale) := by rw [div_div]

end Quantize

end FixedPoint

import Mathlib.Analysis.Real.Sqrt
import Mathlib.Tactic.LinearCombination
import TradingLab.Research.Wilson

/-!
# The Wilson bound is a lower confidence bound

The bound is the smaller root of a quadratic equation. With the numerator rationalised it is
`p ^ 2 / (p + z ^ 2 / (2 n) + spread)`; in this form it grows with `p` and with `n` term by term.
-/
namespace TradingLab.Research

variable {z p : ℝ} {n : Int}

noncomputable abbrev wilsonBound (z p : ℝ) (n : Int) : ℝ := wilsonLowerP Real.sqrt z p n

/-- What a lower confidence bound should be for `n` trials with `p` wins each. -/
structure WilsonLaw (z : ℝ) (n : Int) (p : ℝ) : Prop where
  nonneg : 0 ≤ wilsonBound z p n
  below : wilsonBound z p n ≤ p
  root : IsLeast {w | (p - w) ^ 2 = z ^ 2 * w * (1 - w) / n} (wilsonBound z p n)
  general : wilsonBound z p n = wilsonResult Real.sqrt z p n
  mono : ∀ q, p ≤ q → q ≤ 1 → wilsonBound z p n ≤ wilsonBound z q n
  more : ∀ m, n ≤ m → wilsonBound z p n ≤ wilsonBound z p m
  penalised : approvalBound Real.sqrt z p n ≤ wilsonBound z p n

section Formula
variable (positive : 0 < z) (trials : 0 < (n : ℝ)) (low : 0 ≤ p) (high : p ≤ 1)

include positive in
theorem wilsonSpread_nonneg : 0 ≤ wilsonSpread Real.sqrt z p n :=
  mul_nonneg positive.le (Real.sqrt_nonneg _)

include trials low high in
theorem wilsonSpread_sq :
    wilsonSpread Real.sqrt z p n ^ 2 = z ^ 2 / n * (p * (1 - p)) + (z ^ 2 / (2 * n)) ^ 2 := by
  have : 0 ≤ 1 - p := sub_nonneg.mpr high
  rw [wilsonSpread, mul_pow, Real.sq_sqrt (by positivity)]
  field_simp
  ring

include positive trials low high

theorem wilsonResult_eq : wilsonResult Real.sqrt z p n =
    p ^ 2 / (p + z ^ 2 / (2 * n) + wilsonSpread Real.sqrt z p n) := by
  have spread := wilsonSpread_nonneg (p := p) (n := n) positive
  have square := wilsonSpread_sq (z := z) trials low high
  have half : z ^ 2 / (2 * (n : ℝ)) = z ^ 2 / n / 2 := by field_simp
  have : 0 < z ^ 2 / (n : ℝ) := by positivity
  rw [half] at square ⊢
  rw [wilsonResult, half, div_eq_div_iff (by positivity) (by positivity)]
  linear_combination -square

theorem wilsonResult_root :
    IsLeast {w | (p - w) ^ 2 = z ^ 2 * w * (1 - w) / n} (wilsonResult Real.sqrt z p n) := by
  have spread := wilsonSpread_nonneg (p := p) (n := n) positive
  have square := wilsonSpread_sq (z := z) trials low high
  have scale : 0 < 1 + z ^ 2 / (n : ℝ) := by positivity
  have half : z ^ 2 / (2 * (n : ℝ)) = z ^ 2 / n / 2 := by field_simp
  -- A root is where the linear form is the spread or its opposite.
  have roots : ∀ w, (p - w) ^ 2 = z ^ 2 * w * (1 - w) / n ↔
      ((1 + z ^ 2 / n) * w - (p + z ^ 2 / (2 * n))) ^ 2 = wilsonSpread Real.sqrt z p n ^ 2 := by
    intro w
    have form : ((1 + z ^ 2 / n) * w - (p + z ^ 2 / (2 * n))) ^ 2 -
        wilsonSpread Real.sqrt z p n ^ 2 =
          (1 + z ^ 2 / n) * ((p - w) ^ 2 - z ^ 2 * w * (1 - w) / n) := by
      rw [square, half]
      ring
    rw [← sub_eq_zero, ← sub_eq_zero (b := wilsonSpread _ _ _ _ ^ 2), form,
      mul_eq_zero_iff_left scale.ne']
  refine ⟨(roots _).mpr ?_, fun w root => ?_⟩
  · rw [wilsonResult, mul_div_cancel₀ _ scale.ne']
    ring
  · rw [wilsonResult, div_le_iff₀' scale]
    linarith [neg_le_of_abs_le (abs_le_of_sq_le_sq ((roots w).mp root).le spread)]

theorem wilsonBound_eq : wilsonBound z p n = wilsonResult Real.sqrt z p n := by
  have result := wilsonResult_eq positive trials low high
  have spread := wilsonSpread_nonneg (p := p) (n := n) positive
  rw [wilsonBound, wilsonLowerP]
  split
  · rename_i none
    have zero : p = 0 := le_antisymm (none.resolve_left (Int.cast_pos.mp trials).not_ge) low
    rw [result, zero]
    simp
  split
  · rename_i all
    have one : p = 1 := le_antisymm high all
    have square := wilsonSpread_sq (z := z) trials low high
    rw [one, sub_self, mul_zero, mul_zero, zero_add, sq_eq_sq₀ (one ▸ spread) (by positivity)]
      at square
    rw [wilsonResult, one, square, add_sub_cancel_right]
  · rename_i inside
    split
    · rfl
    · rename_i small
      refine le_antisymm ?_ (not_lt.mp small)
      rw [result]
      positivity

end Formula

section Formula
variable {q : ℝ} {m : Int} (positive : 0 < z) (trials : 0 < (n : ℝ)) (low : 0 ≤ p)
include positive trials low

theorem wilsonBound_mono (le : p ≤ q) (high : q ≤ 1) : wilsonBound z p n ≤ wilsonBound z q n := by
  have spread := wilsonSpread_nonneg (p := p) (n := n) positive
  have wider := wilsonSpread_nonneg (p := q) (n := n) positive
  have half : 0 < z ^ 2 / (2 * (n : ℝ)) := by positivity
  have others : 0 ≤ 1 - q := sub_nonneg.mpr high
  have : 0 ≤ q := low.trans le
  have scaled : p ^ 2 * wilsonSpread Real.sqrt z q n ≤ q ^ 2 * wilsonSpread Real.sqrt z p n := by
    refine (pow_le_pow_iff_left₀ (by positivity) (by positivity) two_ne_zero).mp ?_
    rw [mul_pow, mul_pow, wilsonSpread_sq trials (low.trans le) high,
      wilsonSpread_sq trials low (le.trans high)]
    have cubes : p ^ 3 * (1 - q) ≤ q ^ 3 * (1 - p) := by gcongr
    calc (p ^ 2) ^ 2 * (z ^ 2 / n * (q * (1 - q)) + (z ^ 2 / (2 * n)) ^ 2)
        = z ^ 2 / n * (p * q) * (p ^ 3 * (1 - q)) + p ^ 4 * (z ^ 2 / (2 * n)) ^ 2 := by ring
      _ ≤ z ^ 2 / n * (p * q) * (q ^ 3 * (1 - p)) + q ^ 4 * (z ^ 2 / (2 * n)) ^ 2 := by gcongr
      _ = _ := by ring
  rw [wilsonBound_eq positive trials low (le.trans high),
    wilsonBound_eq positive trials (low.trans le) high,
    wilsonResult_eq positive trials low (le.trans high),
    wilsonResult_eq positive trials (low.trans le) high,
    div_le_div_iff₀ (by positivity) (by positivity)]
  have squares : p ^ 2 * (z ^ 2 / (2 * n)) ≤ q ^ 2 * (z ^ 2 / (2 * n)) := by gcongr
  have linear : p * q * p ≤ p * q * q := by gcongr
  linarith

theorem wilsonBound_more (high : p ≤ 1) (le : n ≤ m) : wilsonBound z p n ≤ wilsonBound z p m := by
  have more : (n : ℝ) ≤ m := Int.cast_le.mpr le
  have : 0 ≤ 1 - p := sub_nonneg.mpr high
  have spread := wilsonSpread_nonneg (p := p) (n := m) positive
  have half : 0 < z ^ 2 / (2 * (m : ℝ)) := div_pos (by positivity) (by linarith)
  rw [wilsonBound_eq positive trials low high,
    wilsonBound_eq positive (trials.trans_le more) low high,
    wilsonResult_eq positive trials low high,
    wilsonResult_eq positive (trials.trans_le more) low high]
  unfold wilsonSpread at spread ⊢
  gcongr

end Formula

/-- **The Wilson bound is lawful** for every positive `z` and at least one trial. -/
theorem wilson_bound_lawful (z : ℝ) (n : Int) (positive : 0 < z) (trials : 1 ≤ n) :
    (∀ p, 0 ≤ p → p ≤ 1 → WilsonLaw z n p) ∧
      ∀ wins, 0 ≤ wins → wins ≤ n →
        wilsonLower Real.sqrt z wins n = wilsonBound z (wins / n) n := by
  have some : 0 < (n : ℝ) := Int.cast_pos.mpr trials
  refine ⟨fun p low high => ?_, fun wins low high => ?_⟩
  · have general := wilsonBound_eq positive some low high
    have spread := wilsonSpread_nonneg (p := p) (n := n) positive
    have half : 0 < z ^ 2 / (2 * (n : ℝ)) := by positivity
    constructor
    case general => exact general
    case nonneg =>
      rw [general, wilsonResult_eq positive some low high]
      positivity
    case below =>
      rw [general, wilsonResult_eq positive some low high, div_le_iff₀ (by positivity)]
      nlinarith
    case root => exact general ▸ wilsonResult_root positive some low high
    case mono => exact fun q => wilsonBound_mono positive some low
    case more => exact fun m => wilsonBound_more positive some low high
    case penalised =>
      refine wilsonBound_mono positive some ?_ ?_ high <;> rw [applyDelayPenalty] <;> split <;>
        linarith
  · rw [wilsonLower]
    split
    · rename_i none
      have zero : wins = 0 := by omega
      rw [zero, wilsonBound, wilsonLowerP, Int.cast_zero, zero_div, if_pos (.inr le_rfl)]
    split
    · rename_i all
      rw [le_antisymm high all, wilsonBound, wilsonLowerP, div_self some.ne', if_pos le_rfl,
        if_neg (by simpa using one_pos.trans_le trials)]
    · rfl

theorem ten_trials_lawful : WilsonLaw 2 10 (1 / 2) :=
  (wilson_bound_lawful 2 10 two_pos (by decide)).1 _ (by norm_num) (by norm_num)

end TradingLab.Research

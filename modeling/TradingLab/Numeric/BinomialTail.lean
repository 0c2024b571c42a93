import Mathlib.Algebra.BigOperators.Intervals
import Mathlib.Data.Nat.Choose.Sum
import Mathlib.Tactic.Linarith

/-!
# The tail of a binomial distribution

The chance of `j` wins in `n` trials, and that of at least `k`. A further trial is won or lost, so
the tails of `n + 1` trials are mixtures of those of `n`.
-/
namespace Numeric.Binomial

variable {K : Type} [Field K] {p q : K} {n j k : ℕ}

def term (n : ℕ) (p : K) (j : ℕ) : K :=
  n.choose j * p ^ j * (1 - p) ^ (n - j)

def tail (n : ℕ) (p : K) (k : ℕ) : K :=
  ∑ j ∈ Finset.Icc k n, term n p j

theorem term_of_lt (above : n < j) : term n p j = 0 := by
  simp [term, Nat.choose_eq_zero_of_lt above]

theorem term_succ : term (n + 1) p (j + 1) = p * term n p j + (1 - p) * term n p (j + 1) := by
  rcases lt_or_ge j n with inside | above
  · have rest : n - j = n - (j + 1) + 1 := by omega
    simp only [term, Nat.choose_succ_succ, Nat.cast_add, Nat.add_sub_add_right, rest]
    ring
  · rw [term_of_lt (Nat.lt_succ_of_le above), term, term, Nat.choose_succ_succ,
      Nat.choose_eq_zero_of_lt (Nat.lt_succ_of_le above), Nat.add_zero, Nat.add_sub_add_right]
    ring

theorem tail_succ : tail (n + 1) p (k + 1) = p * tail n p k + (1 - p) * tail n p (k + 1) := by
  have shift : ∀ f : ℕ → K, ∑ j ∈ Finset.Icc (k + 1) (n + 1), f j =
      ∑ j ∈ Finset.Icc k n, f (j + 1) := fun f => by
    rw [← Finset.map_add_right_Icc, Finset.sum_map]
    rfl
  have last : ∑ j ∈ Finset.Icc k n, term n p (j + 1) = tail n p (k + 1) := by
    rw [← shift, tail]
    symm
    refine Finset.sum_subset (Finset.Icc_subset_Icc_right n.le_succ) fun j inside outside =>
      term_of_lt ?_
    simp only [Finset.mem_Icc] at inside outside
    omega
  rw [tail, shift]
  simp only [term_succ, Finset.sum_add_distrib, ← Finset.mul_sum, last]
  rfl

theorem tail_zero : tail n p 0 = 1 := by
  have whole := add_pow p (1 - p) n
  rw [add_sub_cancel, one_pow] at whole
  rw [tail, whole, Finset.range_eq_Ico, ← Finset.Ico_add_one_right_eq_Icc]
  refine Finset.sum_congr rfl fun j _ => ?_
  rw [term]
  ring

theorem term_next [CharZero K] (inside : j < n) (p_ne : 1 - p ≠ 0) :
    term n p j * (n - j : ℕ) / (j + 1 : ℕ) * p / (1 - p) = term n p (j + 1) := by
  have pow : (1 - p) ^ (n - j) = (1 - p) ^ (n - (j + 1)) * (1 - p) := by
    rw [← pow_succ]
    congr 1
    omega
  have choose : (n.choose (j + 1) : K) * (j + 1 : ℕ) = n.choose j * (n - j : ℕ) := by
    exact_mod_cast Nat.choose_succ_right_eq n j
  have positive : ((j + 1 : ℕ) : K) ≠ 0 := Nat.cast_ne_zero.mpr j.succ_ne_zero
  rw [div_eq_iff p_ne, div_mul_eq_mul_div, div_eq_iff positive, term, term, pow]
  calc _ = n.choose j * (n - j : ℕ) * (p ^ (j + 1) * (1 - p) ^ (n - (j + 1)) * (1 - p)) := by ring
    _ = _ := by rw [← choose]; ring

section Ordered
variable [LinearOrder K] [IsStrictOrderedRing K] (low : 0 ≤ p) (high : p ≤ 1)

include low high in
theorem term_nonneg (j : ℕ) : 0 ≤ term n p j := by
  have : 0 ≤ 1 - p := sub_nonneg.mpr high
  unfold term
  positivity

include low high in
theorem tail_anti {l : ℕ} (le : k ≤ l) : tail n p l ≤ tail n p k :=
  Finset.sum_le_sum_of_subset_of_nonneg (Finset.Icc_subset_Icc_left le)
    fun j _ _ => term_nonneg low high j

include low in
theorem tail_mono (le : p ≤ q) (high : q ≤ 1) : tail n p k ≤ tail n q k := by
  induction n generalizing k with
  | zero =>
    cases k with
    | zero => rw [tail_zero, tail_zero]
    | succ k => simp [tail]
  | succ n ih =>
    cases k with
    | zero => rw [tail_zero, tail_zero]
    | succ k =>
      rw [tail_succ, tail_succ]
      have gap : 0 ≤ (q - p) * (tail n p k - tail n p (k + 1)) :=
        mul_nonneg (sub_nonneg.mpr le) (sub_nonneg.mpr (tail_anti low (le.trans high) k.le_succ))
      calc p * tail n p k + (1 - p) * tail n p (k + 1)
          ≤ q * tail n p k + (1 - q) * tail n p (k + 1) := by linarith
        _ ≤ q * tail n q k + (1 - q) * tail n q (k + 1) :=
          add_le_add (mul_le_mul_of_nonneg_left ih (low.trans le))
            (mul_le_mul_of_nonneg_left ih (sub_nonneg.mpr high))

end Ordered

end Numeric.Binomial

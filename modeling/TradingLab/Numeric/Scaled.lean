import TradingLab.Numeric.Decimal

/-!
# Whole numbers of a fixed unit

A decimal that is a whole number of `10 ^ -places`, as an amount of money is one of cents. While
the numbers stay below the precision, sums and comparisons are those of whole numbers.
-/
namespace Decimal

variable {places precision : Nat} {a b : Decimal} {m n : Int}

/-- The decimal is `n` units of `10 ^ -places`, with at most that many places. -/
def IsScaled (places : Nat) (number : Decimal) (n : Int) : Prop :=
  ∃ s c e, number = .finite s c e ∧ -(places : Int) ≤ e ∧ e ≤ 0 ∧
    alignedTo (-(places : Int)) s c e = n

theorem signed_natAbs (n : Int) : signed (decide (n < 0)) n.natAbs = n := by
  by_cases negative : n < 0
  · rw [signed, decide_eq_true negative, if_pos rfl]
    omega
  · rw [signed, decide_eq_false negative, if_neg Bool.false_ne_true]
    omega

theorem alignedTo_of_le {low middle e : Int} (below : low ≤ middle) (above : middle ≤ e) (s : Bool)
    (c : Nat) : alignedTo low s c e = alignedTo middle s c e * 10 ^ (middle - low).toNat := by
  have split : (e - low).toNat = (e - middle).toNat + (middle - low).toNat := by omega
  rw [alignedTo, alignedTo, split, pow_add, ← mul_assoc, signed_mul]
  push_cast
  rfl

theorem round_of_lt {s : Bool} {c : Nat} {e : Int} (positive : 0 < precision)
    (small : c < 10 ^ precision) : round precision (.finite s c e) = .finite s c e := by
  have few : numDigits c ≤ precision :=
    (Nat.length_toDigits_le_iff (by decide) positive).mpr small
  simp [round, Nat.sub_eq_zero_of_le few]

theorem trim_isScaled (s : Bool) (c places : Nat) :
    ∃ c' e, trim s c places = .finite s c' e ∧ -(places : Int) ≤ e ∧ e ≤ 0 ∧
      c' * 10 ^ (e + places).toNat = c := by
  induction places generalizing c with
  | zero => exact ⟨c, 0, rfl, by omega, by omega, by simp⟩
  | succ places ih =>
    by_cases zero : c % 10 = 0
    · obtain ⟨c', e, trimmed, low, high, same⟩ := ih (c / 10)
      refine ⟨c', e, by simp [trim, zero, trimmed], by omega, high, ?_⟩
      have power : (e + ((places + 1 : Nat) : Int)).toNat = (e + places).toNat + 1 := by omega
      rw [power, pow_succ, ← mul_assoc, same]
      omega
    · refine ⟨c, -((places : Int) + 1), by simp [trim, zero], by omega, by omega, ?_⟩
      have power : (-((places : Int) + 1) + ((places + 1 : Nat) : Int)).toNat = 0 := by omega
      rw [power, pow_zero, mul_one]

theorem ofScaled_isScaled (positive : 0 < precision) (small : n.natAbs < 10 ^ precision) :
    IsScaled places (ofScaled precision n places) n := by
  obtain ⟨c, e, trimmed, low, high, same⟩ := trim_isScaled (decide (n < 0)) n.natAbs places
  have fewer : c < 10 ^ precision := by
    refine lt_of_le_of_lt ?_ small
    rw [← same]
    exact Nat.le_mul_of_pos_right c (Nat.pow_pos (by decide))
  refine ⟨_, c, e, by rw [ofScaled, trimmed, round_of_lt positive fewer], low, high, ?_⟩
  have power : e - -(places : Int) = e + places := by omega
  rw [alignedTo, power, same, signed_natAbs]

theorem add_isScaled (positive : 0 < precision) (left : IsScaled places a m)
    (right : IsScaled places b n) (small : (m + n).natAbs < 10 ^ precision) :
    ∃ sum, add precision a b = some sum ∧ IsScaled places sum (m + n) := by
  obtain ⟨s, c, e, rfl, low, high, rfl⟩ := left
  obtain ⟨s', c', e', rfl, low', high', rfl⟩ := right
  set floor := min e e'
  have lowest : -(places : Int) ≤ floor := le_min low low'
  set sum := alignedTo floor s c e + alignedTo floor s' c' e' with total
  have scaled : alignedTo (-(places : Int)) s c e + alignedTo (-(places : Int)) s' c' e' =
      sum * 10 ^ (floor - -(places : Int)).toNat := by
    rw [alignedTo_of_le lowest (min_le_left e e'), alignedTo_of_le lowest (min_le_right e e'),
      total, add_mul]
  have fewer : sum.natAbs < 10 ^ precision := by
    refine lt_of_le_of_lt ?_ small
    rw [scaled, Int.natAbs_mul]
    exact Nat.le_mul_of_pos_right _ (by simp)
  refine ⟨_, rfl, _, _, _, round_of_lt positive fewer, lowest, (min_le_left e e').trans high, ?_⟩
  -- A sum of zero may carry either sign.
  have sign : ∀ negative, signed (if sum = 0 then negative else decide (sum < 0)) sum.natAbs =
    sum := by
    intro negative
    by_cases zero : sum = 0
    · rw [zero]
      cases negative <;> rfl
    · rw [if_neg zero, signed_natAbs]
  rw [scaled, alignedTo, signed_mul, sign]
  push_cast
  rfl

theorem compare_mul {x y k : Int} (positive : 0 < k) : compare (x * k) (y * k) = compare x y := by
  rcases lt_trichotomy x y with less | equal | greater
  · rw [compare_lt_iff_lt.mpr less, compare_lt_iff_lt.mpr
      (Int.mul_lt_mul_of_pos_right less positive)]
  · rw [equal, compare_eq_iff_eq.mpr rfl, compare_eq_iff_eq.mpr rfl]
  · rw [compare_gt_iff_gt.mpr greater,
      compare_gt_iff_gt.mpr (Int.mul_lt_mul_of_pos_right greater positive)]

section

variable (left : IsScaled places a m) (right : IsScaled places b n)
include left right

theorem order_isScaled :
    order a b = some (compare m n) := by
  obtain ⟨s, c, e, rfl, low, high, rfl⟩ := left
  obtain ⟨s', c', e', rfl, low', high', rfl⟩ := right
  have lowest : -(places : Int) ≤ min e e' := le_min low low'
  rw [alignedTo_of_le lowest (min_le_left e e'), alignedTo_of_le lowest (min_le_right e e'),
    compare_mul (by positivity), order]

theorem less_isScaled :
    less a b = some (decide (m < n)) := by
  rw [less, order_isScaled left right, Option.map_some]
  congr 1
  rw [Bool.eq_iff_iff, beq_iff_eq, decide_eq_true_iff]
  exact compare_lt_iff_lt

theorem greater_isScaled :
    greater a b = some (decide (n < m)) := by
  rw [greater, order_isScaled left right, Option.map_some]
  congr 1
  rw [Bool.eq_iff_iff, beq_iff_eq, decide_eq_true_iff]
  exact compare_gt_iff_gt

end

end Decimal

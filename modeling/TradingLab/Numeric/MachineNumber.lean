import Mathlib.Data.Rat.Cast.Order

/-!
# Arithmetic that rounds

A number format is a monotone map of the rationals onto its numbers; an operation is computed
exactly and then rounded.
-/
namespace Numeric

/-- Rounding to the numbers of a format, which has the whole numbers of up to 53 bits. -/
structure Rounding where
  round : ℚ → ℚ
  monotone : Monotone round
  whole : ∀ n : ℤ, |n| ≤ 2 ^ 53 → round n = n

namespace Rounding

variable (r : Rounding)

def IsNumber (x : ℚ) : Prop := r.round x = x

def add (x y : ℚ) : ℚ := r.round (x + y)

def sub (x y : ℚ) : ℚ := r.round (x - y)

def exact : Rounding := ⟨id, monotone_id, fun _ _ => rfl⟩

variable {r} {x y : ℚ}

theorem isNumber_whole {n : ℤ} (small : |n| ≤ 2 ^ 53) : r.IsNumber n :=
  r.whole n small

theorem lt_of_lt_round (number : r.IsNumber x) (less : x < r.round y) : x < y := by
  by_contra notLess
  have rounded := r.monotone (not_lt.mp notLess)
  rw [number] at rounded
  exact absurd less (not_lt.mpr rounded)

theorem lt_of_round_lt (number : r.IsNumber x) (less : r.round y < x) : y < x := by
  by_contra notLess
  have rounded := r.monotone (not_lt.mp notLess)
  rw [number] at rounded
  exact absurd less (not_lt.mpr rounded)

end Rounding

end Numeric

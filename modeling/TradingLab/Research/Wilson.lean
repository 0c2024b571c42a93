import Mathlib.Algebra.Order.Field.Basic

/-!
# The Wilson bound

`tools/strategy_lab/research/gates/wilson.py`, `apply_delay_penalty` of `delay_penalty.py` and the
bound that `approve_candidate` of `gates/approve.py` compares, over any ordered field with a square
root.
-/
namespace TradingLab.Research

section Wilson
variable {K : Type} [Field K] [LinearOrder K] (sqrt : K → K) (z : K)

/-- `spread` of `wilson_lower_p`. -/
def wilsonSpread (pHat : K) (n : Int) : K :=
  z * sqrt (pHat * (1 - pHat) / n + z ^ 2 / (4 * n ^ 2))

/-- `result` of `wilson_lower_p`. -/
def wilsonResult (pHat : K) (n : Int) : K :=
  (pHat + z ^ 2 / (2 * n) - wilsonSpread sqrt z pHat n) / (1 + z ^ 2 / n)

def wilsonLowerP (pHat : K) (n : Int) : K :=
  if n ≤ 0 ∨ pHat ≤ 0 then 0
  else if 1 ≤ pHat then 1 / (1 + z ^ 2 / n)
  else if 0 < wilsonResult sqrt z pHat n then wilsonResult sqrt z pHat n else 0

def wilsonLower (wins n : Int) : K :=
  if n ≤ 0 ∨ wins ≤ 0 then 0
  else if n ≤ wins then 1 / (1 + z ^ 2 / n)
  else wilsonLowerP sqrt z (wins / n) n

def applyDelayPenalty (pHat penalty : K) : K :=
  if 0 < pHat - penalty then pHat - penalty else 0

/-- `w_lower` of `approve_candidate`, with `PESSIMISTIC_DELAY_PENALTY`. -/
def approvalBound (pHat : K) (n : Int) : K :=
  wilsonLowerP sqrt z (applyDelayPenalty pHat (1 / 100)) n

end Wilson

end TradingLab.Research

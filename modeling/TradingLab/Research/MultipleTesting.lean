import Mathlib.Algebra.Order.Field.Rat
import Mathlib.Data.Nat.Choose.Basic
import TradingLab.Research.Replay

/-!
# Multiple testing

`tools/strategy_lab/research/gates/multiple_testing.py` in exact rationals, and how `run_pipeline`
calls the FDR check. The permutation test is left out.
-/
namespace TradingLab.Research

section Survival
variable (wins n : Nat) (pNull : ℚ)

/-- A turn of the loop at `j`, on `curr` and `total`. -/
def survivalTurn (sums : ℚ × ℚ) (j : Nat) : ℚ × ℚ :=
  let curr := sums.1 * (n - j : ℕ) / (j + 1 : ℕ) * pNull / (1 - pNull)
  (curr, sums.2 + curr)

/-- `total` after the loop. -/
def survivalTotal : ℚ :=
  let term := n.choose wins * pNull ^ wins * (1 - pNull) ^ (n - wins)
  ((List.range' wins (n - wins)).foldl (survivalTurn n pNull) (term, term)).2

def binomialSurvivalPValue : ℚ :=
  if wins = 0 then 1
  else if n < wins ∨ n = 0 then 0
  else if pNull ≤ 0 then 0
  else if 1 ≤ pNull then if wins ≤ n then 1 else 0
  else min (survivalTotal wins n pNull) 1

end Survival

section StepUp
variable (totalCandidates : Nat) (alpha : ℚ)

def criticalValue (rank : Nat) : ℚ := rank / totalCandidates * alpha

/-- A p-value with its index. -/
abbrev IndexedValue := ℚ × Nat

/-- `sorted(enumerate(p_values), key=...)`. -/
def sortedValues (pValues : List ℚ) : List IndexedValue :=
  pValues.zipIdx.insertionSort fun a b => a.1 ≤ b.1

/-- `max_k`, where none is 0. -/
def maxRank (indexed : List IndexedValue) : Nat :=
  (indexed.zipIdx 1).foldl
    (fun maxK item => if item.1.1 ≤ criticalValue totalCandidates alpha item.2 then item.2
      else maxK) 0

def benjaminiHochberg (pValues : List ℚ) : List Bool :=
  if pValues = [] ∨ totalCandidates = 0 then []
  else
    let indexed := sortedValues pValues
    let maxK := maxRank totalCandidates alpha indexed
    (indexed.zipIdx 1).foldl
      (fun flags item => if item.2 ≤ maxK then flags.set item.1.2 true else flags)
      (List.replicate pValues.length false)

end StepUp

structure FDRResult where
  passed : Bool
  pValue : ℚ
  criticalValue : ℚ
  rank : Nat
  totalCandidates : Nat
  alpha : ℚ

def fdrCandidateCheck (pValue : ℚ) (rank totalCandidates : Nat) (alpha : ℚ := 1 / 20) :
    FDRResult :=
  let critical := if totalCandidates = 0 ∨ rank = 0 then 0
    else criticalValue totalCandidates alpha rank
  { passed := decide (¬ (totalCandidates = 0 ∨ rank = 0) ∧ pValue ≤ critical)
    pValue, criticalValue := critical, rank, totalCandidates, alpha }

def TradeLog.pValue (log : TradeLog) (pMin : ℚ) : ℚ :=
  binomialSurvivalPValue (log.trades.countP (·.won)) log.trades.length pMin

/-- The FDR check of `run_pipeline`. No caller of `approve_candidate` gives a rank. -/
def TradeLog.fdr (log : TradeLog) (pMin : ℚ) (totalCandidates : Nat) (candidateRank : Nat := 1) :
    FDRResult :=
  fdrCandidateCheck (log.pValue pMin) candidateRank totalCandidates

end TradingLab.Research

import TradingLab.Machine.Run
import TradingLab.Strategies.PerformanceMetrics

/-!
# Drawdown of a list of trades

The percentage is written down only when the absolute drawdown sets a new maximum, so a larger
relative fall on a smaller capital is lost.
-/
namespace TradingLab

open Relational

section Curve
variable (capital : Int) (trades : List TradeOutcome)

def equity (n : Nat) : Int :=
  capital + ((trades.take n).map TradeOutcome.pnlMinorUnits).sum

def peak : Nat → Int
  | 0 => equity capital trades 0
  | n + 1 => max (peak n) (equity capital trades (n + 1))

def drawdown (n : Nat) : Int :=
  peak capital trades n - equity capital trades n

def relativeDrawdown (n : Nat) : ℚ :=
  (drawdown capital trades n : ℚ) / peak capital trades n

def drawdownPct (n : Nat) : Decimal :=
  quotient (drawdown capital trades n) (peak capital trades n)

/-- The trade after which no relative drawdown is larger. -/
def WorstRelative (n : Nat) : Prop :=
  n ≤ trades.length ∧
    ∀ i ≤ trades.length, relativeDrawdown capital trades i ≤ relativeDrawdown capital trades n

/-- The first of the first `count` trades after which the drawdown is the largest. -/
def FirstWorst (count n : Nat) : Prop :=
  n ≤ count ∧ (∀ i ≤ count, drawdown capital trades i ≤ drawdown capital trades n) ∧
    ∀ i < n, drawdown capital trades i < drawdown capital trades n

/-- The largest absolute drawdown is first reached where the relative one, as a decimal, is the
    largest too. -/
def WorstTogether : Prop :=
  ∃ first worst, FirstWorst capital trades trades.length first ∧
    WorstRelative capital trades worst ∧
    (drawdownPct capital trades first).value = (drawdownPct capital trades worst).value

structure MetricsRight (metrics : PerformanceMetrics) : Prop where
  drawdown : IsGreatest { fall | ∃ i j, i ≤ j ∧ j ≤ trades.length ∧
    fall = equity capital trades i - equity capital trades j } metrics.maxDrawdownMinorUnits
  percent : ∃ worst, WorstRelative capital trades worst ∧
    metrics.maxDrawdownPct.value = (drawdownPct capital trades worst).value
  gross : metrics.netProfitMinorUnits =
    metrics.grossProfitMinorUnits - metrics.grossLossMinorUnits
  net : metrics.netProfitMinorUnits = equity capital trades trades.length - capital
  counts : metrics.winningTrades + metrics.losingTrades = metrics.totalTrades
  total : metrics.totalTrades = trades.length
  regimes : metrics.regimeDistribution.values.sum = metrics.totalTrades

end Curve

/-! ### The equity curve -/

variable {capital : Int} {trades : List TradeOutcome} {n : Nat}

theorem equity_zero : equity capital trades 0 = capital := by simp [equity]

theorem equity_succ (inside : n < trades.length) :
    equity capital trades (n + 1) = equity capital trades n + (trades[n]).pnlMinorUnits := by
  simp only [equity, List.take_add_one, List.getElem?_eq_getElem inside, Option.toList_some,
    List.map_append, List.sum_append, List.map_cons, List.map_nil, List.sum_cons, List.sum_nil]
  ring

theorem equity_le_peak {i : Nat} (before : i ≤ n) :
    equity capital trades i ≤ peak capital trades n := by
  induction n with
  | zero =>
    rw [Nat.le_zero.mp before]
    exact le_rfl
  | succ n ih =>
    rcases Nat.le_succ_iff.mp before with earlier | rfl
    · exact (ih earlier).trans (le_max_left _ _)
    · exact le_max_right _ _

theorem exists_equity_eq_peak (n : Nat) :
    ∃ i ≤ n, peak capital trades n = equity capital trades i := by
  induction n with
  | zero => exact ⟨0, le_rfl, rfl⟩
  | succ n ih =>
    rcases max_choice (peak capital trades n) (equity capital trades (n + 1)) with old | new
    · obtain ⟨i, before, top⟩ := ih
      exact ⟨i, before.trans n.le_succ, old.trans top⟩
    · exact ⟨n + 1, le_rfl, new⟩

theorem peak_pos (positive : 0 < capital) : 0 < peak capital trades n :=
  calc 0 < capital := positive
    _ = equity capital trades 0 := equity_zero.symm
    _ ≤ peak capital trades n := equity_le_peak n.zero_le

theorem isGreatest_fall {first : Nat} (worst : FirstWorst capital trades n first) :
    IsGreatest { fall | ∃ i j, i ≤ j ∧ j ≤ n ∧
      fall = equity capital trades i - equity capital trades j }
      (drawdown capital trades first) := by
  constructor
  · obtain ⟨top, before, same⟩ : ∃ i ≤ first, peak capital trades first = equity capital trades i :=
      exists_equity_eq_peak first
    exact ⟨top, first, before, worst.1, by rw [drawdown, same]⟩
  · rintro fall ⟨i, j, before, inside, rfl⟩
    have bound := worst.2.1 j inside
    have above : equity capital trades i ≤ peak capital trades j := equity_le_peak before
    rw [drawdown] at bound
    omega

theorem FirstWorst.unique {one other : Nat} (first : FirstWorst capital trades n one)
    (second : FirstWorst capital trades n other) : one = other := by
  rcases lt_trichotomy one other with earlier | same | later
  · exact absurd (second.2.2 one earlier) (not_lt.mpr (first.2.1 other second.1))
  · exact same
  · exact absurd (first.2.2 other later) (not_lt.mpr (second.2.1 one first.1))

/-! ### The loop -/

theorem value_quotient_zero (positive : 0 < capital) : (quotient 0 capital).value = 0 := by
  have nonzero : capital.natAbs ≠ 0 := by omega
  simp [quotient, Decimal.ofInt, Decimal.div, nonzero, Decimal.value, Decimal.signed]

theorem Tally.sum_count {regimes : Dict String Nat} (distinct : regimes.keys.Nodup)
    (regime : String) : (Tally.count regimes regime).values.sum = regimes.values.sum + 1 := by
  have sums : (Tally.count regimes regime).values.sum + (regimes.get? regime).getD 0 =
      regimes.values.sum + ((regimes.get? regime).getD 0 + 1) := Dict.sum_values_put distinct
  omega

/-- What the loop knows after the first `n` trades. -/
structure Tally.Knows (capital : Int) (trades : List TradeOutcome) (n : Nat) (tally : Tally) :
    Prop where
  current : tally.currentEquity = equity capital trades n
  hwm : tally.hwm = peak capital trades n
  worst : ∃ first, FirstWorst capital trades n first ∧
    tally.maxDd = drawdown capital trades first ∧
    tally.maxDdPct.value = (drawdownPct capital trades first).value
  net : tally.netProfit = equity capital trades n - capital
  gross : tally.netProfit = tally.grossProfit - tally.grossLoss
  counts : tally.winningTrades + tally.losingTrades = n
  distinct : tally.regimes.keys.Nodup
  regimes : tally.regimes.values.sum = n

namespace Tally

theorem knows_start (positive : 0 < capital) : (start capital).Knows capital trades 0 := by
  have level : drawdown capital trades 0 = 0 := sub_self _
  refine ⟨equity_zero.symm, equity_zero.symm, ⟨0, ⟨le_rfl, ?_, ?_⟩, level.symm, ?_⟩, ?_, rfl, rfl,
    List.nodup_nil, rfl⟩
  · exact fun i first => Nat.le_zero.mp first ▸ le_rfl
  · exact fun i before => absurd before i.not_lt_zero
  · rw [drawdownPct, level, peak, equity_zero, value_quotient_zero positive]
    simp [start, zeroPointZero, Decimal.value, Decimal.signed]
  · rw [equity_zero, sub_self]
    rfl

variable {tally : Tally}

theorem Knows.worst_add (knows : tally.Knows capital trades n)
    (positive : 0 < capital) {trade : TradeOutcome}
    (current : (tally.add trade).currentEquity = equity capital trades (n + 1))
    (hwm : (tally.add trade).hwm = peak capital trades (n + 1)) :
    ∃ first, FirstWorst capital trades (n + 1) first ∧
      (tally.add trade).maxDd = drawdown capital trades first ∧
      (tally.add trade).maxDdPct.value = (drawdownPct capital trades first).value := by
  obtain ⟨first, ⟨before, largest, earliest⟩, maximum, percent⟩ := knows.worst
  have above : (tally.add trade).hwm > 0 := by
    rw [hwm]
    exact peak_pos positive
  have fall : (tally.add trade).hwm - (tally.add trade).currentEquity =
      drawdown capital trades (n + 1) := by rw [hwm, current, drawdown]
  have maxDd : (tally.add trade).maxDd =
      if drawdown capital trades (n + 1) > tally.maxDd then drawdown capital trades (n + 1)
      else tally.maxDd := by
    rw [← fall]
    rfl
  have maxDdPct : (tally.add trade).maxDdPct =
      if drawdown capital trades (n + 1) > tally.maxDd ∧ (tally.add trade).hwm > 0 then
        quotient (drawdown capital trades (n + 1)) (tally.add trade).hwm else tally.maxDdPct := by
    rw [← fall]
    rfl
  rw [maxDd, maxDdPct, maximum]
  by_cases deeper : drawdown capital trades (n + 1) > drawdown capital trades first
  · refine ⟨n + 1, ⟨le_rfl, fun i inside => ?_, fun i inside => ?_⟩, if_pos deeper, ?_⟩
    · rcases Nat.le_succ_iff.mp inside with earlier | rfl
      · exact (largest i earlier).trans deeper.le
      · exact le_rfl
    · exact (largest i (Nat.lt_succ_iff.mp inside)).trans_lt deeper
    · rw [if_pos ⟨deeper, above⟩, drawdownPct, hwm]
  · refine ⟨first, ⟨before.trans n.le_succ, fun i inside => ?_, earliest⟩, if_neg deeper, ?_⟩
    · rcases Nat.le_succ_iff.mp inside with earlier | rfl
      · exact largest i earlier
      · exact not_lt.mp deeper
    · rw [if_neg fun both => deeper both.1, percent]

theorem Knows.add (knows : tally.Knows capital trades n) (positive : 0 < capital)
    (inside : n < trades.length) : (tally.add trades[n]).Knows capital trades (n + 1) := by
  have current : (tally.add trades[n]).currentEquity = equity capital trades (n + 1) := by
    rw [equity_succ inside, ← knows.current]
    rfl
  have hwm : (tally.add trades[n]).hwm = peak capital trades (n + 1) := by
    change (if (tally.add trades[n]).currentEquity > tally.hwm then
      (tally.add trades[n]).currentEquity else tally.hwm) = _
    rw [current, knows.hwm, peak, max_def]
    split <;> split <;> omega
  refine ⟨current, hwm, knows.worst_add positive current hwm, ?_, ?_, ?_,
    Dict.nodup_keys_put knows.distinct, ?_⟩
  · have net := knows.net
    rw [equity_succ inside]
    simp only [Tally.add]
    omega
  · -- A trade that did not win lost what its P&L says, or nothing.
    have gross := knows.gross
    have win := trades[n].win
    simp only [Tally.add]
    split
    · omega
    · rename_i lost
      rw [win, decide_eq_true_eq, not_lt] at lost
      rw [abs_of_nonpos lost]
      omega
  · have counts := knows.counts
    simp only [Tally.add]
    split <;> omega
  · exact (sum_count knows.distinct _).trans (congrArg Nat.succ knows.regimes)

theorem knows_foldl (positive : 0 < capital) (inside : n ≤ trades.length) :
    ((trades.take n).foldl Tally.add (start capital)).Knows capital trades n := by
  induction n with
  | zero => exact knows_start positive
  | succ n ih =>
    have next := (ih (Nat.le_of_succ_le inside)).add positive inside
    rw [List.take_add_one, List.getElem?_eq_getElem inside, Option.toList_some, List.foldl_append]
    exact next

end Tally

/-! ### The metrics -/

theorem calculatePerformanceMetrics_ok (positive : 0 < capital) :
    ∃ metrics, calculatePerformanceMetrics trades capital = .ok metrics ∧
      metrics.totalTrades = trades.length ∧
      ∃ tally : Tally, tally.Knows capital trades trades.length ∧
        metrics.winningTrades = tally.winningTrades ∧ metrics.losingTrades = tally.losingTrades ∧
        metrics.grossProfitMinorUnits = tally.grossProfit ∧
        metrics.grossLossMinorUnits = tally.grossLoss ∧
        metrics.netProfitMinorUnits = tally.netProfit ∧
        metrics.maxDrawdownMinorUnits = tally.maxDd ∧ metrics.maxDrawdownPct = tally.maxDdPct ∧
        metrics.regimeDistribution = tally.regimes := by
  unfold calculatePerformanceMetrics
  rw [if_neg (not_le.mpr positive)]
  split
  · rename_i none
    rw [none]
    exact ⟨_, rfl, rfl, _, Tally.knows_start positive, rfl, rfl, rfl, rfl, rfl, rfl, rfl, rfl⟩
  · have knows : ((trades.take trades.length).foldl Tally.add (.start capital)).Knows capital trades
        trades.length := Tally.knows_foldl positive le_rfl
    rw [List.take_length] at knows
    exact ⟨_, rfl, rfl, _, knows, rfl, rfl, rfl, rfl, rfl, rfl, rfl, rfl⟩

theorem metrics_right_iff (capital : Int) (positive : 0 < capital) (trades : List TradeOutcome) :
    ∃ metrics, calculatePerformanceMetrics trades capital = .ok metrics ∧
      (MetricsRight capital trades metrics ↔ WorstTogether capital trades) := by
  obtain ⟨metrics, computed, total, tally, knows, winning, losing, profit, loss, net, fall, percent,
    regimes⟩ := calculatePerformanceMetrics_ok positive
  obtain ⟨first, isFirst, maximum, quotient⟩ := knows.worst
  refine ⟨metrics, computed, fun right => ?_, fun together => ?_⟩
  · obtain ⟨worst, isWorst, same⟩ := right.percent
    exact ⟨first, worst, isFirst, isWorst, by rw [← quotient, ← percent, same]⟩
  · obtain ⟨other, worst, alsoFirst, isWorst, same⟩ := together
    rw [alsoFirst.unique isFirst] at same
    exact
      { drawdown := by
          rw [fall, maximum]
          exact isGreatest_fall isFirst
        percent := ⟨worst, isWorst, by rw [percent, quotient, same]⟩
        gross := by rw [net, profit, loss, knows.gross]
        net := by rw [net, knows.net]
        counts := by rw [winning, losing, total, knows.counts]
        total := total
        regimes := by rw [regimes, total, knows.regimes] }

def TradeOutcome.of (stake payout : Nat) : TradeOutcome where
  stakeMinorUnits := stake
  payoutMinorUnits := payout
  pnlMinorUnits := payout - stake
  isWin := decide (0 < (payout - stake : Int))
  amounts := ⟨Int.natCast_nonneg _, Int.natCast_nonneg _⟩
  pnl := rfl
  win := rfl
  duration := le_rfl

theorem one_loss_right : 0 < (100 : Int) ∧
    ∃ metrics, calculatePerformanceMetrics [.of 50 0] 100 = .ok metrics ∧
      (MetricsRight 100 [.of 50 0] metrics ↔ WorstTogether 100 [.of 50 0]) :=
  ⟨by decide, metrics_right_iff 100 (by decide) [.of 50 0]⟩

/-- Half of the capital is lost, then much is won and a tenth lost: 0.1 is reported. -/
theorem half_lost_unreported : ∃ metrics,
    calculatePerformanceMetrics [.of 50 0, .of 50 1000, .of 100 0] 100 = .ok metrics ∧
      metrics.maxDrawdownPct = .finite false 1 (-1) ∧
      ¬ MetricsRight 100 [.of 50 0, .of 50 1000, .of 100 0] metrics := by
  have smaller : ∀ n ≤ 3, n ≠ 1 →
      relativeDrawdown 100 [.of 50 0, .of 50 1000, .of 100 0] n <
        relativeDrawdown 100 [.of 50 0, .of 50 1000, .of 100 0] 1 := by
    decide +kernel
  have half : drawdownPct 100 [.of 50 0, .of 50 1000, .of 100 0] 1 = .finite false 5 (-1) := by
    decide
  refine ⟨_, rfl, by decide, fun right => ?_⟩
  obtain ⟨worst, ⟨inside, largest⟩, same⟩ := right.percent
  by_cases first : worst = 1
  · rw [first, half] at same
    have tenth : (Decimal.finite false 1 (-1)).value = (Decimal.finite false 5 (-1)).value := same
    norm_num [Decimal.value, Decimal.signed] at tenth
  · exact absurd (largest 1 (by decide)) (not_le.mpr (smaller worst inside first))

end TradingLab

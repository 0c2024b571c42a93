import TradingLab.Numeric.Decimal
import TradingLab.Relational.Dict

/-!
# Performance metrics of a strategy

`calculate_performance_metrics`. Amounts are minor units; quotients are decimals of 28 digits.
-/
namespace TradingLab

/-- `TradeOutcomeRecord`, with the checks of `__post_init__` on the fields that the metrics
    read. -/
structure TradeOutcome where
  stakeMinorUnits : Int
  payoutMinorUnits : Int
  pnlMinorUnits : Int
  isWin : Bool
  regime : String := "UNKNOWN"
  durationSeconds : Int := 0
  amounts : 0 ≤ stakeMinorUnits ∧ 0 ≤ payoutMinorUnits
  pnl : pnlMinorUnits = payoutMinorUnits - stakeMinorUnits
  win : isWin = decide (0 < pnlMinorUnits)
  duration : 0 ≤ durationSeconds

structure PerformanceMetrics where
  totalTrades : Nat
  winningTrades : Nat
  losingTrades : Nat
  winRate : Decimal
  grossProfitMinorUnits : Int
  grossLossMinorUnits : Int
  netProfitMinorUnits : Int
  profitFactor : Option Decimal
  maxDrawdownMinorUnits : Int
  maxDrawdownPct : Decimal
  expectancyMinorUnits : Decimal
  averageDurationSeconds : Decimal
  regimeDistribution : Relational.Dict String Nat

/-- `Decimal("0.0")`. -/
def zeroPointZero : Decimal := .finite false 0 (-1)

/-- `Decimal(a) / Decimal(b)`; the metrics divide by positive numbers only. -/
def quotient (a b : Int) : Decimal :=
  ((Decimal.ofInt a).div 28 (Decimal.ofInt b)).getD .nan

structure Tally where
  winningTrades : Nat := 0
  losingTrades : Nat := 0
  grossProfit : Int := 0
  grossLoss : Int := 0
  netProfit : Int := 0
  totalDuration : Int := 0
  regimes : Relational.Dict String Nat := []
  currentEquity : Int
  hwm : Int
  maxDd : Int := 0
  maxDdPct : Decimal := zeroPointZero

namespace Tally

/-- `regimes[regime] = regimes.get(regime, 0) + 1`. -/
def count (regimes : Relational.Dict String Nat) (regime : String) : Relational.Dict String Nat :=
  regimes.put regime ((regimes.get? regime).getD 0 + 1)

def add (tally : Tally) (trade : TradeOutcome) : Tally :=
  let pnl := trade.pnlMinorUnits
  let currentEquity := tally.currentEquity + pnl
  let hwm := if currentEquity > tally.hwm then currentEquity else tally.hwm
  let drawdown := hwm - currentEquity
  { winningTrades := if trade.isWin then tally.winningTrades + 1 else tally.winningTrades
    losingTrades := if trade.isWin then tally.losingTrades else tally.losingTrades + 1
    grossProfit := if trade.isWin then tally.grossProfit + pnl else tally.grossProfit
    grossLoss := if trade.isWin then tally.grossLoss else tally.grossLoss + |pnl|
    netProfit := tally.netProfit + pnl
    totalDuration := tally.totalDuration + trade.durationSeconds
    regimes := count tally.regimes (if trade.regime = "" then "UNKNOWN" else trade.regime)
    currentEquity := currentEquity
    hwm := hwm
    maxDd := if drawdown > tally.maxDd then drawdown else tally.maxDd
    maxDdPct :=
      if drawdown > tally.maxDd ∧ hwm > 0 then quotient drawdown hwm else tally.maxDdPct }

def start (initialCapital : Int) : Tally where
  currentEquity := initialCapital
  hwm := initialCapital

def metrics (tally : Tally) (total : Nat) : PerformanceMetrics where
  totalTrades := total
  winningTrades := tally.winningTrades
  losingTrades := tally.losingTrades
  winRate := quotient tally.winningTrades total
  grossProfitMinorUnits := tally.grossProfit
  grossLossMinorUnits := tally.grossLoss
  netProfitMinorUnits := tally.netProfit
  profitFactor :=
    if tally.grossLoss > 0 then some (quotient tally.grossProfit tally.grossLoss) else none
  maxDrawdownMinorUnits := tally.maxDd
  maxDrawdownPct := tally.maxDdPct
  expectancyMinorUnits := quotient tally.netProfit total
  averageDurationSeconds := quotient tally.totalDuration total
  regimeDistribution := tally.regimes

end Tally

def emptyMetrics : PerformanceMetrics where
  totalTrades := 0
  winningTrades := 0
  losingTrades := 0
  winRate := zeroPointZero
  grossProfitMinorUnits := 0
  grossLossMinorUnits := 0
  netProfitMinorUnits := 0
  profitFactor := none
  maxDrawdownMinorUnits := 0
  maxDrawdownPct := zeroPointZero
  expectancyMinorUnits := zeroPointZero
  averageDurationSeconds := zeroPointZero
  regimeDistribution := []

def calculatePerformanceMetrics (trades : List TradeOutcome) (initialCapital : Int) :
    Except String PerformanceMetrics :=
  if initialCapital ≤ 0 then .error "initial_capital_minor_units must be positive"
  else if trades.length = 0 then .ok emptyMetrics
  else .ok ((trades.foldl Tally.add (.start initialCapital)).metrics trades.length)

end TradingLab

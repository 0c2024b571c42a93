import TradingLab.Manifests.Catalog

/-!
# The RSI strategy of the practice account

`packages/strategies/iqoption_rsi.py`, in the decimal arithmetic of the default context.
-/
namespace TradingLab

def iqoptionRsiPeriod : Nat := 14

structure RsiDecision where
  rsi : Decimal
  direction : Option Direction
  reasonCode : String
deriving DecidableEq

def countChange (totals : Decimal × Decimal) (prices : Decimal × Decimal) :
    Option (Decimal × Decimal) := do
  let change ← Decimal.sub decimalPrecision prices.2 prices.1
  if ← change.greater (Decimal.ofInt 0) then
    some (← Decimal.add decimalPrecision totals.1 change, totals.2)
  else if ← change.less (Decimal.ofInt 0) then
    some (totals.1, ← Decimal.sub decimalPrecision totals.2 change)
  else some totals

def rsiOf (averageGain averageLoss : Decimal) : Option Decimal :=
  let hundred := Decimal.ofInt 100
  if averageLoss.numEq (Decimal.ofInt 0) then do
    if ← averageGain.greater (Decimal.ofInt 0) then some hundred else some (Decimal.ofInt 50)
  else if averageGain.numEq (Decimal.ofInt 0) then some (Decimal.ofInt 0)
  else do
    let relativeStrength ← Decimal.div decimalPrecision averageGain averageLoss
    let total ← Decimal.add decimalPrecision (Decimal.ofInt 1) relativeStrength
    Decimal.sub decimalPrecision hundred (← Decimal.div decimalPrecision hundred total)

def calculateWilderRsi (closes : List Decimal) : Except EvaluationError Decimal :=
  let selected := closes.drop (closes.length - (iqoptionRsiPeriod + 1))
  if closes.length < iqoptionRsiPeriod + 1 ∨
      ¬ selected.all (fun value => value.isFinite && value.isPositive) then .error .invalidData
  else
    let rsi := do
      let (gains, losses) ← (selected.zip (selected.drop 1)).foldlM countChange
        (Decimal.ofInt 0, Decimal.ofInt 0)
      let period := Decimal.ofInt iqoptionRsiPeriod
      rsiOf (← Decimal.div decimalPrecision gains period)
        (← Decimal.div decimalPrecision losses period)
    match rsi with
    | some value => .ok value
    | none => .error .other

def foreignCandle (context : RuntimeContextFields) (candle : MarketCandle) : Bool :=
  candle.broker != .iqOption || candle.brokerSymbol != context.symbol ||
    candle.timeframeSeconds != context.timeframeSeconds || !candle.isClosed

def evaluateDecision (candles : List MarketCandle) (context : RuntimeContextFields) :
    Except EvaluationError RsiDecision := do
  if context.broker ≠ .iqOption ∨ context.timeframeSeconds ≠ 60 ∨
      candles.length < iqoptionRsiPeriod + 1 ∨ candles.any (foreignCandle context) then
    .error .invalidData
  else
    let rsi ← calculateWilderRsi (candles.map fun candle => candle.closePrice)
    if rsi.less (Decimal.ofInt 30) = some true then .ok ⟨rsi, some .call, "RSI_OVERSOLD"⟩
    else if rsi.greater (Decimal.ofInt 70) = some true then .ok ⟨rsi, some .put, "RSI_OVERBOUGHT"⟩
    else .ok ⟨rsi, none, "RSI_NEUTRAL"⟩

end TradingLab

import TradingLab.Numeric.Decimal

/-!
# Candles of the primitives

`Candle` of `packages/primitives/primitives/base.py`, which the lab and the Core share.
-/
namespace TradingLab

structure CandleFields where
  ts : Int
  o : Decimal
  h : Decimal
  l : Decimal
  c : Decimal
  tickVol : Int
deriving DecidableEq

/-- The checks of `Candle`. Its prices are finite, so they compare. -/
def CandleFields.validateCandle (candle : CandleFields) : Bool :=
  [candle.o, candle.h, candle.l, candle.c].all Decimal.isFinite &&
    decide (0 ≤ candle.tickVol) && candle.ts % 60 == 0 &&
    [candle.o, candle.c].all fun price =>
      candle.l.greater price == some false && price.greater candle.h == some false

structure Candle extends CandleFields where
  valid : toCandleFields.validateCandle = true
deriving DecidableEq

end TradingLab

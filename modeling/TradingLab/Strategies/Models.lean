import TradingLab.Domain.Orders
import TradingLab.Numeric.Decimal

/-!
# Contexts and candles

The context of `packages/strategies/models.py`, and the candle of `packages/domain/market.py`.
-/
namespace TradingLab

def isHexDigest (text : String) : Bool :=
  text.toList.length == 64 && text.toList.all fun c => "0123456789abcdef".toList.contains c

structure RuntimeContextFields where
  strategyId : String
  strategyVersion : String
  broker : Broker
  accountId : String
  product : String
  symbol : String
  timeframeSeconds : Int
  configurationVersion : String
  parameters : List (String × String) := []
deriving DecidableEq

def RuntimeContextFields.postInit (c : RuntimeContextFields) : Except String Unit := do
  requireNonBlank [("strategy_id", c.strategyId), ("strategy_version", c.strategyVersion),
    ("account_id", c.accountId), ("product", c.product), ("symbol", c.symbol),
    ("configuration_version", c.configurationVersion)]
  check (0 < c.timeframeSeconds) "timeframe_seconds must be positive"
  check ((∀ name ∈ c.parameters.map Prod.fst, isBlank name = false) ∧
      (c.parameters.map Prod.fst).Nodup) "parameter names must be unique and non-empty"

structure MarketCandleFields where
  broker : Broker
  brokerSymbol : String
  timeframeSeconds : Int
  openTime : Instant
  closeTime : Instant
  openPrice : Decimal
  highPrice : Decimal
  lowPrice : Decimal
  closePrice : Decimal
  isClosed : Bool
deriving DecidableEq

def MarketCandleFields.postInit (c : MarketCandleFields) : Except String Unit := do
  check (c.brokerSymbol ≠ "" ∧ 0 < c.timeframeSeconds) "candle identity and timeframe are required"
  check (c.openTime < c.closeTime) "candle close_time must follow open_time"
  check (∀ price ∈ [c.openPrice, c.highPrice, c.lowPrice, c.closePrice],
      price.isFinite = true ∧ 0 < price.value) "candle prices must be positive finite decimals"
  check ((c.lowPrice.value ≤ c.openPrice.value ∧ c.openPrice.value ≤ c.highPrice.value) ∧
      c.lowPrice.value ≤ c.closePrice.value ∧ c.closePrice.value ≤ c.highPrice.value)
    "candle OHLC range is inconsistent"

structure MarketCandle extends MarketCandleFields where
  valid : toMarketCandleFields.postInit = .ok ()
deriving DecidableEq

end TradingLab

import TradingLab.Core.HealthGate
import TradingLab.Persistence.Events
import TradingLab.Strategies.IqOptionRsi
import Mathlib.Data.Rat.Floor

/-!
# The automatic trader of IQ Option

`IqOptionAutoTrader` of `apps/core/iqoption_auto_trader.py` with its risk configuration and its
message budget. What a cycle asks of the world is its input, each reading of the monotonic clock on
its own. The ranking shown to the user and the events on the budget are left out.
-/
namespace TradingLab

open Relational Machine

variable {φ : Type}

/-! ### Configuration -/

def iqoptionRsiStrategyId : String := "iqoption-rsi-demo"

def iqoptionAllowedSymbols : List String :=
  ["AUTO", "EURUSD-OTC", "EURUSD", "GBPUSD-OTC", "GBPUSD", "USDJPY-OTC", "USDJPY", "AUDUSD-OTC",
    "AUDUSD", "EURJPY-OTC", "EURJPY", "GBPJPY-OTC", "GBPJPY", "AUDCAD-OTC", "AUDCAD", "NZDUSD-OTC",
    "NZDUSD", "USDCAD-OTC", "USDCAD", "USDCHF-OTC", "USDCHF"]

structure IqOptionRiskConfigFields where
  strategyId : String := iqoptionRsiStrategyId
  symbol : String := "EURUSD-OTC"
  timeframeSeconds : Int := 60
  durationSeconds : Int := 60
  stakeMinorUnits : Int := 100
  dailyStopLossMinorUnits : Int := 1000
  dailyTakeProfitMinorUnits : Int := 1000
  maxConsecutiveLosses : Int := 3
  cooldownSecondsAfterLoss : Int := 30
  maxDailyTrades : Int := 10
  maxConcurrentPositions : Int := 1
  currency : String := "USD"
deriving DecidableEq

def IqOptionRiskConfigFields.postInit (c : IqOptionRiskConfigFields) : Except String Unit := do
  check (c.strategyId ≠ "" ∧ c.strategyId.toList.length ≤ 128) "IQOPTION_STRATEGY_UNSUPPORTED"
  check (c.strategyId = iqoptionRsiStrategyId ∨
      ∃ start ∈ ["f1:", "f2:", "f3:", "f4:", "f5:"], start.toList.isPrefixOf c.strategyId.toList =
        true)
    "IQOPTION_STRATEGY_UNSUPPORTED"
  check (c.symbol ∈ iqoptionAllowedSymbols) "IQOPTION_SYMBOL_UNSUPPORTED"
  check (c.timeframeSeconds = 60 ∧ c.durationSeconds = 60) "IQOPTION_RSI_INTERVAL_UNSUPPORTED"
  check (100 ≤ c.stakeMinorUnits ∧ c.stakeMinorUnits ≤ 10000) "IQOPTION_STAKE_INVALID"
  check (∀ value ∈ [c.dailyStopLossMinorUnits, c.dailyTakeProfitMinorUnits],
      c.stakeMinorUnits ≤ value ∧ value ≤ 1000000) "IQOPTION_DAILY_LIMIT_INVALID"
  check (1 ≤ c.maxConsecutiveLosses ∧ c.maxConsecutiveLosses ≤ 10)
    "IQOPTION_CONSECUTIVE_LOSS_LIMIT_INVALID"
  check (0 ≤ c.cooldownSecondsAfterLoss ∧ c.cooldownSecondsAfterLoss ≤ 3600)
    "IQOPTION_COOLDOWN_INVALID"
  check (1 ≤ c.maxDailyTrades ∧ c.maxDailyTrades ≤ 100) "IQOPTION_DAILY_TRADE_LIMIT_INVALID"
  check (c.maxConcurrentPositions = 1) "IQOPTION_SINGLE_POSITION_REQUIRED"
  check (c.currency = "USD") "IQOPTION_CURRENCY_UNSUPPORTED"

structure IqOptionRiskConfig extends IqOptionRiskConfigFields where
  valid : toIqOptionRiskConfigFields.postInit = .ok ()

theorem IqOptionRiskConfig.timeframe_eq (config : IqOptionRiskConfig) :
    config.timeframeSeconds = 60 := by
  have valid := config.valid
  simp only [IqOptionRiskConfigFields.postInit, Except.bind_ok_iff, check_eq_ok] at valid
  obtain ⟨-, -, -, -, -, -, _, interval, -⟩ := valid
  exact interval.1

/-- The requests of the last minute, oldest first. -/
abbrev IqOptionMessageBudget := List ℚ

def IqOptionMessageBudget.limit : Nat := 60

/-- Whether the request may be sent, and the requests of the window then. `none` is the
    `ValueError` of a clock before its start. -/
def IqOptionMessageBudget.tryAcquire (budget : IqOptionMessageBudget) (now : ℚ) :
    Option (Bool × IqOptionMessageBudget) :=
  if now < 0 then none
  else
    let recent := budget.dropWhile (· ≤ now - 60)
    if recent.length < limit then some (true, recent ++ [now]) else some (false, recent)

/-! ### State and inputs -/

structure IqOptionAutoTrader where
  statusReason : String := "IQOPTION_BOT_DISARMED"
  stickyFailureReason : Option String := none
  lastEvaluatedEpochs : Dict String Int := []
  symbolSuspendedUntil : Dict String ℚ := []
  dailyTradesCount : Nat := 0
  dailyProfitLoss : Decimal := Decimal.ofInt 0
  consecutiveLosses : Nat := 0
  cooldownUntil : ℚ := 0
  lastRsiValue : Option Decimal := none
  scanCursor : Nat := 0
  messageBudget : IqOptionMessageBudget := []

inductive ClockUse
  | choose (symbol : String)
  | suspension (symbol : String)
  | budget (symbol : String)
  | cooldown
  | suspend

inductive SubmitOutcome
  /-- An exception with its `reason_code`, and its message if it is a `RuntimeError`. -/
  | raised (reasonCode : String) (message : Option String)
  /-- The state of the row of the order, if there is one, and the reason of its outbox entry. -/
  | persisted (orderId : String) (row : Option OrderState) (outboxReason : Option String)

structure CycleInputs (φ : Type) where
  config : IqOptionRiskConfig
  /-- There are a supervisor, its client and a runtime. -/
  connected : Bool
  catalog : Option (DynamicManifestCatalog φ)
  /-- What `market_history` answers for a symbol; `none` is an exception. -/
  history : String → Option (List MarketCandle)
  operatorArmed : Bool
  nonterminalOrders : List (Broker × OrderState)
  clock : ClockUse → ℚ
  now : Instant
  correlationId : String
  submit : OrderRequest → SubmitOutcome

structure Cycle where
  trader : IqOptionAutoTrader
  gate : HealthGate

def Cycle.setStatus (cycle : Cycle) (reason : String) : Cycle :=
  { cycle with trader := { cycle.trader with statusReason := reason } }

inductive CycleEnd
  | raised
  | returned
deriving DecidableEq

structure Candidate where
  symbol : String
  displayName : String
  direction : Direction
  rsi : Decimal
  candleEpoch : Int
  strategyKey : String

/-! ### The strategy of a symbol -/

def iqoptionRadarSymbols : List (String × String) :=
  [("EURUSD-OTC", "EUR/USD OTC"), ("GBPUSD-OTC", "GBP/USD OTC"), ("USDJPY-OTC", "USD/JPY OTC"),
    ("EURJPY-OTC", "EUR/JPY OTC"), ("GBPJPY-OTC", "GBP/JPY OTC"), ("AUDCAD-OTC", "AUD/CAD OTC"),
    ("NZDUSD-OTC", "NZD/USD OTC"), ("USDCHF-OTC", "USD/CHF OTC"), ("EURUSD", "EUR/USD"),
    ("GBPUSD", "GBP/USD"), ("USDJPY", "USD/JPY"), ("EURJPY", "EUR/JPY"), ("USDCHF", "USD/CHF"),
    ("AUDCAD", "AUD/CAD"), ("NZDUSD", "NZD/USD"), ("AUDUSD", "AUD/USD")]

def practiceAccountId : String := "IQOPTION_PRACTICE"

/-- `name.replace("-OTC", "")`. -/
def withoutOtc : List Char → List Char
  | '-' :: 'O' :: 'T' :: 'C' :: rest => withoutOtc rest
  | c :: rest => c :: withoutOtc rest
  | [] => []

/-- `_base`. -/
def baseOf (name : String) : List Char :=
  upperChars (withoutOtc name.toList)

/-- The strategy with the configured key, or else the first one whose asset has the base of
    the symbol. -/
def pickStrategy (catalog : DynamicManifestCatalog φ) (config : IqOptionRiskConfig)
    (symbol : String) : Option (CatalogStrategyInfo φ) :=
  catalog.active.get? config.strategyId <|> catalog.active.values.find? fun info =>
    info.entry.asset == symbol || baseOf info.entry.asset == baseOf symbol

def evalContext (config : IqOptionRiskConfig) (key symbol : String) : RuntimeContextFields where
  strategyId := key
  strategyVersion := "1.0.0"
  broker := .iqOption
  accountId := practiceAccountId
  product := "BINARY_OPTION"
  symbol
  timeframeSeconds := config.timeframeSeconds
  configurationVersion := "1.0.0"

variable (inputs : CycleInputs φ)

def fetchCandles (symbol : String) : Option (List MarketCandle) :=
  (inputs.history symbol).map fun candles => candles.filter fun candle =>
    candle.isClosed && candle.broker == .iqOption && candle.brokerSymbol == symbol &&
      candle.timeframeSeconds == inputs.config.timeframeSeconds

/-- The direction and the index of a symbol. An index that cannot be computed is neutral. -/
def readSignal (picked : Option (CatalogStrategyInfo φ)) (symbol : String)
    (context : RuntimeContextFields) (candles : List MarketCandle) :
    Except EvaluationError (Option Direction × Decimal) :=
  let automatic := inputs.config.symbol == "AUTO"
  match picked.filter fun _ => baseOf symbol == baseOf inputs.config.symbol || automatic with
  | some info => do
    let direction ← info.instance_.evaluate candles
    let rsi := match calculateWilderRsi (candles.map fun candle => candle.closePrice) with
      | .ok value => value
      | .error _ => .finite false 500 (-1)
    .ok (direction, rsi)
  | none => do
    let decision ← evaluateDecision candles context
    .ok (decision.direction, decision.rsi)

def candidateOf (item : String × String) (candles : List MarketCandle) :
    Except CycleEnd (Except EvaluationError (Option Candidate)) :=
  let picked := inputs.catalog.bind fun catalog => pickStrategy catalog inputs.config item.1
  let key := (picked.map fun info => info.entry.key).getD inputs.config.strategyId
  let context := evalContext inputs.config key item.1
  -- The context is built outside of the `try`.
  if context.postInit ≠ .ok () then .error .raised
  else match readSignal inputs picked item.1 context candles with
  | .error failure => if failure = .other then .error .raised else .ok (.error failure)
  | .ok (none, _) => .ok (.ok none)
  | .ok (some direction, rsi) => .ok <| .ok <| some {
      symbol := item.1
      displayName := item.2
      direction
      rsi
      candleEpoch := ((candles.getLast?.map fun candle => candle.closeTime).getD 0) / 1000000
      strategyKey := key }

/-! ### Scanning -/

variable (trader : IqOptionAutoTrader)

/-- `_symbols_for_cycle`, and where the next scan goes on. -/
def symbolsForCycle : List (String × String) × Nat :=
  let selected := inputs.config.symbol
  if selected = "AUTO" then
    let count := iqoptionRadarSymbols.length
    ((iqoptionRadarSymbols[trader.scanCursor % count]?).toList, (trader.scanCursor + 1) % count)
  else
    let counterpart := if "-OTC".toList.isSuffixOf selected.toList
      then String.ofList (selected.toList.take (selected.toList.length - 4)) else selected ++ "-OTC"
    let options := iqoptionRadarSymbols.filter (·.1 == selected) ++
      iqoptionRadarSymbols.filter (·.1 == counterpart)
    let unfrozen := options.filter fun item =>
      (trader.symbolSuspendedUntil.get? item.1).getD 0 ≤ inputs.clock (.choose item.1)
    ((if unfrozen = [] then options else unfrozen).take 1, trader.scanCursor)

/-- `int(seconds) + 1`, as text. -/
def secondsText (seconds : ℚ) : String :=
  toString (⌊seconds⌋ + 1)

def evaluateSymbol (item : String × String) :
    Program CycleEnd Cycle (Option Candidate) := fun cycle =>
  let trader := cycle.trader
  let remaining := (trader.symbolSuspendedUntil.get? item.1).getD 0 - inputs.clock
    (.suspension item.1)
  if 0 < remaining then
    (.ok none, cycle.setStatus ("IQOPTION_ACTIVE_SUSPENDED (" ++ item.2 ++ "; " ++
      secondsText remaining ++ "s)"))
  else
    let resumed := { trader with symbolSuspendedUntil := trader.symbolSuspendedUntil.erase item.1 }
    match resumed.messageBudget.tryAcquire (inputs.clock (.budget item.1)) with
    | none => (.error .raised, { cycle with trader := resumed })
    | some (allowed, budget) =>
      let cycle := { cycle with trader := { resumed with messageBudget := budget } }
      if ¬ allowed then (.error .returned, cycle.setStatus "IQOPTION_MESSAGE_BUDGET_EXHAUSTED")
      else match fetchCandles inputs item.1 with
      | none =>
        let blocked := cycle.gate.blockScope Broker.iqOption.value "market-data"
          "HG_MARKET_DATA_DISCONNECTED"
        (.ok none, { cycle with gate := blocked }.setStatus "IQOPTION_MARKET_DATA_UNAVAILABLE")
      | some candles =>
        if candles.length < 15 then (.ok none, cycle.setStatus "IQOPTION_MARKET_DATA_WARMUP")
        else
          let reopened := cycle.gate.clearScope Broker.iqOption.value "market-data"
            "HG_MARKET_DATA_DISCONNECTED"
          let cleared := { cycle with gate := reopened }
          match candidateOf inputs item candles with
          | .error stop => (.error stop, cleared)
          | .ok (.error _) => (.ok none, cleared)
          | .ok (.ok candidate) => (.ok candidate, cleared)

def scanSymbols (inputs : CycleInputs φ) :
    List (String × String) → Program CycleEnd Cycle (Option Candidate)
  | [] => pure none
  | item :: rest => do
    let first ← evaluateSymbol inputs item
    let others ← scanSymbols inputs rest
    pure (first <|> others)

/-! ### Dispatching -/

structure DispatchResult where
  orderId : Option String
  state : Option OrderState
  reasonCode : String

def DispatchResult.financiallyAccepted (result : DispatchResult) : Bool :=
  [some OrderState.accepted, some .opened, some .settled].contains result.state

def lowerChar (c : Char) : List Char :=
  if 0x41 ≤ c.toNat ∧ c.toNat ≤ 0x5a then [Char.ofNat (c.toNat + 32)]
  else if c.toNat = 0x212a then ['k']
  else if c.toNat = 0x130 then ['i', Char.ofNat 0x307]
  else [c]

/-- `marker in text`. -/
def containsText (marker : String) : List Char → Bool
  | [] => marker.toList.isEmpty
  | c :: rest => marker.toList.isPrefixOf (c :: rest) || containsText marker rest

def suspensionMarkers : List String :=
  ["active is suspended", "active suspended", "asset is suspended", "asset is not available",
    "active is not available", "instrument is not available", "instrument is closed",
    "market is closed"]

/-- `_stable_rejection_reason`; only ASCII capitals and digits make a stable code here. -/
def stableRejectionReason (reason : Option String) : String :=
  let raw := stripChars (reason.getD "").toList
  let normalized := raw.flatMap lowerChar
  if ["investment amount is smaller", "allowed minimum"].any (containsText · normalized) then
    "IQOPTION_STAKE_BELOW_BROKER_MINIMUM"
  else if suspensionMarkers.any (containsText · normalized) then "IQOPTION_ACTIVE_SUSPENDED"
  else if raw ≠ [] ∧ raw.length ≤ 64 ∧ raw.all (fun c => isUpper c || isDigit c || c == '_') then
    String.ofList raw
  else "IQOPTION_ORDER_REJECTED_REMOTE"

def submissionFailure (reasonCode : String) (message : Option String) : String :=
  let marker := "Health Gate blocked: ".toList
  let code := stripChars reasonCode.toList
  let text := (message.getD "").toList
  let reason := if code = [] ∧ marker.isPrefixOf text then stripChars (text.drop marker.length)
    else code
  if reason = [] then "IQOPTION_ORDER_SUBMISSION_FAILED" else String.ofList reason

variable (candidate : Candidate)

/-- The request of `_dispatch_order`; it may be refused before it is submitted. -/
def orderRequestFor : Except String OrderRequest :=
    do
  let amount ← Money.make inputs.config.stakeMinorUnits inputs.config.currency
  OrderRequest.make {
    correlationId := inputs.correlationId
    broker := .iqOption
    accountId := practiceAccountId
    product := "BINARY_OPTION"
    symbol := candidate.symbol
    direction := candidate.direction
    amount
    strategyId := if candidate.strategyKey = "" then inputs.config.strategyId
      else candidate.strategyKey
    strategyVersion := "1.0.0"
    deadlineAt := inputs.now + 15000000
    duration := 1
    durationUnit := "m" }

def dispatchOrder (outcome : SubmitOutcome) : DispatchResult :=
  match outcome with
  | .raised reasonCode message => ⟨none, none, submissionFailure reasonCode message⟩
  | .persisted orderId none _ => ⟨some orderId, none, "IQOPTION_ORDER_PROJECTION_MISSING"⟩
  | .persisted orderId (some state) outboxReason =>
    if state = .rejected ∨ state = .sendBlocked then
      ⟨some orderId, some state, stableRejectionReason outboxReason⟩
    else ⟨some orderId, some state, "IQOPTION_ORDER_" ++ state.value⟩

def exposureStates : List OrderState :=
  [.outboxed, .dispatching, .accepted, .opened, .unknown, .reconciling, .settlementUnknown,
    .manualReview]

def hasNonterminalIqOrder : Bool :=
  inputs.nonterminalOrders.any fun row => row.1 == .iqOption && exposureStates.contains row.2

def riskBlockReason : Option String :=
  let config := inputs.config
  let remaining := trader.cooldownUntil - inputs.clock .cooldown
  if config.maxDailyTrades ≤ trader.dailyTradesCount then some "IQOPTION_MAX_TRADES_REACHED"
  else if trader.dailyProfitLoss.greater (stakeOf (-config.dailyStopLossMinorUnits)) ≠ some true
    then
    some "IQOPTION_STOP_LOSS_REACHED"
  else if trader.dailyProfitLoss.less (stakeOf config.dailyTakeProfitMinorUnits) ≠ some true then
    some "IQOPTION_TAKE_PROFIT_REACHED"
  else if config.maxConsecutiveLosses ≤ trader.consecutiveLosses then
    some "IQOPTION_CONSECUTIVE_LOSS_LIMIT_REACHED"
  else if 0 < remaining then some ("IQOPTION_LOSS_COOLDOWN (" ++ secondsText remaining ++ "s)")
  else none

def afterDispatch (result : DispatchResult) (trader : IqOptionAutoTrader) : IqOptionAutoTrader :=
  let direction := candidate.direction.value
  if result.financiallyAccepted then
    { trader with
      stickyFailureReason := none
      dailyTradesCount := trader.dailyTradesCount + 1
      statusReason := "ORDEM_ACEITA: " ++ candidate.displayName ++ " " ++ direction ++ " @ RSI=" ++
        candidate.rsi.fixedText 1 ++ " (USD " ++
        (stakeOf inputs.config.stakeMinorUnits).fixedText 2 ++ ")" }
  else if result.state = some .unknown ∨ result.state = some .reconciling ∨
      result.state = some .settlementUnknown then
    { trader with
      dailyTradesCount := trader.dailyTradesCount + 1
      statusReason := "IQOPTION_ORDER_UNKNOWN_RECONCILIATION_REQUIRED" }
  else if result.reasonCode = "IQOPTION_ACTIVE_SUSPENDED" then
    { trader with
      symbolSuspendedUntil := trader.symbolSuspendedUntil.put candidate.symbol
        (inputs.clock .suspend + 300)
      statusReason := "IQOPTION_ACTIVE_SUSPENDED (" ++ candidate.displayName ++ ")" }
  else
    { trader with stickyFailureReason := some result.reasonCode, statusReason := result.reasonCode }

/-! ### The cycle -/

structure CycleResult where
  cycle : Cycle
  submitted : Option OrderRequest

def refusal (trader : IqOptionAutoTrader) : Option String :=
  match trader.stickyFailureReason with
  | some reason => some reason
  | none =>
    if trader.lastEvaluatedEpochs.get? candidate.symbol = some candidate.candleEpoch then
      some ("SINAL_CONSUMIDO: " ++ candidate.displayName ++ " " ++ candidate.direction.value ++
        " @ RSI=" ++ candidate.rsi.fixedText 1)
    else if hasNonterminalIqOrder inputs then some "IQOPTION_ORDER_IN_FLIGHT"
    else riskBlockReason inputs trader

/-- The dispatch part of the cycle. The signal is consumed before it is dispatched. -/
def dispatchCandidate (cycle : Cycle) : CycleResult :=
  let trader := { cycle.trader with lastRsiValue := some candidate.rsi }
  match refusal inputs candidate trader with
  | some reason => ⟨{ cycle with trader }.setStatus reason, none⟩
  | none =>
    let consumed := { trader with
      lastEvaluatedEpochs := trader.lastEvaluatedEpochs.put candidate.symbol candidate.candleEpoch }
    match orderRequestFor inputs candidate with
    | .error _ =>
      let failed := dispatchOrder (.raised "" none)
      ⟨{ cycle with trader := afterDispatch inputs candidate failed consumed }, none⟩
    | .ok request =>
      let result := dispatchOrder (inputs.submit request)
      ⟨{ cycle with trader := afterDispatch inputs candidate result consumed }, some request⟩

def withoutCandidate (cycle : Cycle) : Cycle :=
  cycle.setStatus <| match cycle.trader.stickyFailureReason with
  | some reason => reason
  | none =>
    if inputs.config.symbol = "AUTO" then
      "AUTO_SCAN_REAL_DATA (" ++ toString iqoptionRadarSymbols.length ++ " ASSETS)"
    else "IQOPTION_WAITING_RSI_SIGNAL (" ++ inputs.config.symbol ++ ")"

/-- `_evaluate_cycle` as `_run_loop` calls it. -/
def evaluateCycle (cycle : Cycle) : CycleResult :=
  if ¬ inputs.connected then ⟨cycle.setStatus "IQOPTION_CONNECTION_REQUIRED", none⟩
  else
    let chosen := symbolsForCycle inputs cycle.trader
    let cycle := { cycle with trader := { cycle.trader with scanCursor := chosen.2 } }
    if chosen.1 = [] then ⟨cycle.setStatus "IQOPTION_SYMBOL_UNSUPPORTED", none⟩
    else match scanSymbols inputs chosen.1 cycle with
    | (.error .raised, scanned) => ⟨scanned.setStatus "IQOPTION_EVALUATION_FAILED", none⟩
    | (.error .returned, scanned) => ⟨scanned, none⟩
    | (.ok candidate, scanned) =>
      if ¬ inputs.operatorArmed then ⟨scanned.setStatus "IQOPTION_BOT_DISARMED", none⟩
      else match candidate with
      | none => ⟨withoutCandidate inputs scanned, none⟩
      | some candidate => dispatchCandidate inputs candidate scanned

/-- Only a settlement that an event has applied is counted. The sum of two finite numbers is
    never invalid. -/
def notifyOrderEvent (config : IqOptionRiskConfig) (clock : ℚ) (event : BrokerOrderEvent)
    (result : BrokerEventApplyResult) (trader : IqOptionAutoTrader) : IqOptionAutoTrader :=
  if event.broker ≠ .iqOption ∨ (result.status ≠ .applied ∧ result.status ≠ .appliedWithGap) ∨
      result.orderState ≠ some .settled then trader
  else match event.resultMinor with
  | none => trader
  | some minor =>
    let counted := { trader with
      dailyProfitLoss :=
        (Decimal.add decimalPrecision trader.dailyProfitLoss (stakeOf minor)).getD .nan }
    if minor < 0 then
      { counted with
        consecutiveLosses := trader.consecutiveLosses + 1
        cooldownUntil := clock + config.cooldownSecondsAfterLoss
        statusReason := "IQOPTION_ORDER_SETTLED_LOSS" }
    else
      { counted with
        consecutiveLosses := 0
        cooldownUntil := 0
        statusReason := "IQOPTION_ORDER_SETTLED_WIN" }

/-- `begin_new_run`, on ARM. -/
def beginNewRun : IqOptionAutoTrader :=
  { trader with
    lastEvaluatedEpochs := []
    stickyFailureReason := none
    statusReason := "IQOPTION_BOT_ARMED" }

end TradingLab

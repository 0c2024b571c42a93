import TradingLab.Core.IqOptionAutoTrader

/-!
# The gates of a catalog strategy

The cycle asks nothing about the asset, the timeframe or the eligibility of a strategy: it takes the
configured key, or the first strategy whose asset has the same base as the symbol, and evaluates
candles of one minute.
-/
namespace TradingLab

open Relational Machine
open DynamicManifestCatalog

variable {φ : Type} {inputs : CycleInputs φ} {cycle : Cycle} {candidate : Candidate}
  {item : String × String} {symbol key accountType : String} {request : OrderRequest}
  {payout : Decimal} {catalog : DynamicManifestCatalog φ} {info : CatalogStrategyInfo φ}
  {candles : List MarketCandle}

def timeframeSeconds : String → Option Int
  | "M1" => some 60
  | "M5" => some 300
  | "M15" => some 900
  | _ => none

/-- The strategy of a key has been made for the symbol and the candles, and is eligible now. -/
def GatesPassed (catalog : DynamicManifestCatalog φ) (key symbol : String)
    (candles : List MarketCandle) (accountType : String) (payout : Decimal) (now : Instant) :
      Prop :=
  ∃ info, catalog.getStrategy key = some info ∧ info.entry.asset = symbol ∧
    (∀ candle ∈ candles, timeframeSeconds info.entry.timeframe = some candle.timeframeSeconds) ∧
    ∃ answer, catalog.isEligible key accountType payout now = some (true, answer)

/-- Every order that the cycle submits under a key of the catalog has passed its gates. -/
def OrdersGated (inputs : CycleInputs φ) (cycle : Cycle) (accountType : String)
    (payout : Decimal) : Prop :=
  ∀ request, (evaluateCycle inputs cycle).submitted = some request →
    ∀ catalog, inputs.catalog = some catalog → (catalog.getStrategy request.strategyId).isSome →
      ∀ candles, fetchCandles inputs request.symbol = some candles →
        GatesPassed catalog request.strategyId request.symbol candles accountType payout inputs.now

/-! ### When a cycle submits -/

/-- What a cycle needs to dispatch a candidate, of what is there before it. -/
structure Fires (inputs : CycleInputs φ) (cycle : Cycle) (item : String × String)
    (candles : List MarketCandle) (candidate : Candidate) : Prop where
  connected : inputs.connected = true
  chosen : (symbolsForCycle inputs cycle.trader).1 = [item]
  resumed : (cycle.trader.symbolSuspendedUntil.get? item.1).getD 0 ≤ inputs.clock
    (.suspension item.1)
  withinBudget : ∃ budget,
    cycle.trader.messageBudget.tryAcquire (inputs.clock (.budget item.1)) = some (true, budget)
  fetched : fetchCandles inputs item.1 = some candles
  enough : 15 ≤ candles.length
  signalled : candidateOf inputs item candles = .ok (.ok (some candidate))
  armed : inputs.operatorArmed = true
  admitted : refusal inputs candidate cycle.trader = none

theorem symbolsForCycle_length (inputs : CycleInputs φ) (trader : IqOptionAutoTrader) :
    (symbolsForCycle inputs trader).1.length ≤ 1 := by
  simp only [symbolsForCycle]
  split
  · exact Option.length_toList_le
  · exact List.length_take_le _ _

theorem scanSymbols_singleton (inputs : CycleInputs φ) (item : String × String) (cycle : Cycle) :
    scanSymbols inputs [item] cycle = evaluateSymbol inputs item cycle := by
  cases first : evaluateSymbol inputs item cycle with
  | mk answer scanned =>
    cases answer with
    | error stop => exact Program.bind_of_error first
    | ok candidate =>
      refine (Program.bind_of_ok first).trans ?_
      cases candidate <;> rfl

def scannedCycle (cycle : Cycle) (symbol : String) (budget : IqOptionMessageBudget) : Cycle where
  trader := { cycle.trader with
    symbolSuspendedUntil := cycle.trader.symbolSuspendedUntil.erase symbol
    messageBudget := budget }
  gate := cycle.gate.clearScope Broker.iqOption.value "market-data" "HG_MARKET_DATA_DISCONNECTED"

theorem evaluateSymbol_eq_some {scanned : Cycle} :
    evaluateSymbol inputs item cycle = (.ok (some candidate), scanned) ↔
      (cycle.trader.symbolSuspendedUntil.get? item.1).getD 0 ≤ inputs.clock (.suspension item.1) ∧
      ∃ budget candles,
        cycle.trader.messageBudget.tryAcquire (inputs.clock (.budget item.1)) =
          some (true, budget) ∧
        fetchCandles inputs item.1 = some candles ∧ 15 ≤ candles.length ∧
        candidateOf inputs item candles = .ok (.ok (some candidate)) ∧
        scannedCycle cycle item.1 budget = scanned := by
  simp only [evaluateSymbol]
  by_cases suspended :
      0 < (cycle.trader.symbolSuspendedUntil.get? item.1).getD 0 - inputs.clock (.suspension item.1)
  · rw [if_pos suspended]
    simp [not_le.mpr (sub_pos.mp suspended)]
  rw [if_neg suspended]
  simp only [le_of_not_gt (mt sub_pos.mpr suspended), true_and]
  cases acquired : cycle.trader.messageBudget.tryAcquire (inputs.clock (.budget item.1)) with
  | none => simp
  | some answer =>
    obtain ⟨allowed, budget⟩ := answer
    cases allowed with
    | false => simp
    | true =>
      cases fetchCandles inputs item.1 with
      | none => simp
      | some candles =>
        by_cases enough : candles.length < 15
        · simp [enough]
        · -- Only the answer of the evaluation is left.
          simp only [enough, if_false, not_true_eq_false]
          cases evaluated : candidateOf inputs item candles with
          | error stop => simp [evaluated]
          | ok signal =>
            cases signal with
            | error failure => simp [evaluated]
            | ok found => simp [evaluated, scannedCycle, Nat.le_of_not_lt enough]

theorem submitted_dispatchCandidate {budget : IqOptionMessageBudget} {cursor : Nat} :
    (dispatchCandidate inputs candidate (scannedCycle
        { cycle with trader := { cycle.trader with scanCursor := cursor } } symbol
          budget)).submitted =
      some request ↔
      refusal inputs candidate cycle.trader = none ∧ orderRequestFor inputs candidate =
        .ok request := by
  have same : refusal inputs candidate { (scannedCycle
      { cycle with trader := { cycle.trader with scanCursor := cursor } } symbol budget).trader with
        lastRsiValue := some candidate.rsi } = refusal inputs candidate cycle.trader := rfl
  simp only [dispatchCandidate, same]
  cases refusal inputs candidate cycle.trader with
  | some reason => simp
  | none => cases orderRequestFor inputs candidate <;> simp

def IqOptionAutoTrader.dispatchView (trader : IqOptionAutoTrader) :
    Option String × Dict String Int × Nat × Decimal × Nat :=
  (trader.stickyFailureReason, trader.lastEvaluatedEpochs, trader.dailyTradesCount,
    trader.dailyProfitLoss, trader.consecutiveLosses)

theorem evaluateSymbol_dispatchView (inputs : CycleInputs φ) (item : String × String)
    (cycle : Cycle) :
    (evaluateSymbol inputs item cycle).2.trader.dispatchView = cycle.trader.dispatchView := by
  simp only [evaluateSymbol]
  split
  · rfl
  split
  · rfl
  split
  · rfl
  split
  · rfl
  split
  · rfl
  split <;> rfl

theorem Fires.evaluateCycle_eq {candles : List MarketCandle}
    (fires : Fires inputs cycle item candles candidate) :
    ∃ budget, evaluateCycle inputs cycle = dispatchCandidate inputs candidate (scannedCycle
      { cycle with trader := { cycle.trader with scanCursor :=
        (symbolsForCycle inputs cycle.trader).2 } } item.1 budget) := by
  obtain ⟨budget, acquired⟩ := fires.withinBudget
  let started : Cycle := { cycle with
    trader := { cycle.trader with scanCursor := (symbolsForCycle inputs cycle.trader).2 } }
  have scan : evaluateSymbol inputs item started =
      (.ok (some candidate), scannedCycle started item.1 budget) :=
    evaluateSymbol_eq_some.mpr ⟨fires.resumed, budget, candles, acquired, fires.fetched,
      fires.enough, fires.signalled, rfl⟩
  refine ⟨budget, ?_⟩
  simp only [evaluateCycle, fires.connected, fires.chosen, fires.armed, scanSymbols_singleton,
    not_true_eq_false, if_false, reduceCtorEq]
  rw [scan]

theorem evaluateCycle_cases (inputs : CycleInputs φ) (cycle : Cycle) :
    (∃ item candles candidate, Fires inputs cycle item candles candidate) ∨
    (evaluateCycle inputs cycle).submitted = none ∧
      (evaluateCycle inputs cycle).cycle.trader.dispatchView = cycle.trader.dispatchView := by
  simp only [evaluateCycle]
  split
  · exact .inr ⟨rfl, rfl⟩
  rename_i connected
  split
  · exact .inr ⟨rfl, rfl⟩
  rename_i chosen
  -- One symbol has been chosen, so the loop makes one turn.
  obtain ⟨item, only⟩ := List.length_eq_one_iff.mp
    (le_antisymm (symbolsForCycle_length inputs cycle.trader) (List.length_pos_iff.mpr chosen))
  have view := evaluateSymbol_dispatchView inputs item { cycle with
    trader := { cycle.trader with scanCursor := (symbolsForCycle inputs cycle.trader).2 } }
  rw [only, scanSymbols_singleton]
  split
  · rename_i scan
    exact .inr ⟨rfl, by rw [scan] at view; exact view⟩
  · rename_i scan
    exact .inr ⟨rfl, by rw [scan] at view; exact view⟩
  rename_i found scanned scan
  split
  · exact .inr ⟨rfl, by rw [scan] at view; exact view⟩
  rename_i armed
  split
  · exact .inr ⟨rfl, by rw [scan] at view; exact view⟩
  rename_i candidate
  obtain ⟨resumed, budget, candles, acquired, fetched, enough, signalled, rfl⟩ :=
    evaluateSymbol_eq_some.mp scan
  cases admitted : refusal inputs candidate cycle.trader with
  | some reason =>
    -- A candidate that is refused is only reported.
    have refused : refusal inputs candidate { (scannedCycle { cycle with trader :=
        { cycle.trader with scanCursor := (symbolsForCycle inputs cycle.trader).2 } } item.1
          budget).trader with lastRsiValue := some candidate.rsi } = some reason := admitted
    simp only [dispatchCandidate, refused]
    exact .inr ⟨trivial, rfl⟩
  | none =>
    exact .inl ⟨item, candles, candidate, {
      connected := by simpa using connected
      chosen := only
      resumed
      withinBudget := ⟨budget, acquired⟩
      fetched
      enough
      signalled
      armed := by simpa using armed
      admitted }⟩

theorem submitted_iff :
    (evaluateCycle inputs cycle).submitted = some request ↔
      ∃ item candles candidate, Fires inputs cycle item candles candidate ∧
        orderRequestFor inputs candidate = .ok request := by
  constructor
  · intro submitted
    rcases evaluateCycle_cases inputs cycle with ⟨item, candles, candidate, fires⟩ | ⟨nothing, -⟩
    · obtain ⟨budget, evaluated⟩ := fires.evaluateCycle_eq
      rw [evaluated] at submitted
      exact ⟨item, candles, candidate, fires, (submitted_dispatchCandidate.mp submitted).2⟩
    · rw [nothing] at submitted
      cases submitted
  · rintro ⟨item, candles, candidate, fires, made⟩
    obtain ⟨budget, evaluated⟩ := fires.evaluateCycle_eq
    rw [evaluated]
    exact submitted_dispatchCandidate.mpr ⟨fires.admitted, made⟩

/-! ### What the gates ask -/

/-- The payout passes `PayoutGate.check_payout` for a strategy with the given statistics. -/
def PaysEnough (payout : Decimal) (stats : ValidatedStats) : Prop :=
  ∃ ratio minimum share threshold, normalizeRatio payout = some ratio ∧
    normalizeRatio stats.payoutMin = some minimum ∧ ratio.greater (Decimal.ofInt 0) = some true ∧
    breakEvenShare ratio = some share ∧
    Decimal.add decimalPrecision share payoutMargin = some threshold ∧
    ratio.less minimum = some false ∧ stats.wilsonLower.less threshold = some false

theorem payoutBlocked_eq_false {minimum wilson threshold : Decimal} :
    payoutBlocked payout minimum wilson threshold = some false ↔
      payout.less minimum = some false ∧ wilson.less threshold = some false := by
  unfold payoutBlocked
  cases payout.less minimum with
  | none => simp
  | some below => cases below <;> simp

theorem checkPayout_allowed_iff {stats : ValidatedStats} :
    (∃ result, checkPayout payout stats.wilsonLower stats.payoutMin = some result ∧
      result.allowed = true) ↔ PaysEnough payout stats := by
  simp only [checkPayout, Option.bind_eq_bind, Option.bind_eq_some_iff]
  constructor
  · rintro ⟨result, ⟨ratio, normal, minimum, required, positive, compared, rest⟩, allowed⟩
    cases positive with
    | false =>
      -- The answer to a payout that is not positive is no.
      simp only [Bool.not_false, if_true, Option.bind_eq_some_iff] at rest
      obtain ⟨percent, -, answer⟩ := rest
      cases answer
      simp at allowed
    | true =>
      simp only [Bool.not_true, Bool.false_eq_true, if_false, Option.bind_eq_some_iff] at rest
      obtain ⟨share, shared, threshold, added, blocked, checked, answer⟩ := rest
      cases blocked with
      | true =>
        simp only [if_true, Option.bind_eq_some_iff] at answer
        obtain ⟨_, -, _, -, answer⟩ := answer
        cases answer
        simp at allowed
      | false =>
        obtain ⟨enough, edge⟩ := payoutBlocked_eq_false.mp checked
        exact ⟨ratio, minimum, share, threshold, normal, required, compared, shared, added, enough,
          edge⟩
  · rintro ⟨ratio, minimum, share, threshold, normal, required, compared, shared, added, enough,
      edge⟩
    have unblocked := payoutBlocked_eq_false.mpr ⟨enough, edge⟩
    exact ⟨⟨true, "", "", share, ratio, minimum⟩, ⟨ratio, normal, minimum, required, true, compared,
      by simp [shared, added, unblocked]⟩, rfl⟩

/-- The strategy of a key is made for the symbol and open for an order now. -/
structure OpenFor (catalog : DynamicManifestCatalog φ) (info : CatalogStrategyInfo φ)
    (key symbol accountType : String) (payout : Decimal) (now : Instant) : Prop where
  asset : info.entry.asset = symbol
  timeframe : info.entry.timeframe = "M1"
  notRetiring : catalog.retiring.get? key = none
  account : ¬ (isRealAccount accountType = true ∧ info.status =
    "observation")
  hours : isWithinTradingHours info.entry.hoursUtc now = true
  pays : PaysEnough payout info.entry.validated

theorem isEligible_iff {now : Instant} (known : catalog.getStrategy key = some info) :
    (∃ answer, catalog.isEligible key accountType payout now = some (true, answer)) ↔
      catalog.retiring.get? key = none ∧
      ¬ (isRealAccount accountType = true ∧ info.status = "observation") ∧
      isWithinTradingHours info.entry.hoursUtc now = true ∧
        PaysEnough payout info.entry.validated := by
  unfold isEligible
  cases retiring : catalog.retiring.get? key with
  | some leaving => simp
  | none =>
    have active : catalog.active.get? key = some info := by
      simpa [getStrategy, retiring] using known
    simp only [active, Option.isSome_none, Bool.false_eq_true, if_false, true_and]
    by_cases demoOnly : isRealAccount accountType = true ∧
        info.status = "observation"
    · simp [demoOnly]
    · by_cases within : isWithinTradingHours info.entry.hoursUtc now = true
      · simp only [demoOnly, within, not_true_eq_false, not_false_eq_true, if_false, true_and,
          ← checkPayout_allowed_iff, Option.bind_eq_bind, Option.bind_eq_some_iff]
        constructor
        · rintro ⟨answer, result, checked, said⟩
          refine ⟨result, checked, ?_⟩
          by_contra refused
          simp [refused] at said
        · rintro ⟨result, checked, allowed⟩
          exact ⟨("ELIGIBLE", some result), result, checked, by simp [allowed]⟩
      · simp [demoOnly, within]

theorem timeframeSeconds_eq_minute {timeframe : String} :
    timeframeSeconds timeframe = some 60 ↔ timeframe = "M1" := by
  constructor
  · intro minute
    unfold timeframeSeconds at minute
    split at minute
    · rfl
    all_goals simp at minute
  · rintro rfl
    rfl

theorem timeframe_of_fetched
    (fetched : fetchCandles inputs symbol = some candles) {candle : MarketCandle}
    (member : candle ∈ candles) : candle.timeframeSeconds = 60 := by
  obtain ⟨history, -, rfl⟩ := Option.map_eq_some_iff.mp fetched
  have kept := (List.mem_filter.mp member).2
  simp only [Bool.and_eq_true, beq_iff_eq] at kept
  rw [kept.2, inputs.config.timeframe_eq]

theorem gatesPassed_iff (known : catalog.getStrategy key = some info)
    (fetched : fetchCandles inputs symbol = some candles) (some_candle : candles ≠ []) :
    GatesPassed catalog key symbol candles accountType payout inputs.now ↔
      OpenFor catalog info key symbol accountType payout inputs.now := by
  have minute : (∀ candle ∈ candles,
      timeframeSeconds info.entry.timeframe = some candle.timeframeSeconds) ↔
      info.entry.timeframe = "M1" := by
    rw [← timeframeSeconds_eq_minute]
    constructor
    · intro every
      obtain ⟨candle, member⟩ := List.exists_mem_of_ne_nil candles some_candle
      rw [every candle member, timeframe_of_fetched fetched member]
    · intro named candle member
      rw [named, timeframe_of_fetched fetched member]
  constructor
  · rintro ⟨other, found, asset, timeframes, eligible⟩
    obtain rfl : info = other := Option.some.inj (known.symm.trans found)
    obtain ⟨notRetiring, account, hours, pays⟩ := (isEligible_iff known).mp eligible
    exact ⟨asset, minute.mp timeframes, notRetiring, account, hours, pays⟩
  · intro isOpen
    exact ⟨info, known, isOpen.asset, minute.mpr isOpen.timeframe, (isEligible_iff known).mpr
      ⟨isOpen.notRetiring, isOpen.account, isOpen.hours, isOpen.pays⟩⟩

/-! ### The orders of a cycle -/

def orderKey (inputs : CycleInputs φ) (candidate : Candidate) : String :=
  if candidate.strategyKey = "" then inputs.config.strategyId else candidate.strategyKey

/-- Where a cycle has a candidate to dispatch under a key of the catalog, the strategy of that
    key is open for it. -/
def TradesOpenStrategy (inputs : CycleInputs φ) (cycle : Cycle) (accountType : String)
    (payout : Decimal) : Prop :=
  ∀ item candles candidate, Fires inputs cycle item candles candidate →
    (orderRequestFor inputs candidate).isOk = true →
    ∀ catalog, inputs.catalog = some catalog →
      ∀ info, catalog.getStrategy (orderKey inputs candidate) = some info →
        OpenFor catalog info (orderKey inputs candidate) item.1 accountType payout inputs.now

theorem candidateOf_signal
    (signalled : candidateOf inputs item candles = .ok (.ok (some candidate))) :
    candidate.symbol = item.1 ∧ candidate.candleEpoch =
      ((candles.getLast?.map fun candle => candle.closeTime).getD 0) / 1000000 := by
  simp only [candidateOf] at signalled
  split at signalled
  · cases signalled
  · split at signalled
    · split at signalled <;> cases signalled
    · cases signalled
    · cases signalled
      exact ⟨rfl, rfl⟩

theorem Fires.nonempty (fires : Fires inputs cycle item candles candidate) : candles ≠ [] :=
  List.ne_nil_of_length_pos (by have := fires.enough; omega)

theorem fields_of_request (made : orderRequestFor inputs candidate = .ok request) :
    request.symbol = candidate.symbol ∧ request.strategyId = orderKey inputs candidate := by
  obtain ⟨amount, -, built⟩ := Except.bind_ok_iff.mp made
  unfold OrderRequest.make at built
  split at built
  · cases built
    exact ⟨rfl, rfl⟩
  · cases built

/-- The orders of a cycle have passed the gates of their strategies exactly when every strategy
    that it trades is open. -/
theorem orders_gated_iff (inputs : CycleInputs φ) (cycle : Cycle) (accountType : String)
    (payout : Decimal) : OrdersGated inputs cycle accountType payout ↔
      TradesOpenStrategy inputs cycle accountType payout := by
  constructor
  · intro gated item candles candidate fires made catalog provided info known
    cases built : orderRequestFor inputs candidate with
    | error message => simp [built, Except.isOk, Except.toBool] at made
    | ok request =>
      obtain ⟨symbol, key⟩ := fields_of_request built
      rw [(candidateOf_signal fires.signalled).1] at symbol
      have passed := gated request (submitted_iff.mpr ⟨item, candles, candidate, fires, built⟩)
        catalog provided (by rw [key, known]; rfl) candles (by rw [symbol, fires.fetched])
      rw [key, symbol] at passed
      exact (gatesPassed_iff known fires.fetched fires.nonempty).mp passed
  · intro open_ request submitted catalog provided listed candles fetched
    obtain ⟨item, evaluated, candidate, fires, made⟩ := submitted_iff.mp submitted
    obtain ⟨symbol, key⟩ := fields_of_request made
    rw [(candidateOf_signal fires.signalled).1] at symbol
    obtain ⟨info, known⟩ := Option.isSome_iff_exists.mp listed
    rw [key] at known ⊢
    rw [symbol] at fetched ⊢
    obtain rfl : evaluated = candles := Option.some.inj (fires.fetched.symm.trans fetched)
    exact (gatesPassed_iff known fetched fires.nonempty).mpr
      (open_ item evaluated candidate fires (by rw [made]; rfl) catalog provided info known)

/-! ### A strategy for another asset -/

def flatCandle (minute : Nat) : MarketCandle where
  broker := .iqOption
  brokerSymbol := "EURUSD-OTC"
  timeframeSeconds := 60
  openTime := 60000000 * minute
  closeTime := 60000000 * minute + 60000000
  openPrice := Decimal.ofInt 1
  highPrice := Decimal.ofInt 1
  lowPrice := Decimal.ofInt 1
  closePrice := Decimal.ofInt 1
  isClosed := true
  valid := by
    simp [MarketCandleFields.postInit, Decimal.ofInt, Decimal.isFinite, Decimal.value,
      Decimal.signed]

/-- A strategy that was validated for the asset of the exchange, at a payout of 85 percent. -/
def exchangeStrategy : CatalogStrategyInfo Unit where
  entry := {
    key := "f1:eurusd"
    family := "F1"
    displayNamePt := "EUR/USD"
    asset := "EURUSD"
    timeframe := "M5"
    hoursUtc := (0, 24)
    params := []
    validated := {
      pHat := .finite false 60 (-2)
      wilsonLower := .finite false 57 (-2)
      pMinAtValidation := .finite false 56 (-2)
      payoutMin := .finite false 85 (-2)
      opsPerDay := Decimal.ofInt 10
      worstStreak := 5
      result1000OpsStake10 := Decimal.ofInt 100
      score := Decimal.ofInt 1 }
    status := "approved"
    reasonPt := "" }
  instance_ := {
    strategyKey := "f1:eurusd"
    params := []
    hoursUtc := (0, 24)
    asset := "EURUSD"
    timeframe := "M5"
    consensus := fun _ => .ok (some .call) }
  status := "approved"
  addedAt := 0

def otcInputs : CycleInputs Unit where
  config := ⟨{ strategyId := "f1:eurusd" }, by decide⟩
  connected := true
  catalog := some { active := [("f1:eurusd", exchangeStrategy)] }
  history := fun _ => some ((List.range 15).map flatCandle)
  operatorArmed := true
  nonterminalOrders := []
  clock := fun _ => 0
  now := 900000000
  correlationId := "corr-1"
  submit := fun _ => .persisted "order-1" (some .opened) none

/-- The strategy is for another asset and for candles of five minutes, and the payout of 50
    percent is below its minimum; the order is submitted under its key. -/
theorem otc_order_not_gated :
    ¬ OrdersGated otcInputs ⟨{}, {}⟩ "PRACTICE" (.finite false 50 (-2)) := by
  have traded : ((evaluateCycle otcInputs ⟨{}, {}⟩).submitted.map fun request =>
      (request.strategyId, request.symbol)) = some ("f1:eurusd", "EURUSD-OTC") := by
    decide +kernel
  obtain ⟨request, submitted, named⟩ := Option.map_eq_some_iff.mp traded
  obtain ⟨key, symbol⟩ := Prod.mk.inj named
  intro gated
  obtain ⟨info, known, asset, -⟩ := gated request submitted _ rfl (by rw [key]; rfl) _ rfl
  rw [key] at known
  rw [symbol] at asset
  cases known
  simp [exchangeStrategy] at asset

end TradingLab

import TradingLab.Properties.CatalogGates

/-!
# The dispatch discipline of the IQ Option trader

The trader remembers the signal of each symbol that it has consumed last, and none before it. So
a history of the broker that steps back to an older candle has the order of that candle submitted
again. Otherwise the remembered epochs only grow (`EpochsAdvance`).
-/
namespace TradingLab

open Relational Machine

variable {φ : Type}

/-! ### Runs between two arms -/

/-- `list_nonterminal_orders`, on the orders of the store. -/
def listNonterminalOrders (orders : List (Broker × OrderState)) : List (Broker × OrderState) :=
  orders.filter fun row => row.2 ≠ .settled ∧ row.2 ≠ .rejected

/-- What a cycle asks of the world, with the orders that are in the store. -/
structure StoredInputs (φ : Type) extends CycleInputs φ where
  orders : List (Broker × OrderState)
  listed : nonterminalOrders = listNonterminalOrders orders

/-- What happens to the trader between two calls of `begin_new_run`. -/
inductive ArmedStep (φ : Type)
  | evaluate (inputs : StoredInputs φ)
  | brokerEvent (config : IqOptionRiskConfig) (clock : ℚ) (event : BrokerOrderEvent)
    (answer : BrokerEventApplyResult)

def ArmedStep.apply (cycle : Cycle) : ArmedStep φ → Cycle
  | .evaluate inputs => (evaluateCycle inputs.toCycleInputs cycle).cycle
  | .brokerEvent config clock event answer =>
    { cycle with trader := notifyOrderEvent config clock event answer cycle.trader }

/-- The close epoch of the last candle that a cycle sees of a symbol. -/
def closeEpoch (inputs : CycleInputs φ) (symbol : String) : Option Int :=
  (fetchCandles inputs symbol).bind fun candles =>
    candles.getLast?.map fun candle => candle.closeTime / 1000000

def signalOf (inputs : CycleInputs φ) (request : OrderRequest) : String × Option Int :=
  (request.symbol, closeEpoch inputs request.symbol)

def dispatchResult (inputs : CycleInputs φ) (candidate : Candidate) : DispatchResult :=
  match orderRequestFor inputs candidate with
  | .error _ => dispatchOrder (.raised "" none)
  | .ok request => dispatchOrder (inputs.submit request)

def DispatchResult.Harmless (result : DispatchResult) : Prop :=
  result.financiallyAccepted = true ∨ (result.state = some .unknown ∨
    result.state = some .reconciling ∨ result.state = some .settlementUnknown) ∨
    result.reasonCode = "IQOPTION_ACTIVE_SUSPENDED"

/-- The discipline of a run. The steps `earlier` lead to a cycle `first`, the steps `between` from
    there to a cycle `second`. -/
structure Disciplined (start : Cycle) (steps : List (ArmedStep φ)) : Prop where
  /-- Two orders never answer the same signal. -/
  once : ∀ earlier first between second one other,
    earlier ++ .evaluate first :: (between ++ [.evaluate second]) <+: steps →
    (evaluateCycle first.toCycleInputs (run ArmedStep.apply start earlier)).submitted =
      some one →
    (evaluateCycle second.toCycleInputs (run ArmedStep.apply start
      (earlier ++ .evaluate first :: between))).submitted = some other →
    signalOf first.toCycleInputs one ≠ signalOf second.toCycleInputs other
  /-- No order is submitted while another one may move money. -/
  unexposed : ∀ earlier inputs request, earlier ++ [.evaluate inputs] <+: steps →
    (evaluateCycle inputs.toCycleInputs (run ArmedStep.apply start earlier)).submitted =
      some request →
    ∀ row ∈ inputs.orders, row.1 = .iqOption → row.2 ∉ exposureStates
  /-- No order is submitted after a dispatch that has failed for good. -/
  silent : ∀ earlier first between second item candles candidate request,
    earlier ++ .evaluate first :: (between ++ [.evaluate second]) <+: steps →
    Fires first.toCycleInputs (run ArmedStep.apply start earlier) item candles candidate →
    (evaluateCycle second.toCycleInputs (run ArmedStep.apply start
      (earlier ++ .evaluate first :: between))).submitted = some request →
    (dispatchResult first.toCycleInputs candidate).Harmless

/-- The history of the symbol of a cycle does not end before the signal that was consumed last. -/
def NotBack (cycle : Cycle) : ArmedStep φ → Prop
  | .evaluate inputs => ∀ item ∈ (symbolsForCycle inputs.toCycleInputs cycle.trader).1,
      ∀ last epoch, cycle.trader.lastEvaluatedEpochs.get? item.1 = some last →
        closeEpoch inputs.toCycleInputs item.1 = some epoch → last ≤ epoch
  | .brokerEvent .. => True

/-! ### What a cycle remembers -/

section Cycle
variable {inputs : CycleInputs φ} {cycle : Cycle} {item : String × String}
  {candles : List MarketCandle} {candidate : Candidate} {request : OrderRequest}

theorem afterDispatch_memory (inputs : CycleInputs φ) (candidate : Candidate)
    (result : DispatchResult) (trader : IqOptionAutoTrader) :
    (afterDispatch inputs candidate result trader).lastEvaluatedEpochs =
        trader.lastEvaluatedEpochs ∧
      (¬ result.Harmless →
        (afterDispatch inputs candidate result trader).stickyFailureReason.isSome) := by
  unfold afterDispatch
  split
  · rename_i accepted
    exact ⟨rfl, fun failed => absurd (.inl accepted) failed⟩
  split
  · rename_i ambiguous
    exact ⟨rfl, fun failed => absurd (.inr (.inl ambiguous)) failed⟩
  split
  · rename_i suspended
    exact ⟨rfl, fun failed => absurd (.inr (.inr suspended)) failed⟩
  · exact ⟨rfl, fun _ => rfl⟩

theorem dispatchCandidate_memory (cycle : Cycle) (admitted : refusal inputs candidate
      { cycle.trader with lastRsiValue := some candidate.rsi } = none) :
    (dispatchCandidate inputs candidate cycle).cycle.trader.lastEvaluatedEpochs =
        cycle.trader.lastEvaluatedEpochs.put candidate.symbol candidate.candleEpoch ∧
      (¬ (dispatchResult inputs candidate).Harmless →
        (dispatchCandidate inputs candidate cycle).cycle.trader.stickyFailureReason.isSome) := by
  simp only [dispatchCandidate, admitted, dispatchResult]
  cases orderRequestFor inputs candidate with
  | error message => exact afterDispatch_memory inputs candidate _ _
  | ok request => exact afterDispatch_memory inputs candidate _ _

theorem Fires.closeEpoch (fires : Fires inputs cycle item candles candidate) :
    closeEpoch inputs candidate.symbol = some candidate.candleEpoch := by
  obtain ⟨symbol, epoch⟩ := candidateOf_signal fires.signalled
  simp only [TradingLab.closeEpoch, symbol, fires.fetched, Option.bind_some, epoch,
    List.getLast?_eq_some_getLast fires.nonempty, Option.map_some, Option.getD_some]

structure Consumes (inputs : CycleInputs φ) (cycle : Cycle) (candidate : Candidate) : Prop where
  fresh : cycle.trader.lastEvaluatedEpochs.get? candidate.symbol ≠ some candidate.candleEpoch
  unstuck : cycle.trader.stickyFailureReason = none
  unexposed : hasNonterminalIqOrder inputs = false
  consumed : (evaluateCycle inputs cycle).cycle.trader.lastEvaluatedEpochs =
    cycle.trader.lastEvaluatedEpochs.put candidate.symbol candidate.candleEpoch
  stuck : ¬ (dispatchResult inputs candidate).Harmless →
    (evaluateCycle inputs cycle).cycle.trader.stickyFailureReason.isSome

theorem refusal_eq_none {trader : IqOptionAutoTrader}
    (admitted : refusal inputs candidate trader = none) :
    trader.stickyFailureReason = none ∧
      trader.lastEvaluatedEpochs.get? candidate.symbol ≠ some candidate.candleEpoch ∧
      hasNonterminalIqOrder inputs = false := by
  unfold refusal at admitted
  cases stuck : trader.stickyFailureReason with
  | some reason => simp [stuck] at admitted
  | none =>
    simp only [stuck] at admitted
    split at admitted
    · cases admitted
    rename_i fresh
    split at admitted
    · cases admitted
    · rename_i unexposed
      exact ⟨rfl, fresh, by simpa using unexposed⟩

theorem Fires.consumes (fires : Fires inputs cycle item candles candidate) :
    Consumes inputs cycle candidate := by
  obtain ⟨unstuck, fresh, unexposed⟩ := refusal_eq_none fires.admitted
  obtain ⟨budget, evaluated⟩ := fires.evaluateCycle_eq
  -- The refusal reads nothing that the scan has touched.
  obtain ⟨consumed, stuck⟩ := dispatchCandidate_memory
    (scannedCycle { cycle with trader := { cycle.trader with scanCursor :=
      (symbolsForCycle inputs cycle.trader).2 } } item.1 budget) fires.admitted
  exact ⟨fresh, unstuck, unexposed, by rw [evaluated, consumed]; rfl,
    by rw [evaluated]; exact stuck⟩

theorem signalOf_eq (fires : Fires inputs cycle item candles candidate)
    (made : orderRequestFor inputs candidate = .ok request) :
    signalOf inputs request = (candidate.symbol, some candidate.candleEpoch) := by
  rw [signalOf, (fields_of_request made).1, fires.closeEpoch]

end Cycle

/-! ### What a run remembers -/

theorem notifyOrderEvent_dispatchView (config : IqOptionRiskConfig) (clock : ℚ)
    (event : BrokerOrderEvent) (answer : BrokerEventApplyResult) (trader : IqOptionAutoTrader) :
    (notifyOrderEvent config clock event answer trader).lastEvaluatedEpochs =
        trader.lastEvaluatedEpochs ∧
      (notifyOrderEvent config clock event answer trader).stickyFailureReason =
        trader.stickyFailureReason := by
  unfold notifyOrderEvent
  split
  · exact ⟨rfl, rfl⟩
  split
  · exact ⟨rfl, rfl⟩
  split <;> exact ⟨rfl, rfl⟩

theorem sticky_step (cycle : Cycle) (step : ArmedStep φ)
    (stuck : cycle.trader.stickyFailureReason.isSome) :
    (step.apply cycle).trader.stickyFailureReason.isSome := by
  cases step with
  | brokerEvent config clock event answer =>
    rw [ArmedStep.apply, (notifyOrderEvent_dispatchView config clock event answer _).2]
    exact stuck
  | evaluate inputs =>
    rcases evaluateCycle_cases inputs.toCycleInputs cycle with ⟨_, _, _, fires⟩ | ⟨-, same⟩
    · simp [fires.consumes.unstuck] at stuck
    · have kept : (evaluateCycle inputs.toCycleInputs cycle).cycle.trader.stickyFailureReason =
          cycle.trader.stickyFailureReason := congrArg (·.1) same
      rw [ArmedStep.apply, kept]
      exact stuck

/-- The signals that are remembered move forward only. -/
def EpochsAdvance (before after : Cycle) : Prop :=
  ∀ symbol last, before.trader.lastEvaluatedEpochs.get? symbol = some last →
    ∃ epoch, after.trader.lastEvaluatedEpochs.get? symbol = some epoch ∧ last ≤ epoch

theorem EpochsAdvance.refl (cycle : Cycle) : EpochsAdvance cycle cycle :=
  fun _ last known => ⟨last, known, le_rfl⟩

theorem EpochsAdvance.trans {a b c : Cycle} (first : EpochsAdvance a b) (second : EpochsAdvance b c) :
    EpochsAdvance a c := by
  intro symbol last known
  obtain ⟨middle, then_, le⟩ := first symbol last known
  obtain ⟨epoch, finally_, le'⟩ := second symbol middle then_
  exact ⟨epoch, finally_, le.trans le'⟩

theorem epochsAdvance_of_eq {before after : Cycle}
    (same : after.trader.lastEvaluatedEpochs = before.trader.lastEvaluatedEpochs) :
    EpochsAdvance before after := by
  intro symbol last known
  exact ⟨last, by rw [same]; exact known, le_rfl⟩

theorem Fires.notBehind {inputs : StoredInputs φ} {cycle : Cycle} {item : String × String}
    {candles : List MarketCandle} {candidate : Candidate} {last : Int}
    (fires : Fires inputs.toCycleInputs cycle item candles candidate)
    (forward : NotBack cycle (.evaluate inputs))
    (known : cycle.trader.lastEvaluatedEpochs.get? candidate.symbol = some last) :
    last ≤ candidate.candleEpoch := by
  have named := (candidateOf_signal fires.signalled).1
  refine forward item (by rw [fires.chosen]; exact List.mem_singleton_self item) last _ ?_ ?_
  · rw [← named]
    exact known
  · rw [← named]
    exact fires.closeEpoch

theorem epochsAdvance_step (cycle : Cycle) (step : ArmedStep φ) (forward : NotBack cycle step) :
    EpochsAdvance cycle (step.apply cycle) := by
  cases step with
  | brokerEvent config clock event answer =>
    exact epochsAdvance_of_eq (notifyOrderEvent_dispatchView config clock event answer _).1
  | evaluate inputs =>
    rcases evaluateCycle_cases inputs.toCycleInputs cycle with ⟨_, _, _, fires⟩ | ⟨-, same⟩
    · intro symbol last known
      rw [ArmedStep.apply, fires.consumes.consumed, Dict.get?_put]
      split
      · rename_i here
        -- The signal of this symbol is replaced by one that is not behind it.
        exact ⟨_, rfl, fires.notBehind forward (by rw [← here]; exact known)⟩
      · exact ⟨last, known, le_rfl⟩
    · exact epochsAdvance_of_eq (congrArg (·.2.1) same)

/-! ### The discipline -/

section Run
variable {start : Cycle} {earlier between : List (ArmedStep φ)} {first second : StoredInputs φ}
  {one other : OrderRequest} {cycle : Cycle}

theorem unexposed_of_submitted {inputs : StoredInputs φ}
    (submitted : (evaluateCycle inputs.toCycleInputs cycle).submitted = some one) :
    ∀ row ∈ inputs.orders, row.1 = .iqOption → row.2 ∉ exposureStates := by
  obtain ⟨_, _, _, fires, -⟩ := submitted_iff.mp submitted
  intro row member broker exposed
  -- A settled or rejected order is in no state of exposure, so the reader lists this one.
  have live : row.2 ≠ .settled ∧ row.2 ≠ .rejected := by
    constructor <;> intro ended <;> rw [ended] at exposed <;> revert exposed <;> decide
  have seen : hasNonterminalIqOrder inputs.toCycleInputs = true := by
    rw [hasNonterminalIqOrder, inputs.listed, List.any_eq_true]
    exact ⟨row, List.mem_filter.mpr ⟨member, by simpa using live⟩, by simp [broker, exposed]⟩
  rw [fires.consumes.unexposed] at seen
  cases seen

theorem harmless_of_submitted {item : String × String} {candles : List MarketCandle}
    {candidate : Candidate} (fires : Fires first.toCycleInputs cycle item candles candidate)
    (submitted : (evaluateCycle second.toCycleInputs
      (run ArmedStep.apply (ArmedStep.apply cycle (.evaluate first)) between)).submitted =
        some one) :
    (dispatchResult first.toCycleInputs candidate).Harmless := by
  by_contra failed
  obtain ⟨_, _, _, later, -⟩ := submitted_iff.mp submitted
  have stuck := run_invariant (fun cycle : Cycle => cycle.trader.stickyFailureReason.isSome = true)
    sticky_step (fires.consumes.stuck failed) between
  have unstuck := later.consumes.unstuck
  rw [ArmedStep.apply] at unstuck
  simp [unstuck] at stuck

theorem signals_differ
    (forward : Guarded ArmedStep.apply NotBack (ArmedStep.apply cycle (.evaluate first))
      (between ++ [.evaluate second]))
    (before : (evaluateCycle first.toCycleInputs cycle).submitted = some one)
    (after : (evaluateCycle second.toCycleInputs
      (run ArmedStep.apply (ArmedStep.apply cycle (.evaluate first)) between)).submitted =
        some other) :
    signalOf first.toCycleInputs one ≠ signalOf second.toCycleInputs other := by
  obtain ⟨on_the_way, here, -⟩ := guarded_append.mp forward
  obtain ⟨_, _, candidate, fires, made⟩ := submitted_iff.mp before
  obtain ⟨item, _, candidate', fires', made'⟩ := submitted_iff.mp after
  have consumed : (evaluateCycle first.toCycleInputs cycle).cycle.trader.lastEvaluatedEpochs.get?
      candidate.symbol = some candidate.candleEpoch := by
    rw [fires.consumes.consumed, Dict.get?_put, if_pos rfl]
  obtain ⟨last, remembered, le⟩ := guarded_rel EpochsAdvance EpochsAdvance.refl EpochsAdvance.trans epochsAdvance_step
    on_the_way _ _ consumed
  rw [signalOf_eq fires made, signalOf_eq fires' made', Ne, Prod.mk.injEq, Option.some.injEq]
  rintro ⟨symbol, epoch⟩
  rw [symbol] at remembered
  -- The signal remembered is neither behind the new one nor equal to it.
  have forth := fires'.notBehind here remembered
  exact fires'.consumes.fresh (by rw [remembered, le_antisymm forth (epoch ▸ le)])

end Run

/-- Where the histories do not step back behind the signals that were consumed last, the
    discipline holds from one `begin_new_run` to the next. -/
theorem dispatch_disciplined (trader : IqOptionAutoTrader) (gate : HealthGate)
    (steps : List (ArmedStep φ))
    (forward : Guarded ArmedStep.apply NotBack ⟨beginNewRun trader, gate⟩ steps) :
    Disciplined ⟨beginNewRun trader, gate⟩ steps := by
  constructor
  · rintro earlier first between second one other ⟨later, rfl⟩ before after
    rw [run_append, run_cons] at after
    exact signals_differ (guarded_append.mp (guarded_append.mp forward).1).2.2 before after
  · rintro earlier inputs request - submitted
    exact unexposed_of_submitted submitted
  · rintro earlier first between second item candles candidate request - fires submitted
    rw [run_append, run_cons] at submitted
    exact harmless_of_submitted fires submitted

namespace Sample

def quarterInputs (minute : Nat) : StoredInputs Unit where
  toCycleInputs := { otcInputs with
    history := fun _ => some ((List.range 15).map fun k => flatCandle (minute + k)) }
  orders := [(.iqOption, .settled)]
  listed := rfl

end Sample

theorem moving_history_disciplined : Disciplined ⟨beginNewRun {}, {}⟩
    [.evaluate (Sample.quarterInputs 0), .evaluate (Sample.quarterInputs 1)] := by
  refine dispatch_disciplined {} {} _ ⟨?_, ?_, trivial⟩
  · intro item _ last epoch known
    cases known
  · intro item member last epoch known closed
    have chosen : (symbolsForCycle (Sample.quarterInputs 1).toCycleInputs (ArmedStep.apply
        ⟨beginNewRun {}, {}⟩ (.evaluate (Sample.quarterInputs 0))).trader).1 =
          [("EURUSD-OTC", "EUR/USD OTC")] := by decide +kernel
    rw [chosen] at member
    obtain rfl := List.mem_singleton.mp member
    have before : (ArmedStep.apply ⟨beginNewRun {}, {}⟩
        (.evaluate (Sample.quarterInputs 0))).trader.lastEvaluatedEpochs =
          [("EURUSD-OTC", 900)] := by decide +kernel
    have now : closeEpoch (Sample.quarterInputs 1).toCycleInputs "EURUSD-OTC" = some 960 := by
      decide
    obtain rfl : 900 = last :=
      Option.some.inj ((congrArg (·.get? "EURUSD-OTC") before).symm.trans known)
    obtain rfl : 960 = epoch := Option.some.inj (now.symm.trans closed)
    decide

/-- A history that steps back by a minute has the order of its last candle submitted again. -/
theorem stepping_back_submits_again : ¬ Disciplined ⟨beginNewRun {}, {}⟩
    [.evaluate (Sample.quarterInputs 0), .evaluate (Sample.quarterInputs 1),
      .evaluate (Sample.quarterInputs 0)] := by
  intro disciplined
  have first : ((evaluateCycle (Sample.quarterInputs 0).toCycleInputs
      ⟨beginNewRun {}, {}⟩).submitted.map fun request => request.symbol) = some "EURUSD-OTC" := by
    decide +kernel
  have third : ((evaluateCycle (Sample.quarterInputs 0).toCycleInputs (run ArmedStep.apply
      ⟨beginNewRun {}, {}⟩ [.evaluate (Sample.quarterInputs 0),
        .evaluate (Sample.quarterInputs 1)])).submitted.map fun request => request.symbol) =
      some "EURUSD-OTC" := by decide +kernel
  obtain ⟨one, submitted, symbol⟩ := Option.map_eq_some_iff.mp first
  obtain ⟨other, again, same⟩ := Option.map_eq_some_iff.mp third
  refine disciplined.once [] _ [.evaluate (Sample.quarterInputs 1)] _ one other
    (List.prefix_refl _) submitted again ?_
  rw [signalOf, signalOf, symbol, same]

end TradingLab

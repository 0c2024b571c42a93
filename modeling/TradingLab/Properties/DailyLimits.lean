import TradingLab.Numeric.Scaled
import TradingLab.Properties.CatalogGates
import TradingLab.Properties.Settlements

/-!
# The daily limits of the IQ Option trader

The counters behind the daily limits live in memory, know no date and are fed by broker events only.
So a restart forgets the day, a settlement that reconciliation finds is never counted, and a trader
that runs past midnight carries its results over. Otherwise the counters refine the record of the
day (`DayCounted`).
-/
namespace TradingLab

open Relational Machine Decimal

variable {φ : Type} {trader : IqOptionAutoTrader} {inputs : CycleInputs φ}
  {config : IqOptionRiskConfig}

def utcDay (moment : Instant) : Int := moment / 86400000000

inductive DayItem
  /-- An order was submitted that ends in a state in which it may move money. -/
  | trade
  /-- An order was settled with a result, in minor units. -/
  | result (minor : Int)
deriving DecidableEq

def DayItem.result? : DayItem → Option Int
  | .trade => none
  | .result minor => some minor

/-- What has happened on each day, newest first. -/
abbrev TradingHistory := List (Int × DayItem)

namespace TradingHistory

variable (history : TradingHistory)

def trades (day : Int) : Nat :=
  history.count (day, .trade)

def results (day : Int) : List Int :=
  history.filterMap fun entry => if entry.1 = day then entry.2.result? else none

def profitLoss (day : Int) : Int :=
  (history.results day).sum

def losses (day : Int) : Nat :=
  ((history.results day).takeWhile (· < 0)).length

def Blank (day : Int) : Prop :=
  ∀ entry ∈ history, entry.1 ≠ day

end TradingHistory

/-! ### Runs of the trader -/

def countedStates : List OrderState :=
  [.accepted, .opened, .settled, .unknown, .reconciling, .settlementUnknown]

def isCounted (state : Option OrderState) : Bool :=
  state.any countedStates.contains

/-- The result that an event realises: the one of an order of IQ Option that it has settled. -/
def realisedResult (event : BrokerOrderEvent) (answer : BrokerEventApplyResult) : Option Int :=
  if event.broker = .iqOption ∧ answer.settles then event.resultMinor else none

inductive TraderStep (φ : Type)
  /-- A cycle, and the state in which the order that it submits ends. -/
  | cycle (inputs : CycleInputs φ) (ends : Option OrderState)
  | brokerEvent (moment : Instant) (clock : ℚ) (event : BrokerOrderEvent)
    (answer : BrokerEventApplyResult)
  | reconciled (moment : Instant) (minor : Int)
  | arm (moment : Instant)
  | restart (moment : Instant)

def TraderStep.day : TraderStep φ → Int
  | .cycle inputs _ => utcDay inputs.now
  | .brokerEvent moment .. | .reconciled moment _ | .arm moment | .restart moment => utcDay moment

/-- The trader, the day of its last step, and what has happened on each day. -/
structure TraderRun where
  cycle : Cycle := ⟨{}, {}⟩
  day : Int
  history : TradingHistory := []

def TraderStep.recorded (run : TraderRun) : TraderStep φ → Option DayItem
  | .cycle inputs ends =>
    if (evaluateCycle inputs run.cycle).submitted.isSome && isCounted ends then some .trade else
      none
  | .brokerEvent _ _ event answer => (realisedResult event answer).map .result
  | .reconciled _ minor => some (.result minor)
  | .arm _ | .restart _ => none

/-- What a step does to the trader: reconciliation tells it nothing, a restart builds it anew. -/
def TraderStep.effect (config : IqOptionRiskConfig) (cycle : Cycle) : TraderStep φ → Cycle
  | .cycle inputs _ => (evaluateCycle inputs cycle).cycle
  | .brokerEvent _ clock event answer =>
    { cycle with trader := notifyOrderEvent config clock event answer cycle.trader }
  | .reconciled .. => cycle
  | .arm _ => { cycle with trader := beginNewRun cycle.trader }
  | .restart _ => ⟨{}, {}⟩

def TraderRun.step (config : IqOptionRiskConfig) (run : TraderRun) (step : TraderStep φ) :
    TraderRun where
  cycle := step.effect config run.cycle
  day := step.day
  history := ((step.recorded run).toList.map fun item => (step.day, item)) ++ run.history

structure CycleLimited (config : IqOptionRiskConfig) (run : TraderRun) (inputs : CycleInputs φ) :
    Prop where
  submits : (evaluateCycle inputs run.cycle).submitted.isSome →
    -config.dailyStopLossMinorUnits < run.history.profitLoss (utcDay inputs.now) ∧
      run.history.profitLoss (utcDay inputs.now) < config.dailyTakeProfitMinorUnits ∧
      run.history.losses (utcDay inputs.now) < config.maxConsecutiveLosses
  /-- The results of other days do not count. -/
  stopLoss : riskBlockReason inputs run.cycle.trader = some "IQOPTION_STOP_LOSS_REACHED" →
    run.history.profitLoss (utcDay inputs.now) ≤ -config.dailyStopLossMinorUnits
  takeProfit : riskBlockReason inputs run.cycle.trader = some "IQOPTION_TAKE_PROFIT_REACHED" →
    config.dailyTakeProfitMinorUnits ≤ run.history.profitLoss (utcDay inputs.now)
  losses : riskBlockReason inputs run.cycle.trader =
      some "IQOPTION_CONSECUTIVE_LOSS_LIMIT_REACHED" →
    config.maxConsecutiveLosses ≤ run.history.losses (utcDay inputs.now)

structure LimitsKept (config : IqOptionRiskConfig) (start : TraderRun)
    (steps : List (TraderStep φ)) : Prop where
  trades : ∀ earlier, earlier <+: steps → ∀ day,
    (run (TraderRun.step config) start earlier).history.trades day ≤ config.maxDailyTrades
  cycles : ∀ earlier inputs ends, earlier ++ [.cycle inputs ends] <+: steps →
    CycleLimited config (run (TraderRun.step config) start earlier) inputs

def IqOptionAutoTrader.counters (trader : IqOptionAutoTrader) : Nat × Decimal × Nat :=
  (trader.dailyTradesCount, trader.dailyProfitLoss, trader.consecutiveLosses)

def EntersClean (run : TraderRun) (day : Int) : Prop :=
  day = run.day ∨
    run.history.Blank day ∧ run.cycle.trader.counters = ({} : IqOptionAutoTrader).counters

def CountsRight (run : TraderRun) : TraderStep φ → Prop
  | .cycle inputs ends => EntersClean run (utcDay inputs.now) ∧
    ∀ request, (evaluateCycle inputs run.cycle).submitted = some request → isCounted ends = true →
      isCounted (dispatchOrder (inputs.submit request)).state = true
  | .brokerEvent moment _ event answer => EntersClean run (utcDay moment) ∧
    ∀ minor, realisedResult event answer = some minor → minor.natAbs < 10 ^ decimalPrecision ∧
      (run.history.profitLoss (utcDay moment) + minor).natAbs < 10 ^ decimalPrecision
  | .reconciled .. => False
  | .arm moment => EntersClean run (utcDay moment)
  | .restart moment => run.history.Blank (utcDay moment)

/-! ### What a cycle counts -/

section Cycle
variable (inputs : CycleInputs φ)

theorem isCounted_iff (result : DispatchResult) : isCounted result.state = true ↔
    result.financiallyAccepted = true ∨ (result.state = some .unknown ∨
      result.state = some .reconciling ∨ result.state = some .settlementUnknown) := by
  unfold DispatchResult.financiallyAccepted isCounted countedStates
  cases result.state with
  | none => simp
  | some state => cases state <;> decide

theorem afterDispatch_counters (candidate : Candidate) (result : DispatchResult)
    (trader : IqOptionAutoTrader) :
    (afterDispatch inputs candidate result trader).counters =
      (trader.dailyTradesCount + (isCounted result.state).toNat, trader.dailyProfitLoss,
        trader.consecutiveLosses) := by
  have counts := isCounted_iff result
  unfold afterDispatch
  split
  · rename_i accepted
    rw [counts.mpr (.inl accepted)]
    rfl
  split
  · rename_i ambiguous
    rw [counts.mpr (.inr ambiguous)]
    rfl
  · rename_i rejected certain
    have uncounted : isCounted result.state = false := by
      rw [Bool.eq_false_iff, Ne, counts]
      exact fun counted => counted.elim rejected certain
    rw [uncounted]
    split <;> rfl

theorem dispatchCandidate_counters (candidate : Candidate) (cycle : Cycle) :
    (dispatchCandidate inputs candidate cycle).cycle.trader.counters =
      (cycle.trader.dailyTradesCount + ((dispatchCandidate inputs candidate cycle).submitted.any
          fun request => isCounted (dispatchOrder (inputs.submit request)).state).toNat,
        cycle.trader.dailyProfitLoss, cycle.trader.consecutiveLosses) := by
  simp only [dispatchCandidate]
  split
  · rfl
  split
  · exact afterDispatch_counters inputs candidate _ _
  · exact afterDispatch_counters inputs candidate _ _

theorem evaluateCycle_counters (cycle : Cycle) :
    (evaluateCycle inputs cycle).cycle.trader.counters =
      (cycle.trader.dailyTradesCount + ((evaluateCycle inputs cycle).submitted.any fun request =>
          isCounted (dispatchOrder (inputs.submit request)).state).toNat,
        cycle.trader.dailyProfitLoss, cycle.trader.consecutiveLosses) := by
  rcases evaluateCycle_cases inputs cycle with ⟨item, candles, candidate, fires⟩ | ⟨nothing, same⟩
  · -- The scan touches none of the counters.
    obtain ⟨budget, evaluated⟩ := fires.evaluateCycle_eq
    rw [evaluated, dispatchCandidate_counters]
    rfl
  · rw [nothing]
    exact congrArg (·.2.2) same

end Cycle

namespace TradingHistory

variable {history : TradingHistory} {day : Int}

theorem trades_cons_trade : trades ((day, .trade) :: history) day = history.trades day + 1 :=
  List.count_cons_self

theorem trades_cons_of_ne {entry : Int × DayItem} (other : entry ≠ (day, .trade)) :
    trades (entry :: history) day = history.trades day :=
  List.count_cons_of_ne other

theorem results_cons_result (minor : Int) :
    results ((day, .result minor) :: history) day = minor :: history.results day := by
  simp [results, DayItem.result?]

theorem results_cons_trade (other : Int) :
    results ((other, .trade) :: history) day = history.results day := by
  simp [results, DayItem.result?]

theorem Blank.figures (blank : history.Blank day) :
    history.trades day = 0 ∧ history.results day = [] := by
  constructor
  · exact List.count_eq_zero.mpr fun member => blank _ member rfl
  · refine List.filterMap_eq_nil_iff.mpr fun entry member => ?_
    rw [if_neg (blank entry member)]

end TradingHistory

/-! ### The counters of the day -/

/-- The counters are those of the record: nothing that may have moved money is missing among
    the trades, and the results are counted exactly. -/
structure DayCounted (counters : Nat × Decimal × Nat) (history : TradingHistory) (day : Int) :
    Prop where
  trades : history.trades day ≤ counters.1
  profitLoss : IsScaled 2 counters.2.1 (history.profitLoss day)
  losses : counters.2.2 = history.losses day

theorem DayCounted.initial {history : TradingHistory} {day : Int} (blank : history.Blank day) :
    DayCounted ({} : IqOptionAutoTrader).counters history day := by
  obtain ⟨trades, results⟩ := blank.figures
  constructor
  · rw [trades]
    exact Nat.zero_le _
  · rw [TradingHistory.profitLoss, results]
    exact ⟨_, _, _, rfl, by decide, by decide, rfl⟩
  · rw [TradingHistory.losses, results]
    rfl

theorem EntersClean.counted {run : TraderRun} {day : Int} (enters : EntersClean run day)
    (counted : DayCounted run.cycle.trader.counters run.history run.day) :
    DayCounted run.cycle.trader.counters run.history day := by
  rcases enters with same | ⟨blank, fresh⟩
  · rw [same]
    exact counted
  · rw [fresh]
    exact .initial blank

theorem IqOptionRiskConfig.limits_small (config : IqOptionRiskConfig) :
    (-config.dailyStopLossMinorUnits).natAbs < 10 ^ decimalPrecision ∧
      config.dailyTakeProfitMinorUnits.natAbs < 10 ^ decimalPrecision := by
  have valid := config.valid
  simp only [IqOptionRiskConfigFields.postInit, Except.bind_ok_iff, check_eq_ok] at valid
  obtain ⟨-, -, -, -, -, -, -, -, -, stake, -, daily, -⟩ := valid
  have stop := daily config.dailyStopLossMinorUnits List.mem_cons_self
  have take := daily config.dailyTakeProfitMinorUnits (by simp)
  unfold decimalPrecision
  omega

theorem DayCounted.riskBlockReason_eq {history : TradingHistory}
    {day : Int} (counted : DayCounted trader.counters history day) (inputs : CycleInputs φ) :
    riskBlockReason inputs trader =
      if inputs.config.maxDailyTrades ≤ trader.dailyTradesCount then
        some "IQOPTION_MAX_TRADES_REACHED"
      else if history.profitLoss day ≤ -inputs.config.dailyStopLossMinorUnits then
        some "IQOPTION_STOP_LOSS_REACHED"
      else if inputs.config.dailyTakeProfitMinorUnits ≤ history.profitLoss day then
        some "IQOPTION_TAKE_PROFIT_REACHED"
      else if inputs.config.maxConsecutiveLosses ≤ history.losses day then
        some "IQOPTION_CONSECUTIVE_LOSS_LIMIT_REACHED"
      else if 0 < trader.cooldownUntil - inputs.clock .cooldown then
        some ("IQOPTION_LOSS_COOLDOWN (" ++
          secondsText (trader.cooldownUntil - inputs.clock .cooldown) ++ "s)")
      else none := by
  obtain ⟨stopSmall, takeSmall⟩ := inputs.config.limits_small
  have stop : IsScaled 2 (stakeOf (-inputs.config.dailyStopLossMinorUnits)) _ :=
    ofScaled_isScaled (by decide) stopSmall
  have take : IsScaled 2 (stakeOf inputs.config.dailyTakeProfitMinorUnits) _ :=
    ofScaled_isScaled (by decide) takeSmall
  have profitLoss : IsScaled 2 trader.dailyProfitLoss (history.profitLoss day) := counted.profitLoss
  have losses : trader.consecutiveLosses = history.losses day := counted.losses
  simp only [riskBlockReason, greater_isScaled profitLoss stop, less_isScaled profitLoss take,
    losses,
    ne_eq, Option.some.injEq, decide_eq_true_eq, not_lt]

theorem riskBlockReason_of_admitted {candidate : Candidate}
    (admitted : refusal inputs candidate trader = none) :
    riskBlockReason inputs trader = none := by
  unfold refusal at admitted
  split at admitted
  · cases admitted
  split at admitted
  · cases admitted
  split at admitted
  · cases admitted
  · exact admitted

theorem cooldown_ne_limit (seconds : String) :
    "IQOPTION_LOSS_COOLDOWN (" ++ seconds ++ "s)" ≠ "IQOPTION_STOP_LOSS_REACHED" ∧
      "IQOPTION_LOSS_COOLDOWN (" ++ seconds ++ "s)" ≠ "IQOPTION_TAKE_PROFIT_REACHED" ∧
      "IQOPTION_LOSS_COOLDOWN (" ++ seconds ++ "s)" ≠
        "IQOPTION_CONSECUTIVE_LOSS_LIMIT_REACHED" := by
  refine ⟨?_, ?_, ?_⟩ <;>
  · intro same
    have chars := congrArg String.toList same
    simp at chars

theorem DayCounted.limited {run : TraderRun} (fixed : inputs.config = config)
    (counted : DayCounted run.cycle.trader.counters run.history (utcDay inputs.now)) :
    CycleLimited config run inputs := by
  have verdict := counted.riskBlockReason_eq inputs
  rw [fixed] at verdict
  obtain ⟨stop, take, streak⟩ := cooldown_ne_limit
    (secondsText (run.cycle.trader.cooldownUntil - inputs.clock .cooldown))
  constructor
  · intro submitted
    obtain ⟨request, submitted⟩ := Option.isSome_iff_exists.mp submitted
    obtain ⟨item, candles, candidate, fires, -⟩ := submitted_iff.mp submitted
    rw [riskBlockReason_of_admitted fires.admitted] at verdict
    split_ifs at verdict
    omega
  all_goals
    intro blocked
    rw [blocked] at verdict
    split_ifs at verdict <;> simp_all

/-! ### What a step keeps -/

theorem notifyOrderEvent_counters (config : IqOptionRiskConfig) (clock : ℚ)
    (event : BrokerOrderEvent) (answer : BrokerEventApplyResult) (trader : IqOptionAutoTrader) :
    (notifyOrderEvent config clock event answer trader).counters =
      ((realisedResult event answer).map fun minor => (trader.dailyTradesCount,
        (Decimal.add decimalPrecision trader.dailyProfitLoss (stakeOf minor)).getD .nan,
        if minor < 0 then trader.consecutiveLosses + 1 else 0)).getD trader.counters := by
  unfold notifyOrderEvent realisedResult
  by_cases realises : event.broker = .iqOption ∧ answer.settles
  · have heard : ¬ (event.broker ≠ .iqOption ∨
        (answer.status ≠ .applied ∧ answer.status ≠ .appliedWithGap) ∨
        answer.orderState ≠ some .settled) := by
      have settles := realises.2
      unfold BrokerEventApplyResult.settles at settles
      tauto
    rw [if_pos realises, if_neg heard]
    cases event.resultMinor with
    | none => rfl
    | some minor => by_cases loss : minor < 0 <;> simp [loss, IqOptionAutoTrader.counters]
  · have ignored : event.broker ≠ .iqOption ∨
        (answer.status ≠ .applied ∧ answer.status ≠ .appliedWithGap) ∨
        answer.orderState ≠ some .settled := by
      unfold BrokerEventApplyResult.settles at realises
      tauto
    rw [if_neg realises, if_pos ignored]
    rfl

theorem TradingHistory.losses_cons_result (history : TradingHistory) (day minor : Int) :
    losses ((day, .result minor) :: history) day = if minor < 0 then history.losses day + 1 else
      0 := by
  unfold losses
  rw [results_cons_result, List.takeWhile_cons]
  by_cases loss : minor < 0 <;> simp [loss]

section Entry
variable {trades losses : Nat} {profitLoss : Decimal} {history : TradingHistory} {day : Int}

section

variable (counted : DayCounted (trades, profitLoss, losses) history day)
include counted

theorem DayCounted.more (count : Nat) :
    DayCounted (trades + count, profitLoss, losses) history day :=
  ⟨counted.trades.trans (Nat.le_add_right trades count), counted.profitLoss, counted.losses⟩

theorem DayCounted.trade :
    DayCounted (trades + 1, profitLoss, losses) ((day, .trade) :: history) day := by
  have results : TradingHistory.results ((day, .trade) :: history) day = history.results day :=
    TradingHistory.results_cons_trade day
  constructor
  · rw [TradingHistory.trades_cons_trade]
    exact Nat.add_le_add_right counted.trades 1
  · rw [TradingHistory.profitLoss, results]
    exact counted.profitLoss
  · rw [TradingHistory.losses, results]
    exact counted.losses

theorem DayCounted.result {minor : Int} (minorSmall : minor.natAbs < 10 ^ decimalPrecision)
    (sumSmall : (history.profitLoss day + minor).natAbs < 10 ^ decimalPrecision) :
    DayCounted (trades, (Decimal.add decimalPrecision profitLoss (stakeOf minor)).getD .nan,
      if minor < 0 then losses + 1 else 0) ((day, .result minor) :: history) day := by
  constructor
  · rw [TradingHistory.trades_cons_of_ne (by simp)]
    exact counted.trades
  · have stake : IsScaled 2 (stakeOf minor) minor := ofScaled_isScaled (by decide) minorSmall
    obtain ⟨sum, added, scaled⟩ := add_isScaled (by decide) counted.profitLoss stake sumSmall
    have total : TradingHistory.profitLoss ((day, .result minor) :: history) day =
        history.profitLoss day + minor := by
      rw [TradingHistory.profitLoss, TradingHistory.results_cons_result, List.sum_cons, add_comm,
        TradingHistory.profitLoss]
    rw [total, added]
    exact scaled
  · have same : losses = history.losses day := counted.losses
    rw [TradingHistory.losses_cons_result, same]

end

end Entry

theorem DayCounted.cycle {run : TraderRun} {ends : Option OrderState}
    (counted : DayCounted run.cycle.trader.counters run.history (utcDay inputs.now))
    (follows : ∀ request, (evaluateCycle inputs run.cycle).submitted = some request →
      isCounted ends = true → isCounted (dispatchOrder (inputs.submit request)).state = true)
    (config : IqOptionRiskConfig) :
    DayCounted (run.step config (.cycle inputs ends)).cycle.trader.counters
      (run.step config (.cycle inputs ends)).history (utcDay inputs.now) := by
  simp only [TraderRun.step, TraderStep.effect, TraderStep.recorded, TraderStep.day,
    evaluateCycle_counters inputs run.cycle]
  cases submitted : (evaluateCycle inputs run.cycle).submitted with
  | none => exact counted
  | some request =>
    cases moved : isCounted ends with
    | false => exact counted.more _
    | true =>
      rw [Option.any_some, follows request submitted moved]
      exact counted.trade

theorem DayCounted.brokerEvent {run : TraderRun} {moment : Instant} {event : BrokerOrderEvent}
    {answer : BrokerEventApplyResult}
    (counted : DayCounted run.cycle.trader.counters run.history (utcDay moment))
    (small : ∀ minor, realisedResult event answer = some minor →
      minor.natAbs < 10 ^ decimalPrecision ∧
        (run.history.profitLoss (utcDay moment) + minor).natAbs < 10 ^ decimalPrecision)
    (config : IqOptionRiskConfig) (clock : ℚ) :
    DayCounted
      (run.step (φ := φ) config (.brokerEvent moment clock event answer)).cycle.trader.counters
      (run.step (φ := φ) config (.brokerEvent moment clock event answer)).history
      (utcDay moment) := by
  simp only [TraderRun.step, TraderStep.effect, TraderStep.recorded, TraderStep.day,
    notifyOrderEvent_counters]
  cases realised : realisedResult event answer with
  | none => exact counted
  | some minor =>
    obtain ⟨minorSmall, sumSmall⟩ := small minor realised
    exact counted.result minorSmall sumSmall

theorem DayCounted.step {run : TraderRun} {step : TraderStep φ}
    (counted : DayCounted run.cycle.trader.counters run.history run.day)
    (right : CountsRight run step) :
    DayCounted (run.step config step).cycle.trader.counters (run.step config step).history
      (run.step config step).day := by
  cases step with
  | cycle inputs ends => exact (right.1.counted counted).cycle right.2 config
  | brokerEvent moment clock event answer =>
    exact (right.1.counted counted).brokerEvent right.2 config clock
  | reconciled moment minor => exact right.elim
  | arm moment => exact right.counted counted
  | restart moment => exact .initial right

theorem trades_lt_of_submitted {run : TraderRun} {day : Int}
    (counted : DayCounted run.cycle.trader.counters run.history day)
    (submitted : (evaluateCycle inputs run.cycle).submitted.isSome) :
    (run.history.trades day : Int) < inputs.config.maxDailyTrades := by
  obtain ⟨request, submitted⟩ := Option.isSome_iff_exists.mp submitted
  obtain ⟨item, candles, candidate, fires, -⟩ := submitted_iff.mp submitted
  have admitted := riskBlockReason_of_admitted fires.admitted
  have listed : run.history.trades day ≤ run.cycle.trader.dailyTradesCount := counted.trades
  simp only [riskBlockReason] at admitted
  split at admitted
  · cases admitted
  · omega

theorem trades_step {run : TraderRun} {step : TraderStep φ}
    (fixed : ∀ inputs ends, step = .cycle inputs ends → inputs.config = config)
    (counted : DayCounted run.cycle.trader.counters run.history run.day)
    (right : CountsRight run step) {day : Int}
    (within : run.history.trades day ≤ config.maxDailyTrades) :
    (run.step config step).history.trades day ≤ config.maxDailyTrades := by
  cases step with
  | cycle inputs ends =>
    simp only [TraderRun.step, TraderStep.recorded, TraderStep.day]
    split
    · rename_i submits
      by_cases today : utcDay inputs.now = day
      · have fits := trades_lt_of_submitted (right.1.counted counted)
          (Bool.and_eq_true_iff.mp submits).1
        rw [fixed inputs ends rfl, today] at fits
        rw [today]
        change (TradingHistory.trades ((day, .trade) :: run.history) day : Int) ≤ _
        rw [TradingHistory.trades_cons_trade]
        push_cast
        omega
      · change (TradingHistory.trades ((utcDay inputs.now, .trade) :: run.history) day : Int) ≤ _
        rw [TradingHistory.trades_cons_of_ne (by simp [today])]
        exact within
    · exact within
  | brokerEvent moment clock event answer =>
    simp only [TraderRun.step, TraderStep.recorded, TraderStep.day]
    cases realisedResult event answer with
    | none => exact within
    | some minor =>
      change (TradingHistory.trades ((utcDay moment, .result minor) :: run.history) day : Int) ≤ _
      rw [TradingHistory.trades_cons_of_ne (by simp)]
      exact within
  | reconciled moment minor => exact right.elim
  | arm moment => exact within
  | restart moment => exact within

/-! ### The limits over a run -/

/-- The counters are those of the day, and no day has more trades than the limit. -/
structure KeepsLimits (config : IqOptionRiskConfig) (run : TraderRun) : Prop where
  counted : DayCounted run.cycle.trader.counters run.history run.day
  trades : ∀ day, run.history.trades day ≤ config.maxDailyTrades

theorem KeepsLimits.initial (config : IqOptionRiskConfig) (day : Int) :
    KeepsLimits config { day } := by
  refine ⟨.initial fun entry member => (List.not_mem_nil member).elim, fun day => ?_⟩
  have valid := config.valid
  simp only [IqOptionRiskConfigFields.postInit, Except.bind_ok_iff, check_eq_ok] at valid
  obtain ⟨-, -, -, -, -, -, -, -, -, -, -, -, -, -, -, -, -, limit, -⟩ := valid
  change (0 : Int) ≤ _
  omega

def FixedStep (config : IqOptionRiskConfig) (step : TraderStep φ) : Prop :=
  ∀ inputs ends, step = .cycle inputs ends → inputs.config = config

theorem KeepsLimits.run {day : Int} {steps : List (TraderStep φ)}
    (guarded : Guarded (TraderRun.step config)
      (fun run step => FixedStep config step ∧ CountsRight run step) { day } steps) :
    KeepsLimits config (run (TraderRun.step config) { day } steps) :=
  guarded_invariant (KeepsLimits config)
    (fun _ _ keeps right => ⟨keeps.counted.step right.2,
      fun day => trades_step right.1 keeps.counted right.2 (keeps.trades day)⟩)
    (.initial config day) guarded

/-- Where every day is entered with clean counters, every settlement comes as an event and no
    day is interrupted by a restart, the limits are kept. -/
theorem daily_limits_kept (config : IqOptionRiskConfig) (day : Int) (steps : List (TraderStep φ))
    (fixed : ∀ inputs ends, .cycle inputs ends ∈ steps → inputs.config = config)
    (guarded : Guarded (TraderRun.step config) CountsRight { day } steps) :
    LimitsKept config { day } steps := by
  have allFixed : ∀ step ∈ steps, FixedStep config step := by
    rintro step member inputs ends rfl
    exact fixed inputs ends member
  have right : Guarded (TraderRun.step config)
      (fun run step => FixedStep config step ∧ CountsRight run step) { day } steps :=
    (guarded_of_forall allFixed _).and guarded
  constructor
  · rintro earlier ⟨later, rfl⟩
    exact (KeepsLimits.run (guarded_append.mp right).1).trades
  · rintro earlier inputs ends ⟨later, rfl⟩
    obtain ⟨before, now, -⟩ := guarded_append.mp (guarded_append.mp right).1
    exact (now.2.1.counted (KeepsLimits.run before).counted).limited (now.1 inputs ends rfl)

namespace Sample

def oneTradeConfig : IqOptionRiskConfig :=
  ⟨{ strategyId := "f1:eurusd", maxDailyTrades := 1 }, rfl⟩

def oneTradeInputs : CycleInputs Unit :=
  { otcInputs with config := oneTradeConfig }

def practiceEventFields (minor : Int) : BrokerOrderEventFields :=
  hashed { eventFields "event-1" (some 1) .settled (some minor) with
    broker := .iqOption, accountId := practiceAccountId, product := "BINARY_OPTION"
    symbol := "EURUSD-OTC" }

def practiceWin : BrokerOrderEvent := ⟨practiceEventFields 80, by decide⟩

def practiceLoss : BrokerOrderEvent := ⟨practiceEventFields (-1000), by decide⟩

def settledAnswer : BrokerEventApplyResult := ⟨.applied, some .settled, none⟩

def wonTrade : List (TraderStep Unit) :=
  [.cycle oneTradeInputs (some .opened), .brokerEvent 1000000000 0 practiceWin settledAnswer]

theorem oneTradeInputs_submits :
    (evaluateCycle oneTradeInputs ⟨{}, {}⟩).submitted.isSome = true := by
  decide +kernel

end Sample

/-- After the trade of the day the next cycle submits nothing, and the limits are kept. -/
theorem won_trade_limits_kept : LimitsKept Sample.oneTradeConfig { day := 0 }
    (Sample.wonTrade ++ [.cycle Sample.oneTradeInputs none]) := by
  refine daily_limits_kept _ _ _ ?_ ⟨⟨.inl rfl, fun _ _ _ => rfl⟩, ⟨.inl rfl, ?_⟩,
    ⟨.inl rfl, fun _ _ moved => absurd moved (by decide)⟩, trivial⟩
  · intro inputs ends member
    simp only [Sample.wonTrade, List.cons_append, List.nil_append, List.mem_cons,
      TraderStep.cycle.injEq, reduceCtorEq, List.not_mem_nil, or_false, false_or] at member
    rcases member with ⟨rfl, -⟩ | ⟨rfl, -⟩ <;> rfl
  · -- The trade of the cycle is no result, so the day starts with the win.
    intro minor realised
    obtain rfl : 80 = minor := Option.some.inj realised
    have none_yet : (TraderRun.step Sample.oneTradeConfig { day := 0 }
        (.cycle Sample.oneTradeInputs (some .opened))).history.profitLoss 0 = 0 := by
      simp only [TraderRun.step, TraderStep.recorded, Sample.oneTradeInputs_submits]
      rfl
    exact ⟨by decide, by rw [show utcDay 1000000000 = 0 from rfl, none_yet]; decide⟩

/-- The limits are broken by a restart, by a loss that reconciliation finds, and by a loss of
    the day before. -/
theorem daily_limits_broken :
    (¬ LimitsKept Sample.oneTradeConfig { day := 0 }
      (Sample.wonTrade ++ [.restart 1100000000, .cycle Sample.oneTradeInputs (some .opened)])) ∧
    (¬ LimitsKept (φ := Unit) Sample.oneTradeConfig { day := 0 }
      [.reconciled 0 (-1000), .cycle Sample.oneTradeInputs (some .opened)]) ∧
    ¬ LimitsKept Sample.oneTradeConfig { day := -1 }
      [.brokerEvent (-1) 0 Sample.practiceLoss Sample.settledAnswer,
        .cycle Sample.oneTradeInputs none] := by
  refine ⟨?_, ?_, ?_⟩
  · intro kept
    have trades := kept.trades _ (List.prefix_refl _) 0
    revert trades
    decide +kernel
  · intro kept
    have limited := kept.cycles [_] Sample.oneTradeInputs _ (List.prefix_refl _)
    have stop := (limited.submits Sample.oneTradeInputs_submits).1
    revert stop
    decide
  · intro kept
    have limited := kept.cycles [_] Sample.oneTradeInputs _ (List.prefix_refl _)
    have stop := limited.stopLoss (by decide)
    revert stop
    decide

end TradingLab

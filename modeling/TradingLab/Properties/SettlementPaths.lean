import TradingLab.Properties.Delivery

/-!
# Two ways to settle

A settlement reaches `state.db` through a broker event or through the evidence of a status query,
in two transactions written independently.
-/
namespace TradingLab

open Relational
open Database

/-- The values of the digit row, without its policy, its timestamps and its references. -/
structure DigitProgress where
  dailyPnlMinor : Int
  consecutiveLosses : Int
  martingaleStep : Int
  pinnedSymbol : Option String
  cumulativeSequenceLossMinor : Int
deriving DecidableEq

def DigitRiskRuntimeFields.progress (r : DigitRiskRuntimeFields) : DigitProgress :=
  ⟨r.dailyPnlMinor, r.consecutiveLosses, r.martingaleStep, r.pinnedSymbol,
    r.cumulativeSequenceLossMinor⟩

structure SettlementView where
  exposure : Option Exposure
  outbox : Option OutboxState
  digit : Option DigitProgress
deriving DecidableEq

def Database.settlementView (db : Database) (intentId : String) : SettlementView where
  exposure := db.exposure intentId
  outbox := (db.outbox intentId).map OutboxRow.state
  digit := db.digitRiskRuntime.map fun row => row.progress

theorem DigitRiskRuntimeFields.progress_settle (r : DigitRiskRuntimeFields) (symbol : String)
    (pnlMinor : Int) (orderId : String) (id id' : String) (at_ at' : Instant) :
    (r.settle symbol pnlMinor orderId id at_).progress =
      (r.settle symbol pnlMinor orderId id' at').progress := by
  simp only [settle, settleLoss]
  split
  · rfl
  · split <;> rfl

theorem progress_settleDigitRow (product symbol : String) (pnlMinor : Int) (orderId : String)
    (id id' : String) (at_ at' : Instant) (row : Option DigitRiskRuntime) :
    (settleDigitRow product symbol pnlMinor orderId id at_ row).map (fun r => r.progress) =
      (settleDigitRow product symbol pnlMinor orderId id' at' row).map (fun r => r.progress) := by
  unfold settleDigitRow
  split
  · cases row with
    | none => rfl
    | some r =>
      simp only [Option.map_some, Option.some.injEq]
      exact r.progress_settle symbol pnlMinor orderId id id' at_ at'
  · rfl

/-- The state of a message once its order is known at the broker. -/
def OutboxState.reconciledIfAmbiguous (s : OutboxState) : OutboxState :=
  if s = .ambiguous then .reconciled else s

section Outbox
variable {db db' : Database}

theorem outbox_reconcileOutbox (intentId stateReason : String) (at_ : Instant) :
    ((db.reconcileOutbox intentId stateReason at_).outbox intentId).map OutboxRow.state =
      (db.outbox intentId).map fun m => m.state.reconciledIfAmbiguous := by
  rw [reconcileOutbox, outbox_updateOutbox _ (OutboxRow.reconcile_keys stateReason at_),
    Option.map_map]
  cases found : db.outbox intentId with
  | none => rfl
  | some m =>
    have mine := (Table.mem_of_lookup found).2
    simp only [Option.map_some, Function.comp_apply, Table.change, mine, beq_self_eq_true,
      Bool.true_and, beq_iff_eq, OutboxState.reconciledIfAmbiguous]
    split <;> rfl

end Outbox

theorem writerStep_evidence {db db' : Database} {attemptId : String}
    {evidence : ReconciliationEvidence} {resolvedAt : Instant} {result : ReconciliationApplyResult}
    (committed : applyReconciliationEvidence attemptId evidence resolvedAt db = .ok (result, db')) :
    writerStep db (.applyReconciliationEvidence attemptId evidence resolvedAt) = db' :=
  Operation.transact_silent_of_ok committed

/-! ### One report of each kind -/

/-- An order of a reachable database that awaits its result and that no evidence has
    resolved, with a digit row in its currency if it is a digit order. -/
structure Settleable (db : Database) (o : OrderRow) (ti : IntentRow) : Prop where
  reachable : Reachable db
  found : db.orderById o.orderId = some o
  intent : db.intent o.intentId = some ti
  awaits : o.state.awaitsResult = true
  unresolved : o.resolutionEvidenceId = none
  configured : isDigitProduct ti.product = true →
    ∃ runtime, db.digitRiskRuntime = some runtime ∧ runtime.currency = ti.amount.currency

theorem Settleable.open_ {db : Database} {o : OrderRow} {ti : IntentRow}
    (ready : Settleable db o ti) : o.state ≠ .settled := by
  intro settled
  have awaits := ready.awaits
  rw [settled] at awaits
  cases awaits

/-- A new event and new evidence that agree with the order and report one result. -/
structure SettlementReports (db : Database) (o : OrderRow) (ti : IntentRow)
    (event : BrokerOrderEvent) (attemptId : String) (evidence : ReconciliationEvidence)
    (result : Int) : Prop where
  eventReference : event.clientOrderRef = o.orderId
  eventAgrees : brokerEventMatchingConflict o ti event = none
  eventNew : db.brokerEvent event.eventId = none
  eventNumbered : db.sequenceReused o.orderId event = false
  eventOnTime : isLate o event .settled = false
  eventStatus : event.externalStatus = .settled
  eventResult : event.resultMinor = some result
  attemptStarted : db.orderOfStartedAttempt attemptId = some o
  evidenceAgrees : matchingConflictReason o ti evidence = none
  evidenceNew : db.evidence evidence.evidenceId = none
  evidenceStatus : evidence.externalStatus = .settled
  evidenceResult : evidence.realizedPnlMinor = some result

namespace SettlementReports

variable {db : Database} {o : OrderRow} {ti : IntentRow} {event : BrokerOrderEvent}
  {attemptId : String} {evidence : ReconciliationEvidence} {result : Int}

section

variable (reports : SettlementReports db o ti event attemptId evidence result)
  (ready : Settleable db o ti)
include reports ready

theorem event_settles (receivedAt : Instant) :
    ∃ moved, EventMoved db moved event o .settled receivedAt ∧
      writerStep db (.applyNormalizedBrokerEvent event receivedAt) = { moved with
        digitRiskRuntime := settleDigitRow ti.product ti.symbol result o.orderId event.eventId
          event.occurredAt db.digitRiskRuntime } := by
  have named : orderStateForExternalStatus event.externalStatus = some .settled := by
    rw [reports.eventStatus]
    rfl
  have classified : db.classifyEvent event o ti = .ok (.inr .settled) := by
    simp only [classifyEvent, reports.eventAgrees, reports.eventNumbered, named,
      terminalBrokerEventResult, live_of_awaitsResult ready.awaits, reports.eventOnTime,
        Bool.false_eq_true, if_false]
  have can := canResolve_of_awaitsResult ready.awaits named (by simp [reports.eventStatus])
    reports.eventOnTime
  obtain ⟨moved, effect, committed⟩ := applyNormalizedBrokerEvent_of_target receivedAt
    reports.eventNew (reports.eventReference ▸ ready.found) ready.intent classified can
  obtain ⟨-, ⟨-, symbol, -⟩, -, -⟩ := brokerEventMatchingConflict_eq_none.mp reports.eventAgrees
  rw [settleDigitEvent_of_agrees ready.reachable ready.found ready.open_ reports.eventAgrees
    reports.eventStatus
    reports.eventResult ready.configured effect.digit, symbol] at committed
  exact ⟨moved, effect, writerStep_event committed⟩

theorem evidence_settles (resolvedAt : Instant) :
    ∃ next, writerStep db (.applyReconciliationEvidence attemptId evidence resolvedAt) = next ∧
      EvidenceApplied db next evidence o ti .settled resolvedAt ∧
      next.digitRiskRuntime = settleDigitRow ti.product ti.symbol result o.orderId
        evidence.evidenceId resolvedAt db.digitRiskRuntime := by
  have named : orderStateForExternalStatus evidence.externalStatus = some .settled := by
    rw [reports.evidenceStatus]
    rfl
  have can : CanResolve o.state (resolvesFrom o.state) .settled := by
    have awaits := ready.awaits
    cases state : o.state <;> rw [state] at awaits <;> first | (cases awaits; done) | decide
  -- The event has a positive amount, and both agree with the intent.
  have positive : 0 < evidence.amount.minorUnits := by
    obtain ⟨-, ⟨-, -, -, amount, -⟩, -, -⟩ :=
      brokerEventMatchingConflict_eq_none.mp reports.eventAgrees
    obtain ⟨-, ⟨-, -, -, same, -⟩, -⟩ :=
      matchingConflictReason_eq_none.mp reports.evidenceAgrees
    rw [same, ← amount]
    exact event.amount_pos
  have settles : db.settleDigitEvidence evidence o ti .settled resolvedAt = .ok { db with
      digitRiskRuntime := settleDigitRow ti.product ti.symbol result o.orderId evidence.evidenceId
        resolvedAt db.digitRiskRuntime } := by
    simp only [settleDigitEvidence, reports.evidenceResult]
    rw [if_pos ⟨trivial, ready.open_⟩]
    apply applyDigitRuntimeSettlement_of_configured
    intro digit
    obtain ⟨runtime, present, sameCurrency⟩ := ready.configured digit
    exact ⟨runtime, present, sameCurrency, ready.reachable.lastOrderId_ne ready.found ready.open_
      present⟩
  obtain ⟨next, committed, applied⟩ := applyReconciliationEvidence_of_agrees
    reports.attemptStarted ready.intent reports.evidenceNew reports.evidenceAgrees ready.unresolved
    positive named can settles
  refine ⟨next, ?_, applied, ?_⟩
  · exact writerStep_evidence committed
  · have same := applied.digit
    rw [settles, Except.ok.injEq] at same
    exact (congrArg Database.digitRiskRuntime same).symm

end

/-! #### What each leaves behind -/

def view (o : OrderRow) (ti : IntentRow) (db : Database) (result : Int)
    (outbox : Option OutboxState) : SettlementView where
  exposure := some ⟨.settled, some result, 1, .released, 1⟩
  outbox := outbox
  digit := (settleDigitRow ti.product ti.symbol result o.orderId "" 0 db.digitRiskRuntime).map
    fun row => row.progress

section

variable (reports : SettlementReports db o ti event attemptId evidence result)
  (ready : Settleable db o ti)
include reports ready

theorem view_event (receivedAt : Instant) :
    (writerStep db (.applyNormalizedBrokerEvent event receivedAt)).settlementView o.intentId =
      view o ti db result ((db.outbox o.intentId).map fun m =>
        if o.state.isAmbiguous then m.state.reconciledIfAmbiguous else m.state) := by
  obtain ⟨moved, effect, step⟩ := reports.event_settles ready receivedAt
  have reached := ready.reachable.step (.applyNormalizedBrokerEvent event receivedAt)
  rw [step] at reached ⊢
  have here : moved.order o.intentId = some (o.afterEvent event .settled receivedAt) := by
    rw [effect.order, if_pos rfl]
  have exposure := reached.exposure_of_settled here (o.afterEvent_state event .settled receivedAt)
    (o.afterEvent_realizedPnlMinor event receivedAt ready.open_ reports.eventResult)
  have outbox : (moved.outbox o.intentId).map OutboxRow.state = (db.outbox o.intentId).map fun m =>
      if o.state.isAmbiguous then m.state.reconciledIfAmbiguous else m.state := by
    rw [Database.outbox, effect.outbox]
    cases o.state.isAmbiguous with
    | true => exact outbox_reconcileOutbox _ _ _
    | false => rfl
  simp only [settlementView, view]
  rw [exposure]
  congr 1
  exact progress_settleDigitRow _ _ _ _ _ _ _ _ _

theorem view_evidence (resolvedAt : Instant) :
    (writerStep db (.applyReconciliationEvidence attemptId evidence resolvedAt)).settlementView
        o.intentId =
      view o ti db result ((db.outbox o.intentId).map fun m => m.state.reconciledIfAmbiguous) := by
  obtain ⟨next, step, applied, digit⟩ := reports.evidence_settles ready resolvedAt
  have reached := ready.reachable.step (.applyReconciliationEvidence attemptId evidence resolvedAt)
  rw [step] at reached ⊢
  have here : next.order o.intentId = some (o.afterEvidence evidence .settled resolvedAt) := by
    rw [applied.order, if_pos rfl]
  have exposure := reached.exposure_of_settled here
    (o.afterEvidence_state evidence .settled resolvedAt)
    (o.afterEvidence_realizedPnlMinor evidence resolvedAt ready.open_ reports.evidenceResult)
  have outbox : (next.outbox o.intentId).map OutboxRow.state =
      (db.outbox o.intentId).map fun m => m.state.reconciledIfAmbiguous := by
    rw [Database.outbox, applied.outbox]
    exact outbox_reconcileOutbox _ _ _
  simp only [settlementView, view]
  rw [exposure, outbox, digit]
  congr 1
  exact progress_settleDigitRow _ _ _ _ _ _ _ _ _

theorem started_after_event (receivedAt : Instant) :
    ∃ o', (writerStep db (.applyNormalizedBrokerEvent event receivedAt)).orderOfStartedAttempt
        attemptId = some o' ∧ o'.intentId = o.intentId ∧ o'.state = .settled := by
  obtain ⟨moved, effect, step⟩ := reports.event_settles ready receivedAt
  obtain ⟨attempt, begun, running, byId⟩ := orderOfStartedAttempt_spec reports.attemptStarted
  have here : moved.order o.intentId = some (o.afterEvent event .settled receivedAt) := by
    rw [effect.order, if_pos rfl]
  obtain ⟨sameId, sameIntent, -⟩ := o.afterEvent_identity event .settled receivedAt
  have byId' : moved.orderById attempt.orderId = some (o.afterEvent event .settled receivedAt) := by
    rw [← (orderById_eq_some_iff.mp byId).2, ← sameId]
    exact orderById_of_order here
  have begun' : moved.attempt attemptId = some attempt := by
    rw [Database.attempt, effect.attempts]
    exact begun
  refine ⟨_, ?_, sameIntent, o.afterEvent_state event .settled receivedAt⟩
  rw [step]
  exact (orderOfStartedAttempt_of begun' running).trans byId'

theorem settled_after_evidence (resolvedAt : Instant) :
    ∃ o', (writerStep db (.applyReconciliationEvidence attemptId evidence resolvedAt)).orderById
        event.clientOrderRef = some o' ∧ o'.state = .settled := by
  obtain ⟨next, step, applied, -⟩ := reports.evidence_settles ready resolvedAt
  have here : next.order o.intentId = some (o.afterEvidence evidence .settled resolvedAt) := by
    rw [applied.order, if_pos rfl]
  refine ⟨o.afterEvidence evidence .settled resolvedAt, ?_,
    o.afterEvidence_state evidence .settled resolvedAt⟩
  rw [step, reports.eventReference, ← o.afterEvidence_orderId evidence .settled resolvedAt]
  exact orderById_of_order here

end

end SettlementReports

section Afterwards
variable {db : Database} {o : OrderRow}

theorem settlementView_event_of_settled {event : BrokerOrderEvent}
    (found : db.orderById event.clientOrderRef = some o) (settled : o.state = .settled)
    (receivedAt : Instant) (i : String) :
    (writerStep db (.applyNormalizedBrokerEvent event receivedAt)).settlementView i =
      db.settlementView i := by
  cases applied : applyNormalizedBrokerEvent event receivedAt db with
  | error e =>
    rw [writerStep, Machine.transact_of_error (e := e)]
    simp only [WriterOp.body, Operation.silent, applied]
  | ok answer =>
    obtain ⟨reply, next⟩ := answer
    rw [writerStep_event applied]
    rcases applyNormalizedBrokerEvent_cases applied with
      ⟨inbox, -⟩ | ⟨row, ti, target, _, -, byId, -, classified, -⟩
    · rw [inbox]
      rfl
    · -- A settled order answers every event.
      rw [found] at byId
      cases byId
      obtain ⟨-, -, -, live, -⟩ := classifyEvent_target classified
      obtain ⟨reply, answered⟩ := terminalBrokerEventResult_of_settled settled event target
      rw [answered] at live
      cases live

theorem settlementView_evidence_of_settled (reachable : Reachable db) {attemptId : String}
    (started : db.orderOfStartedAttempt attemptId = some o) (settled : o.state = .settled)
    (quiet : ∀ m, db.outbox o.intentId = some m → m.state ≠ .ambiguous)
    (evidence : ReconciliationEvidence) (resolvedAt : Instant) :
    (writerStep db (.applyReconciliationEvidence attemptId evidence resolvedAt)).settlementView
      o.intentId = db.settlementView o.intentId := by
  cases applied : applyReconciliationEvidence attemptId evidence resolvedAt db with
  | error e =>
    rw [writerStep, Machine.transact_of_error (e := e)]
    simp only [WriterOp.body, Operation.silent, applied]
  | ok answer =>
    obtain ⟨reply, next⟩ := answer
    have step := writerStep_evidence applied
    obtain ⟨attempt, -, -, byId⟩ := orderOfStartedAttempt_spec started
    have frozen := reachable.exposure_frozen (order_of_orderById byId)
      (by rw [settled]; rfl) [.applyReconciliationEvidence attemptId evidence resolvedAt]
    rw [Machine.run_cons, Machine.run_nil, step] at frozen
    rw [step]
    obtain ⟨row, ti, started', -, -, ⟨records, -⟩ | ⟨target, -, -, effect, -⟩⟩ :=
      applyReconciliationEvidence_cases applied
    · rw [records]
      rfl
    rw [started] at started'
    cases started'
    have outbox : (next.outbox o.intentId).map OutboxRow.state =
        (db.outbox o.intentId).map OutboxRow.state := by
      rw [Database.outbox, effect.outbox]
      refine (outbox_reconcileOutbox _ _ _).trans ?_
      apply Option.map_congr
      intro m found
      exact if_neg (quiet m found)
    have digit : next.digitRiskRuntime = db.digitRiskRuntime := by
      have kept := effect.digit
      unfold settleDigitEvidence at kept
      split at kept
      · exact (congrArg Database.digitRiskRuntime (Except.ok.inj kept)).symm
      · rw [if_neg fun newly => newly.2 settled] at kept
        exact (congrArg Database.digitRiskRuntime (Except.ok.inj kept)).symm
    simp only [settlementView, frozen, outbox, digit]

end Afterwards

/-- The event settles the order with the result, the evidence leaves the same behind, and
    so do both of them, in either order. -/
structure PathsAgree (db : Database) (intentId : String) (result : Int) (event : BrokerOrderEvent)
    (receivedAt : Instant) (attemptId : String) (evidence : ReconciliationEvidence)
    (resolvedAt : Instant) : Prop where
  settles : ((writerStep db (.applyNormalizedBrokerEvent event receivedAt)).settlementView
    intentId).exposure = some ⟨.settled, some result, 1, .released, 1⟩
  same : (writerStep db (.applyReconciliationEvidence attemptId evidence resolvedAt)).settlementView
      intentId =
    (writerStep db (.applyNormalizedBrokerEvent event receivedAt)).settlementView intentId
  evidenceAfterEvent : (writerStep
      (writerStep db (.applyNormalizedBrokerEvent event receivedAt))
      (.applyReconciliationEvidence attemptId evidence resolvedAt)).settlementView intentId =
    (writerStep db (.applyNormalizedBrokerEvent event receivedAt)).settlementView intentId
  eventAfterEvidence : (writerStep
      (writerStep db (.applyReconciliationEvidence attemptId evidence resolvedAt))
      (.applyNormalizedBrokerEvent event receivedAt)).settlementView intentId =
    (writerStep db (.applyNormalizedBrokerEvent event receivedAt)).settlementView intentId

theorem isAmbiguous_of_awaitsResult {s : OrderState} (awaits : s.awaitsResult = true)
    (ambiguous : s.isAmbiguous = false) : s = .accepted ∨ s = .opened := by
  cases s <;> simp [OrderState.awaitsResult, OrderState.isAmbiguous] at awaits ambiguous ⊢

/-- **The event path and the evidence path agree** for an order that awaits its result
    exactly when it is not ACCEPTED or OPEN with an AMBIGUOUS message, which the evidence
    reconciles and the event does not. -/
theorem paths_agree_iff {db : Database} (reachable : Reachable db) {o : OrderRow} {ti : IntentRow}
    (found : db.orderById o.orderId = some o) (intent : db.intent o.intentId = some ti)
    (awaits : o.state = .unknown ∨ o.state = .settlementUnknown ∨ o.state = .accepted ∨
      o.state = .opened)
    (unresolved : o.resolutionEvidenceId = none)
    (configured : isDigitProduct ti.product = true →
      ∃ runtime, db.digitRiskRuntime = some runtime ∧ runtime.currency = ti.amount.currency)
    {event : BrokerOrderEvent} {attemptId : String} {evidence : ReconciliationEvidence}
    {result : Int} (reports : SettlementReports db o ti event attemptId evidence result)
    {m : OutboxRow} (message : db.outbox o.intentId = some m) (receivedAt resolvedAt : Instant) :
    PathsAgree db o.intentId result event receivedAt attemptId evidence resolvedAt ↔
      ¬ (m.state = .ambiguous ∧ (o.state = .accepted ∨ o.state = .opened)) := by
  have waiting : o.state.awaitsResult = true := by
    rcases awaits with state | state | state | state <;> rw [state] <;> rfl
  have ready : Settleable db o ti := ⟨reachable, found, intent, waiting, unresolved, configured⟩
  have byEvent := reports.view_event ready receivedAt
  have byEvidence := reports.view_evidence ready resolvedAt
  rw [message, Option.map_some] at byEvent byEvidence
  constructor
  · -- The event leaves the message AMBIGUOUS, and the evidence does not.
    rintro agree ⟨ambiguous, certain⟩
    have same := agree.same
    rw [byEvent, byEvidence] at same
    have outbox := congrArg SettlementView.outbox same
    rcases certain with state | state <;>
      simp [SettlementReports.view, state, ambiguous, OrderState.isAmbiguous,
        OutboxState.reconciledIfAmbiguous] at outbox
  · intro regular
    have same : (if o.state.isAmbiguous then m.state.reconciledIfAmbiguous else m.state) =
        m.state.reconciledIfAmbiguous := by
      split
      · rfl
      · rename_i certain
        rw [Bool.not_eq_true] at certain
        have quiet : m.state ≠ .ambiguous := fun ambiguous =>
          regular ⟨ambiguous, isAmbiguous_of_awaitsResult waiting certain⟩
        exact (if_neg quiet).symm
    rw [same] at byEvent
    constructor
    · rw [byEvent]
      rfl
    · rw [byEvent, byEvidence]
    · obtain ⟨o', started, sameIntent, settled⟩ := reports.started_after_event ready receivedAt
      have quiet : ∀ m', (writerStep db (.applyNormalizedBrokerEvent event receivedAt)).outbox
          o'.intentId = some m' → m'.state ≠ .ambiguous := by
        intro m' there ambiguous
        have outbox := congrArg SettlementView.outbox byEvent
        simp only [settlementView, SettlementReports.view] at outbox
        rw [← sameIntent, there, Option.map_some, ambiguous, OutboxState.reconciledIfAmbiguous]
          at outbox
        split at outbox
        · cases outbox
        · rename_i certain
          exact certain (Option.some.inj outbox).symm
      rw [← sameIntent]
      exact settlementView_evidence_of_settled
        (reachable.step (.applyNormalizedBrokerEvent event receivedAt)) started settled quiet
        evidence resolvedAt
    · obtain ⟨o', found', settled⟩ := reports.settled_after_evidence ready resolvedAt
      rw [settlementView_event_of_settled found' settled, byEvent, byEvidence]

namespace Sample

def settledEvidence : ReconciliationEvidence :=
  ⟨evidenceFields "evidence-1" .settled (some 90), by decide⟩

def queriedOps : List WriterOp :=
  [persistOp, .claimNextMessage 1 none none,
    .recordDispatchResult command "TIMEOUT_AFTER_POSSIBLE_SEND" none none 2,
    .beginReconciliationAttempt "attempt-1" "order-1" "corr-1" 5]

def acceptedAmbiguousOps : List WriterOp :=
  queriedOps ++
    [.applyBrokerEvent ⟨{
        eventId := "event-8", intentId := "intent-1", newState := .reconciling, occurredAt := 3 },
      by decide⟩ 3,
    .applyBrokerEvent ⟨{
        eventId := "event-9", intentId := "intent-1", newState := .accepted, occurredAt := 4 },
      by decide⟩ 4]

end Sample

theorem queried_sample_paths_agree :
    PathsAgree (Machine.run writerStep Database.empty Sample.queriedOps) "intent-1" 90
      Sample.settledEvent 10 "attempt-1" Sample.settledEvidence 10 := by
  obtain ⟨o, ti, m, found, intent, message, ids, state, unresolved, product, reports⟩ :
      ∃ o ti m,
      (Machine.run writerStep Database.empty Sample.queriedOps).orderById "order-1" = some o ∧
      (Machine.run writerStep Database.empty Sample.queriedOps).intent "intent-1" = some ti ∧
      (Machine.run writerStep Database.empty Sample.queriedOps).outbox "intent-1" = some m ∧
      (o.orderId = "order-1" ∧ o.intentId = "intent-1") ∧ o.state = .unknown ∧
      o.resolutionEvidenceId = none ∧ isDigitProduct ti.product = false ∧
      SettlementReports (Machine.run writerStep Database.empty Sample.queriedOps) o ti
        Sample.settledEvent "attempt-1" Sample.settledEvidence 90 := by
    refine ⟨_, _, _, rfl, rfl, rfl, ⟨rfl, rfl⟩, rfl, rfl, by decide, ?_⟩
    constructor <;> decide
  obtain ⟨orderId, intentId⟩ := ids
  have agree := paths_agree_iff ⟨Sample.queriedOps, rfl⟩ (orderId ▸ found) (intentId ▸ intent)
    (.inl state) unresolved (fun digit => by rw [product] at digit; cases digit) reports
    (intentId ▸ message) 10 10
  rw [intentId] at agree
  exact agree.mpr (by simp [state])

/-- The order is ACCEPTED and its message AMBIGUOUS: after the settlement by the event the
    message is still AMBIGUOUS, after the settlement by the evidence it is RECONCILED. -/
theorem accepted_ambiguous_sample_differs :
    ∃ db o ti, Reachable db ∧ db.orderById "order-1" = some o ∧ db.intent o.intentId = some ti ∧
      o.state = .accepted ∧ o.resolutionEvidenceId = none ∧ isDigitProduct ti.product = false ∧
      SettlementReports db o ti Sample.settledEvent "attempt-1" Sample.settledEvidence 90 ∧
      ((writerStep db (.applyNormalizedBrokerEvent Sample.settledEvent 10)).settlementView
        "intent-1").outbox = some .ambiguous ∧
      ((writerStep db (.applyReconciliationEvidence "attempt-1" Sample.settledEvidence
        10)).settlementView "intent-1").outbox = some .reconciled := by
  refine ⟨Machine.run writerStep Database.empty Sample.acceptedAmbiguousOps, _, _, ⟨_, rfl⟩, rfl,
    rfl, rfl, rfl, by decide, ?_, by decide, by decide⟩
  constructor <;> decide

end TradingLab

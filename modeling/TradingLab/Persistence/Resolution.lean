import TradingLab.Persistence.Effects

/-!
# The effect of evidence

`apply_reconciliation_evidence` and `apply_reconciliation_not_found` change nothing but the evidence
and the attempt, or move exactly one order.
-/
namespace TradingLab

open Relational
open Database
open OrderRow

theorem matchingConflictReason_eq_none {row : OrderRow} {ti : IntentRow}
    {evidence : ReconciliationEvidence} :
    matchingConflictReason row ti evidence = none ↔
      (evidence.clientOrderRef = row.orderId ∧ evidence.broker = row.broker ∧
        evidence.accountId = row.accountId) ∧
      (evidence.product = ti.product ∧ evidence.symbol = ti.symbol ∧
        evidence.direction = ti.direction ∧
        evidence.amount.minorUnits = ti.amount.minorUnits ∧
        evidence.amount.currency = ti.amount.currency) ∧
      ∀ id ∈ row.brokerOrderId, ∀ other ∈ evidence.brokerOrderId, id = other := by
  simp only [matchingConflictReason, firstMismatch_eq_none]
  cases row.brokerOrderId <;> cases evidence.brokerOrderId <;> simp [and_assoc]

/-! ### Attempts -/

section Attempts
variable {db : Database}

theorem finishReconciliationAttempt_of_started {attemptId : String} {attempt : AttemptRow}
    (found : db.attempt attemptId = some attempt) (started : attempt.result = "STARTED")
    (result : String) (reasonCode : Option String) (completedAt : Instant)
    (evidenceId : Option String) :
    ∃ next, db.finishReconciliationAttempt attemptId result reasonCode completedAt evidenceId =
      .ok next := by
  unfold finishReconciliationAttempt updateStartedAttempt
  refine ⟨_, if_pos ?_⟩
  apply (Table.rowCount_eq_one_iff unique_attemptRow_attemptId (k := attemptId) _).mpr
  · exact ⟨attempt, found, by simp [started, (Table.mem_of_lookup found).2]⟩
  · intro r chosen
    simp only [Bool.and_eq_true, beq_iff_eq] at chosen
    exact chosen.1

end Attempts

/-- The attempt is finished with a result and a reason; no other attempt is touched. -/
def AttemptFinished (db db' : Database) (attemptId result : String) (reasonCode : Option String) :
    Prop :=
  ∃ f : AttemptRow → AttemptRow,
    (∀ a, (f a).attemptId = a.attemptId ∧ (f a).orderId = a.orderId ∧ (f a).result = result ∧
      (f a).reasonCode = reasonCode) ∧
    db'.reconciliationAttempts.rows = db.reconciliationAttempts.rows.map
      (Table.change (fun a => a.attemptId == attemptId && a.result == "STARTED") f)

variable {db db' : Database} {attemptId result : String} {reasonCode : Option String}
  {completedAt : Instant}

theorem updateStartedAttempt_finished {f : AttemptRow → AttemptRow}
    {same : ∀ a, (f a).attemptId = a.attemptId}
    (finishes : ∀ a, (f a).orderId = a.orderId ∧ (f a).result = result ∧
      (f a).reasonCode = reasonCode) (h : db.updateStartedAttempt attemptId f same = .ok db') :
    db' = { db with reconciliationAttempts := db'.reconciliationAttempts } ∧
      AttemptFinished db db' attemptId result reasonCode := by
  unfold updateStartedAttempt at h
  simp only at h
  split at h <;> cases h
  exact ⟨rfl, f, fun a => ⟨same a, finishes a⟩, rfl⟩

theorem finishReconciliationAttempt_finished {evidenceId : Option String}
    (h : db.finishReconciliationAttempt attemptId result reasonCode completedAt evidenceId =
      .ok db') :
    db' = { db with reconciliationAttempts := db'.reconciliationAttempts } ∧
      AttemptFinished db db' attemptId result reasonCode := by
  unfold finishReconciliationAttempt at h
  apply updateStartedAttempt_finished _ h
  exact fun _ => ⟨rfl, rfl, rfl⟩

theorem beginReconciliationAttempt_begins {orderId correlationId : String} {startedAt : Instant}
    (h : beginReconciliationAttempt attemptId orderId correlationId startedAt db = .ok ((), db')) :
    db' = { db with reconciliationAttempts := db'.reconciliationAttempts } ∧
      (∃ o, db.orderById orderId = some o) ∧
      ∃ a : AttemptRow, a.attemptId = attemptId ∧ a.orderId = orderId ∧ a.result = "STARTED" ∧
        db.reconciliationAttempts.insert a = some db'.reconciliationAttempts := by
  unfold beginReconciliationAttempt at h
  split at h
  · cases h
  · rename_i o found
    simp only [Except.bind_ok_iff, orIntegrityError_eq_ok] at h
    obtain ⟨attempts, inserted, h⟩ := h
    cases h
    exact ⟨rfl, ⟨o, found⟩, _, rfl, rfl, rfl, inserted⟩

theorem completeReconciliationAttempt_finished {reasonCode : String}
    (h : completeReconciliationAttempt attemptId result reasonCode completedAt db =
      .ok ((), db')) :
    db' = { db with reconciliationAttempts := db'.reconciliationAttempts } ∧
      AttemptFinished db db' attemptId result (some reasonCode) := by
  simp only [completeReconciliationAttempt, Except.bind_ok_iff] at h
  obtain ⟨next, updated, h⟩ := h
  cases h
  apply updateStartedAttempt_finished _ updated
  exact fun _ => ⟨rfl, rfl, rfl⟩

theorem releaseReservation_frame {reservationId : String}
    {releasedAt : Instant} (h : releaseReservation reservationId releasedAt db = .ok ((), db')) :
    db' = { db with riskReservations := db'.riskReservations } := by
  unfold releaseReservation at h
  repeat' split at h
  all_goals cases h <;> rfl

/-! ### `resolveByEvidence` -/

def OrderRow.afterEvidence (row : OrderRow) (evidence : ReconciliationEvidence)
    (target : OrderState) (resolvedAt : Instant) : OrderRow :=
  (row.resolve (resolvesFrom row.state) resolvedAt target resolvedAt
    evidence.brokerOrderId evidence.realizedPnlMinor).noteEvidence evidence resolvedAt

@[simp] theorem OrderRow.afterEvidence_state (row : OrderRow) (evidence : ReconciliationEvidence)
    (target : OrderState) (resolvedAt : Instant) :
    (row.afterEvidence evidence target resolvedAt).state = target :=
  reach_state _ target resolvedAt evidence.brokerOrderId evidence.realizedPnlMinor

theorem OrderRow.afterEvidence_orderId (row : OrderRow) (evidence : ReconciliationEvidence)
    (target : OrderState) (resolvedAt : Instant) :
    (row.afterEvidence evidence target resolvedAt).orderId = row.orderId :=
  (row.resolve_keys _ _ _ _ _ _).1

theorem OrderRow.afterEvidence_realizedPnlMinor (row : OrderRow)
    (evidence : ReconciliationEvidence) (resolvedAt : Instant) (open_ : row.state ≠ .settled)
    {pnl : Int} (given : evidence.realizedPnlMinor = some pnl) :
    (row.afterEvidence evidence .settled resolvedAt).realizedPnlMinor = some pnl := by
  simp only [afterEvidence, resolve, reach, noteEvidence, transition, given]
  repeat' split
  all_goals simp_all

def OrderRow.afterNotFound (row : OrderRow) (resolvedAt : Instant) : OrderRow :=
  ((row.reach .reconciling resolvedAt none none).reach .rejected resolvedAt none
    none).noteNotFound resolvedAt

@[simp] theorem OrderRow.afterNotFound_state (row : OrderRow) (resolvedAt : Instant) :
    (row.afterNotFound resolvedAt).state = .rejected :=
  reach_state _ .rejected resolvedAt none none

structure EvidenceApplied (db db' : Database) (evidence : ReconciliationEvidence) (row : OrderRow)
    (ti : IntentRow) (target : OrderState) (resolvedAt : Instant) : Prop where
  order : ∀ j, db'.order j =
    if j = row.intentId then some (row.afterEvidence evidence target resolvedAt) else db.order j
  outbox : db'.outboxMessages = (db.reconcileOutbox row.intentId
    ("RECONCILED_" ++ evidence.externalStatus.value) resolvedAt).outboxMessages
  intents : db'.tradeIntents = db.tradeIntents
  events : db'.brokerOrderEvents = db.brokerOrderEvents
  digit : db.settleDigitEvidence evidence row ti target resolvedAt =
    .ok { db with digitRiskRuntime := db'.digitRiskRuntime }

section Evidence
variable {db db' other next recorded : Database} {evidence : ReconciliationEvidence}
  {row : OrderRow} {ti : IntentRow} {target : OrderState} {resolvedAt : Instant}

theorem applyDigitRuntimeSettlement_congr {product symbol currency : String}
    {pnlMinor : Int} {orderId settlementId : String} {occurredAt : Instant}
    (same : other.digitRiskRuntime = db.digitRiskRuntime)
    (h : db.applyDigitRuntimeSettlement product symbol currency pnlMinor orderId settlementId
      occurredAt = .ok db') :
    other.applyDigitRuntimeSettlement product symbol currency pnlMinor orderId settlementId
      occurredAt = .ok { other with digitRiskRuntime := db'.digitRiskRuntime } := by
  unfold applyDigitRuntimeSettlement
  rcases applyDigitRuntimeSettlement_eq_ok h with
    ⟨otherProduct, rfl⟩ | ⟨runtime, digit, present, sameCurrency, ⟨seen, rfl⟩ | ⟨unseen, rfl⟩⟩
  · rw [if_neg (by simp [otherProduct]), ← same]
  · have there := same.trans present
    simp only [digit, if_true, there, sameCurrency, seen]
    rw [present, ← there]
  · have there := same.trans present
    simp only [digit, if_true, there, sameCurrency, if_neg unseen]

theorem settleDigitEvidence_congr (same : other.digitRiskRuntime = db.digitRiskRuntime)
    (h : db.settleDigitEvidence evidence row ti target resolvedAt = .ok db') :
    other.settleDigitEvidence evidence row ti target resolvedAt =
      .ok { other with digitRiskRuntime := db'.digitRiskRuntime } := by
  unfold settleDigitEvidence at h ⊢
  split at h
  · cases h
    rw [← same]
  · split at h
    · rename_i newly
      rw [if_pos newly]
      exact applyDigitRuntimeSettlement_congr same h
    · rename_i kept
      rw [if_neg kept]
      cases h
      rw [← same]

theorem settleDigitEvidence_frame
    (h : db.settleDigitEvidence evidence row ti target resolvedAt = .ok db') :
    db' = { db with digitRiskRuntime := db'.digitRiskRuntime } := by
  have again := settleDigitEvidence_congr rfl h
  rw [h] at again
  exact Except.ok.inj again

theorem outboxMessages_reconcileOutbox (same : db'.outboxMessages = db.outboxMessages)
    (intentId stateReason : String) (at_ : Instant) :
    (db'.reconcileOutbox intentId stateReason at_).outboxMessages =
      (db.reconcileOutbox intentId stateReason at_).outboxMessages := by
  simp only [reconcileOutbox, updateOutbox, same]

variable {attemptId : String} {result : ReconciliationApplyResult}

theorem resolveByEvidence_spec (found : db.order row.intentId = some row)
    (h : db.resolveByEvidence attemptId evidence row ti target resolvedAt = .ok (result, db')) :
    result = ⟨.resolved, target, none⟩ ∧
      EvidenceApplied db db' evidence row ti target resolvedAt := by
  simp only [resolveByEvidence, Except.bind_ok_iff] at h
  obtain ⟨entered, enters, moved, moves, finished, finishes, h⟩ := h
  cases h
  refine ⟨rfl, ?_⟩
  have frame := frame_of_resolve enters moves
  have order := order_of_resolve found enters moves
  simp only [finishEvidence, Except.bind_ok_iff] at finishes
  obtain ⟨settled, settles, finishes⟩ := finishes
  rw [releaseIfTerminal_frame] at settles
  have settledFrame := settleDigitEvidence_frame settles
  have finishedFrame := (finishReconciliationAttempt_finished finishes).1
  have here := (order row.intentId).trans (if_pos rfl)
  have digit : db.settleDigitEvidence evidence row ti target resolvedAt =
      .ok { db with digitRiskRuntime := settled.digitRiskRuntime } := by
    refine settleDigitEvidence_congr ?_ settles
    rw [frame]
    rfl
  rw [finishedFrame, settledFrame]
  constructor
  case order =>
    intro j
    refine (order_updateOrders_id here (row.resolve_keys _ _ _ _ _ _).1
      (noteEvidence_keys evidence resolvedAt) j).trans ?_
    split
    · rfl
    · rename_i elsewhere
      rw [order j, if_neg elsewhere]
  case outbox =>
    refine outboxMessages_reconcileOutbox ?_ _ _ _
    rw [frame]
    rfl
  case digit => exact digit
  all_goals
    rw [frame]
    rfl

theorem resolveByEvidence_finished
    (h : db.resolveByEvidence attemptId evidence row ti target resolvedAt = .ok (result, db')) :
    AttemptFinished db db' attemptId "RESOLVED" none := by
  simp only [resolveByEvidence, Except.bind_ok_iff] at h
  obtain ⟨entered, enters, moved, moves, finished, finishes, h⟩ := h
  cases h
  have frame := frame_of_resolve enters moves
  simp only [finishEvidence, Except.bind_ok_iff] at finishes
  obtain ⟨settled, settles, finishes⟩ := finishes
  rw [releaseIfTerminal_frame] at settles
  obtain ⟨-, f, sameOrder, rows⟩ := finishReconciliationAttempt_finished finishes
  refine ⟨f, sameOrder, ?_⟩
  rw [rows, settleDigitEvidence_frame settles, frame]
  rfl

theorem resolveByEvidence_of_canResolve (found : db.order row.intentId = some row)
    (can : CanResolve row.state (resolvesFrom row.state) target) {attempt : AttemptRow}
    (begun : db.attempt attemptId = some attempt) (started : attempt.result = "STARTED")
    (settles : db.settleDigitEvidence evidence row ti target resolvedAt = .ok next) :
    ∃ db', db.resolveByEvidence attemptId evidence row ti target resolvedAt =
      .ok (⟨.resolved, target, none⟩, db') := by
  obtain ⟨entered, moved, enters, moves⟩ := resolve_of_canResolve resolvedAt resolvedAt
    evidence.brokerOrderId evidence.realizedPnlMinor found can
  have frame := frame_of_resolve enters moves
  simp only [resolveByEvidence, enters, Except.ok_bind, moves, finishEvidence]
  rw [releaseIfTerminal_frame]
  -- Neither the digit row nor the attempt has been touched on the way.
  rw [settleDigitEvidence_congr (by rw [frame]; rfl) settles, Except.ok_bind]
  generalize given : ({ tradeIntents := _, digitRiskRuntime := _, .. } : Database) = settled
  have begun' : settled.attempt attemptId = some attempt := by
    rw [← given, frame]
    exact begun
  obtain ⟨finished, finishes⟩ := finishReconciliationAttempt_of_started begun' started "RESOLVED"
    none resolvedAt (some evidence.evidenceId)
  exact ⟨finished, by rw [finishes]; rfl⟩

theorem EvidenceApplied.of_recorded
    (frame : recorded = { db with reconciliationEvidence := recorded.reconciliationEvidence })
    (applied : EvidenceApplied recorded db' evidence row ti target resolvedAt) :
    EvidenceApplied db db' evidence row ti target resolvedAt := by
  have sameDigit : db.digitRiskRuntime = recorded.digitRiskRuntime := by rw [frame]
  have digit := settleDigitEvidence_congr sameDigit applied.digit
  rw [frame] at applied
  exact ⟨applied.order, applied.outbox, applied.intents, applied.events, digit⟩

theorem applyReconciliationEvidence_of_agrees
    (started : db.orderOfStartedAttempt attemptId = some row)
    (intent : db.intent row.intentId = some ti) (fresh : db.evidence evidence.evidenceId = none)
    (agrees : matchingConflictReason row ti evidence = none)
    (unresolved : row.resolutionEvidenceId = none) (positive : 0 < evidence.amount.minorUnits)
    (named : orderStateForExternalStatus evidence.externalStatus = some target)
    (can : CanResolve row.state (resolvesFrom row.state) target)
    (settles : db.settleDigitEvidence evidence row ti target resolvedAt = .ok next) :
    ∃ db', applyReconciliationEvidence attemptId evidence resolvedAt db =
        .ok (⟨.resolved, target, none⟩, db') ∧
      EvidenceApplied db db' evidence row ti target resolvedAt := by
  obtain ⟨attempt, begun, running, byId⟩ := orderOfStartedAttempt_spec started
  obtain ⟨table, inserted⟩ : ∃ table, db.reconciliationEvidence.insert
      ⟨evidence, row.orderId, evidenceHash evidence, resolvedAt, positive⟩ = some table :=
    ⟨_, dif_pos fun r member clash => Table.lookup_eq_none_iff.mp fresh r member clash⟩
  have inserts : db.insertReconciliationEvidence row.orderId evidence resolvedAt =
      .ok { db with reconciliationEvidence := table } := by
    rw [insertReconciliationEvidence, dif_pos positive, inserted]
    rfl
  generalize stored : ({ db with reconciliationEvidence := table } : Database) = recorded at inserts
  have found : recorded.order row.intentId = some row := by
    rw [← stored]
    exact order_of_orderById byId
  have begun' : recorded.attempt attemptId = some attempt := by
    rw [← stored]
    exact begun
  have sameDigit : recorded.digitRiskRuntime = db.digitRiskRuntime := by rw [← stored]
  obtain ⟨db', resolves⟩ := resolveByEvidence_of_canResolve found can begun' running
    (settleDigitEvidence_congr sameDigit settles)
  refine ⟨db', ?_, (resolveByEvidence_spec found resolves).2.of_recorded (by rw [← stored])⟩
  simp only [applyReconciliationEvidence, started, intent, fresh, inserts, Except.ok_bind,
    applyRecordedEvidence, agrees, applyMatchingEvidence,
    priorEvidence, unresolved, named]
  exact resolves

def RecordsOnly (db db' : Database) : Prop :=
  db' = { db with
    reconciliationEvidence := db'.reconciliationEvidence
    reconciliationAttempts := db'.reconciliationAttempts }

theorem RecordsOnly.of_recorded
    (frame : recorded = { db with reconciliationEvidence := recorded.reconciliationEvidence })
    (only : db' = { recorded with reconciliationAttempts := db'.reconciliationAttempts }) :
    RecordsOnly db db' := by
  rw [frame] at only
  rw [RecordsOnly, only]

theorem answer_of_finish {answer : ReconciliationApplyResult} {verdict : String}
    {reasonCode evidenceId : Option String}
    (h : (db.finishReconciliationAttempt attemptId verdict reasonCode completedAt evidenceId >>=
      fun next => .ok (answer, next)) = .ok (result, db')) :
    db' = { db with reconciliationAttempts := db'.reconciliationAttempts } ∧
      AttemptFinished db db' attemptId verdict reasonCode ∧ result = answer := by
  obtain ⟨finished, finishes, h⟩ := Except.bind_ok_iff.mp h
  cases h
  obtain ⟨frame, closed⟩ := finishReconciliationAttempt_finished finishes
  exact ⟨frame, closed, rfl⟩

theorem finishReconciliationConflict_cases {reasonCode : String} {evidenceId : Option String}
    (h : db.finishReconciliationConflict attemptId row completedAt reasonCode evidenceId =
      .ok (result, db')) :
    db' = { db with reconciliationAttempts := db'.reconciliationAttempts } ∧
      AttemptFinished db db' attemptId "CONFLICT" (some reasonCode) ∧
      result = ⟨.conflict, row.state, some reasonCode⟩ := by
  exact answer_of_finish h

theorem applyRecordedEvidence_cases (found : db.order row.intentId = some row)
    (h : db.applyRecordedEvidence attemptId evidence row ti resolvedAt = .ok (result, db')) :
    AttemptFinished db db' attemptId result.status.value result.reasonCode ∧
      (db' = { db with reconciliationAttempts := db'.reconciliationAttempts } ∧
          result.status ≠ .resolved ∧ result.orderState = row.state ∨
        ∃ target, matchingConflictReason row ti evidence = none ∧
          orderStateForExternalStatus evidence.externalStatus = some target ∧
          EvidenceApplied db db' evidence row ti target resolvedAt ∧
          result = ⟨.resolved, target, none⟩) := by
  unfold applyRecordedEvidence at h
  split at h
  · obtain ⟨frame, closed, rfl⟩ := finishReconciliationConflict_cases h
    exact ⟨closed, .inl ⟨frame, by simp, rfl⟩⟩
  rename_i agrees
  simp only [applyMatchingEvidence, Except.bind_ok_iff] at h
  obtain ⟨prior, -, h⟩ := h
  split at h
  · -- The same evidence again.
    obtain ⟨frame, closed, rfl⟩ := answer_of_finish h
    exact ⟨closed, .inl ⟨frame, by simp, rfl⟩⟩
  · obtain ⟨frame, closed, rfl⟩ := finishReconciliationConflict_cases h
    exact ⟨closed, .inl ⟨frame, by simp, rfl⟩⟩
  split at h
  · -- Evidence of nothing.
    obtain ⟨frame, closed, rfl⟩ := answer_of_finish h
    exact ⟨closed, .inl ⟨frame, by simp, rfl⟩⟩
  · rename_i target named
    obtain ⟨rfl, applied⟩ := resolveByEvidence_spec found h
    exact ⟨resolveByEvidence_finished h, .inr ⟨target, agrees, named, applied, rfl⟩⟩

/-- **What evidence does**: nothing but record itself and close its attempt, or move its
    order to the state it reports and settle the digit row. -/
theorem applyReconciliationEvidence_cases
    (h : applyReconciliationEvidence attemptId evidence resolvedAt db = .ok (result, db')) :
    ∃ row ti, db.orderOfStartedAttempt attemptId = some row ∧ db.intent row.intentId = some ti ∧
      AttemptFinished db db' attemptId result.status.value result.reasonCode ∧
      (RecordsOnly db db' ∧ result.status ≠ .resolved ∧ result.orderState = row.state ∨
        ∃ target, matchingConflictReason row ti evidence = none ∧
          orderStateForExternalStatus evidence.externalStatus = some target ∧
          EvidenceApplied db db' evidence row ti target resolvedAt ∧
          result = ⟨.resolved, target, none⟩) := by
  unfold applyReconciliationEvidence at h
  split at h
  · cases h
  rename_i row started
  split at h
  · cases h
  rename_i ti intent
  obtain ⟨attempt, -, -, byId⟩ := orderOfStartedAttempt_spec started
  have found := order_of_orderById byId
  refine ⟨row, ti, started, intent, ?_⟩
  split at h
  · split at h
    · obtain ⟨closed, ⟨frame, status, state⟩ | resolved⟩ := applyRecordedEvidence_cases found h
      · exact ⟨closed, .inl ⟨.of_recorded rfl frame, status, state⟩⟩
      · exact ⟨closed, .inr resolved⟩
    · obtain ⟨frame, closed, rfl⟩ := finishReconciliationConflict_cases h
      exact ⟨closed, .inl ⟨.of_recorded rfl frame, by simp, rfl⟩⟩
  · simp only [Except.bind_ok_iff] at h
    obtain ⟨recorded, inserts, h⟩ := h
    obtain ⟨-, recordedFrame, -⟩ := insertReconciliationEvidence_spec inserts
    have found' : recorded.order row.intentId = some row := by
      rw [recordedFrame]
      exact found
    obtain ⟨closed, outcome⟩ := applyRecordedEvidence_cases found' h
    refine ⟨?_, ?_⟩
    · rw [recordedFrame] at closed
      exact closed
    · rcases outcome with ⟨frame, status, state⟩ | ⟨target, agrees, named, applied, answer⟩
      · exact .inl ⟨.of_recorded recordedFrame frame, status, state⟩
      · exact .inr ⟨target, agrees, named, applied.of_recorded recordedFrame, answer⟩

structure NotFoundApplied (db db' : Database) (row : OrderRow) (resolvedAt : Instant) : Prop where
  order : ∀ j, db'.order j =
    if j = row.intentId then some (row.afterNotFound resolvedAt) else db.order j
  frame : db' = { db with
    riskReservations := db'.riskReservations
    outboxMessages := db'.outboxMessages
    orders := db'.orders
    reconciliationAttempts := db'.reconciliationAttempts }

theorem rejectNotFound_spec {prior : AttemptRow} (found : db.order row.intentId = some row)
    (h : db.rejectNotFound attemptId row prior resolvedAt = .ok (result, db')) :
    AttemptFinished db db' attemptId "RESOLVED" (some notFoundReason) ∧
      NotFoundApplied db db' row resolvedAt ∧
      result = ⟨.resolved, .rejected, some notFoundReason⟩ := by
  simp only [rejectNotFound, Except.bind_ok_iff] at h
  obtain ⟨entered, enters, moved, moves, finished, finishes, h⟩ := h
  cases h
  obtain ⟨finishedFrame, f, sameOrder, rows⟩ := finishReconciliationAttempt_finished finishes
  have frame : moved = { db with orders := moved.orders } := by
    rw [transitionOrder_frame moves, transitionOrder_frame enters]
  -- The order passes through RECONCILING.
  have order : ∀ j, moved.order j = if j = row.intentId then
      some ((row.reach .reconciling resolvedAt none none).reach .rejected resolvedAt none none)
      else db.order j := by
    intro j
    rw [order_of_transitionOrder moves, order_of_transitionOrder enters]
    split
    · rename_i here
      rw [here, found, Option.map_some, Option.map_some]
    · rfl
  have here := (order row.intentId).trans (if_pos rfl)
  have named : ((row.reach .reconciling resolvedAt none none).reach .rejected resolvedAt none
      none).orderId = row.orderId := by
    rw [(reach_keys _ _ _ _ _).1, (reach_keys _ _ _ _ _).1]
  refine ⟨⟨f, sameOrder, ?_⟩, ⟨?_, ?_⟩, rfl⟩
  · rw [rows, frame]
    rfl
  · intro j
    rw [finishedFrame]
    refine (order_updateOrders_id here named
      (noteNotFound_keys resolvedAt) j).trans ?_
    split
    · rfl
    · rename_i elsewhere
      rw [order j, if_neg elsewhere]
  · rw [finishedFrame, frame]
    rfl

/-- **What negative evidence does**: it closes its attempt, or rejects an UNKNOWN order as
    well. -/
theorem applyReconciliationNotFound_cases {evidence : NotFoundEvidence} {policy : NotFoundPolicy}
    (h : applyReconciliationNotFound attemptId evidence policy resolvedAt db = .ok (result, db')) :
    ∃ row, db.orderOfStartedAttempt attemptId = some row ∧
      AttemptFinished db db' attemptId result.status.value result.reasonCode ∧
      (db' = { db with reconciliationAttempts := db'.reconciliationAttempts } ∧
          (result.status = .idempotent ∨ result.status = .unresolved) ∧
          result.orderState = row.state ∨
        row.state = .unknown ∧ NotFoundApplied db db' row resolvedAt ∧
          result = ⟨.resolved, .rejected, some notFoundReason⟩) := by
  unfold applyReconciliationNotFound at h
  split at h
  · cases h
  split at h
  · cases h
  rename_i row started
  obtain ⟨attempt, -, -, byId⟩ := orderOfStartedAttempt_spec started
  refine ⟨row, started, ?_⟩
  split at h
  · obtain ⟨frame, closed, rfl⟩ := answer_of_finish h
    exact ⟨closed, .inl ⟨frame, .inl rfl, rfl⟩⟩
  split at h
  · rename_i prior chosen
    have unknown := (Option.filter_eq_some_iff.mp chosen).2
    simp only [decide_eq_true_eq] at unknown
    obtain ⟨closed, applied, rfl⟩ :=
      rejectNotFound_spec (order_of_orderById byId) h
    exact ⟨closed, .inr ⟨unknown.1, applied, rfl⟩⟩
  · obtain ⟨frame, closed, rfl⟩ := answer_of_finish h
    exact ⟨closed, .inl ⟨frame, .inr rfl, rfl⟩⟩

end Evidence

end TradingLab

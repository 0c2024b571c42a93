import TradingLab.Persistence.Resolution
import TradingLab.Properties.Lifecycle

/-!
# Exposure is neither leaked nor freed

A reservation is released exactly when its order has ended, and once; the financial facts of an
ended order are never written again.
-/
namespace TradingLab

open Relational
open Database

/-! ### The four financial tables hold the same intents -/

structure Database.Linked (db : Database) : Prop where
  order : ∀ i, (db.order i).isSome = (db.intent i).isSome
  reservation : ∀ i, (db.reservation i).isSome = (db.intent i).isSome
  outbox : ∀ i, (db.outbox i).isSome = (db.intent i).isSome

namespace Database.Linked

variable {db db' : Database}

theorem empty : Database.empty.Linked :=
  ⟨fun _ => rfl, fun _ => rfl, fun _ => rfl⟩

section

variable (linked : db.Linked)
include linked

theorem updateOrders (p : OrderRow → Bool) {f : OrderRow → OrderRow}
    (keys : OrderRow.SameKeys f) : (db.updateOrders p f keys).Linked :=
  ⟨fun i => (Table.isSome_lookup_update (OrderRow.keeps keys) (fun o => (keys o).2) i).trans
    (linked.order i), linked.reservation, linked.outbox⟩

theorem updateOutbox (p : OutboxRow → Bool) {f : OutboxRow → OutboxRow}
    (keys : OutboxRow.SameKeys f) : (db.updateOutbox p f keys).Linked :=
  ⟨linked.order, linked.reservation, fun i =>
    (Table.isSome_lookup_update (OutboxRow.keeps keys) (fun m => (keys m).2) i).trans
      (linked.outbox i)⟩

theorem releaseForIntent (intentId : String) (releasedAt : Instant)
    (reason : String) (evidence : Option String) :
    (db.releaseForIntent intentId releasedAt reason evidence).Linked :=
  ⟨linked.order, fun i =>
    (Table.isSome_lookup_update (ReservationRow.release_keeps releasedAt reason evidence)
      (fun _ => rfl) i).trans (linked.reservation i), linked.outbox⟩

theorem transitionOrder {intentId : String} {s : OrderState} {at_ : Instant}
    {brokerOrderId : Option String} {pnl : Option Int}
    (h : db.transitionOrder intentId s at_ brokerOrderId pnl = .ok db') : db'.Linked := by
  obtain ⟨row, -, ⟨-, rfl⟩ | ⟨-, -, rfl⟩⟩ := transitionOrder_eq_ok h
  · exact linked
  · exact linked.updateOrders _ _

theorem creates (created : Creates db db') : db'.Linked := by
  obtain ⟨_, _, _, _, _, _, _, h⟩ := created
  constructor
  · intro i
    rw [order_created h, intent_created h]
    split
    · rfl
    · exact linked.order i
  · intro i
    rw [reservation_created h, intent_created h]
    split
    · rfl
    · exact linked.reservation i
  · intro i
    rw [outbox_created h, intent_created h]
    split
    · rfl
    · exact linked.outbox i

theorem change (change : Change db db') : db'.Linked := by
  cases change with
  | move _ _ _ _ _ moved => exact linked.transitionOrder moved
  | close _ _ _ _ _ _ _ _ _ _ moved => exact (linked.transitionOrder moved).releaseForIntent _ _ _ _
  | claim _ _ _ _ moved => exact (linked.updateOutbox _ _).transitionOrder moved
  | message => exact linked.updateOutbox _ _
  | note => exact linked.updateOrders _ _
  | settleDigit _ _ _ _ _ _ _ _ applied =>
    obtain ⟨row, rfl⟩ := applyDigitRuntimeSettlement_frame applied
    exact ⟨linked.order, linked.reservation, linked.outbox⟩
  | inbox | evidence | attempts | processed | digitRow =>
    exact ⟨linked.order, linked.reservation, linked.outbox⟩

end

end Database.Linked

theorem Reachable.linked {db : Database} (reachable : Reachable db) : db.Linked :=
  reachable.of_changes Database.Linked.empty (fun _ _ linked created => linked.creates created)
    fun _ _ linked change => linked.change change

/-! ### What the abstract states say about the rows -/

namespace Lifecycle

theorem released_iff (l : Lifecycle) :
    l.exposure.reservation = .released ↔ l.state.isTerminal = true := by
  cases l with
  | live s => simp [exposure, state, s.2]
  | settled | rejected => simp [exposure, state, OrderState.isTerminal]

theorem releaseCount_eq (l : Lifecycle) :
    l.exposure.releaseCount = if l.exposure.reservation = .released then 1 else 0 := by
  cases l <;> rfl

theorem pnlApplicationCount_eq (l : Lifecycle) :
    l.exposure.pnlApplicationCount = if l.exposure.realizedPnlMinor.isSome then 1 else 0 := by
  cases l <;> rfl

end Lifecycle

namespace Reachable

variable {db : Database} {i : String} {o : OrderRow}

section

variable (reachable : Reachable db) (found : db.order i = some o)
include reachable found

theorem encoded :
    ∃ r l, db.reservation i = some r ∧ Exposure.of o r = Lifecycle.exposure l := by
  obtain ⟨lives, refines⟩ := reachable.refines
  have linked := reachable.linked
  obtain ⟨r, reserved⟩ : ∃ r, db.reservation i = some r := by
    rw [← Option.isSome_iff_exists, linked.reservation i, ← linked.order i, found]
    rfl
  have encodes := refines i
  simp only [Database.exposure, found, reserved, Option.bind_some, Option.map_some] at encodes
  obtain ⟨l, -, same⟩ := Option.map_eq_some_iff.mp encodes.symm
  exact ⟨r, l, reserved, same.symm⟩

theorem exposure_of_settled (settled : o.state = .settled) {pnl : Int}
    (given : o.realizedPnlMinor = some pnl) :
    db.exposure i = some ⟨.settled, some pnl, 1, .released, 1⟩ := by
  obtain ⟨r, l, reserved, same⟩ := reachable.encoded found
  simp only [Database.exposure, found, reserved, Option.bind_some, Option.map_some, same]
  simp only [Exposure.of, settled, given] at same
  -- Only the settled exposures of the abstract machine have this state.
  cases l with
  | live s =>
    have live := s.2
    simp only [Lifecycle.exposure, Exposure.mk.injEq] at same
    rw [← same.1] at live
    cases live
  | settled pnl' =>
    simp only [Lifecycle.exposure, Exposure.mk.injEq] at same
    simp [Lifecycle.exposure, ← same.2.1]
  | rejected => simp [Lifecycle.exposure] at same

theorem exposure_frozen (ended : o.state.isTerminal = true) (ops : List WriterOp) :
    (Machine.run writerStep db ops).exposure i = db.exposure i := by
  obtain ⟨lives, refines⟩ := reachable.refines
  obtain ⟨lives', refines', advances⟩ := refines_run refines ops
  obtain ⟨r, l, reserved, same⟩ := reachable.encoded found
  have here : db.exposure i = some l.exposure := by
    simp only [Database.exposure, found, reserved, Option.bind_some, Option.map_some, same]
  rw [refines' i, here]
  have before := refines i
  have after := advances i
  rw [here] at before
  cases alive : lives i with
  | none =>
    rw [alive] at before
    cases before
  | some start =>
    rw [alive] at before after
    have startExposure : start.exposure = l.exposure := (Option.some.inj before).symm
    have startEnded : start.state.isTerminal = true := by
      rw [← Lifecycle.exposure_order, startExposure, ← same]
      exact ended
    generalize lives' i = final at after ⊢
    cases after with
    | steps path =>
      rw [Lifecycle.eq_of_terminal startEnded path, Option.map_some, startExposure]

end

end Reachable

theorem OrderState.isTerminal_iff {s : OrderState} :
    s.isTerminal = true ↔ s = .settled ∨ s = .rejected := by
  cases s <;> decide

/-! ### A sample order -/

namespace Sample

def usd (minorUnits : Int) : Money := ⟨minorUnits, "USD", currencyCode_usd⟩

def request : OrderRequest where
  correlationId := "corr-1"
  broker := .deriv
  accountId := "CR100"
  product := "CALL"
  symbol := "R_100"
  direction := .call
  amount := usd 100
  strategyId := "ema-cross"
  strategyVersion := "1"
  deadlineAt := 1000
  valid := by decide

def command : OrderCommand where
  messageId := "message-1"
  correlationId := "corr-1"
  intentId := "intent-1"
  orderId := "order-1"
  broker := .deriv
  accountId := "CR100"
  product := "CALL"
  symbol := "R_100"
  direction := .call
  amount := usd 100
  deadlineAt := 1000
  valid := by decide

def eventFields (eventId : String) (sequence : Option Int) (status : ExternalOrderStatus)
    (resultMinor : Option Int) : BrokerOrderEventFields where
  eventId := eventId
  eventVersion := 1
  broker := .deriv
  accountId := "CR100"
  clientOrderRef := "order-1"
  brokerOrderId := "contract-1"
  correlationId := "corr-1"
  externalSequence := sequence
  externalStatus := status
  occurredAt := 10
  observedAt := 11
  product := "CALL"
  symbol := "R_100"
  direction := .call
  amount := usd 100
  resultMinor := resultMinor
  resultCurrency := resultMinor.map fun _ => "USD"
  evidenceHash := ⟨[]⟩

def hashed (fields : BrokerOrderEventFields) : BrokerOrderEventFields :=
  { fields with evidenceHash := fields.expectedEvidenceHash }

def settledEvent : BrokerOrderEvent :=
  ⟨hashed (eventFields "event-1" (some 1) .settled (some 90)), by decide⟩

def evidenceFields (evidenceId : String) (status : ExternalOrderStatus) (pnl : Option Int) :
    ReconciliationEvidenceFields where
  evidenceId := evidenceId
  source := .statusQuery
  observedAt := 20
  clientOrderRef := "order-1"
  brokerOrderId := some "contract-1"
  externalStatus := status
  broker := .deriv
  accountId := "CR100"
  product := "CALL"
  symbol := "R_100"
  direction := .call
  amount := usd 100
  evidenceVersion := 1
  realizedPnlMinor := pnl

def unknownEvidence : ReconciliationEvidence :=
  ⟨evidenceFields "evidence-1" .externalUnknown none, by decide⟩

def persistOp : WriterOp :=
  .persistIntentReservationOutbox request command "intent-1" "reservation-1" "order-1" 0 {}

def acceptOps : List WriterOp :=
  [persistOp, .claimNextMessage 1 none none,
    .recordDispatchResult command "ACCEPTED" (some "contract-1") none 2]

def settleOps : List WriterOp :=
  acceptOps ++ [.applyNormalizedBrokerEvent settledEvent 12]

end Sample

/-- **Exposure is neither leaked nor freed**, in every reachable database. -/
theorem reservation_released_iff_order_ended {db : Database} (reachable : Reachable db) :
    (∀ ti ∈ db.tradeIntents.rows, ∃ o r,
      db.order ti.intentId = some o ∧ db.reservation ti.intentId = some r ∧
      (r.state = .released ↔ o.state = .settled ∨ o.state = .rejected) ∧
      r.releaseCount = (if r.state = .released then 1 else 0)) ∧
    ∀ a ∈ db.riskReservations.rows, ∀ b ∈ db.riskReservations.rows,
      a.state = .active → b.state = .active → a.broker = b.broker → a.accountId = b.accountId →
      a = b := by
  constructor
  · intro ti member
    have present : (db.order ti.intentId).isSome = true := by
      rw [reachable.linked.order, intent, Table.lookup_of_mem unique_intentRow_intentId
        member]
      rfl
    obtain ⟨o, found⟩ := Option.isSome_iff_exists.mp present
    obtain ⟨r, l, reserved, same⟩ := reachable.encoded found
    have order : o.state = l.state := by rw [← Lifecycle.exposure_order, ← same]; rfl
    have reservation : r.state = l.exposure.reservation := by rw [← same]; rfl
    have count : r.releaseCount = l.exposure.releaseCount := by rw [← same]; rfl
    refine ⟨o, r, found, reserved, ?_, ?_⟩
    · rw [reservation, l.released_iff, order, OrderState.isTerminal_iff]
    · rw [count, reservation, l.releaseCount_eq]
  · intro a memberA b memberB activeA activeB broker account
    exact Table.eq_of_mem memberA memberB fun apart => apart.2.2 ⟨activeA, activeB, broker, account⟩

theorem released_after_settlement :
    ∃ o r, (Machine.run writerStep Database.empty Sample.settleOps).order "intent-1" = some o ∧
      (Machine.run writerStep Database.empty Sample.settleOps).reservation "intent-1" = some r ∧
      o.state = .settled ∧ r.state = .released ∧ r.releaseCount = 1 := by
  obtain ⟨o, r, found, reserved, released, count⟩ :=
    (reservation_released_iff_order_ended ⟨Sample.settleOps, rfl⟩).1
      (newIntent Sample.request "intent-1" 0) (by decide)
  have settled : ((Machine.run writerStep Database.empty Sample.settleOps).order
    "intent-1").map OrderRow.state = some .settled := by decide
  have state : o.state = .settled := by
    rw [show (newIntent Sample.request "intent-1" 0).intentId = "intent-1" from rfl] at found
    rw [found] at settled
    exact Option.some.inj settled
  have free := released.mpr (.inl state)
  exact ⟨o, r, found, reserved, state, free, by rw [count, if_pos free]⟩

/-! ### What operations answer about an ended order -/

section Answers
variable {db db' : Database} {o row : OrderRow} {result : ReconciliationApplyResult}
  {attemptId : String} {evidence : ReconciliationEvidence} {resolvedAt : Instant}

theorem event_status_of_terminal {event : BrokerOrderEvent} {receivedAt : Instant}
    {result : BrokerEventApplyResult} (found : db.orderById event.clientOrderRef = some o)
    (ended : o.state.isTerminal = true)
    (h : applyNormalizedBrokerEvent event receivedAt db = .ok (result, db')) :
    result.status = .duplicate ∨ result.status = .lateIgnored ∨ result.status = .conflict := by
  rcases applyNormalizedBrokerEvent_cases h with ⟨-, status⟩ | ⟨row, ti, target, _, -, byId, -,
    classified, -⟩
  · exact status
  · -- An ended order has an answer of its own, so no event is in sequence for it.
    rw [found] at byId
    cases byId
    obtain ⟨-, -, -, live, -⟩ := classifyEvent_target classified
    simp only [terminalBrokerEventResult, ended, if_true] at live
    repeat' split at live
    all_goals cases live

theorem applyRecordedEvidence_unresolved {ti : IntentRow}
    (h : db.applyRecordedEvidence attemptId evidence row ti resolvedAt = .ok (result, db'))
    (unresolved : result.status = .unresolved) : evidence.externalStatus = .externalUnknown := by
  unfold applyRecordedEvidence at h
  split at h
  · rw [(finishReconciliationConflict_cases h).2.2] at unresolved
    cases unresolved
  simp only [applyMatchingEvidence, Except.bind_ok_iff] at h
  obtain ⟨prior, -, h⟩ := h
  split at h
  · simp only [Except.bind_ok_iff] at h
    obtain ⟨_, -, h⟩ := h
    cases h
    cases unresolved
  · rw [(finishReconciliationConflict_cases h).2.2] at unresolved
    cases unresolved
  split at h
  · rename_i noState
    cases status : evidence.externalStatus <;> rw [status] at noState <;> first | rfl | cases
      noState
  · simp only [resolveByEvidence, Except.bind_ok_iff] at h
    obtain ⟨_, -, _, -, _, -, h⟩ := h
    cases h
    cases unresolved

theorem evidence_unresolved
    (h : applyReconciliationEvidence attemptId evidence resolvedAt db = .ok (result, db'))
    (unresolved : result.status = .unresolved) : evidence.externalStatus = .externalUnknown := by
  unfold applyReconciliationEvidence at h
  split at h
  · cases h
  split at h
  · cases h
  split at h
  · split at h
    · exact applyRecordedEvidence_unresolved h unresolved
    · rw [(finishReconciliationConflict_cases h).2.2] at unresolved
      cases unresolved
  · simp only [Except.bind_ok_iff] at h
    obtain ⟨_, -, h⟩ := h
    exact applyRecordedEvidence_unresolved h unresolved

theorem notFound_status_of_terminal {evidence : NotFoundEvidence}
    {policy : NotFoundPolicy} (found : db.orderOfStartedAttempt attemptId = some o)
    (ended : o.state.isTerminal = true)
    (h : applyReconciliationNotFound attemptId evidence policy resolvedAt db = .ok (result, db')) :
    result.status = .idempotent ∨ result.status = .unresolved := by
  obtain ⟨row, started, -, ⟨-, status, -⟩ | ⟨unknown, -⟩⟩ := applyReconciliationNotFound_cases h
  · exact status
  · -- Rejecting needs an UNKNOWN order.
    rw [found] at started
    cases started
    rw [unknown] at ended
    cases ended

end Answers

/-- **The facts of an ended order are written once**; what later events and evidence answer is
    listed. -/
theorem terminal_facts_write_once {db : Database} (reachable : Reachable db) :
    (∀ i o, db.order i = some o → o.state = .settled ∨ o.state = .rejected →
      ∃ r, db.reservation i = some r ∧ ∀ ops : List WriterOp, ∃ o' r',
        (Machine.run writerStep db ops).order i = some o' ∧
        (Machine.run writerStep db ops).reservation i = some r' ∧
        o'.state = o.state ∧ o'.realizedPnlMinor = o.realizedPnlMinor ∧
        o'.pnlApplicationCount = o.pnlApplicationCount ∧
        r'.state = r.state ∧ r'.releaseCount = r.releaseCount) ∧
    (∀ o ∈ db.orders.rows, o.pnlApplicationCount ≤ 1 ∧
      (o.pnlApplicationCount = 1 ↔ o.realizedPnlMinor ≠ none)) ∧
    (∀ o ∈ db.orders.rows, o.state = .settled ∨ o.state = .rejected →
      (∀ event receivedAt result db', event.clientOrderRef = o.orderId →
        applyNormalizedBrokerEvent event receivedAt db = .ok (result, db') →
        result.status = .duplicate ∨ result.status = .lateIgnored ∨ result.status = .conflict) ∧
      (∀ attemptId evidence resolvedAt result db', db.orderOfStartedAttempt attemptId = some o →
        applyReconciliationEvidence attemptId evidence resolvedAt db = .ok (result, db') →
        result.status = .unresolved → evidence.externalStatus = .externalUnknown) ∧
      (∀ attemptId evidence policy resolvedAt result db',
        db.orderOfStartedAttempt attemptId = some o →
        applyReconciliationNotFound attemptId evidence policy resolvedAt db = .ok (result, db') →
        result.status = .idempotent ∨ result.status = .unresolved)) := by
  refine ⟨fun i o found ended => ?_, fun o member => ?_, fun o member ended => ?_⟩
  · obtain ⟨r, l, reserved, same⟩ := reachable.encoded found
    refine ⟨r, reserved, fun ops => ?_⟩
    have frozen := reachable.exposure_frozen found (OrderState.isTerminal_iff.mpr ended) ops
    simp only [Database.exposure, found, reserved, Option.bind_some, Option.map_some,
      Option.bind_eq_some_iff, Option.map_eq_some_iff] at frozen
    obtain ⟨o', found', r', reserved', exposure⟩ := frozen
    simp only [Exposure.of, Exposure.mk.injEq] at exposure
    exact ⟨o', r', found', reserved', exposure⟩
  · have found : db.order o.intentId = some o := order_eq_some_iff.mpr ⟨member, rfl⟩
    obtain ⟨r, l, reserved, same⟩ := reachable.encoded found
    have count : o.pnlApplicationCount = l.exposure.pnlApplicationCount := by rw [← same]; rfl
    have pnl : o.realizedPnlMinor = l.exposure.realizedPnlMinor := by rw [← same]; rfl
    rw [count, pnl, l.pnlApplicationCount_eq]
    cases l.exposure.realizedPnlMinor <;> simp
  · have ended := OrderState.isTerminal_iff.mpr ended
    refine ⟨fun event receivedAt result db' ref h => ?_, fun _ _ _ _ _ _ h unresolved => ?_,
      fun _ _ _ _ _ _ started h => ?_⟩
    · exact event_status_of_terminal
        (orderById_eq_some_iff.mpr ⟨member, ref.symm⟩) ended h
    · exact evidence_unresolved h unresolved
    · exact notFound_status_of_terminal started ended h

theorem settled_sample_keeps_pnl :
    ∃ o, (Machine.run writerStep Database.empty Sample.settleOps).order "intent-1" = some o ∧
      o.state = .settled ∧ ∀ later : List WriterOp, ∃ o', (Machine.run writerStep
        (Machine.run writerStep Database.empty Sample.settleOps) later).order "intent-1" = some o' ∧
        o'.realizedPnlMinor = some 90 := by
  obtain ⟨o, found, state, pnl⟩ : ∃ o, (Machine.run writerStep Database.empty
      Sample.settleOps).order "intent-1" = some o ∧ o.state = .settled ∧
      o.realizedPnlMinor = some 90 := ⟨_, rfl, rfl, rfl⟩
  refine ⟨o, found, state, fun later => ?_⟩
  obtain ⟨r, -, frozen⟩ := (terminal_facts_write_once ⟨Sample.settleOps, rfl⟩).1 "intent-1" o found
    (.inl state)
  obtain ⟨o', r', found', -, -, pnl', -⟩ := frozen later
  exact ⟨o', found', pnl'.trans pnl⟩

/-- Evidence that reports nothing about the settled order is accepted and answered
    UNRESOLVED: none of DUPLICATE, LATE_IGNORED, CONFLICT, IDEMPOTENT, RESOLVED. -/
theorem unresolved_answer_for_settled_order :
    ∃ db, Reachable db ∧ (db.order "intent-1").map OrderRow.state = some .settled ∧
      (applyReconciliationEvidence "attempt-1" Sample.unknownEvidence 30 db).map Prod.fst =
        .ok ⟨.unresolved, .settled, some "RECONCILIATION_EXTERNAL_UNKNOWN"⟩ :=
  ⟨Machine.run writerStep Database.empty (Sample.settleOps ++
    [.beginReconciliationAttempt "attempt-1" "order-1" "corr-1" 20]),
      ⟨_, rfl⟩, by decide, by decide⟩

end TradingLab

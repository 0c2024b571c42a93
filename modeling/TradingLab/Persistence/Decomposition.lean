import TradingLab.Persistence.Changes

/-!
# The operations as chains of changes

One lemma per writer operation, and from them `WriterOp.changes` and `Reachable.of_changes`: what
new intents and changes preserve is preserved by every run of the writer.
-/
namespace TradingLab

open Relational
open Database ChangeWithin Operation
open DigitRiskRuntime

section Operations
variable {t : Touches} {db db' : Database} {entry : OutboxRow × OrderRow}
  {claimedAt recordedAt at_ recoveredAt checkedAt releasedAt receivedAt completedAt resolvedAt now : Instant}
  {broker accountId reasonCode brokerOrderId evidenceId : Option String}
  {answer : Option OrderCommand}
  {outcome intentId reason stateReason orderId attemptId reservationId : String}
  {command : OrderCommand} {row o : OrderRow} {target : OrderState} {event : BrokerOrderEvent}
  {f : OrderRow → OrderRow} {ti : IntentRow} {result : ReconciliationApplyResult}
  {evidence : ReconciliationEvidence} {policy : DigitRuntimePolicy} {reset : Bool}

theorem mem_pendingMessages (h : entry ∈ db.pendingMessages) :
    db.message entry.1.messageId = some entry.1 ∧ entry.1.state = .pending ∧
      db.order entry.1.intentId = some entry.2 := by
  simp only [pendingMessages, List.mem_filterMap, List.mem_insertionSort, List.mem_filter,
    beq_iff_eq, Option.map_eq_some_iff] at h
  obtain ⟨m, ⟨member, pending⟩, o, found, rfl⟩ := h
  exact ⟨Table.lookup_of_mem unique_outboxRow_messageId member, pending, found⟩

theorem claimNextMessage_spec
    (h : claimNextMessage claimedAt broker accountId db = .ok (answer, db')) :
    (answer = none ∧ db' = db) ∨ ∃ message order command, answer = some command ∧
      db.message message.messageId = some message ∧ message.state = .pending ∧
      db.order message.intentId = some order ∧
      readCommand (message.payload.setDefault "order_id" (.text order.orderId)) = .ok command ∧
      (db.updateOutbox (fun m => m.messageId == message.messageId && m.state == .pending)
        (fun m => m.claim claimedAt) (OutboxRow.claim_keys claimedAt)).transitionOrder
          message.intentId .dispatching claimedAt none none = .ok db' := by
  unfold claimNextMessage at h
  split at h
  · cases h
    exact .inl ⟨rfl, rfl⟩
  · rename_i message order chosen
    obtain ⟨found, pending, ordered⟩ := mem_pendingMessages (List.mem_of_find?_eq_some chosen)
    simp only at h
    split at h
    · simp only [Except.bind_ok_iff] at h
      obtain ⟨moved, transition, command, read, h⟩ := h
      cases h
      exact .inr ⟨message, order, command, rfl, found, pending, ordered, read, transition⟩
    · cases h
      exact .inl ⟨rfl, rfl⟩

theorem claimNextMessage_changes
    (h : claimNextMessage claimedAt broker accountId db = .ok (answer, db')) :
      ChangesWithin ⟨false, false⟩ db db' := by
  rcases claimNextMessage_spec h with ⟨-, rfl⟩ | ⟨message, _, _, -, found, pending, -, -, moved⟩
  · exact .refl
  · exact (claim message claimedAt found pending moved).changes

theorem dispatchOutcome_spec {stateReason : Option String}
    {outboxState : OutboxState} {orderState : OrderState}
    (h : dispatchOutcome outcome reasonCode = some (outboxState, orderState, stateReason)) :
    (outboxState = .dispatched ∧ (orderState = .accepted ∨ orderState = .rejected)) ∨
      (outboxState = .ambiguous ∧ orderState = .unknown) := by
  unfold dispatchOutcome at h
  split at h
  · cases h
    exact .inl ⟨rfl, .inl rfl⟩
  · split at h
    · cases h
      exact .inl ⟨rfl, .inr rfl⟩
    · split at h
      · cases h
        exact .inr ⟨rfl, rfl⟩
      · cases h

theorem recordDispatchResult_changes
    (h : recordDispatchResult command outcome brokerOrderId reasonCode recordedAt db =
      .ok ((), db')) : ChangesWithin ⟨false, false⟩ db db' := by
  unfold recordDispatchResult at h
  split at h
  · cases h
  split at h
  · split at h
    · cases h
    · rename_i outboxState orderState stateReason outcomeEq
      simp only [Except.bind_ok_iff] at h
      obtain ⟨moved, transition, h⟩ := h
      have rest := advance (t := ⟨false, false⟩) recordedAt "BROKER_REJECTED" none
        (absurd rfl) transition
      rcases dispatchOutcome_spec outcomeEq with ⟨rfl, rfl | rfl⟩ | ⟨rfl, rfl⟩ <;> cases h
      all_goals
        exact andThen rest
          (.message (fun _ => ⟨rfl, rfl, rfl, rfl⟩) (fun _ => rfl) fun _ => rfl)
  · cases h

theorem recordDispatchNotSent_changes {reasonCode : String}
    (h : recordDispatchNotSent command reasonCode recordedAt db = .ok ((), db')) :
    ChangesWithin ⟨false, false⟩ db db' := by
  unfold recordDispatchNotSent at h
  simp only at h
  split at h
  · simp only [Except.bind_ok_iff] at h
    obtain ⟨moved, transition, h⟩ := h
    cases h
    have blocked := move (t := ⟨false, false⟩) _ _ _ _ rfl transition
    exact andThen blocked.changes
      (.message (fun _ => ⟨rfl, rfl, rfl, rfl⟩) (fun _ => rfl) fun _ => rfl)
  · cases h

theorem cancel_changes {messageId : String} {state : OutboxState}
    (h : (db.cancelMessage messageId state).rejectUnsent intentId at_ reason = .ok db') :
    ChangesWithin t db db' := by
  simp only [rejectUnsent, Except.bind_ok_iff] at h
  obtain ⟨moved, transition, h⟩ := h
  cases h
  have rejected := advance (t := t) at_ reason none (absurd rfl) transition
  exact andThen rejected
    (.message (fun _ => ⟨rfl, rfl, rfl, rfl⟩) (fun _ => rfl) fun _ => rfl)

theorem cancelExpiredBeforeDispatch_changes {cancelledAt : Instant}
    (h : cancelExpiredBeforeDispatch command cancelledAt db = .ok ((), db')) :
      ChangesWithin ⟨false, false⟩ db db' := by
  simp only [cancelExpiredBeforeDispatch, Except.bind_ok_iff] at h
  obtain ⟨next, cancelled, h⟩ := h
  cases h
  exact cancel_changes cancelled

theorem recoverDispatch_changes
    (h : recoverDispatch recoveredAt db intentId = .ok db') : ChangesWithin t db db' := by
  have unknown := move (t := t) _ _ _ _ rfl h
  exact andThen unknown.changes
    (.message (fun _ => ⟨rfl, rfl, rfl, rfl⟩) (fun _ => rfl) fun _ => rfl)

theorem recoverInterruptedDispatches_changes {count : Nat}
    (h : recoverInterruptedDispatches recoveredAt db = .ok (count, db')) :
      ChangesWithin ⟨false, false⟩ db db' := by
  simp only [recoverInterruptedDispatches, Except.bind_ok_iff] at h
  obtain ⟨next, loop, h⟩ := h
  cases h
  exact Except.foldlM_invariant (ChangesWithin ⟨false, false⟩ db)
    (fun _ _ _ _ chain turn => chain.trans (recoverDispatch_changes turn)) loop .refl

theorem cancelExpiredPending_cases {acc acc' : List String × Database}
    (h : cancelExpiredPending checkedAt acc entry = .ok acc') :
    acc'.2 = acc.2 ∨ (acc.2.cancelMessage entry.1.messageId .pending).rejectUnsent
      entry.1.intentId checkedAt "DEADLINE_EXPIRED_ON_RECOVERY" = .ok acc'.2 := by
  simp only [cancelExpiredPending, Except.bind_ok_iff] at h
  obtain ⟨command, -, h⟩ := h
  split at h
  · cases h
    exact .inl rfl
  · simp only [Except.bind_ok_iff] at h
    obtain ⟨next, cancelled, h⟩ := h
    cases h
    exact .inr cancelled

theorem cancelExpiredPendingMessages_changes {cancelled : List String}
    (h : cancelExpiredPendingMessages checkedAt db = .ok (cancelled, db')) :
      ChangesWithin ⟨false, false⟩ db db' := by
  refine Except.foldlM_invariant (fun acc => ChangesWithin ⟨false, false⟩ db acc.2)
    (fun acc entry _ acc' chain turn => ?_) h .refl
  rcases cancelExpiredPending_cases turn with same | cancelled
  · rw [same]
    exact chain
  · exact chain.trans (cancel_changes cancelled)

theorem applyBrokerEvent_changes {event : BrokerEvent} {processedAt : Instant} {answer : Bool}
    (h : applyBrokerEvent event processedAt db = .ok (answer, db')) :
      ChangesWithin ⟨false, false⟩ db db' := by
  unfold applyBrokerEvent at h
  split at h
  · cases h
    exact .refl
  · simp only [Except.bind_ok_iff, orIntegrityError_eq_ok] at h
    obtain ⟨moved, transition, processed, -, h⟩ := h
    have onlySettled : event.realizedPnlMinor ≠ none → event.newState = .settled := by
      intro given
      by_contra other
      exact given (event.pnl_none_of_not_settled other)
    cases h
    have advanced := advance (t := ⟨false, false⟩) event.occurredAt
      ("ORDER_" ++ event.newState.value)
      (some event.eventId) onlySettled transition
    have recorded := advanced.tail (.processed processed)
    unfold releaseIfTerminal at recorded ⊢
    split <;> simp_all only [if_true] <;> exact recorded

/-! #### Broker events and evidence

Both move the order (through RECONCILING when it is ambiguous) and then annotate what
they moved. -/

/-- The part that events and evidence share: enter RECONCILING, reach the target, and
    release the reservation of a terminal target. -/
theorem resolve_changes {ambiguous : Bool} {entered moved : Database} {at₁ at₂ : Instant}
    {pnl : Option Int} (releasedAt : Instant) (reason : String) (evidence : Option String)
    (found : db.order row.intentId = some row) (onlySettled : pnl ≠ none → target = .settled)
    (enters : db.enterReconciling row ambiguous at₁ = .ok entered)
    (moves : entered.transitionUnless (if ambiguous then .reconciling else row.state) row.intentId
      target at₂ brokerOrderId pnl = .ok moved) :
    ChangesWithin t db (moved.releaseIfTerminal target row.intentId releasedAt reason evidence) ∧
      moved = { db with orders := moved.orders } ∧
      ∃ o, moved.order row.intentId = some o ∧ o.state = target ∧ o.orderId = row.orderId := by
  cases ambiguous with
  | true =>
    have enters : db.transitionOrder row.intentId .reconciling at₁ none none = .ok entered := enters
    obtain ⟨o, here, state, orderId⟩ := order_transitionOrder found enters
    have moves := transitionOrder_of_transitionUnless here state moves
    obtain ⟨o', here', state', orderId'⟩ := order_transitionOrder here moves
    refine ⟨?_, ?_, o', here', state', orderId'.trans orderId⟩
    · exact andThen (advance releasedAt reason evidence onlySettled moves)
        (.move _ _ _ _ rfl enters)
    · rw [transitionOrder_frame moves, transitionOrder_frame enters]
  | false =>
    cases enters
    have moves := transitionOrder_of_transitionUnless found rfl moves
    exact ⟨advance releasedAt reason evidence onlySettled moves,
      transitionOrder_frame moves, order_transitionOrder found moves⟩

theorem insertBrokerOrderEvent_spec {orderId : Option String}
    {status : BrokerEventApplyStatus} {createdAt : Instant}
    (h : db.insertBrokerOrderEvent event orderId status reasonCode createdAt = .ok db') :
    ChangeWithin ⟨true, false⟩ db db' ∧ (∃ e ∈ db'.brokerOrderEvents.rows, e.orderId = orderId) ∧
      db' = { db with brokerOrderEvents := db'.brokerOrderEvents } := by
  simp only [insertBrokerOrderEvent, Except.bind_ok_iff, orIntegrityError_eq_ok] at h
  obtain ⟨events, inserted, h⟩ := h
  cases h
  have rows := (Table.insert_eq_some_iff.mp inserted).2
  refine ⟨.inbox fun e member => ⟨e, ?_, rfl, rfl⟩,
    ⟨⟨event, orderId, status, reasonCode, 0, none, createdAt⟩, ?_, rfl⟩, rfl⟩
  · rw [rows]
    exact List.mem_append_left _ member
  · rw [rows]
    exact List.mem_append_right _ (List.mem_singleton_self _)

theorem updateEvent_change {eventId : String} {f : EventRow → EventRow}
    {same : ∀ e, (f e).event = e.event} (orders : ∀ e, (f e).orderId = e.orderId) :
    ChangeWithin ⟨true, false⟩ db (db.updateEvent eventId f same) := by
  refine .inbox fun e member => ⟨_, List.mem_map_of_mem member, ?_, ?_⟩
  · exact Table.column_change same e
  · exact Table.column_change orders e

theorem reconcileOutbox_change :
    ChangeWithin t db (db.reconcileOutbox intentId stateReason at_) :=
  .message (fun _ => ⟨rfl, rfl, rfl, rfl⟩) (fun _ => rfl) fun _ => rfl

theorem settleDigitEvent_changes
    (settled : target = .settled → ∃ o, db.orderById orderId = some o ∧ o.state = .settled)
    (h : db.settleDigitEvent event orderId target = .ok db') : ChangesWithin t db db' := by
  unfold settleDigitEvent at h
  split at h
  · split at h
    · rename_i isSettled
      exact (settleDigit _ _ _ _ _ _ _ (settled isSettled) h).changes
    · cases h
      exact .refl
  · cases h
    exact .refl

theorem orderById_noted (p : OrderRow → Bool) (keys : OrderRow.SameKeys f)
    (state : ∀ o, (f o).state = o.state) (found : db.order intentId = some o) :
    ∃ o', (db.updateOrders p f keys).orderById o.orderId = some o' ∧ o'.state = o.state := by
  refine ⟨Table.change p f o, ?_, Table.column_change state o⟩
  rw [orderById_updateOrders, orderById_of_order found]
  rfl

/-- What follows the transition commutes with the release: the release writes the
    reservations, the annotations write orders and messages. -/
theorem annotate_changes (ambiguous : Bool) {p : OrderRow → Bool} {keys : OrderRow.SameKeys f}
    {evidence : Option String}
    (note : ∀ next : Database, next.brokerOrderEvents = db.brokerOrderEvents →
      next.reconciliationEvidence = db.reconciliationEvidence →
      ChangeWithin t next (next.updateOrders p f keys)) :
    ChangesWithin t (db.releaseIfTerminal target intentId releasedAt reason evidence)
      (((db.updateOrders p f keys).reconcileOutboxIf ambiguous intentId stateReason
        at_).releaseIfTerminal target intentId releasedAt reason evidence) := by
  have chain : ∀ next : Database, next.brokerOrderEvents = db.brokerOrderEvents →
      next.reconciliationEvidence = db.reconciliationEvidence →
      ChangesWithin t next ((next.updateOrders p f keys).reconcileOutboxIf ambiguous intentId
        stateReason at_) := by
    intro next events evidences
    cases ambiguous with
    | true => exact (note next events evidences).changes.tail reconcileOutbox_change
    | false => exact (note next events evidences).changes
  unfold releaseIfTerminal
  split
  · have := chain (db.releaseForIntent intentId releasedAt reason evidence) rfl rfl
    cases ambiguous <;> exact this
  · exact chain db rfl rfl

theorem orderById_annotated (ambiguous : Bool) {evidence : Option String} (orderId : String) :
    ((db.reconcileOutboxIf ambiguous intentId stateReason at_).releaseIfTerminal target intentId
      releasedAt reason evidence).orderById orderId = db.orderById orderId := by
  cases ambiguous <;> unfold releaseIfTerminal <;> split <;> rfl

theorem applyInSequence_changes {result : BrokerEventApplyResult}
    (found : db.order row.intentId = some row)
    (onlySettled : event.resultMinor ≠ none → target = .settled)
    (h : db.applyInSequence event row target receivedAt = .ok (result, db')) :
    ChangesWithin ⟨true, false⟩ db db' := by
  simp only [applyInSequence, Except.bind_ok_iff] at h
  obtain ⟨recorded, inserts, entered, enters, h⟩ := h
  obtain ⟨inserted, ⟨e, member, hasOrder⟩, frame⟩ := insertBrokerOrderEvent_spec inserts
  have found' : recorded.order row.intentId = some row := by
    rw [frame]
    exact found
  refine andThen ?_ inserted
  split at h
  · -- The order cannot make the transition: only the record of the event changes.
    cases h
    have entering : ChangesWithin ⟨true, false⟩ recorded entered := by
      unfold enterReconciling at enters
      split at enters
      · exact (move _ _ _ _ rfl enters).changes
      · cases enters
        exact .refl
    exact entering.tail (updateEvent_change fun _ => rfl)
  · cases h
  · rename_i moved moves
    obtain ⟨resolved, movedFrame, o, here, state, orderId⟩ := resolve_changes event.occurredAt
      ("BROKER_EVENT_" ++ target.value) (some event.eventId) found' onlySettled enters moves
    simp only [Except.bind_ok_iff] at h
    obtain ⟨finished, finishes, h⟩ := h
    cases h
    have events : moved.brokerOrderEvents = recorded.brokerOrderEvents := by rw [movedFrame]
    refine resolved.trans ((annotate_changes _ fun next sameEvents _ => ?_).trans
      (settleDigitEvent_changes (fun isSettled => ?_) finishes))
    · refine .note (fun _ => ⟨rfl, rfl, rfl, rfl, rfl, rfl, rfl, rfl, rfl⟩)
        (.inr ⟨rfl, e, ?_, hasOrder⟩) (.inl fun _ => rfl)
      rw [sameEvents, events]
      exact member
    · obtain ⟨o', byId, state'⟩ := orderById_noted (fun o => o.orderId == row.orderId)
        (OrderRow.noteEvent_keys event row.state.isAmbiguous receivedAt) (fun _ => rfl) here
      rw [orderId] at byId
      exact ⟨o', (orderById_annotated _ _).trans byId, state'.trans (state.trans isSettled)⟩

theorem orderWithIntent_spec (h : db.orderWithIntent orderId = some (row, ti)) :
    db.orderById orderId = some row ∧ db.intent row.intentId = some ti := by
  unfold orderWithIntent at h
  split at h
  · cases h
  · rename_i o found
    obtain ⟨ti', found', pair⟩ := Option.map_eq_some_iff.mp h
    cases pair
    exact ⟨found, found'⟩

theorem classifyEvent_target (h : db.classifyEvent event row ti = .ok (.inr target)) :
    orderStateForExternalStatus event.externalStatus = some target ∧
      brokerEventMatchingConflict row ti event = none ∧
      db.sequenceReused row.orderId event = false ∧
      terminalBrokerEventResult row event target = none ∧ isLate row event target = false := by
  unfold classifyEvent at h
  split at h
  · cases h
  · rename_i matching
    split at h
    · cases h
    · rename_i fresh
      split at h
      · cases h
      · rename_i state status
        split at h
        · cases h
        · rename_i live
          split at h
          · cases h
          · rename_i onTime
            cases h
            exact ⟨status, matching, by simpa using fresh, live, by simpa using onTime⟩

theorem settled_of_given {α : Type} {status : ExternalOrderStatus} {amount : Option α}
    (named : orderStateForExternalStatus status = some target)
    (only : status ≠ .settled → amount = none) (given : amount ≠ none) : target = .settled := by
  by_contra other
  refine given (only fun settled => ?_)
  rw [settled] at named
  exact other (Option.some.inj named).symm

theorem recordOnly_eq_ok {orderId : Option String} {result answer : BrokerEventApplyResult} :
    db.recordOnly event orderId answer receivedAt = .ok (result, db') ↔
      db.insertBrokerOrderEvent event orderId answer.status answer.reasonCode receivedAt =
        .ok db' ∧ answer = result := by
  simp [recordOnly, Except.bind_ok_iff, and_comm]

theorem applyNormalizedBrokerEvent_changes {result : BrokerEventApplyResult}
    (h : applyNormalizedBrokerEvent event receivedAt db = .ok (result, db')) :
      ChangesWithin ⟨true, false⟩ db db' := by
  unfold applyNormalizedBrokerEvent at h
  split at h
  · -- A replayed event id: at most its conflict counter changes.
    simp only [replayEvent] at h
    split at h <;> cases h
    · exact .refl
    · refine (updateEvent_change ?_).changes
      exact fun _ => rfl
  · split at h
    · exact (insertBrokerOrderEvent_spec (recordOnly_eq_ok.mp h).1).1.changes
    · rename_i row ti joined
      have found := order_of_orderById (orderWithIntent_spec joined).1
      simp only [Except.bind_ok_iff] at h
      obtain ⟨verdict, classified, h⟩ := h
      split at h
      · exact (insertBrokerOrderEvent_spec (recordOnly_eq_ok.mp h).1).1.changes
      · rename_i target
        obtain ⟨status, -⟩ := classifyEvent_target classified
        exact applyInSequence_changes found (settled_of_given status fun other =>
          (event.result_none other).1) h

/-! #### Reconciliation -/

theorem finishReconciliationAttempt_spec {result : String}
    (h : db.finishReconciliationAttempt attemptId result reasonCode completedAt evidenceId =
      .ok db') : ChangeWithin ⟨false, true⟩ db db' := by
  unfold finishReconciliationAttempt updateStartedAttempt at h
  simp only at h
  split at h
  · cases h
    exact .attempts _
  · cases h

theorem finish_changes {answer : ReconciliationApplyResult} {verdict : String}
    (h : (db.finishReconciliationAttempt attemptId verdict reasonCode completedAt evidenceId >>=
      fun next => .ok (answer, next)) = .ok (result, db')) :
    ChangesWithin ⟨false, true⟩ db db' := by
  obtain ⟨next, finished, h⟩ := Except.bind_ok_iff.mp h
  cases h
  exact (finishReconciliationAttempt_spec finished).changes

theorem finishReconciliationConflict_changes {reasonCode : String}
    (h : db.finishReconciliationConflict attemptId row completedAt reasonCode evidenceId =
      .ok (result, db')) : ChangesWithin ⟨false, true⟩ db db' :=
  finish_changes h

theorem settleDigitEvidence_changes
    (settled : target = .settled → ∃ o, db.orderById row.orderId = some o ∧ o.state = .settled)
    (h : db.settleDigitEvidence evidence row ti target resolvedAt = .ok db') :
      ChangesWithin ⟨false, true⟩ db db' := by
  unfold settleDigitEvidence at h
  split at h
  · cases h
    exact .refl
  · split at h
    · rename_i newly
      exact (settleDigit _ _ _ _ _ _ _ (settled newly.1) h).changes
    · cases h
      exact .refl

theorem resolveByEvidence_changes (found : db.order row.intentId = some row)
    (status : orderStateForExternalStatus evidence.externalStatus = some target)
    (recorded : (db.evidence evidence.evidenceId).isSome)
    (h : db.resolveByEvidence attemptId evidence row ti target resolvedAt = .ok (result, db')) :
    ChangesWithin ⟨false, true⟩ db db' := by
  simp only [resolveByEvidence, Except.bind_ok_iff] at h
  obtain ⟨entered, enters, moved, moves, finished, finishes, h⟩ := h
  cases h
  obtain ⟨resolved, movedFrame, o, here, state, orderId⟩ := resolve_changes resolvedAt
    ("RECONCILED_" ++ target.value) (some evidence.evidenceId) found
    (settled_of_given status evidence.pnl_none) enters moves
  simp only [finishEvidence, Except.bind_ok_iff] at finishes
  obtain ⟨settledDb, settles, finishes⟩ := finishes
  have kept : moved.reconciliationEvidence = db.reconciliationEvidence := by rw [movedFrame]
  refine resolved.trans ((annotate_changes true fun next _ sameEvidence => ?_).trans
    ((settleDigitEvidence_changes (fun isSettled => ?_) settles).tail
      (finishReconciliationAttempt_spec finishes)))
  · refine .note (fun _ => ⟨rfl, rfl, rfl, rfl, rfl, rfl, rfl, rfl, rfl⟩) (.inl fun _ => rfl)
      (.inr ⟨evidence.evidenceId, ?_, fun _ => rfl⟩)
    unfold Database.evidence at recorded ⊢
    rw [sameEvidence, kept]
    exact recorded
  · obtain ⟨o', byId, state'⟩ := orderById_noted (fun o => o.orderId == row.orderId)
      (OrderRow.noteEvidence_keys evidence resolvedAt) (fun _ => rfl) here
    rw [orderId] at byId
    exact ⟨o', (orderById_annotated true _).trans byId,
      state'.trans (state.trans isSettled)⟩

theorem applyRecordedEvidence_changes (found : db.order row.intentId = some row)
    (recorded : (db.evidence evidence.evidenceId).isSome)
    (h : db.applyRecordedEvidence attemptId evidence row ti resolvedAt = .ok (result, db')) :
    ChangesWithin ⟨false, true⟩ db db' := by
  unfold applyRecordedEvidence at h
  split at h
  · exact finishReconciliationConflict_changes h
  · simp only [applyMatchingEvidence, Except.bind_ok_iff] at h
    obtain ⟨prior, -, h⟩ := h
    split at h
    · exact finish_changes h
    · exact finishReconciliationConflict_changes h
    · split at h
      · exact finish_changes h
      · rename_i target status
        exact resolveByEvidence_changes found status recorded h

theorem orderOfStartedAttempt_spec (h : db.orderOfStartedAttempt attemptId = some row) :
    ∃ attempt, db.attempt attemptId = some attempt ∧ attempt.result = "STARTED" ∧
      db.orderById attempt.orderId = some row := by
  unfold orderOfStartedAttempt at h
  split at h
  · cases h
  · rename_i attempt found
    split at h
    · rename_i started
      exact ⟨attempt, found, started, h⟩
    · cases h

theorem orderOfStartedAttempt_of {attempt : AttemptRow}
    (begun : db.attempt attemptId = some attempt) (started : attempt.result = "STARTED") :
    db.orderOfStartedAttempt attemptId = db.orderById attempt.orderId := by
  simp only [orderOfStartedAttempt, begun, started, if_true]

theorem insertReconciliationEvidence_spec
    (h : db.insertReconciliationEvidence orderId evidence receivedAt = .ok db') :
    ChangeWithin ⟨false, true⟩ db db' ∧ db' = { db with reconciliationEvidence :=
      db'.reconciliationEvidence } ∧
      (db'.evidence evidence.evidenceId).isSome := by
  unfold insertReconciliationEvidence at h
  split at h
  · simp only [Except.bind_ok_iff, orIntegrityError_eq_ok] at h
    obtain ⟨table, inserted, h⟩ := h
    cases h
    refine ⟨.evidence _ inserted, rfl, ?_⟩
    have := Table.lookup_insert inserted unique_evidenceRow_evidenceId evidence.evidenceId
    simp only [EvidenceRow.evidenceId, if_true] at this
    simp only [Database.evidence, this, Option.isSome_some]
  · cases h

theorem applyReconciliationEvidence_changes
    (h : applyReconciliationEvidence attemptId evidence resolvedAt db = .ok (result, db')) :
    ChangesWithin ⟨false, true⟩ db db' := by
  unfold applyReconciliationEvidence at h
  split at h
  · cases h
  · rename_i row started
    obtain ⟨attempt, -, -, byId⟩ := orderOfStartedAttempt_spec started
    have found := order_of_orderById byId
    split at h
    · cases h
    · split at h
      · rename_i existing known
        split at h
        · exact applyRecordedEvidence_changes found (by rw [known]; rfl) h
        · exact finishReconciliationConflict_changes h
      · simp only [Except.bind_ok_iff] at h
        obtain ⟨recorded, inserts, h⟩ := h
        obtain ⟨inserted, frame, known⟩ := insertReconciliationEvidence_spec inserts
        have found' : recorded.order row.intentId = some row := by
          rw [frame]
          exact found
        exact andThen (applyRecordedEvidence_changes found' known h) inserted

theorem rejectNotFound_changes {prior : AttemptRow}
    (h : db.rejectNotFound attemptId row prior resolvedAt = .ok (result, db')) :
    ChangesWithin ⟨false, true⟩ db db' := by
  simp only [rejectNotFound, Except.bind_ok_iff] at h
  obtain ⟨entered, enters, moved, moves, finished, finishes, h⟩ := h
  cases h
  have rejected := advance (t := ⟨false, true⟩) resolvedAt "RECONCILED_NOT_FOUND"
    (some (notFoundReason ++ ":" ++ prior.attemptId ++ ":" ++ attemptId)) (absurd rfl) moves
  refine andThen (rejected.trans ((annotate_changes true fun next _ _ => ?_).tail
    (finishReconciliationAttempt_spec finishes))) (.move _ _ _ _ rfl enters)
  exact .note (fun _ => ⟨rfl, rfl, rfl, rfl, rfl, rfl, rfl, rfl, rfl⟩) (.inl fun _ => rfl)
    (.inl fun _ => rfl)

theorem applyReconciliationNotFound_changes {evidence : NotFoundEvidence} {policy : NotFoundPolicy}
    (h : applyReconciliationNotFound attemptId evidence policy resolvedAt db = .ok (result, db')) :
    ChangesWithin ⟨false, true⟩ db db' := by
  unfold applyReconciliationNotFound at h
  split at h
  · cases h
  split at h
  · cases h
  split at h
  · exact finish_changes h
  split at h
  · exact rejectNotFound_changes h
  · exact finish_changes h

theorem beginReconciliationAttempt_changes {correlationId : String} {startedAt : Instant}
    (h : beginReconciliationAttempt attemptId orderId correlationId startedAt db = .ok ((), db')) :
    ChangesWithin ⟨false, true⟩ db db' := by
  unfold beginReconciliationAttempt at h
  split at h
  · cases h
  · simp only [Except.bind_ok_iff] at h
    obtain ⟨attempts, -, h⟩ := h
    cases h
    exact (ChangeWithin.attempts attempts).changes

theorem completeReconciliationAttempt_changes {result reasonCode : String}
    (h : completeReconciliationAttempt attemptId result reasonCode completedAt db = .ok ((), db')) :
    ChangesWithin ⟨false, true⟩ db db' := by
  simp only [completeReconciliationAttempt, updateStartedAttempt, Except.bind_ok_iff] at h
  obtain ⟨next, updated, h⟩ := h
  cases h
  split at updated
  · cases updated
    exact (ChangeWithin.attempts _).changes
  · cases updated

theorem reservationWithOrder_spec {r : ReservationRow}
    (h : db.reservationWithOrder reservationId = some (r, o)) :
    db.reservationById reservationId = some r ∧ db.order r.intentId = some o := by
  unfold reservationWithOrder at h
  split at h
  · cases h
  · rename_i r' found
    obtain ⟨o', found', pair⟩ := Option.map_eq_some_iff.mp h
    cases pair
    exact ⟨found, found'⟩

theorem releaseReservation_changes
    (h : releaseReservation reservationId releasedAt db = .ok ((), db')) :
      ChangesWithin ⟨false, false⟩ db db' := by
  unfold releaseReservation at h
  split at h
  · cases h
  · rename_i r o joined
    split at h
    · cases h
      exact .refl
    split at h
    · -- A reservation still ACTIVE although its order is terminal: the order stays, so this
      -- is a `close` to the state the order is already in.
      rename_i terminal
      cases h
      have stays : db.transitionOrder r.intentId o.state releasedAt none none = .ok db := by
        simp only [transitionOrder, (reservationWithOrder_spec joined).2, if_true]
      exact (close _ _ _ _ _ releasedAt _ _ terminal (absurd rfl) stays).changes
    · cases h

theorem releaseAfterReconciliation_changes {evidenceReference : String} {resolvedState : OrderState}
    (h : releaseAfterReconciliation reservationId resolvedState evidenceReference releasedAt db =
      .ok ((), db')) : ChangesWithin ⟨false, false⟩ db db' := by
  unfold releaseAfterReconciliation at h
  split at h
  · cases h
  split at h
  · cases h
  · rename_i terminal
    rw [Bool.not_eq_false] at terminal
    split at h
    · cases h
    split at h
    · simp only [Except.bind_ok_iff] at h
      obtain ⟨entered, enters, moved, moves, h⟩ := h
      cases h
      have closed := close (t := ⟨false, false⟩) _ _ _ _ _ releasedAt
        "EXPLICIT_RECONCILIATION"
        (some evidenceReference) terminal (absurd rfl) moves
      unfold enterReconciling at enters
      split at enters
      · exact andThen closed.changes (.move _ _ _ _ rfl enters)
      · cases enters
        exact closed.changes
    · cases h

/-! #### The digit row -/

theorem configureDigitRiskRuntime_cases (h : configureDigitRiskRuntime policy reset now db =
    .ok ((), db')) :
    policy.validate = .ok () ∧ ∃ row', db' = { db with digitRiskRuntime := some row' } ∧
      (db.digitRiskRuntime = none ∧ row'.toDigitRiskRuntimeFields = policy.newRow now ∨
        ∃ row, db.digitRiskRuntime = some row ∧
          ¬ (row.configFingerprint ≠ policy.configFingerprint ∧ row.martingaleStep > 0 ∧
            reset = false) ∧
          row'.toDigitRiskRuntimeFields =
            if reset then (policy.install row.toDigitRiskRuntimeFields now).resetSequence
            else policy.install row.toDigitRiskRuntimeFields now) := by
  simp only [configureDigitRiskRuntime, Except.bind_ok_iff] at h
  obtain ⟨_, valid, h⟩ := h
  refine ⟨valid, ?_⟩
  split at h
  · rename_i missing
    simp only [Except.bind_ok_iff] at h
    obtain ⟨row', made, h⟩ := h
    cases h
    exact ⟨row', rfl, .inl ⟨missing, make_eq_ok made⟩⟩
  · rename_i row present
    split at h
    · cases h
    · rename_i idle
      simp only [Except.bind_ok_iff] at h
      obtain ⟨row', made, h⟩ := h
      cases h
      exact ⟨row', rfl, .inr ⟨row, present, idle, make_eq_ok made⟩⟩

theorem configureDigitRiskRuntime_changes (h : configureDigitRiskRuntime policy reset now db =
    .ok ((), db')) :
    ChangesWithin ⟨false, false⟩ db db' := by
  obtain ⟨-, row', rfl, ⟨-, fields⟩ | ⟨row, present, -, fields⟩⟩ :=
    configureDigitRiskRuntime_cases h
  · refine (digitRow row' (.inl ?_)).changes
    rw [fields]
    rfl
  · refine (digitRow row' (.inr ⟨row, present, ?_⟩)).changes
    rw [fields]
    cases reset <;> rfl

theorem resetDigitTestSessionIfFlat_cases (h : resetDigitTestSessionIfFlat now db = .ok ((), db')) :
    ∃ row row', db.digitRiskRuntime = some row ∧
      db' = { db with digitRiskRuntime := some row' } ∧
      row'.toDigitRiskRuntimeFields = { row.resetSequence with
        dailyPnlMinor := 0
        sessionStartedAt := some now
        updatedAt := now } := by
  unfold resetDigitTestSessionIfFlat at h
  split at h
  · cases h
  split at h
  · cases h
  · rename_i row present
    simp only [Except.bind_ok_iff] at h
    obtain ⟨row', made, h⟩ := h
    cases h
    exact ⟨row, row', present, rfl, make_eq_ok made⟩

theorem resetDigitTestSessionIfFlat_changes
    (h : resetDigitTestSessionIfFlat now db = .ok ((), db')) :
      ChangesWithin ⟨false, false⟩ db db' := by
  obtain ⟨row, row', present, rfl, fields⟩ := resetDigitTestSessionIfFlat_cases h
  refine (digitRow row' (.inr ⟨row, present, ?_⟩)).changes
  rw [fields]
  rfl

theorem expireDigitCooldown_cases {answer : Option DigitRiskRuntime}
    (h : expireDigitCooldown checkedAt db = .ok (answer, db')) :
    answer = db'.digitRiskRuntime ∧
      (db' = db ∨ ∃ row row', db.digitRiskRuntime = some row ∧
        db' = { db with digitRiskRuntime := some row' } ∧
        row'.toDigitRiskRuntimeFields = { row.resetSequence with updatedAt := checkedAt }) := by
  unfold expireDigitCooldown at h
  split at h
  · rename_i missing
    cases h
    exact ⟨missing.symm, .inl rfl⟩
  · rename_i row present
    split at h
    · cases h
      exact ⟨present.symm, .inl rfl⟩
    split at h
    · split at h
      · simp only [Except.bind_ok_iff] at h
        obtain ⟨row', made, h⟩ := h
        cases h
        exact ⟨rfl, .inr ⟨row, row', present, rfl, make_eq_ok made⟩⟩
      · cases h
        exact ⟨present.symm, .inl rfl⟩
    · cases h

theorem expireDigitCooldown_changes {answer : Option DigitRiskRuntime}
    (h : expireDigitCooldown checkedAt db = .ok (answer, db')) :
      ChangesWithin ⟨false, false⟩ db db' := by
  obtain ⟨-, rfl | ⟨row, row', present, rfl, fields⟩⟩ := expireDigitCooldown_cases h
  · exact .refl
  · refine (digitRow row' (.inr ⟨row, present, ?_⟩)).changes
    rw [fields]
    rfl

end Operations

def Creates (db db' : Database) : Prop :=
  ∃ request command intentId reservationId orderId createdAt limits,
    persistIntentReservationOutbox request command intentId reservationId orderId createdAt limits
      db = .ok ((), db')

def WriterOp.newCommand : WriterOp → Option OrderCommand
  | .persistIntentReservationOutbox _ command _ _ _ _ _ => some command
  | _ => none

def WriterOp.brokerOrderEvent : WriterOp → Option (BrokerOrderEvent × Instant)
  | .applyNormalizedBrokerEvent event receivedAt => some (event, receivedAt)
  | _ => none

def WriterOp.onAttempts : WriterOp → Bool
  | .beginReconciliationAttempt .. => true
  | .completeReconciliationAttempt .. => true
  | .applyReconciliationEvidence .. => true
  | .applyReconciliationNotFound .. => true
  | _ => false

variable {op : WriterOp} {db db' : Database}

/-- **Every committed operation of the writer that adds no intent is a chain of changes**, which
    touches the inbox only for an event and the attempts only for a reconciliation. -/
theorem WriterOp.changesWithin (old : op.newCommand = none) (h : op.body db = .ok ((), db')) :
    ChangesWithin ⟨op.brokerOrderEvent.isSome, op.onAttempts⟩ db db' := by
  cases op with
  | persistIntentReservationOutbox => cases old
  | claimNextMessage =>
    obtain ⟨_, h⟩ := silent_eq_ok h
    exact claimNextMessage_changes h
  | recordDispatchResult => exact recordDispatchResult_changes h
  | recordDispatchNotSent => exact recordDispatchNotSent_changes h
  | cancelExpiredBeforeDispatch => exact cancelExpiredBeforeDispatch_changes h
  | recoverInterruptedDispatches =>
    obtain ⟨_, h⟩ := silent_eq_ok h
    exact recoverInterruptedDispatches_changes h
  | cancelExpiredPendingMessages =>
    obtain ⟨_, h⟩ := silent_eq_ok h
    exact cancelExpiredPendingMessages_changes h
  | applyBrokerEvent =>
    obtain ⟨_, h⟩ := silent_eq_ok h
    exact applyBrokerEvent_changes h
  | applyNormalizedBrokerEvent =>
    obtain ⟨_, h⟩ := silent_eq_ok h
    exact applyNormalizedBrokerEvent_changes h
  | beginReconciliationAttempt => exact beginReconciliationAttempt_changes h
  | completeReconciliationAttempt => exact completeReconciliationAttempt_changes h
  | applyReconciliationEvidence =>
    obtain ⟨_, h⟩ := silent_eq_ok h
    exact applyReconciliationEvidence_changes h
  | applyReconciliationNotFound =>
    obtain ⟨_, h⟩ := silent_eq_ok h
    exact applyReconciliationNotFound_changes h
  | releaseReservation => exact releaseReservation_changes h
  | releaseAfterReconciliation => exact releaseAfterReconciliation_changes h
  | configureDigitRiskRuntime => exact configureDigitRiskRuntime_changes h
  | resetDigitTestSessionIfFlat => exact resetDigitTestSessionIfFlat_changes h
  | expireDigitCooldown =>
    obtain ⟨_, h⟩ := silent_eq_ok h
    exact expireDigitCooldown_changes h

theorem WriterOp.changes (old : op.newCommand = none) (h : op.body db = .ok ((), db')) :
    Changes db db' :=
  (op.changesWithin old h).changes

/-- **Nothing but a broker event moves a sequence number.** -/
theorem WriterOp.sequenceView_eq (old : op.newCommand = none)
    (other : op.brokerOrderEvent = none) (h : op.body db = .ok ((), db')) :
    db'.sequenceView = db.sequenceView :=
  (op.changesWithin old h).sequenceView_eq (by rw [other]; rfl)

theorem WriterOp.creates_or_changes
    (h : op.body db = .ok ((), db')) : Creates db db' ∨ Changes db db' := by
  cases new : op.newCommand with
  | none => exact .inr (op.changes new h)
  | some command =>
    cases op <;> first | exact .inl ⟨_, _, _, _, _, _, _, h⟩ | cases new

/-- **Only the reconciliation touches its attempts.** -/
theorem WriterOp.attempts_eq (other : op.onAttempts = false) (h : op.body db = .ok ((), db')) :
    db'.reconciliationAttempts = db.reconciliationAttempts := by
  cases new : op.newCommand with
  | none => exact (op.changesWithin new h).attempts_eq other
  | some command =>
    cases op <;> first
      | (obtain ⟨-, -, -, -, frame⟩ := persist_inserts h
         rw [frame])
      | cases new

theorem sequenceView_creates (created : Creates db db') :
    ∃ orderId, (∀ o ∈ db.orders.rows, o.orderId ≠ orderId) ∧
      db'.sequenceView = (db.sequenceView.1, db.sequenceView.2 ++ [(orderId, none)]) := by
  obtain ⟨_, _, _, _, orderId, _, _, persisted⟩ := created
  obtain ⟨-, -, -, inserted, frame⟩ := persist_inserts persisted
  obtain ⟨free, rows⟩ := Table.insert_eq_some_iff.mp inserted
  refine ⟨orderId, fun o member => (free o member).1, ?_⟩
  rw [frame]
  simp only [sequenceView, rows, List.map_append, List.map_cons, List.map_nil]
  rfl

theorem Reachable.of_changes {holds : Database → Prop} (initial : holds Database.empty)
    (creates : ∀ db db' : Database, holds db → Creates db db' → holds db')
    (keeps : ∀ db db' : Database, holds db → Change db db' → holds db')
    (reachable : Reachable db) : holds db := by
  refine reachable.invariant initial fun op db db' start committed => ?_
  rcases op.creates_or_changes committed with created | changes
  · exact creates db db' start created
  · exact Changes.invariant holds keeps start changes

end TradingLab

import TradingLab.Persistence.Resolution

/-!
# The effect of a dispatch

Claiming, recording, cancelling and recovering each move one order, and none of them touches an
event, an attempt or the digit row.
-/
namespace TradingLab

open Relational

/-- One order reaches a state; the inbox, the evidence, the attempts, the intents and the
    digit row are left alone. -/
structure OrderMoved (db db' : Database) (intentId : String) (target : OrderState) : Prop where
  here : ∃ o o', db.order intentId = some o ∧ db'.order intentId = some o' ∧
    o.state.CanReach target ∧ o'.state = target ∧ o'.orderId = o.orderId ∧
    o'.intentId = o.intentId ∧ o'.broker = o.broker ∧ o'.accountId = o.accountId
  elsewhere : ∀ j, j ≠ intentId → db'.order j = db.order j
  frame : db' = { db with
    riskReservations := db'.riskReservations
    outboxMessages := db'.outboxMessages
    orders := db'.orders }

section Moves
variable {db db' : Database} {intentId : String} {at_ recordedAt : Instant}
  {brokerOrderId : Option String} {command : OrderCommand}

theorem orderMoved_of_transition {out moved : Database} {target : OrderState} {pnl : Option Int}
    (before : out = { db with outboxMessages := out.outboxMessages })
    (moves : out.transitionOrder intentId target at_ brokerOrderId pnl = .ok moved)
    (after : db' = { moved with riskReservations := db'.riskReservations }) :
    OrderMoved db db' intentId target := by
  have frame := Database.transitionOrder_frame moves
  have same : ∀ j, out.order j = db.order j := by
    intro j
    rw [before]
    rfl
  have order : ∀ j, db'.order j = if j = intentId then
      (db.order j).map fun o => o.reach target at_ brokerOrderId pnl else db.order j := by
    intro j
    rw [after]
    exact (Database.order_of_transitionOrder moves j).trans (by rw [same j])
  constructor
  case here =>
    obtain ⟨o, found, move⟩ := Database.transitionOrder_eq_ok moves
    have can : o.state.CanReach target := move.imp And.left fun moved => moved.2.1
    refine ⟨o, o.reach target at_ brokerOrderId pnl, same intentId ▸ found, ?_, can,
      o.reach_state target at_ brokerOrderId pnl, ?_⟩
    · rw [order, if_pos rfl, ← same, found, Option.map_some]
    · unfold OrderRow.reach
      split <;> exact ⟨rfl, rfl, rfl, rfl⟩
  case elsewhere =>
    intro j other
    rw [order, if_neg other]
  case frame => rw [after, frame, before]

theorem claimNextMessage_moved {claimedAt : Instant} {broker accountId : Option String}
    {answer : Option OrderCommand}
    (h : claimNextMessage claimedAt broker accountId db = .ok (answer, db')) :
    (answer = none ∧ db' = db) ∨ ∃ message, OrderMoved db db' message .dispatching := by
  rcases claimNextMessage_spec h with ⟨none, same⟩ | ⟨message, _, _, -, -, -, -, -, moved⟩
  · exact .inl ⟨none, same⟩
  · exact .inr ⟨message.intentId, orderMoved_of_transition rfl moved rfl⟩

theorem recordDispatchResult_moved {outcome : String} {reasonCode : Option String}
    (h : recordDispatchResult command outcome brokerOrderId reasonCode recordedAt db =
      .ok ((), db')) :
    ∃ outboxState orderState stateReason,
      dispatchOutcome outcome reasonCode = some (outboxState, orderState, stateReason) ∧
      OrderMoved db db' command.intentId orderState := by
  unfold recordDispatchResult at h
  split at h
  · cases h
  split at h
  · split at h
    · cases h
    · rename_i outboxState orderState stateReason outcomeEq
      simp only [Except.bind_ok_iff] at h
      obtain ⟨moved, transition, h⟩ := h
      refine ⟨outboxState, orderState, stateReason, outcomeEq, ?_⟩
      split at h <;> cases h
      · exact orderMoved_of_transition rfl transition rfl
      · exact orderMoved_of_transition rfl transition rfl
  · cases h

theorem recordDispatchNotSent_moved {reasonCode : String}
    (h : recordDispatchNotSent command reasonCode recordedAt db = .ok ((), db')) :
    OrderMoved db db' command.intentId .sendBlocked := by
  unfold recordDispatchNotSent at h
  simp only at h
  split at h
  · simp only [Except.bind_ok_iff] at h
    obtain ⟨moved, transition, h⟩ := h
    cases h
    exact orderMoved_of_transition rfl transition rfl
  · cases h

theorem cancel_moved {messageId reason : String} {state : OutboxState}
    (h : (db.cancelMessage messageId state).rejectUnsent intentId at_ reason = .ok db') :
    OrderMoved db db' intentId .rejected := by
  simp only [Database.rejectUnsent, Except.bind_ok_iff] at h
  obtain ⟨moved, transition, h⟩ := h
  cases h
  exact orderMoved_of_transition rfl transition rfl

theorem recoverDispatch_moved {recoveredAt : Instant}
    (h : Database.recoverDispatch recoveredAt db intentId = .ok db') :
    OrderMoved db db' intentId .unknown :=
  orderMoved_of_transition rfl h rfl

end Moves

def MovedAlong (allowed : OrderState → Prop) : Database → Database → Prop :=
  Relation.ReflTransGen fun db db' => ∃ i s, allowed s ∧ OrderMoved db db' i s

section Loops
variable {db db' : Database}

theorem recoverInterruptedDispatches_moved {recoveredAt : Instant} {count : Nat}
    (h : recoverInterruptedDispatches recoveredAt db = .ok (count, db')) :
    MovedAlong (fun s => s = .unknown) db db' := by
  simp only [recoverInterruptedDispatches, Except.bind_ok_iff] at h
  obtain ⟨next, loop, h⟩ := h
  cases h
  apply Except.foldlM_invariant (MovedAlong (fun s => s = .unknown) db) _ loop .refl
  intro _ intentId _ _ chain turn
  exact chain.tail ⟨intentId, .unknown, rfl, recoverDispatch_moved turn⟩

theorem cancelExpiredPendingMessages_moved {checkedAt : Instant} {cancelled : List String}
    (h : cancelExpiredPendingMessages checkedAt db = .ok (cancelled, db')) :
    MovedAlong (fun s => s = .rejected) db db' := by
  apply Except.foldlM_invariant
    (fun acc : List String × Database => MovedAlong (fun s => s = .rejected) db acc.2) _ h .refl
  intro acc entry _ acc' chain turn
  rcases cancelExpiredPending_cases turn with same | cancelled
  · rw [same]
    exact chain
  · exact chain.tail ⟨entry.1.intentId, .rejected, rfl, cancel_moved cancelled⟩

end Loops

end TradingLab

import TradingLab.Persistence.Reconciliation

/-!
# The single database writer

`SingleDatabaseWriter` as a state machine. Every operation is one transaction. Clock readings and
fresh identifiers are its arguments.
-/
namespace TradingLab

inductive WriterOp
  | persistIntentReservationOutbox (request : OrderRequest) (command : OrderCommand)
      (intentId reservationId orderId : String) (createdAt : Instant) (limits : ExposureLimits)
  | claimNextMessage (claimedAt : Instant) (broker accountId : Option String)
  | recordDispatchResult (command : OrderCommand) (outcome : String)
      (brokerOrderId reasonCode : Option String) (recordedAt : Instant)
  | recordDispatchNotSent (command : OrderCommand) (reasonCode : String) (recordedAt : Instant)
  | cancelExpiredBeforeDispatch (command : OrderCommand) (cancelledAt : Instant)
  | recoverInterruptedDispatches (recoveredAt : Instant)
  | cancelExpiredPendingMessages (checkedAt : Instant)
  | applyBrokerEvent (event : BrokerEvent) (processedAt : Instant)
  | applyNormalizedBrokerEvent (event : BrokerOrderEvent) (receivedAt : Instant)
  | beginReconciliationAttempt (attemptId orderId correlationId : String) (startedAt : Instant)
  | completeReconciliationAttempt (attemptId result reasonCode : String) (completedAt : Instant)
  | applyReconciliationEvidence (attemptId : String) (evidence : ReconciliationEvidence)
      (resolvedAt : Instant)
  | applyReconciliationNotFound (attemptId : String) (evidence : NotFoundEvidence)
      (policy : NotFoundPolicy) (resolvedAt : Instant)
  | releaseReservation (reservationId : String) (releasedAt : Instant)
  | releaseAfterReconciliation (reservationId : String) (resolvedState : OrderState)
      (evidenceReference : String) (releasedAt : Instant)
  | configureDigitRiskRuntime (policy : DigitRuntimePolicy) (resetActiveSequence : Bool)
      (now : Instant)
  | resetDigitTestSessionIfFlat (now : Instant)
  | expireDigitCooldown (checkedAt : Instant)

def Operation.silent {α : Type} (operation : Operation α) : Operation Unit := fun db =>
  match operation db with
  | .ok (_, db') => .ok ((), db')
  | .error e => .error e

variable {α : Type} {operation : Operation α} {db db' : Database}

theorem Operation.silent_eq_ok
    {u : Unit} (h : operation.silent db = .ok (u, db')) : ∃ a, operation db = .ok (a, db') := by
  unfold Operation.silent at h
  split at h
  · rename_i a next committed
    cases h
    exact ⟨a, committed⟩
  · cases h

theorem Operation.transact_silent_of_ok
    {a : α} (h : operation db = .ok (a, db')) : Machine.transact operation.silent db = db' := by
  apply Machine.transact_of_ok (a := ())
  simp only [Operation.silent, h]

theorem Operation.transact_silent_of_error
    {e : DbError} (h : operation db = .error e) : Machine.transact operation.silent db = db := by
  apply Machine.transact_of_error (e := e)
  simp only [Operation.silent, h]

namespace WriterOp

def body : WriterOp → Operation Unit
  | .persistIntentReservationOutbox request command intentId reservationId orderId createdAt limits
    =>
    TradingLab.persistIntentReservationOutbox request command intentId reservationId orderId
      createdAt limits
  | .claimNextMessage claimedAt broker accountId =>
    (TradingLab.claimNextMessage claimedAt broker accountId).silent
  | .recordDispatchResult command outcome brokerOrderId reasonCode recordedAt =>
    TradingLab.recordDispatchResult command outcome brokerOrderId reasonCode recordedAt
  | .recordDispatchNotSent command reasonCode recordedAt =>
    TradingLab.recordDispatchNotSent command reasonCode recordedAt
  | .cancelExpiredBeforeDispatch command cancelledAt =>
    TradingLab.cancelExpiredBeforeDispatch command cancelledAt
  | .recoverInterruptedDispatches recoveredAt =>
    (TradingLab.recoverInterruptedDispatches recoveredAt).silent
  | .cancelExpiredPendingMessages checkedAt =>
    (TradingLab.cancelExpiredPendingMessages checkedAt).silent
  | .applyBrokerEvent event processedAt => (TradingLab.applyBrokerEvent event processedAt).silent
  | .applyNormalizedBrokerEvent event receivedAt =>
    (TradingLab.applyNormalizedBrokerEvent event receivedAt).silent
  | .beginReconciliationAttempt attemptId orderId correlationId startedAt =>
    TradingLab.beginReconciliationAttempt attemptId orderId correlationId startedAt
  | .completeReconciliationAttempt attemptId result reasonCode completedAt =>
    TradingLab.completeReconciliationAttempt attemptId result reasonCode completedAt
  | .applyReconciliationEvidence attemptId evidence resolvedAt =>
    (TradingLab.applyReconciliationEvidence attemptId evidence resolvedAt).silent
  | .applyReconciliationNotFound attemptId evidence policy resolvedAt =>
    (TradingLab.applyReconciliationNotFound attemptId evidence policy resolvedAt).silent
  | .releaseReservation reservationId releasedAt =>
    TradingLab.releaseReservation reservationId releasedAt
  | .releaseAfterReconciliation reservationId resolvedState evidenceReference releasedAt =>
    TradingLab.releaseAfterReconciliation reservationId resolvedState evidenceReference releasedAt
  | .configureDigitRiskRuntime policy resetActiveSequence now =>
    TradingLab.configureDigitRiskRuntime policy resetActiveSequence now
  | .resetDigitTestSessionIfFlat now => TradingLab.resetDigitTestSessionIfFlat now
  | .expireDigitCooldown checkedAt => (TradingLab.expireDigitCooldown checkedAt).silent

end WriterOp

/-- One transaction of the writer, rolled back when it raises. -/
def writerStep (db : Database) (op : WriterOp) : Database :=
  Machine.transact op.body db

/-- The databases that the writer can reach from an empty one. -/
def Reachable (db : Database) : Prop :=
  ∃ ops : List WriterOp, Machine.run writerStep Database.empty ops = db

theorem Reachable.step (reachable : Reachable db) (op : WriterOp) :
    Reachable (writerStep db op) := by
  obtain ⟨ops, rfl⟩ := reachable
  exact ⟨ops ++ [op], by rw [Machine.run_append]; rfl⟩

theorem Reachable.invariant {holds : Database → Prop} (initial : holds Database.empty)
    (keeps : ∀ (op : WriterOp) (db db' : Database), holds db → op.body db = .ok ((), db') →
      holds db') (reachable : Reachable db) : holds db := by
  obtain ⟨ops, rfl⟩ := reachable
  refine Machine.run_invariant holds (fun s op h => ?_) initial ops
  exact Machine.transact_cases holds h fun _ s' committed => keeps op s s' h committed

end TradingLab

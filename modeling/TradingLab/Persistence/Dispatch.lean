import Mathlib.Data.List.Sort
import TradingLab.Persistence.Orders

/-!
# The outbox

Claiming, recording the outcome of a dispatch, cancelling expired messages and
recovering interrupted dispatches.
-/
namespace TradingLab

open Relational

/-- `ORDER BY created_at, message_id`. -/
def OutboxRow.Before (a b : OutboxRow) : Prop :=
  a.createdAt < b.createdAt ∨ (a.createdAt = b.createdAt ∧ a.messageId ≤ b.messageId)

instance : DecidableRel OutboxRow.Before := fun _ _ =>
  inferInstanceAs (Decidable (_ ∨ (_ ∧ _)))

/-- Exceptions other than `PersistenceError` fail the whole database write. -/
def readCommand (payload : Payload) : Except DbError OrderCommand :=
  match OrderCommand.fromPayload payload with
  | .ok command => .ok command
  | .error _ => .error .databaseWrite

/-- `reason_code or fallback`. -/
def orDefault (reasonCode : Option String) (fallback : String) : String :=
  match reasonCode with
  | none => fallback
  | some reason => if reason = "" then fallback else reason

namespace Database

def updateOutbox (db : Database) (p : OutboxRow → Bool) (f : OutboxRow → OutboxRow)
    (same : OutboxRow.SameKeys f) : Database :=
  { db with outboxMessages := db.outboxMessages.update p f (OutboxRow.keeps same) }

/-- The PENDING messages with their orders, in dispatch order. -/
def pendingMessages (db : Database) : List (OutboxRow × OrderRow) :=
  ((db.outboxMessages.rows.filter fun m => m.state == .pending).insertionSort
    OutboxRow.Before).filterMap fun m => (db.order m.intentId).map fun o => (m, o)

end Database

def OutboxRow.claim (m : OutboxRow) (claimedAt : Instant) : OutboxRow :=
  { m with
    state := .dispatching
    dispatchStartedAt := some claimedAt
    attemptCount := m.attemptCount + 1 }

theorem OutboxRow.claim_keys (claimedAt : Instant) :
    OutboxRow.SameKeys fun m => m.claim claimedAt :=
  fun _ => ⟨rfl, rfl⟩

/-- The `WHERE` clause of the claim: an account alone does not filter. -/
def claimable (claimedAt : Instant) (broker accountId : Option String)
    (entry : OutboxRow × OrderRow) : Bool :=
  decide (entry.1.availableAt ≤ claimedAt) &&
    match broker, accountId with
    | some broker, some accountId =>
      entry.2.broker.value == broker && entry.2.accountId == accountId
    | some broker, none => entry.2.broker.value == broker
    | none, _ => true

def claimNextMessage (claimedAt : Instant) (broker accountId : Option String) :
    Operation (Option OrderCommand) := fun db =>
  match db.pendingMessages.find? (claimable claimedAt broker accountId) with
  | none => .ok (none, db)
  | some (message, order) =>
    let claimed := fun m : OutboxRow => m.messageId == message.messageId && m.state == .pending
    if db.outboxMessages.rowCount claimed = 1 then do
      let db := db.updateOutbox claimed (fun m => m.claim claimedAt)
        (OutboxRow.claim_keys claimedAt)
      let db ← db.transitionOrder message.intentId .dispatching claimedAt none none
      let command ← readCommand (message.payload.setDefault "order_id" (.text order.orderId))
      .ok (some command, db)
    else .ok (none, db)

def dispatchOutcome (outcome : String) (reasonCode : Option String) :
    Option (OutboxState × OrderState × Option String) :=
  if outcome = "ACCEPTED" then some (.dispatched, .accepted, none)
  else if outcome = "REJECTED" then
    some (.dispatched, .rejected, some (orDefault reasonCode "BROKER_REJECTED"))
  else if outcome = "TIMEOUT_AFTER_POSSIBLE_SEND" then
    some (.ambiguous, .unknown, some (orDefault reasonCode "POSSIBLE_SEND_TIMEOUT"))
  else none

def recordDispatchResult (command : OrderCommand) (outcome : String)
    (brokerOrderId reasonCode : Option String) (recordedAt : Instant) : Operation Unit := fun db =>
  match db.message command.messageId with
  | none => .error (.persistence "outbox message is not in DISPATCHING")
  | some row =>
    if row.state = .dispatching then
      match dispatchOutcome outcome reasonCode with
      | none => .error (.persistence "unsupported worker outcome")
      | some (outboxState, orderState, stateReason) => do
        let db := db.updateOutbox (fun m => m.messageId == command.messageId)
          (fun m => { m with
            state := outboxState
            dispatchedAt := if outboxState = .dispatched then some recordedAt else none
            stateReason := stateReason })
          fun _ => ⟨rfl, rfl⟩
        let db ← db.transitionOrder command.intentId orderState recordedAt brokerOrderId none
        if orderState = .rejected then
          .ok ((), db.releaseForIntent command.intentId recordedAt "BROKER_REJECTED" none)
        else .ok ((), db)
    else .error (.persistence "outbox message is not in DISPATCHING")

def recordDispatchNotSent (command : OrderCommand) (reasonCode : String)
    (recordedAt : Instant) : Operation Unit := fun db =>
  let sending := fun m : OutboxRow => m.messageId == command.messageId && m.state == .dispatching
  if db.outboxMessages.rowCount sending = 1 then do
    let db := db.updateOutbox sending
      (fun m => { m with state := .blockedNotSent, stateReason := some reasonCode })
      fun _ => ⟨rfl, rfl⟩
    let db ← db.transitionOrder command.intentId .sendBlocked recordedAt none none
    .ok ((), db)
  else .error (.persistence "outbox message is not in DISPATCHING")

/-! ### Cancelling and recovering -/

namespace Database

def cancelMessage (db : Database) (messageId : String) (from_ : OutboxState) : Database :=
  db.updateOutbox (fun m => m.messageId == messageId && m.state == from_)
    (fun m => { m with state := .cancelled, stateReason := some "CANCELLED_EXPIRED" })
    fun _ => ⟨rfl, rfl⟩

def rejectUnsent (db : Database) (intentId : String) (at_ : Instant) (reason : String) :
    Except DbError Database := do
  let db ← db.transitionOrder intentId .rejected at_ none none
  .ok (db.releaseForIntent intentId at_ reason none)

def recoverDispatch (recoveredAt : Instant) (db : Database) (intentId : String) :
    Except DbError Database :=
  (db.updateOutbox (fun m => m.intentId == intentId && m.state == .dispatching)
    (fun m => { m with state := .ambiguous, stateReason := some "INTERRUPTED_DISPATCH" })
    fun _ => ⟨rfl, rfl⟩).transitionOrder intentId .unknown recoveredAt none none

def interruptedIntents (db : Database) : List String :=
  (db.outboxMessages.rows.filter fun m => m.state == .dispatching).map OutboxRow.intentId

def cancelExpiredPending (checkedAt : Instant) (acc : List String × Database)
    (entry : OutboxRow × OrderRow) : Except DbError (List String × Database) := do
  let command ← readCommand (entry.1.payload.setDefault "order_id" (.text entry.2.orderId))
  if command.deadlineAt > checkedAt then .ok acc
  else do
    let db ← (acc.2.cancelMessage entry.1.messageId .pending).rejectUnsent entry.1.intentId
      checkedAt "DEADLINE_EXPIRED_ON_RECOVERY"
    .ok (acc.1 ++ [entry.1.messageId], db)

end Database

def cancelExpiredBeforeDispatch (command : OrderCommand) (cancelledAt : Instant) :
    Operation Unit := fun db => do
  let db ← (db.cancelMessage command.messageId .dispatching).rejectUnsent command.intentId
    cancelledAt "DEADLINE_EXPIRED_BEFORE_DISPATCH"
  .ok ((), db)

def recoverInterruptedDispatches (recoveredAt : Instant) : Operation Nat := fun db => do
  let db' ← db.interruptedIntents.foldlM (Database.recoverDispatch recoveredAt) db
  .ok (db.interruptedIntents.length, db')

def cancelExpiredPendingMessages (checkedAt : Instant) : Operation (List String) := fun db =>
  db.pendingMessages.foldlM (Database.cancelExpiredPending checkedAt) ([], db)

end TradingLab

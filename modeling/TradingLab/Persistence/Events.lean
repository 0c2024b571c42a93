import TradingLab.Persistence.Dispatch
import TradingLab.Persistence.DigitRuntime

/-!
# Applying broker events

`apply_broker_event` (the early, unchecked form) and `apply_normalized_broker_event`, which records
every event in a durable inbox.
-/
namespace TradingLab

open Relational

structure BrokerEventApplyResult where
  status : BrokerEventApplyStatus
  orderState : Option OrderState
  reasonCode : Option String
deriving DecidableEq, Repr

def applyBrokerEvent (event : BrokerEvent) (processedAt : Instant) : Operation Bool := fun db =>
  match db.processedOrderEvents.lookup ProcessedEventRow.eventId event.eventId with
  | some _ => .ok (false, db)
  | none => do
    let db ← db.transitionOrder event.intentId event.newState event.occurredAt
      event.brokerOrderId event.realizedPnlMinor
    let processedOrderEvents ← orIntegrityError (db.processedOrderEvents.insert
      ⟨event.eventId, event.intentId, event.newState, event.occurredAt, processedAt⟩)
    let db := { db with processedOrderEvents }
    .ok (true, db.releaseIfTerminal event.newState event.intentId event.occurredAt
      ("ORDER_" ++ event.newState.value) (some event.eventId))

/-! ### The checks of `apply_normalized_broker_event` -/

def firstMismatch : List (Bool × String) → Option String
  | [] => none
  | (same, reason) :: rest => if same then firstMismatch rest else some reason

def brokerEventMatchingConflict (row : OrderRow) (ti : IntentRow) (event : BrokerOrderEvent) :
    Option String :=
  firstMismatch
    [(event.broker == row.broker, "BROKER_EVENT_SCOPE_MISMATCH"),
      (event.accountId == row.accountId, "BROKER_EVENT_ACCOUNT_MISMATCH"),
      (event.correlationId == row.correlationId, "BROKER_EVENT_CORRELATION_MISMATCH"),
      (event.product == ti.product, "BROKER_EVENT_PRODUCT_MISMATCH"),
      (event.symbol == ti.symbol, "BROKER_EVENT_SYMBOL_MISMATCH"),
      (event.direction == ti.direction, "BROKER_EVENT_DIRECTION_MISMATCH"),
      (event.amount.minorUnits == ti.amount.minorUnits, "BROKER_EVENT_AMOUNT_MISMATCH"),
      (event.amount.currency == ti.amount.currency, "BROKER_EVENT_CURRENCY_MISMATCH"),
      (row.brokerOrderId.all fun id => id == event.brokerOrderId, "BROKER_ORDER_ID_CONFLICT"),
      (event.resultCurrency.all fun currency => currency == ti.amount.currency,
        "BROKER_EVENT_RESULT_CURRENCY_MISMATCH")]

def orderStateForExternalStatus : ExternalOrderStatus → Option OrderState
  | .accepted => some .accepted
  | .opened => some .opened
  | .settled => some .settled
  | .settlementUnknown => some .settlementUnknown
  | .rejected => some .rejected
  | .externalUnknown => none

def terminalBrokerEventResult (row : OrderRow) (event : BrokerOrderEvent) (target : OrderState) :
    Option BrokerEventApplyResult :=
  if row.state.isTerminal then
    if row.state = target then
      if row.state = .settled ∧ row.realizedPnlMinor ≠ event.resultMinor then
        some ⟨.conflict, some row.state, some "BROKER_EVENT_SETTLEMENT_CONFLICT"⟩
      else some ⟨.lateIgnored, some row.state, some "BROKER_EVENT_TERMINAL_DUPLICATE"⟩
    else if row.state = .settled ∧ (target = .accepted ∨ target = .opened) then
      some ⟨.lateIgnored, some row.state, some "BROKER_EVENT_LATE"⟩
    else some ⟨.conflict, some row.state, some "BROKER_EVENT_STATE_CONFLICT"⟩
  else none

def isLate (row : OrderRow) (event : BrokerOrderEvent) (target : OrderState) : Bool :=
  (match event.externalSequence, row.lastExternalSequence with
    | some sequence, some previous => decide (sequence < previous)
    | _, _ => false) ||
  (row.state == .opened && target == .accepted)

def hasSequenceGap (row : OrderRow) (event : BrokerOrderEvent) : Bool :=
  match event.externalSequence, row.lastExternalSequence with
  | some sequence, none => decide (sequence > 1)
  | some sequence, some previous => decide (sequence > previous + 1)
  | none, _ => false

def OrderState.isAmbiguous (s : OrderState) : Bool :=
  s == .unknown || s == .settlementUnknown || s == .manualReview

def OutboxRow.reconcile (m : OutboxRow) (stateReason : String) (at_ : Instant) : OutboxRow :=
  { m with
    state := .reconciled
    stateReason := some stateReason
    dispatchedAt := m.dispatchedAt.or (some at_) }

theorem OutboxRow.reconcile_keys (stateReason : String) (at_ : Instant) :
    OutboxRow.SameKeys fun m => m.reconcile stateReason at_ :=
  fun _ => ⟨rfl, rfl⟩

namespace Database

variable (db : Database)

def orderWithIntent (orderId : String) : Option (OrderRow × IntentRow) :=
  match db.orderById orderId with
  | none => none
  | some o => (db.intent o.intentId).map fun ti => (o, ti)

def orderStateById (orderId : Option String) : Option OrderState :=
  orderId.bind fun id => (db.orderById id).map OrderRow.state

def insertBrokerOrderEvent (event : BrokerOrderEvent) (orderId : Option String)
    (processingResult : BrokerEventApplyStatus) (reasonCode : Option String) (createdAt : Instant) :
    Except DbError Database := do
  let brokerOrderEvents ← orIntegrityError (db.brokerOrderEvents.insert
    ⟨event, orderId, processingResult, reasonCode, 0, none, createdAt⟩)
  .ok { db with brokerOrderEvents }

def updateEvent (eventId : String) (f : EventRow → EventRow) (same : ∀ e, (f e).event = e.event) :
    Database :=
  { db with
    brokerOrderEvents := db.brokerOrderEvents.update (fun e => e.eventId == eventId) f
      (EventRow.keeps same) }

def reconcileOutbox (intentId stateReason : String) (at_ : Instant) : Database :=
  db.updateOutbox (fun m => m.intentId == intentId && m.state == .ambiguous)
    (fun m => m.reconcile stateReason at_) (OutboxRow.reconcile_keys stateReason at_)

def reconcileOutboxIf (ambiguous : Bool) (intentId stateReason : String) (at_ : Instant) :
    Database :=
  if ambiguous then db.reconcileOutbox intentId stateReason at_ else db

def sequenceReused (orderId : String) (event : BrokerOrderEvent) : Bool :=
  match event.externalSequence with
  | none => false
  | some sequence => db.brokerOrderEvents.rows.any fun e =>
      e.orderId == some orderId && e.event.externalSequence == some sequence

end Database

/-! ### The effect of an event in sequence -/

def OrderRow.noteEvent (o : OrderRow) (event : BrokerOrderEvent) (wasAmbiguous : Bool)
    (receivedAt : Instant) : OrderRow :=
  { o with
    brokerOrderId := o.brokerOrderId.or (some event.brokerOrderId)
    lastExternalSequence := event.externalSequence.or o.lastExternalSequence
    lastBrokerEventId := some event.eventId
    resolutionSource := if wasAmbiguous then some "ORDER_EVENT" else o.resolutionSource
    resolvedAt := if wasAmbiguous then some receivedAt else o.resolvedAt }

theorem OrderRow.noteEvent_keys (event : BrokerOrderEvent) (wasAmbiguous : Bool)
    (receivedAt : Instant) : OrderRow.SameKeys fun o => o.noteEvent event wasAmbiguous receivedAt :=
  fun _ => ⟨rfl, rfl⟩

namespace Database

variable (db : Database)

def enterReconciling (row : OrderRow) (ambiguous : Bool) (at_ : Instant) :
    Except DbError Database :=
  if ambiguous then db.transitionOrder row.intentId .reconciling at_ none none else .ok db

/-- `if current is not target: self._transition_order(...)`. -/
def transitionUnless (current : OrderState) (intentId : String) (target : OrderState)
    (at_ : Instant) (brokerOrderId : Option String) (pnl : Option Int) : Except DbError Database :=
  if current = target then .ok db
  else db.transitionOrder intentId target at_ brokerOrderId pnl

def settleDigitEvent (event : BrokerOrderEvent) (orderId : String) (target : OrderState) :
    Except DbError Database :=
  match event.resultMinor, event.resultCurrency with
  | some resultMinor, some resultCurrency =>
    if target = .settled then
      db.applyDigitRuntimeSettlement event.product event.symbol resultCurrency resultMinor orderId
        event.eventId event.occurredAt
    else .ok db
  | _, _ => .ok db

/-- What follows the transition: the order remembers the event, an ambiguous message is
    reconciled, a terminal order frees its reservation and settles the digit row. -/
def finishEvent (event : BrokerOrderEvent) (row : OrderRow) (target : OrderState)
    (receivedAt : Instant) : Except DbError Database := do
  let db := db.updateOrders (fun o => o.orderId == row.orderId)
    (fun o => o.noteEvent event row.state.isAmbiguous receivedAt)
    (OrderRow.noteEvent_keys event row.state.isAmbiguous receivedAt)
  let db := db.reconcileOutboxIf row.state.isAmbiguous row.intentId
    ("RECONCILED_EVENT_" ++ event.externalStatus.value) receivedAt
  let db := db.releaseIfTerminal target row.intentId event.occurredAt
    ("BROKER_EVENT_" ++ target.value) (some event.eventId)
  db.settleDigitEvent event row.orderId target

/-- The event is in sequence: record it and move the order to its target. An order that
    cannot make the transition keeps its state, and the record becomes a conflict. -/
def applyInSequence (event : BrokerOrderEvent) (row : OrderRow) (target : OrderState)
    (receivedAt : Instant) : Except DbError (BrokerEventApplyResult × Database) := do
  let gap := hasSequenceGap row event
  let status := if gap then BrokerEventApplyStatus.appliedWithGap else .applied
  let reasonCode := if gap then some "ORDER_EVENT_SEQUENCE_GAP" else none
  let db ← db.insertBrokerOrderEvent event (some row.orderId) status reasonCode receivedAt
  let ambiguous := row.state.isAmbiguous
  let db ← db.enterReconciling row ambiguous event.observedAt
  let current := if ambiguous then OrderState.reconciling else row.state
  match db.transitionUnless current row.intentId target event.occurredAt
      (some event.brokerOrderId) event.resultMinor with
  | .error (.invalidOrderTransition _ _) =>
    .ok (⟨.conflict, some row.state, some "BROKER_EVENT_STATE_CONFLICT"⟩,
      db.updateEvent event.eventId
        (fun e => { e with
          processingResult := .conflict
          reasonCode := some "BROKER_EVENT_STATE_CONFLICT" })
        fun _ => rfl)
  | .error e => .error e
  | .ok db => do
    let db ← db.finishEvent event row target receivedAt
    .ok (⟨status, some target, reasonCode⟩, db)

/-! ### `apply_normalized_broker_event` -/

/-- An event id seen before: a duplicate, or a conflict when its content differs. -/
def replayEvent (recorded : EventRow) (event : BrokerOrderEvent) :
    BrokerEventApplyResult × Database :=
  let orderState := db.orderStateById recorded.orderId
  if recorded.event.evidenceHash = event.evidenceHash then (⟨.duplicate, orderState, none⟩, db)
  else (⟨.conflict, orderState, some "BROKER_EVENT_REPLAY_CONFLICT"⟩,
    db.updateEvent event.eventId
      (fun e => { e with
        conflictCount := e.conflictCount + 1
        lastConflictingHash := some event.evidenceHash
        reasonCode := some "BROKER_EVENT_REPLAY_CONFLICT" })
      fun _ => rfl)

def recordOnly (event : BrokerOrderEvent) (orderId : Option String)
    (result : BrokerEventApplyResult) (receivedAt : Instant) :
    Except DbError (BrokerEventApplyResult × Database) := do
  let db ← db.insertBrokerOrderEvent event orderId result.status result.reasonCode receivedAt
  .ok (result, db)

/-- What the checks make of a new event for a known order: an answer that only the inbox
    remembers, or the state to move to. -/
def classifyEvent (event : BrokerOrderEvent) (row : OrderRow) (ti : IntentRow) :
    Except DbError (BrokerEventApplyResult ⊕ OrderState) :=
  match brokerEventMatchingConflict row ti event with
  | some mismatch => .ok (.inl ⟨.conflict, some row.state, some mismatch⟩)
  | none =>
    if db.sequenceReused row.orderId event then
      .ok (.inl ⟨.conflict, some row.state, some "BROKER_EVENT_SEQUENCE_CONFLICT"⟩)
    else
      match orderStateForExternalStatus event.externalStatus with
      | none => .error (.persistence "unsupported broker lifecycle status")
      | some target =>
        match terminalBrokerEventResult row event target with
        | some result => .ok (.inl result)
        | none =>
          if isLate row event target then
            .ok (.inl ⟨.lateIgnored, some row.state, some "BROKER_EVENT_LATE"⟩)
          else .ok (.inr target)

end Database

def applyNormalizedBrokerEvent (event : BrokerOrderEvent) (receivedAt : Instant) :
    Operation BrokerEventApplyResult := fun db =>
  match db.brokerEvent event.eventId with
  | some recorded => .ok (db.replayEvent recorded event)
  | none =>
    match db.orderWithIntent event.clientOrderRef with
    | none => db.recordOnly event none
        ⟨.conflict, none, some "BROKER_EVENT_CLIENT_REFERENCE_MISMATCH"⟩ receivedAt
    | some (row, ti) => do
      match ← db.classifyEvent event row ti with
      | .inl result => db.recordOnly event (some row.orderId) result receivedAt
      | .inr target => db.applyInSequence event row target receivedAt

end TradingLab

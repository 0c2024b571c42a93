import TradingLab.Persistence.Schema

/-!
# Orders and their reservations

`_transition_order`, `_release_for_intent` and the transaction that creates an intent. An operation
answers the result and the next database, or the error it raises; the caller rolls back.
-/
namespace TradingLab

open Relational

def allowedTransitions : OrderState → List OrderState
  | .outboxed => [.dispatching, .rejected]
  | .dispatching => [.accepted, .rejected, .unknown, .sendBlocked]
  | .accepted => [.opened, .settled, .settlementUnknown]
  | .opened => [.settled, .settlementUnknown]
  | .unknown => [.reconciling]
  | .reconciling => [.accepted, .opened, .settled, .rejected, .manualReview, .settlementUnknown]
  | .settlementUnknown => [.reconciling, .manualReview]
  | .manualReview => [.reconciling]
  | .settled => []
  | .rejected => []
  | .sendBlocked => []

/-- `COALESCE(SUM(…), 0)`. -/
def sumMinor (amounts : List Int) : Int :=
  amounts.foldr (fun amount total => amount + total) 0

/-- A transaction body: a result and the next database, or an error. -/
abbrev Operation (α : Type) := Database → Except DbError (α × Database)

/-- An `INSERT` that the constraints refuse raises `IntegrityError`. -/
def orIntegrityError {α : Type} (inserted : Option α) : Except DbError α :=
  match inserted with
  | some value => .ok value
  | none => .error integrityError

@[simp] theorem orIntegrityError_eq_ok {α : Type} {inserted : Option α} {value : α} :
    orIntegrityError inserted = .ok value ↔ inserted = some value := by
  cases inserted <;> simp [orIntegrityError]

/-- The `UPDATE orders` of a transition. `COALESCE(?, column)` keeps the stored value
    when none is given; the P&L counts as applied when an order settles with one. -/
def OrderRow.transition (o : OrderRow) (newState : OrderState) (changedAt : Instant)
    (brokerOrderId : Option String) (realizedPnlMinor : Option Int) : OrderRow :=
  { o with
    state := newState
    brokerOrderId := brokerOrderId.or o.brokerOrderId
    realizedPnlMinor := realizedPnlMinor.or o.realizedPnlMinor
    pnlApplicationCount :=
      o.pnlApplicationCount + if newState = .settled ∧ realizedPnlMinor.isSome then 1 else 0
    updatedAt := changedAt }

theorem OrderRow.transition_keys (s : OrderState) (at_ : Instant)
    (brokerOrderId : Option String) (pnl : Option Int) :
    OrderRow.SameKeys fun o => o.transition s at_ brokerOrderId pnl :=
  fun _ => ⟨rfl, rfl⟩

namespace Database

def updateOrders (db : Database) (p : OrderRow → Bool) (f : OrderRow → OrderRow)
    (same : OrderRow.SameKeys f) : Database :=
  { db with orders := db.orders.update p f (OrderRow.keeps same) }

def transitionOrder (db : Database) (intentId : String) (newState : OrderState)
    (changedAt : Instant) (brokerOrderId : Option String) (realizedPnlMinor : Option Int) :
    Except DbError Database :=
  match db.order intentId with
  | none => .error (.persistence "order not found")
  | some row =>
    if row.state = newState then .ok db
    else if newState ∈ allowedTransitions row.state then
      .ok (db.updateOrders (fun o => o.intentId == intentId)
        (fun o => o.transition newState changedAt brokerOrderId realizedPnlMinor)
        (OrderRow.transition_keys newState changedAt brokerOrderId realizedPnlMinor))
    else .error (.invalidOrderTransition row.state newState)

end Database

def ReservationRow.release (r : ReservationRow) (releasedAt : Instant) (reason : String)
    (evidence : Option String) : ReservationRow :=
  { r with
    state := .released
    releasedAt := some releasedAt
    releaseReason := some reason
    reconciliationEvidence := evidence
    releaseCount := r.releaseCount + 1 }

theorem ReservationRow.release_keeps (releasedAt : Instant) (reason : String)
    (evidence : Option String) :
    Table.Keeps fun r : ReservationRow => r.release releasedAt reason evidence :=
  fun _ _ apart => ⟨apart.1, apart.2.1, fun active => nomatch active.1⟩

namespace Database

variable (db : Database)

def releaseForIntent (intentId : String) (releasedAt : Instant) (reason : String)
    (evidence : Option String) : Database :=
  { db with
    riskReservations := db.riskReservations.update
      (fun r => r.intentId == intentId && r.state == .active)
      (fun r => r.release releasedAt reason evidence)
      (ReservationRow.release_keeps releasedAt reason evidence) }

/-- `if target in {REJECTED, SETTLED}: self._release_for_intent(...)`. -/
def releaseIfTerminal (target : OrderState) (intentId : String) (releasedAt : Instant)
    (reason : String) (evidence : Option String) : Database :=
  if target.isTerminal then db.releaseForIntent intentId releasedAt reason evidence else db

/-! ### `persist_intent_reservation_outbox` -/

/-- `SELECT … FROM risk_reservations WHERE state = 'ACTIVE' AND currency = ?`. -/
def activeReservations (currency : String) : List ReservationRow :=
  db.riskReservations.rows.filter fun r => r.state == .active && r.amount.currency == currency

def activeGlobalExposure (currency : String) : Int :=
  sumMinor ((db.activeReservations currency).map fun r => r.amount.minorUnits)

def activeSymbolExposure (currency symbol : String) : Int :=
  sumMinor (((db.activeReservations currency).filter fun r =>
    match db.intent r.intentId with
    | some ti => canonicalizeSymbol ti.symbol == canonicalizeSymbol symbol
    | none => false).map fun r => r.amount.minorUnits)

def requireReferenceCurrency (request : OrderRequest) (referenceCurrency : Option String) :
    Except DbError Unit :=
  match referenceCurrency with
  | none => .ok ()
  | some currency =>
    if request.amount.currency = currency then .ok ()
    else .error (.riskLimitExceeded "HG_EXPOSURE_CURRENCY_MISMATCH"
      "Reservation currency does not match the configured reference currency.")

def requireGlobalExposure (request : OrderRequest) (limit : Option Int) : Except DbError Unit :=
  match limit with
  | none => .ok ()
  | some limit =>
    let total := db.activeGlobalExposure request.amount.currency + request.amount.minorUnits
    if total > limit then
      .error (.riskLimitExceeded "HG_GLOBAL_EXPOSURE_EXCEEDED"
        s!"Active global exposure ({total}) exceeds limit ({limit})")
    else .ok ()

def requireSymbolExposure (request : OrderRequest) (limit : Option Int) : Except DbError Unit :=
  match limit with
  | none => .ok ()
  | some limit =>
    let total := db.activeSymbolExposure request.amount.currency request.symbol +
      request.amount.minorUnits
    let symbol := request.symbol
    if total > limit then
      .error (.riskLimitExceeded "HG_SYMBOL_EXPOSURE_LIMIT_EXCEEDED"
        s!"Active symbol exposure on {symbol} ({total}) exceeds limit ({limit})")
    else .ok ()

/-- `INSERT INTO risk_reservations`; a second ACTIVE reservation of the account is
    reported as such. -/
def insertReservation (row : ReservationRow) : Except DbError Database :=
  if db.riskReservations.rows.any (fun r => r.state == .active && row.state == .active &&
      r.broker == row.broker && r.accountId == row.accountId) then
    .error .accountBusy
  else do
    let riskReservations ← orIntegrityError (db.riskReservations.insert row)
    .ok { db with riskReservations }

end Database

/-! The rows that the transaction writes. -/

def newIntent (request : OrderRequest) (intentId : String) (createdAt : Instant) : IntentRow where
  intentId := intentId
  correlationId := request.correlationId
  broker := request.broker
  accountId := request.accountId
  product := request.product
  symbol := request.symbol
  direction := request.direction
  amount := request.amount
  createdAt := createdAt
  strategyId := request.strategyId
  strategyVersion := request.strategyVersion

def newReservation (request : OrderRequest) (intentId reservationId : String)
    (createdAt : Instant) : ReservationRow where
  reservationId := reservationId
  intentId := intentId
  broker := request.broker
  accountId := request.accountId
  amount := request.amount
  state := .active
  createdAt := createdAt
  releasedAt := none
  releaseReason := none
  reconciliationEvidence := none
  releaseCount := 0

def newOutboxMessage (request : OrderRequest) (command : OrderCommand) (intentId : String)
    (createdAt : Instant) : OutboxRow where
  messageId := command.messageId
  correlationId := request.correlationId
  intentId := intentId
  payload := command.toPayload
  state := .pending
  createdAt := createdAt
  availableAt := createdAt
  dispatchStartedAt := none
  dispatchedAt := none
  attemptCount := 0
  stateReason := none

def newOrder (request : OrderRequest) (intentId orderId : String) (createdAt : Instant) :
    OrderRow where
  orderId := orderId
  intentId := intentId
  broker := request.broker
  accountId := request.accountId
  brokerOrderId := none
  state := .outboxed
  correlationId := request.correlationId
  realizedPnlMinor := none
  createdAt := createdAt
  updatedAt := createdAt
  resolutionSource := none
  resolutionEvidenceId := none
  resolvedAt := none
  lastExternalSequence := none
  lastBrokerEventId := none
  pnlApplicationCount := 0

/-- The limits that `persist_intent_reservation_outbox` checks inside the transaction. -/
structure ExposureLimits where
  globalMaxExposureMinorUnits : Option Int := none
  maxExposurePerSymbolMinorUnits : Option Int := none
  referenceCurrency : Option String := none
deriving DecidableEq

def persistIntentReservationOutbox (request : OrderRequest) (command : OrderCommand)
    (intentId reservationId orderId : String) (createdAt : Instant) (limits : ExposureLimits) :
    Operation Unit := fun db => do
  Database.requireReferenceCurrency request limits.referenceCurrency
  db.requireGlobalExposure request limits.globalMaxExposureMinorUnits
  db.requireSymbolExposure request limits.maxExposurePerSymbolMinorUnits
  let tradeIntents ← orIntegrityError (db.tradeIntents.insert
    (newIntent request intentId createdAt))
  let db ← { db with tradeIntents }.insertReservation
    (newReservation request intentId reservationId createdAt)
  let outboxMessages ← orIntegrityError
    (db.outboxMessages.insert (newOutboxMessage request command intentId createdAt))
  let orders ← orIntegrityError (db.orders.insert (newOrder request intentId orderId createdAt))
  .ok ((), { db with outboxMessages, orders })

end TradingLab

import TradingLab.Relational.Table
import TradingLab.Domain.Evidence

/-!
# The tables of `state.db`

One row type per table of `packages/persistence/migrations.py`. Uniqueness constraints are the
`Constrained` instance of the row type; CHECK constraints are carried by the rows. Columns that the
writer never reads back and that hold no financial fact (`trade_intents.status`,
`outbox_messages.message_type`) are left out.
-/
namespace TradingLab

open Relational

/-- What a writer operation raises. Every constructor but `value` is a
    `PersistenceError`; `value` is a `ValueError` raised before the transaction. -/
inductive DbError
  | persistence (message : String)
  | riskLimitExceeded (reasonCode message : String)
  | accountBusy
  | invalidOrderTransition (current target : OrderState)
  | reservationReleaseBlocked (message : String)
  /-- `DatabaseWriteError`: any other exception inside the transaction; it also
      marks the database as failed. -/
  | databaseWrite
  | value (message : String)
deriving DecidableEq, Repr

/-- `sqlite3.IntegrityError` as `_transaction` reports it. -/
def integrityError : DbError :=
  .persistence "database integrity constraint rejected the write"

/-! ### Rows -/

structure IntentRow where
  intentId : String
  correlationId : String
  broker : Broker
  accountId : String
  product : String
  symbol : String
  direction : Direction
  amount : Money
  createdAt : Instant
  strategyId : String
  strategyVersion : String
deriving DecidableEq

structure ReservationRow where
  reservationId : String
  intentId : String
  broker : Broker
  accountId : String
  amount : Money
  state : RiskReservationState
  createdAt : Instant
  releasedAt : Option Instant
  releaseReason : Option String
  reconciliationEvidence : Option String
  releaseCount : Nat
deriving DecidableEq

structure OutboxRow where
  messageId : String
  correlationId : String
  intentId : String
  payload : Payload
  state : OutboxState
  createdAt : Instant
  availableAt : Instant
  dispatchStartedAt : Option Instant
  dispatchedAt : Option Instant
  attemptCount : Nat
  stateReason : Option String
deriving DecidableEq

structure OrderRow where
  orderId : String
  intentId : String
  broker : Broker
  accountId : String
  brokerOrderId : Option String
  state : OrderState
  correlationId : String
  realizedPnlMinor : Option Int
  createdAt : Instant
  updatedAt : Instant
  resolutionSource : Option String
  resolutionEvidenceId : Option String
  resolvedAt : Option Instant
  lastExternalSequence : Option Int
  lastBrokerEventId : Option String
  pnlApplicationCount : Nat
deriving DecidableEq

structure ProcessedEventRow where
  eventId : String
  intentId : String
  newState : OrderState
  occurredAt : Instant
  processedAt : Instant
deriving DecidableEq

inductive BrokerEventApplyStatus
  | applied
  | appliedWithGap
  | duplicate
  | lateIgnored
  | conflict
deriving DecidableEq, Repr

/-- `broker_order_events`: the columns of the event are the event. -/
structure EventRow where
  event : BrokerOrderEvent
  orderId : Option String
  processingResult : BrokerEventApplyStatus
  reasonCode : Option String
  conflictCount : Nat
  lastConflictingHash : Option Digest
  createdAt : Instant
deriving DecidableEq

def EventRow.eventId (row : EventRow) : String := row.event.eventId

/-- `reconciliation_evidence`: the columns of the evidence are the evidence. -/
structure EvidenceRow where
  evidence : ReconciliationEvidence
  orderId : String
  canonicalHash : Digest
  receivedAt : Instant
  /-- `CHECK (amount_minor > 0)`, which the evidence itself does not promise. -/
  amountPositive : 0 < evidence.amount.minorUnits
deriving DecidableEq

def EvidenceRow.evidenceId (row : EvidenceRow) : String := row.evidence.evidenceId

structure AttemptRow where
  attemptId : String
  orderId : String
  correlationId : String
  startedAt : Instant
  completedAt : Option Instant
  result : String
  reasonCode : Option String
  evidenceId : Option String
deriving DecidableEq

structure DigitRiskRuntimeFields where
  configFingerprint : String
  currency : String
  martingaleEnabled : Bool
  martingaleMaxSteps : Int
  maxConsecutiveLosses : Int
  cooldownSeconds : DecimalText
  dailyPnlMinor : Int := 0
  consecutiveLosses : Int := 0
  martingaleStep : Int := 0
  pinnedSymbol : Option String := none
  cumulativeSequenceLossMinor : Int := 0
  cooldownStartedAt : Option Instant := none
  lastOrderId : Option String := none
  lastSettlementId : Option String := none
  updatedAt : Instant
  sessionStartedAt : Option Instant := none
deriving DecidableEq

def DigitRiskRuntimeFields.Checks (r : DigitRiskRuntimeFields) : Prop :=
  r.currency.length = 3 ∧ (1 ≤ r.martingaleMaxSteps ∧ r.martingaleMaxSteps ≤ 4) ∧
    (1 ≤ r.maxConsecutiveLosses ∧ r.maxConsecutiveLosses ≤ 5) ∧ 0 ≤ r.consecutiveLosses ∧
    0 ≤ r.martingaleStep ∧ 0 ≤ r.cumulativeSequenceLossMinor

instance (r : DigitRiskRuntimeFields) : Decidable r.Checks :=
  inferInstanceAs (Decidable (_ ∧ (_ ∧ _) ∧ (_ ∧ _) ∧ _ ∧ _ ∧ _))

structure DigitRiskRuntime extends DigitRiskRuntimeFields where
  checks : toDigitRiskRuntimeFields.Checks
deriving DecidableEq

/-- A row as written: SQLite refuses one that fails a CHECK constraint. -/
def DigitRiskRuntime.make (fields : DigitRiskRuntimeFields) : Except DbError DigitRiskRuntime :=
  if checks : fields.Checks then .ok ⟨fields, checks⟩ else .error integrityError

variable {fields : DigitRiskRuntimeFields}

theorem DigitRiskRuntime.make_of_checks
    (checks : fields.Checks) : DigitRiskRuntime.make fields = .ok ⟨fields, checks⟩ :=
  dif_pos checks

theorem DigitRiskRuntime.make_eq_ok {r : DigitRiskRuntime}
    (h : DigitRiskRuntime.make fields = .ok r) : r.toDigitRiskRuntimeFields = fields := by
  unfold DigitRiskRuntime.make at h
  split at h
  · cases h
    rfl
  · cases h

/-! ### Uniqueness constraints -/

instance : Constrained IntentRow where
  Distinct a b := a.intentId ≠ b.intentId
  symm h := h.symm
  irrefl _ h := h rfl
  decide _ _ := inferInstance

/-- Primary key, `UNIQUE (intent_id)` and `uq_active_reservation_per_account`. -/
instance : Constrained ReservationRow where
  Distinct a b := a.reservationId ≠ b.reservationId ∧ a.intentId ≠ b.intentId ∧
    ¬ (a.state = .active ∧ b.state = .active ∧ a.broker = b.broker ∧ a.accountId = b.accountId)
  symm h := ⟨h.1.symm, h.2.1.symm, fun ⟨hb, ha, broker, account⟩ =>
    h.2.2 ⟨ha, hb, broker.symm, account.symm⟩⟩
  irrefl _ h := h.1 rfl
  decide _ _ := inferInstance

instance : Constrained OutboxRow where
  Distinct a b := a.messageId ≠ b.messageId ∧ a.intentId ≠ b.intentId
  symm h := ⟨h.1.symm, h.2.symm⟩
  irrefl _ h := h.1 rfl
  decide _ _ := inferInstance

instance : Constrained OrderRow where
  Distinct a b := a.orderId ≠ b.orderId ∧ a.intentId ≠ b.intentId
  symm h := ⟨h.1.symm, h.2.symm⟩
  irrefl _ h := h.1 rfl
  decide _ _ := inferInstance

instance : Constrained ProcessedEventRow where
  Distinct a b := a.eventId ≠ b.eventId
  symm h := h.symm
  irrefl _ h := h rfl
  decide _ _ := inferInstance

instance : Constrained EventRow where
  Distinct a b := a.eventId ≠ b.eventId
  symm h := h.symm
  irrefl _ h := h rfl
  decide _ _ := inferInstance

instance : Constrained EvidenceRow where
  Distinct a b := a.evidenceId ≠ b.evidenceId
  symm h := h.symm
  irrefl _ h := h rfl
  decide _ _ := inferInstance

instance : Constrained AttemptRow where
  Distinct a b := a.attemptId ≠ b.attemptId
  symm h := h.symm
  irrefl _ h := h rfl
  decide _ _ := inferInstance

/-! Updates that assign no key column. -/

def OutboxRow.SameKeys (f : OutboxRow → OutboxRow) : Prop :=
  ∀ m, (f m).messageId = m.messageId ∧ (f m).intentId = m.intentId

def OrderRow.SameKeys (f : OrderRow → OrderRow) : Prop :=
  ∀ o, (f o).orderId = o.orderId ∧ (f o).intentId = o.intentId

theorem OutboxRow.keeps {f : OutboxRow → OutboxRow} (same : OutboxRow.SameKeys f) :
    Table.Keeps f :=
  fun a _ apart => ⟨(same a).1 ▸ apart.1, (same a).2 ▸ apart.2⟩

theorem OrderRow.keeps {f : OrderRow → OrderRow} (same : OrderRow.SameKeys f) : Table.Keeps f :=
  fun a _ apart => ⟨(same a).1 ▸ apart.1, (same a).2 ▸ apart.2⟩

theorem EventRow.keeps {f : EventRow → EventRow} (same : ∀ e, (f e).event = e.event) :
    Table.Keeps f :=
  fun a _ apart => by
    show (f a).event.eventId ≠ _
    rw [same a]
    exact apart

theorem AttemptRow.keeps {f : AttemptRow → AttemptRow}
    (same : ∀ a, (f a).attemptId = a.attemptId) : Table.Keeps f :=
  fun a _ apart => by
    show (f a).attemptId ≠ _
    rw [same a]
    exact apart

structure Database where
  tradeIntents : Table IntentRow
  riskReservations : Table ReservationRow
  outboxMessages : Table OutboxRow
  orders : Table OrderRow
  processedOrderEvents : Table ProcessedEventRow
  brokerOrderEvents : Table EventRow
  reconciliationEvidence : Table EvidenceRow
  reconciliationAttempts : Table AttemptRow
  digitRiskRuntime : Option DigitRiskRuntime
deriving DecidableEq

namespace Database

def empty : Database :=
  ⟨.empty, .empty, .empty, .empty, .empty, .empty, .empty, .empty, none⟩

variable (db : Database) (intentId : String)

def intent : Option IntentRow :=
  db.tradeIntents.lookup IntentRow.intentId intentId

def reservationById (reservationId : String) : Option ReservationRow :=
  db.riskReservations.lookup ReservationRow.reservationId reservationId

def reservation : Option ReservationRow :=
  db.riskReservations.lookup ReservationRow.intentId intentId

def message (messageId : String) : Option OutboxRow :=
  db.outboxMessages.lookup OutboxRow.messageId messageId

def outbox : Option OutboxRow :=
  db.outboxMessages.lookup OutboxRow.intentId intentId

def orderById (orderId : String) : Option OrderRow :=
  db.orders.lookup OrderRow.orderId orderId

def order : Option OrderRow :=
  db.orders.lookup OrderRow.intentId intentId

def brokerEvent (eventId : String) : Option EventRow :=
  db.brokerOrderEvents.lookup EventRow.eventId eventId

def evidence (evidenceId : String) : Option EvidenceRow :=
  db.reconciliationEvidence.lookup EvidenceRow.evidenceId evidenceId

def attempt (attemptId : String) : Option AttemptRow :=
  db.reconciliationAttempts.lookup AttemptRow.attemptId attemptId

end Database

theorem unique_intentRow_intentId : Table.UniqueColumn IntentRow.intentId :=
  fun _ _ same apart => apart same

theorem unique_reservationRow_intentId : Table.UniqueColumn ReservationRow.intentId :=
  fun _ _ same apart => apart.2.1 same

theorem unique_outboxRow_messageId : Table.UniqueColumn OutboxRow.messageId :=
  fun _ _ same apart => apart.1 same

theorem unique_outboxRow_intentId : Table.UniqueColumn OutboxRow.intentId :=
  fun _ _ same apart => apart.2 same

theorem unique_orderRow_orderId : Table.UniqueColumn OrderRow.orderId :=
  fun _ _ same apart => apart.1 same

theorem unique_orderRow_intentId : Table.UniqueColumn OrderRow.intentId :=
  fun _ _ same apart => apart.2 same

theorem unique_eventRow_eventId : Table.UniqueColumn EventRow.eventId :=
  fun _ _ same apart => apart same

theorem unique_evidenceRow_evidenceId : Table.UniqueColumn EvidenceRow.evidenceId :=
  fun _ _ same apart => apart same

theorem unique_attemptRow_attemptId : Table.UniqueColumn AttemptRow.attemptId :=
  fun _ _ same apart => apart same

end TradingLab

import TradingLab.Domain.Payload

/-!
# What brokers report

Lifecycle events, reconciliation evidence and negative evidence, validated as their `__post_init__`
does, and the states of orders and messages that they move.
-/
namespace TradingLab

inductive RiskReservationState
  | active
  | released
deriving DecidableEq, Repr

inductive OutboxState
  | pending
  | dispatching
  | dispatched
  | ambiguous
  | cancelled
  | blockedNotSent
  | reconciled
deriving DecidableEq, Repr

inductive OrderState
  | outboxed
  | dispatching
  | accepted
  | opened
  | unknown
  | reconciling
  | settled
  | settlementUnknown
  | rejected
  | manualReview
  | sendBlocked
deriving DecidableEq, Repr

def OrderState.value : OrderState → String
  | .outboxed => "OUTBOXED"
  | .dispatching => "DISPATCHING"
  | .accepted => "ACCEPTED"
  | .opened => "OPEN"
  | .unknown => "UNKNOWN"
  | .reconciling => "RECONCILING"
  | .settled => "SETTLED"
  | .settlementUnknown => "SETTLEMENT_UNKNOWN"
  | .rejected => "REJECTED"
  | .manualReview => "MANUAL_REVIEW"
  | .sendBlocked => "SEND_BLOCKED"

def OrderState.isTerminal (s : OrderState) : Bool :=
  s == .settled || s == .rejected

inductive ExternalOrderStatus
  | accepted
  | rejected
  | opened
  | settled
  | externalUnknown
  | settlementUnknown
deriving DecidableEq, Repr

def ExternalOrderStatus.value : ExternalOrderStatus → String
  | .accepted => "ACCEPTED"
  | .rejected => "REJECTED"
  | .opened => "OPEN"
  | .settled => "SETTLED"
  | .externalUnknown => "EXTERNAL_UNKNOWN"
  | .settlementUnknown => "SETTLEMENT_UNKNOWN"

inductive ReconciliationSource
  | statusQuery
deriving DecidableEq, Repr

def ReconciliationSource.value : ReconciliationSource → String
  | .statusQuery => "STATUS_QUERY"

inductive DecimalReading
  | invalid
  | notFinite
  | finite (value : Rat)
deriving DecidableEq, Repr

/-- A text together with its reading as a decimal number. -/
structure DecimalText where
  text : String
  reading : DecimalReading
deriving DecidableEq, Repr

structure BrokerEventFields where
  eventId : String
  intentId : String
  newState : OrderState
  occurredAt : Instant
  brokerOrderId : Option String := none
  realizedPnlMinor : Option Int := none
deriving DecidableEq

def BrokerEventFields.postInit (e : BrokerEventFields) : Except String Unit := do
  check (e.eventId ≠ "" ∧ e.intentId ≠ "") "event_id and intent_id are required"
  check (¬ (e.realizedPnlMinor ≠ none ∧ e.newState ≠ .settled))
    "realized P&L is only valid for SETTLED events"

structure BrokerEvent extends BrokerEventFields where
  valid : toBrokerEventFields.postInit = .ok ()
deriving DecidableEq

theorem BrokerEvent.pnl_none_of_not_settled (e : BrokerEvent) (h : e.newState ≠ .settled) :
    e.realizedPnlMinor = none := by
  have valid := e.valid
  simp only [BrokerEventFields.postInit, Except.bind_ok_iff, check_eq_ok] at valid
  obtain ⟨-, -, onlySettled⟩ := valid
  by_contra some
  exact onlySettled ⟨some, h⟩

/-! ### `BrokerOrderEvent` -/

structure BrokerOrderEventFields where
  eventId : String
  eventVersion : Int
  broker : Broker
  accountId : String
  clientOrderRef : String
  brokerOrderId : String
  correlationId : String
  externalSequence : Option Int
  externalStatus : ExternalOrderStatus
  occurredAt : Instant
  observedAt : Instant
  product : String
  symbol : String
  direction : Direction
  amount : Money
  resultMinor : Option Int
  resultCurrency : Option String
  evidenceHash : Digest
  secondsRemaining : Option Int := none
  currentSpot : Option DecimalText := none
deriving DecidableEq

namespace BrokerOrderEventFields

def optionalInteger : Option Int → JsonValue
  | some value => .integer value
  | none => .null

def optionalText : Option String → JsonValue
  | some value => .text value
  | none => .null

variable (e : BrokerOrderEventFields)

def canonicalPayload : Payload :=
  [("event_id", .text e.eventId), ("event_version", .integer e.eventVersion),
    ("broker", .text e.broker.value), ("account_id", .text e.accountId),
    ("client_order_ref", .text e.clientOrderRef), ("broker_order_id", .text e.brokerOrderId),
    ("correlation_id", .text e.correlationId),
    ("external_sequence", optionalInteger e.externalSequence),
    ("external_status", .text e.externalStatus.value), ("occurred_at", .instant e.occurredAt),
    ("observed_at", .instant e.observedAt), ("product", .text e.product),
    ("symbol", .text e.symbol), ("direction", .text e.direction.value),
    ("amount_minor", .integer e.amount.minorUnits), ("currency", .text e.amount.currency),
    ("result_minor", optionalInteger e.resultMinor),
    ("result_currency", optionalText e.resultCurrency)] ++
  (match e.secondsRemaining with
    | some seconds => [("seconds_remaining", .integer seconds)]
    | none => []) ++
  match e.currentSpot with
  | some spot => [("current_spot", .text spot.text)]
  | none => []

def expectedEvidenceHash : Digest :=
  ⟨e.canonicalPayload⟩

def validateResult : Except String Unit :=
  if e.externalStatus = .settled then
    check (e.resultMinor ≠ none ∧ e.resultCurrency ≠ none)
      "SETTLED event requires result amount and currency"
  else
    check (e.resultMinor = none ∧ e.resultCurrency = none) "result is only valid for SETTLED event"

/-- `__post_init__`; the result currency is stored in normal form. -/
def postInit : Except String Unit := do
  requireNonBlank [("event_id", e.eventId), ("account_id", e.accountId),
    ("client_order_ref", e.clientOrderRef), ("broker_order_id", e.brokerOrderId),
    ("correlation_id", e.correlationId), ("product", e.product), ("symbol", e.symbol)]
  check (0 < e.eventVersion) "event_version must be a positive integer"
  check (∀ sequence ∈ e.externalSequence, 0 < sequence)
    "external_sequence must be a positive integer or null"
  check (0 < e.amount.minorUnits) "event amount must be positive"
  validateResult e
  check (∀ currency ∈ e.resultCurrency, currencyCode currency = some currency)
    "result_currency must be a three-letter code"
  check (e.externalStatus ≠ .externalUnknown) "EXTERNAL_UNKNOWN is not a lifecycle event"
  check (∀ seconds ∈ e.secondsRemaining, 0 ≤ seconds)
    "seconds_remaining must be a non-negative integer or null"
  check (∀ spot ∈ e.currentSpot, spot.reading ≠ .invalid)
    "current_spot must be a decimal string or null"
  check (e.evidenceHash = e.expectedEvidenceHash)
    "broker event evidence_hash does not match canonical payload"

end BrokerOrderEventFields

structure BrokerOrderEvent extends BrokerOrderEventFields where
  valid : toBrokerOrderEventFields.postInit = .ok ()
deriving DecidableEq

namespace BrokerOrderEvent

variable (e : BrokerOrderEvent)

private theorem post_checks :
    e.validateResult = .ok () ∧ e.externalStatus ≠ .externalUnknown ∧
      e.evidenceHash = e.expectedEvidenceHash := by
  have valid := e.valid
  simp only [BrokerOrderEventFields.postInit, Except.bind_ok_iff, check_eq_ok] at valid
  obtain ⟨-, -, -, -, -, -, -, -, _, result, -, -, -, known, -, -, -, -, hash⟩ := valid
  exact ⟨result, known, hash⟩

theorem externalStatus_ne_externalUnknown : e.externalStatus ≠ .externalUnknown :=
  e.post_checks.2.1

theorem amount_pos : 0 < e.amount.minorUnits := by
  have valid := e.valid
  simp only [BrokerOrderEventFields.postInit, Except.bind_ok_iff, check_eq_ok] at valid
  obtain ⟨-, -, -, -, -, -, -, positive, -⟩ := valid
  exact positive

theorem result_of_settled (h : e.externalStatus = .settled) :
    ∃ minor currency, e.resultMinor = some minor ∧ e.resultCurrency = some currency := by
  have result := e.post_checks.1
  rw [BrokerOrderEventFields.validateResult, if_pos h, check_eq_ok,
    Option.ne_none_iff_exists', Option.ne_none_iff_exists'] at result
  obtain ⟨⟨minor, hm⟩, currency, hc⟩ := result
  exact ⟨minor, currency, hm, hc⟩

theorem result_none (h : e.externalStatus ≠ .settled) :
    e.resultMinor = none ∧ e.resultCurrency = none := by
  have result := e.post_checks.1
  rwa [BrokerOrderEventFields.validateResult, if_neg h, check_eq_ok] at result

end BrokerOrderEvent

/-! ### `ReconciliationEvidence` and `NotFoundEvidence` -/

structure ReconciliationEvidenceFields where
  evidenceId : String
  source : ReconciliationSource
  observedAt : Instant
  clientOrderRef : String
  brokerOrderId : Option String
  externalStatus : ExternalOrderStatus
  broker : Broker
  accountId : String
  product : String
  symbol : String
  direction : Direction
  amount : Money
  evidenceVersion : Int
  realizedPnlMinor : Option Int := none
  rawReferenceHash : Option String := none
deriving DecidableEq

namespace ReconciliationEvidenceFields

variable (e : ReconciliationEvidenceFields)

def validatePnl : Except String Unit :=
  if e.externalStatus = .settled then
    check (e.realizedPnlMinor ≠ none) "SETTLED evidence requires realized P&L"
  else
    check (e.realizedPnlMinor = none) "realized P&L is only valid for SETTLED evidence"

def postInit : Except String Unit := do
  requireNonBlank [("evidence_id", e.evidenceId), ("client_order_ref", e.clientOrderRef),
    ("account_id", e.accountId), ("product", e.product), ("symbol", e.symbol)]
  check (∀ id ∈ e.brokerOrderId, isBlank id = false) "broker_order_id cannot be blank"
  check (0 < e.evidenceVersion) "evidence_version must be a positive integer"
  validatePnl e
  check (∀ hash ∈ e.rawReferenceHash, isBlank hash = false) "raw_reference_hash cannot be blank"

def toPayload : Payload :=
  [("evidence_id", .text e.evidenceId), ("source", .text e.source.value),
    ("observed_at", .instant e.observedAt), ("client_order_ref", .text e.clientOrderRef),
    ("broker_order_id", BrokerOrderEventFields.optionalText e.brokerOrderId),
    ("external_status", .text e.externalStatus.value), ("broker", .text e.broker.value),
    ("account_id", .text e.accountId), ("product", .text e.product), ("symbol", .text e.symbol),
    ("direction", .text e.direction.value), ("amount_minor", .integer e.amount.minorUnits),
    ("currency", .text e.amount.currency), ("evidence_version", .integer e.evidenceVersion),
    ("realized_pnl_minor", BrokerOrderEventFields.optionalInteger e.realizedPnlMinor),
    ("raw_reference_hash", BrokerOrderEventFields.optionalText e.rawReferenceHash)]

end ReconciliationEvidenceFields

structure ReconciliationEvidence extends ReconciliationEvidenceFields where
  valid : toReconciliationEvidenceFields.postInit = .ok ()
deriving DecidableEq

namespace ReconciliationEvidence

variable (e : ReconciliationEvidence)

private theorem pnl_check : e.validatePnl = .ok () := by
  have valid := e.valid
  simp only [ReconciliationEvidenceFields.postInit, Except.bind_ok_iff, check_eq_ok] at valid
  obtain ⟨-, -, -, -, -, -, _, pnl, -⟩ := valid
  exact pnl

theorem pnl_of_settled (h : e.externalStatus = .settled) :
    ∃ pnl, e.realizedPnlMinor = some pnl := by
  have pnl := e.pnl_check
  rw [ReconciliationEvidenceFields.validatePnl, if_pos h, check_eq_ok] at pnl
  exact Option.ne_none_iff_exists'.mp pnl

theorem pnl_none (h : e.externalStatus ≠ .settled) : e.realizedPnlMinor = none := by
  have pnl := e.pnl_check
  rwa [ReconciliationEvidenceFields.validatePnl, if_neg h, check_eq_ok] at pnl

end ReconciliationEvidence

structure NotFoundEvidence where
  observedAt : Instant
  statementChecked : Bool
  portfolioChecked : Bool
deriving DecidableEq, Repr

def NotFoundEvidence.confirmsBothSources (e : NotFoundEvidence) : Bool :=
  e.statementChecked && e.portfolioChecked

end TradingLab

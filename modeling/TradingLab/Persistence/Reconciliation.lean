import TradingLab.Persistence.Events

/-!
# Reconciliation and explicit releases

Reconciliation attempts, the evidence they bring and what it resolves; the two explicit ways to
release a reservation.
-/
namespace TradingLab

open Relational

inductive ReconciliationApplyStatus
  | resolved
  | idempotent
  | unresolved
  | conflict
deriving DecidableEq, Repr

def ReconciliationApplyStatus.value : ReconciliationApplyStatus → String
  | .resolved => "RESOLVED"
  | .idempotent => "IDEMPOTENT"
  | .unresolved => "UNRESOLVED"
  | .conflict => "CONFLICT"

structure ReconciliationApplyResult where
  status : ReconciliationApplyStatus
  orderState : OrderState
  reasonCode : Option String
deriving DecidableEq, Repr

/-! ### Attempts -/

variable (attemptId : String)

/-- `begin_reconciliation_attempt`; `order_id` references `orders`. -/
def beginReconciliationAttempt (orderId correlationId : String) (startedAt : Instant) :
    Operation Unit := fun db =>
  match db.orderById orderId with
  | none => .error integrityError
  | some _ => do
    let reconciliationAttempts ← orIntegrityError (db.reconciliationAttempts.insert
      ⟨attemptId, orderId, correlationId, startedAt, none, "STARTED", none, none⟩)
    .ok ((), { db with reconciliationAttempts })

namespace Database

/-- `UPDATE reconciliation_attempts … WHERE attempt_id = ? AND result = 'STARTED'`. -/
def updateStartedAttempt (db : Database) (attemptId : String) (f : AttemptRow → AttemptRow)
    (same : ∀ a, (f a).attemptId = a.attemptId) : Except DbError Database :=
  let started := fun a : AttemptRow => a.attemptId == attemptId && a.result == "STARTED"
  if db.reconciliationAttempts.rowCount started = 1 then
    .ok { db with
      reconciliationAttempts :=
        db.reconciliationAttempts.update started f (AttemptRow.keeps same) }
  else .error (.persistence "reconciliation attempt is not STARTED")

def finishReconciliationAttempt (db : Database) (attemptId result : String)
    (reasonCode : Option String) (completedAt : Instant) (evidenceId : Option String) :
    Except DbError Database :=
  db.updateStartedAttempt attemptId
    (fun a => { a with
      completedAt := some completedAt
      result := result
      reasonCode := reasonCode
      evidenceId := evidenceId })
    fun _ => rfl

/-- The order of a STARTED attempt: `reconciliation_attempts JOIN orders`. -/
def orderOfStartedAttempt (db : Database) (attemptId : String) : Option OrderRow :=
  match db.attempt attemptId with
  | none => none
  | some attempt => if attempt.result = "STARTED" then db.orderById attempt.orderId else none

end Database

def completeReconciliationAttempt (result reasonCode : String) (completedAt : Instant) :
    Operation Unit := fun db => do
  let db ← db.updateStartedAttempt attemptId
    (fun a => { a with
      completedAt := some completedAt
      result := result
      reasonCode := some reasonCode })
    fun _ => rfl
  .ok ((), db)

/-! ### Evidence -/

def evidenceHash (evidence : ReconciliationEvidence) : Digest :=
  ⟨evidence.toPayload⟩

def matchingConflictReason (row : OrderRow) (ti : IntentRow) (evidence : ReconciliationEvidence) :
    Option String :=
  firstMismatch
    [(evidence.clientOrderRef == row.orderId, "CLIENT_ORDER_REF_CONFLICT"),
      (evidence.broker == row.broker, "BROKER_CONFLICT"),
      (evidence.accountId == row.accountId, "ACCOUNT_CONFLICT"),
      (evidence.product == ti.product, "PRODUCT_CONFLICT"),
      (evidence.symbol == ti.symbol, "SYMBOL_CONFLICT"),
      (evidence.direction == ti.direction, "DIRECTION_CONFLICT"),
      (evidence.amount.minorUnits == ti.amount.minorUnits, "AMOUNT_CONFLICT"),
      (evidence.amount.currency == ti.amount.currency, "CURRENCY_CONFLICT"),
      (row.brokerOrderId.all fun id => evidence.brokerOrderId.all fun other => id == other,
        "BROKER_ORDER_ID_CONFLICT")]

def isValidReconciliationStatusProgression (previous current : ExternalOrderStatus) : Bool :=
  match previous with
  | .accepted => [ExternalOrderStatus.opened, .settlementUnknown, .settled].contains current
  | .opened => [ExternalOrderStatus.settlementUnknown, .settled].contains current
  | .settlementUnknown => [ExternalOrderStatus.settled].contains current
  | _ => false

def OrderRow.noteEvidence (o : OrderRow) (evidence : ReconciliationEvidence)
    (resolvedAt : Instant) : OrderRow :=
  { o with
    resolutionSource := some evidence.source.value
    resolutionEvidenceId := some evidence.evidenceId
    resolvedAt := some resolvedAt
    brokerOrderId := evidence.brokerOrderId.or o.brokerOrderId }

theorem OrderRow.noteEvidence_keys (evidence : ReconciliationEvidence) (resolvedAt : Instant) :
    OrderRow.SameKeys fun o => o.noteEvidence evidence resolvedAt :=
  fun _ => ⟨rfl, rfl⟩

def OrderRow.noteNotFound (o : OrderRow) (resolvedAt : Instant) : OrderRow :=
  { o with
    resolutionSource := some ReconciliationSource.statusQuery.value
    resolvedAt := some resolvedAt }

theorem OrderRow.noteNotFound_keys (resolvedAt : Instant) :
    OrderRow.SameKeys fun o => o.noteNotFound resolvedAt :=
  fun _ => ⟨rfl, rfl⟩

namespace Database

variable (db : Database)

/-- `_insert_reconciliation_evidence`; the table checks that the amount is positive. -/
def insertReconciliationEvidence (orderId : String) (evidence : ReconciliationEvidence)
    (receivedAt : Instant) : Except DbError Database :=
  if amountPositive : 0 < evidence.amount.minorUnits then do
    let reconciliationEvidence ← orIntegrityError (db.reconciliationEvidence.insert
      ⟨evidence, orderId, evidenceHash evidence, receivedAt, amountPositive⟩)
    .ok { db with reconciliationEvidence }
  else .error integrityError

variable (attemptId : String)

def finishReconciliationConflict (row : OrderRow) (completedAt : Instant) (reasonCode : String)
    (evidenceId : Option String) : Except DbError (ReconciliationApplyResult × Database) := do
  let db ← db.finishReconciliationAttempt attemptId "CONFLICT" (some reasonCode) completedAt
    evidenceId
  .ok (⟨.conflict, row.state, some reasonCode⟩, db)

/-- What the evidence already used for an order says about new evidence for it. -/
inductive PriorEvidence
  | none
  | same
  | progresses
  | contradicts
deriving DecidableEq, Repr

def priorEvidence (row : OrderRow) (evidence : ReconciliationEvidence) :
    Except DbError PriorEvidence :=
  match row.resolutionEvidenceId with
  | none => .ok .none
  | some previousId =>
    match db.evidence previousId with
    | none => .error (.persistence "order references missing reconciliation evidence")
    | some previous =>
      if previousId = evidence.evidenceId then .ok .same
      else if previous.evidence.externalStatus = evidence.externalStatus ∨
          isValidReconciliationStatusProgression previous.evidence.externalStatus
            evidence.externalStatus = true then
        .ok .progresses
      else .ok .contradicts

def settleDigitEvidence (evidence : ReconciliationEvidence) (row : OrderRow) (ti : IntentRow)
    (target : OrderState) (resolvedAt : Instant) : Except DbError Database :=
  match evidence.realizedPnlMinor with
  | none => .ok db
  | some pnlMinor =>
    if target = .settled ∧ row.state ≠ .settled then
      db.applyDigitRuntimeSettlement ti.product ti.symbol ti.amount.currency pnlMinor row.orderId
        evidence.evidenceId resolvedAt
    else .ok db

def finishEvidence (evidence : ReconciliationEvidence) (row : OrderRow) (ti : IntentRow)
    (target : OrderState) (resolvedAt : Instant) : Except DbError Database := do
  let db := db.updateOrders (fun o => o.orderId == row.orderId)
    (fun o => o.noteEvidence evidence resolvedAt)
    (OrderRow.noteEvidence_keys evidence resolvedAt)
  let db := db.reconcileOutbox row.intentId ("RECONCILED_" ++ evidence.externalStatus.value)
    resolvedAt
  let db := db.releaseIfTerminal target row.intentId resolvedAt ("RECONCILED_" ++ target.value)
    (some evidence.evidenceId)
  let db ← db.settleDigitEvidence evidence row ti target resolvedAt
  db.finishReconciliationAttempt attemptId "RESOLVED" none resolvedAt (some evidence.evidenceId)

/-- Unlike an event, evidence does not move an order out of MANUAL_REVIEW. -/
def resolvesFrom (s : OrderState) : Bool :=
  s == .unknown || s == .settlementUnknown

def resolveByEvidence (evidence : ReconciliationEvidence) (row : OrderRow) (ti : IntentRow)
    (target : OrderState) (resolvedAt : Instant) :
    Except DbError (ReconciliationApplyResult × Database) := do
  let ambiguous := resolvesFrom row.state
  let db ← db.enterReconciling row ambiguous resolvedAt
  let current := if ambiguous then OrderState.reconciling else row.state
  let db ← db.transitionUnless current row.intentId target resolvedAt evidence.brokerOrderId
    evidence.realizedPnlMinor
  let db ← db.finishEvidence attemptId evidence row ti target resolvedAt
  .ok (⟨.resolved, target, none⟩, db)

def applyMatchingEvidence (evidence : ReconciliationEvidence) (row : OrderRow) (ti : IntentRow)
    (resolvedAt : Instant) : Except DbError (ReconciliationApplyResult × Database) := do
  let prior ← db.priorEvidence row evidence
  match prior with
  | .same =>
    let db ← db.finishReconciliationAttempt attemptId "IDEMPOTENT" none resolvedAt
      (some evidence.evidenceId)
    .ok (⟨.idempotent, row.state, none⟩, db)
  | .contradicts =>
    db.finishReconciliationConflict attemptId row resolvedAt "RECONCILIATION_EVIDENCE_CONFLICT"
      (some evidence.evidenceId)
  | _ =>
    match orderStateForExternalStatus evidence.externalStatus with
    | none =>
      let db ← db.finishReconciliationAttempt attemptId "UNRESOLVED"
        (some "RECONCILIATION_EXTERNAL_UNKNOWN") resolvedAt (some evidence.evidenceId)
      .ok (⟨.unresolved, row.state, some "RECONCILIATION_EXTERNAL_UNKNOWN"⟩, db)
    | some target => db.resolveByEvidence attemptId evidence row ti target resolvedAt

def applyRecordedEvidence (evidence : ReconciliationEvidence) (row : OrderRow) (ti : IntentRow)
    (resolvedAt : Instant) : Except DbError (ReconciliationApplyResult × Database) :=
  match matchingConflictReason row ti evidence with
  | some reason => db.finishReconciliationConflict attemptId row resolvedAt reason
      (some evidence.evidenceId)
  | none => db.applyMatchingEvidence attemptId evidence row ti resolvedAt

end Database

def applyReconciliationEvidence (evidence : ReconciliationEvidence) (resolvedAt : Instant) :
    Operation ReconciliationApplyResult := fun db =>
  match db.orderOfStartedAttempt attemptId with
  | none => .error (.persistence "reconciliation attempt is not STARTED")
  | some row =>
    match db.intent row.intentId with
    | none => .error (.persistence "reconciliation attempt is not STARTED")
    | some ti =>
      match db.evidence evidence.evidenceId with
      | some existing =>
        if existing.canonicalHash = evidenceHash evidence ∧ existing.orderId = row.orderId then
          db.applyRecordedEvidence attemptId evidence row ti resolvedAt
        else db.finishReconciliationConflict attemptId row resolvedAt
          "RECONCILIATION_EVIDENCE_CONFLICT" none
      | none => do
        let db ← db.insertReconciliationEvidence row.orderId evidence resolvedAt
        db.applyRecordedEvidence attemptId evidence row ti resolvedAt

/-! ### Negative evidence -/

def notFoundReason : String := "RECONCILIATION_NOT_FOUND_BOTH_SOURCES"

namespace Database

/-- `ORDER BY completed_at DESC LIMIT 1` over the earlier NOT_FOUND attempts of the order. -/
def latestCompletion (rows : List (AttemptRow × Instant)) : Option (AttemptRow × Instant) :=
  rows.foldl (fun best entry =>
    match best with
    | none => some entry
    | some current => if current.2 < entry.2 then some entry else some current) none

def priorNotFound (db : Database) (orderId attemptId : String) : Option (AttemptRow × Instant) :=
  latestCompletion (db.reconciliationAttempts.rows.filterMap fun a =>
    match a.completedAt with
    | some completedAt =>
      if a.orderId = orderId ∧ a.attemptId ≠ attemptId ∧ a.result = "UNRESOLVED" ∧
          a.reasonCode = some notFoundReason then
        some (a, completedAt)
      else none
    | none => none)

def rejectNotFound (db : Database) (attemptId : String) (row : OrderRow) (prior : AttemptRow)
    (resolvedAt : Instant) : Except DbError (ReconciliationApplyResult × Database) := do
  let db ← db.transitionOrder row.intentId .reconciling resolvedAt none none
  let db ← db.transitionOrder row.intentId .rejected resolvedAt none none
  let db := db.updateOrders (fun o => o.orderId == row.orderId)
    (fun o => o.noteNotFound resolvedAt) (OrderRow.noteNotFound_keys resolvedAt)
  let db := db.reconcileOutbox row.intentId "RECONCILED_NOT_FOUND" resolvedAt
  let db := db.releaseForIntent row.intentId resolvedAt "RECONCILED_NOT_FOUND"
    (some (notFoundReason ++ ":" ++ prior.attemptId ++ ":" ++ attemptId))
  let db ← db.finishReconciliationAttempt attemptId "RESOLVED" (some notFoundReason) resolvedAt none
  .ok (⟨.resolved, .rejected, some notFoundReason⟩, db)

end Database

/-- The thresholds of `apply_reconciliation_not_found`, in seconds. -/
structure NotFoundPolicy where
  notFoundGraceSeconds : Rat
  confirmationIntervalSeconds : Rat
deriving DecidableEq

def applyReconciliationNotFound (evidence : NotFoundEvidence) (policy : NotFoundPolicy)
    (resolvedAt : Instant) : Operation ReconciliationApplyResult :=
  fun db =>
  if evidence.confirmsBothSources = false ∨ policy.notFoundGraceSeconds ≤ 0 ∨
      policy.confirmationIntervalSeconds ≤ 0 then
    .error (.value "NOT_FOUND reconciliation proof is invalid")
  else
    match db.orderOfStartedAttempt attemptId with
    | none => .error (.persistence "reconciliation attempt is not STARTED")
    | some row =>
      if row.state = .rejected ∧
          row.resolutionSource = some ReconciliationSource.statusQuery.value then do
        let db ← db.finishReconciliationAttempt attemptId "IDEMPOTENT" (some notFoundReason)
          resolvedAt none
        .ok (⟨.idempotent, row.state, some notFoundReason⟩, db)
      else
        match (db.priorNotFound row.orderId attemptId).filter fun prior =>
            decide (row.state = .unknown ∧
              policy.notFoundGraceSeconds ≤ elapsedSeconds row.createdAt evidence.observedAt ∧
              policy.confirmationIntervalSeconds ≤ elapsedSeconds prior.2 evidence.observedAt) with
        | some prior => db.rejectNotFound attemptId row prior.1 resolvedAt
        | none => do
          let db ← db.finishReconciliationAttempt attemptId "UNRESOLVED" (some notFoundReason)
            evidence.observedAt none
          .ok (⟨.unresolved, row.state, some notFoundReason⟩, db)

namespace Database

/-- A reservation with its order: `risk_reservations JOIN orders`. -/
def reservationWithOrder (db : Database) (reservationId : String) :
    Option (ReservationRow × OrderRow) :=
  match db.reservationById reservationId with
  | none => none
  | some r => (db.order r.intentId).map fun o => (r, o)

end Database

def releaseReservation (reservationId : String) (releasedAt : Instant) : Operation Unit :=
  fun db =>
  match db.reservationWithOrder reservationId with
  | none => .error (.persistence "reservation not found")
  | some (r, o) =>
    if r.state = .released then .ok ((), db)
    else if o.state.isTerminal then
      .ok ((), db.releaseForIntent r.intentId releasedAt "NORMAL_TERMINAL_RELEASE" none)
    else .error (.reservationReleaseBlocked
      "active or ambiguous exposure requires proven terminal state")

def releaseAfterReconciliation (reservationId : String) (resolvedState : OrderState)
    (evidenceReference : String) (releasedAt : Instant) : Operation Unit := fun db =>
  if isBlank evidenceReference then .error (.value "reconciliation evidence is required")
  else if resolvedState.isTerminal = false then
    .error (.value "reconciliation must prove a terminal state before release")
  else
    match db.reservationWithOrder reservationId with
    | none => .error (.persistence "reservation not found")
    | some (r, o) =>
      if Database.resolvesFrom o.state = true ∨ o.state = .reconciling then do
        let db ← db.enterReconciling o (Database.resolvesFrom o.state) releasedAt
        let db ← db.transitionOrder r.intentId resolvedState releasedAt none none
        .ok ((), db.releaseForIntent r.intentId releasedAt "EXPLICIT_RECONCILIATION"
          (some evidenceReference))
      else .error (.reservationReleaseBlocked
        "only ambiguous orders can use the reconciliation release path")

end TradingLab

import TradingLab.Persistence.Orders

/-!
# The durable digit progression

`digit_risk_runtime` holds the policy in force and how far the current recovery sequence has gone.
Settlements advance it inside their own transaction.
-/
namespace TradingLab

open Relational
open DigitRiskRuntime

/-! ### One settlement -/

namespace DigitRiskRuntimeFields

def endSequence (r : DigitRiskRuntimeFields) : DigitRiskRuntimeFields :=
  { r with martingaleStep := 0, cumulativeSequenceLossMinor := 0, pinnedSymbol := none }

def settleLoss (r : DigitRiskRuntimeFields) (symbol : String) (pnlMinor : Int)
    (occurredAt : Instant) : DigitRiskRuntimeFields :=
  let losses := r.consecutiveLosses + 1
  let exhausted := r.martingaleEnabled && decide (r.martingaleStep ≥ r.martingaleMaxSteps)
  let step :=
    if r.martingaleEnabled then (if exhausted then 0 else r.martingaleStep + 1) else 0
  { r with
    consecutiveLosses := losses
    martingaleStep := step
    cumulativeSequenceLossMinor :=
      if exhausted then 0 else r.cumulativeSequenceLossMinor + -pnlMinor
    pinnedSymbol := if step > 0 then some symbol else none
    cooldownStartedAt :=
      if losses ≥ r.maxConsecutiveLosses then some occurredAt else r.cooldownStartedAt }

def settleWin (r : DigitRiskRuntimeFields) (pnlMinor : Int) : DigitRiskRuntimeFields :=
  let cumulative := max 0 (r.cumulativeSequenceLossMinor - pnlMinor)
  if r.martingaleEnabled = true ∧ cumulative > 0 ∧ r.martingaleStep < r.martingaleMaxSteps then
    { r with
      consecutiveLosses := 0
      martingaleStep := r.martingaleStep + 1
      cumulativeSequenceLossMinor := cumulative
      cooldownStartedAt := none }
  else { r.endSequence with consecutiveLosses := 0, cooldownStartedAt := none }

/-- The row after a settlement of `pnlMinor` (a break-even keeps the losses in a row). -/
def settle (r : DigitRiskRuntimeFields) (symbol : String) (pnlMinor : Int)
    (orderId settlementId : String) (occurredAt : Instant) : DigitRiskRuntimeFields :=
  let progressed :=
    if pnlMinor < 0 then r.settleLoss symbol pnlMinor occurredAt
    else if pnlMinor > 0 then r.settleWin pnlMinor
    else { r.endSequence with cooldownStartedAt := none }
  { progressed with
    dailyPnlMinor := r.dailyPnlMinor + pnlMinor
    lastOrderId := some orderId
    lastSettlementId := some settlementId
    updatedAt := occurredAt }

/-! #### A settlement keeps the CHECK constraints -/

variable {r : DigitRiskRuntimeFields}

theorem settleLoss_checks (checks : r.Checks) (symbol : String)
    {pnlMinor : Int} (loss : pnlMinor < 0) (occurredAt : Instant) :
    (r.settleLoss symbol pnlMinor occurredAt).Checks := by
  obtain ⟨currency, steps, losses, lossesNonneg, stepNonneg, cumulativeNonneg⟩ := checks
  refine ⟨currency, steps, losses, ?_, ?_, ?_⟩ <;> simp only [settleLoss]
  · omega
  · split
    · split <;> omega
    · omega
  · split <;> omega

theorem settleWin_checks (checks : r.Checks) (pnlMinor : Int) :
    (r.settleWin pnlMinor).Checks := by
  obtain ⟨currency, steps, losses, lossesNonneg, stepNonneg, cumulativeNonneg⟩ := checks
  unfold settleWin
  simp only
  split
  · exact ⟨currency, steps, losses, Int.le_refl _, by simp only; omega, Int.le_max_left _ _⟩
  · exact ⟨currency, steps, losses, Int.le_refl _, Int.le_refl _, Int.le_refl _⟩

theorem settle_checks (checks : r.Checks) (symbol : String)
    (pnlMinor : Int) (orderId settlementId : String) (occurredAt : Instant) :
    (r.settle symbol pnlMinor orderId settlementId occurredAt).Checks := by
  unfold settle
  simp only
  split
  · rename_i loss
    exact settleLoss_checks checks symbol loss occurredAt
  · split
    · exact settleWin_checks checks pnlMinor
    · obtain ⟨currency, steps, losses, lossesNonneg, -, -⟩ := checks
      exact ⟨currency, steps, losses, lossesNonneg, Int.le_refl _, Int.le_refl _⟩

end DigitRiskRuntimeFields

def DigitRiskRuntime.settle (r : DigitRiskRuntime) (symbol : String) (pnlMinor : Int)
    (orderId settlementId : String) (occurredAt : Instant) : DigitRiskRuntime :=
  ⟨r.toDigitRiskRuntimeFields.settle symbol pnlMinor orderId settlementId occurredAt,
    DigitRiskRuntimeFields.settle_checks r.checks symbol pnlMinor orderId settlementId occurredAt⟩

/-- One order has one terminal financial effect, so a second settlement of the last settled
    order changes nothing. -/
def Database.applyDigitRuntimeSettlement (db : Database) (product symbol currency : String)
    (pnlMinor : Int) (orderId settlementId : String) (occurredAt : Instant) :
    Except DbError Database :=
  if isDigitProduct product then
    match db.digitRiskRuntime with
    | none => .error (.persistence "digit risk runtime policy is not configured")
    | some runtime =>
      if runtime.currency = currency then
        if runtime.lastOrderId = some orderId then .ok db
        else .ok { db with
          digitRiskRuntime :=
            some (runtime.settle symbol pnlMinor orderId settlementId occurredAt) }
      else .error (.persistence "digit settlement currency does not match runtime policy")
  else .ok db

/-! ### `configure_digit_risk_runtime` -/

structure DigitRuntimePolicy where
  configFingerprint : String
  currency : String
  martingaleEnabled : Bool
  martingaleMaxSteps : Int
  maxConsecutiveLosses : Int
  cooldownSeconds : DecimalText
deriving DecidableEq

namespace DigitRuntimePolicy

def validate (policy : DigitRuntimePolicy) : Except DbError Unit :=
  match policy.cooldownSeconds.reading with
  | .invalid => .error (.value "invalid digit runtime cooldown")
  | .notFinite => .error (.value "invalid digit runtime policy")
  | .finite cooldown =>
    if policy.configFingerprint ≠ "" ∧ policy.currency.length = 3 ∧
        (1 ≤ policy.martingaleMaxSteps ∧ policy.martingaleMaxSteps ≤ 4) ∧
        (1 ≤ policy.maxConsecutiveLosses ∧ policy.maxConsecutiveLosses ≤ 5) ∧ 0 < cooldown then
      .ok ()
    else .error (.value "invalid digit runtime policy")

def newRow (policy : DigitRuntimePolicy) (now : Instant) : DigitRiskRuntimeFields where
  configFingerprint := policy.configFingerprint
  currency := policy.currency
  martingaleEnabled := policy.martingaleEnabled
  martingaleMaxSteps := policy.martingaleMaxSteps
  maxConsecutiveLosses := policy.maxConsecutiveLosses
  cooldownSeconds := policy.cooldownSeconds
  updatedAt := now

def install (policy : DigitRuntimePolicy) (r : DigitRiskRuntimeFields) (now : Instant) :
    DigitRiskRuntimeFields :=
  { r with
    configFingerprint := policy.configFingerprint
    currency := policy.currency
    martingaleEnabled := policy.martingaleEnabled
    martingaleMaxSteps := policy.martingaleMaxSteps
    maxConsecutiveLosses := policy.maxConsecutiveLosses
    cooldownSeconds := policy.cooldownSeconds
    updatedAt := now }

end DigitRuntimePolicy

def DigitRiskRuntimeFields.resetSequence (r : DigitRiskRuntimeFields) : DigitRiskRuntimeFields :=
  { r.endSequence with consecutiveLosses := 0, cooldownStartedAt := none }

def configureDigitRiskRuntime (policy : DigitRuntimePolicy) (resetActiveSequence : Bool)
    (now : Instant) : Operation Unit := fun db => do
  policy.validate
  match db.digitRiskRuntime with
  | none => do
    let row ← make (policy.newRow now)
    .ok ((), { db with digitRiskRuntime := some row })
  | some current =>
    if current.configFingerprint ≠ policy.configFingerprint ∧ current.martingaleStep > 0 ∧
        resetActiveSequence = false then
      .error (.persistence "DIGIT_MARTINGALE_SEQUENCE_ACTIVE")
    else do
      let installed := policy.install current.toDigitRiskRuntimeFields now
      let row ← make
        (if resetActiveSequence then installed.resetSequence else installed)
      .ok ((), { db with digitRiskRuntime := some row })

namespace Database

/-- A Deriv order of a digit product that is neither SETTLED nor REJECTED. The product is
    compared as stored, without normalisation. -/
def hasNonterminalDerivDigitOrder (db : Database) : Bool :=
  db.orders.rows.any fun o =>
    match db.intent o.intentId with
    | some ti => o.broker == .deriv && digitProducts.contains ti.product && !o.state.isTerminal
    | none => false

def hasActiveReservation (db : Database) : Bool :=
  db.riskReservations.rows.any fun r => r.state == .active

end Database

def resetDigitTestSessionIfFlat (now : Instant) : Operation Unit := fun db =>
  if db.hasNonterminalDerivDigitOrder = true ∨ db.hasActiveReservation = true then
    .error (.persistence "DIGIT_TEST_SESSION_RESET_BLOCKED_EXPOSURE")
  else
    match db.digitRiskRuntime with
    | none => .error (.persistence "DIGIT_RISK_RUNTIME_NOT_CONFIGURED")
    | some row => do
      let row ← make { row.resetSequence with
        dailyPnlMinor := 0
        sessionStartedAt := some now
        updatedAt := now }
      .ok ((), { db with digitRiskRuntime := some row })

/-- `(later - earlier).total_seconds()`. -/
def elapsedSeconds (earlier later : Instant) : Rat :=
  mkRat (later - earlier) 1000000

def expireDigitCooldown (checkedAt : Instant) : Operation (Option DigitRiskRuntime) := fun db =>
  match db.digitRiskRuntime with
  | none => .ok (none, db)
  | some row =>
    match row.cooldownStartedAt with
    | none => .ok (some row, db)
    | some started =>
      match row.cooldownSeconds.reading with
      | .finite duration =>
        if duration ≤ elapsedSeconds started checkedAt then do
          let row ← make { row.resetSequence with updatedAt := checkedAt }
          .ok (some row, { db with digitRiskRuntime := some row })
        else .ok (some row, db)
      | _ => .error .databaseWrite

end TradingLab

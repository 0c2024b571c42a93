import TradingLab.Core.DigitRiskConfig
import TradingLab.Core.HealthGate
import TradingLab.Core.RiskLedger
import TradingLab.Machine.Program
import TradingLab.Persistence.DigitRuntime
import TradingLab.Portfolio.Martingale

/-!
# The risk ledger

`RiskLedger` of `apps/core/risk.py`. A call sees one reading of each clock, in exact seconds, and
what the runtime expirer and the store of the active reservations answer. The snapshot of restored
reservations is left out: no decision reads it.
-/
namespace TradingLab

open Machine

inductive RiskState
  | normal
  | cooldown
  | riskLocked
deriving DecidableEq, Repr

abbrev Fingerprint : Type := { text : String // text ≠ "" }

/-- A configuration that `validate_digit_risk_config` has accepted. -/
abbrev ValidDigitRiskConfig : Type := { config : DigitRiskConfig // config.validate = .ok () }

structure RiskLedger where
  config : GlobalRiskConfig
  digitConfig : ValidDigitRiskConfig
  /-- `digit_runtime_policy()["config_fingerprint"]` of a configuration. -/
  fingerprintOf : DigitRiskConfig → Fingerprint
  digitDailyPnlMinorUnits : Int := 0
  digitConsecutiveLosses : Int := 0
  digitCooldownDeadline : Option Rat := none
  digitMartingaleState : BoundedMartingaleState := ⟨0⟩
  digitRecoverySymbol : Option String := none
  digitCumulativeSequenceLossMinorUnits : Int := 0
  digitExpectedStakeMinorUnits : Option Int := none
  digitLastNetProfitRatio : Option Decimal := none
  dailyPnlMinorUnits : Int := 0
  consecutiveLosses : Int := 0
  riskState : RiskState := .normal

inductive RiskError
  | limitExceeded (reasonCode message : String)
  | value (message : String)
  | arithmetic
  /-- An exception of the database, from the runtime expirer. -/
  | database (error : DbError)
deriving DecidableEq, Repr

/-- The ledger and the gate that its callers hand to it, if they do. -/
structure RiskWorld where
  ledger : RiskLedger
  gate : Option HealthGate

/-- What one call finds of the world: the clocks, and the answer of the runtime expirer when the
    ledger has one. -/
structure Surroundings where
  monotonic : Rat
  utc : Instant
  expirer : Option (Except DbError (Option DigitRiskRuntime)) := none

abbrev RiskProgram (α : Type) : Type := Program RiskError RiskWorld α

namespace RiskWorld

def block (w : RiskWorld) (reason : String) : RiskWorld :=
  { w with gate := w.gate.map fun gate => gate.block reason }

def clear (w : RiskWorld) (reason : String) : RiskWorld :=
  { w with gate := w.gate.map fun gate => gate.clearIf reason }

def onLedger (w : RiskWorld) (f : RiskLedger → RiskLedger) : RiskWorld :=
  { w with ledger := f w.ledger }

end RiskWorld

def dailyStopReason : String := "HG_DAILY_STOP_REACHED"

def takeProfitReason : String := "HG_DAILY_TAKE_PROFIT_REACHED"

def cooldownReason : String := "HG_COOLDOWN_ACTIVE"

namespace RiskLedger

variable (ledger : RiskLedger)

def digitRuntimePolicy : DigitRuntimePolicy where
  configFingerprint := (ledger.fingerprintOf ledger.digitConfig.1).1
  currency := ledger.digitConfig.1.currency
  martingaleEnabled := ledger.digitConfig.1.martingaleEnabled
  martingaleMaxSteps := ledger.digitConfig.1.martingaleMaxSteps
  maxConsecutiveLosses := ledger.digitConfig.1.maxConsecutiveLosses
  cooldownSeconds := ledger.digitConfig.1.cooldownSecondsAfterLoss

/-! ### Changes of the ledger -/

def endDigitSequence : RiskLedger :=
  { ledger with
    digitMartingaleState := ⟨0⟩
    digitRecoverySymbol := none
    digitCumulativeSequenceLossMinorUnits := 0 }

def endDigitCooldown : RiskLedger :=
  { ledger.endDigitSequence with digitCooldownDeadline := none, digitConsecutiveLosses := 0 }

def leaveCooldown : RiskLedger :=
  { ledger with
    consecutiveLosses := 0
    riskState := if ledger.riskState = .cooldown then .normal else ledger.riskState }

def lock : RiskLedger :=
  { ledger with riskState := .riskLocked }

/-- `daily_stop_loss_minor_units` and the digit result of the day. -/
def remainingLossBudget (config : DigitRiskConfig) : Int :=
  config.dailyStopLossMinorUnits + ledger.digitDailyPnlMinorUnits

def settleDigitLoss (monotonic cooldown : Rat) (pnlMinorUnits : Int) : RiskLedger :=
  let config := ledger.digitConfig.1
  let losses := ledger.digitConsecutiveLosses + 1
  let deadline :=
    if losses ≥ config.maxConsecutiveLosses then some (monotonic + cooldown)
    else ledger.digitCooldownDeadline
  if config.martingaleEnabled ∧ ledger.digitMartingaleState.step < config.martingaleMaxSteps then
    { ledger with
      digitCumulativeSequenceLossMinorUnits :=
        ledger.digitCumulativeSequenceLossMinorUnits + -pnlMinorUnits
      digitConsecutiveLosses := losses
      digitMartingaleState := ⟨ledger.digitMartingaleState.step + 1⟩
      digitCooldownDeadline := deadline }
  else
    { ledger.endDigitSequence with
      digitConsecutiveLosses := losses
      digitCooldownDeadline := deadline }

def settleDigitWin (pnlMinorUnits : Int) : RiskLedger :=
  let config := ledger.digitConfig.1
  let outstanding := max 0 (ledger.digitCumulativeSequenceLossMinorUnits - pnlMinorUnits)
  if config.martingaleEnabled ∧ outstanding > 0 ∧
      ledger.digitMartingaleState.step < config.martingaleMaxSteps then
    { ledger with
      digitConsecutiveLosses := 0
      digitCumulativeSequenceLossMinorUnits := outstanding
      digitMartingaleState := ⟨ledger.digitMartingaleState.step + 1⟩ }
  else { ledger.endDigitSequence with digitConsecutiveLosses := 0 }

def settleDigit (monotonic cooldown : Rat) (pnlMinorUnits : Int) : RiskLedger :=
  let settled :=
    if pnlMinorUnits < 0 then ledger.settleDigitLoss monotonic cooldown pnlMinorUnits
    else if pnlMinorUnits > 0 then ledger.settleDigitWin pnlMinorUnits
    else ledger.endDigitSequence
  { settled with
    digitDailyPnlMinorUnits := ledger.digitDailyPnlMinorUnits + pnlMinorUnits
    digitExpectedStakeMinorUnits := none }

def restoreRow (row : DigitRiskRuntime) : RiskLedger :=
  { ledger with
    digitDailyPnlMinorUnits := row.dailyPnlMinor
    digitConsecutiveLosses := row.consecutiveLosses
    -- A stored step is not negative.
    digitMartingaleState := ⟨row.martingaleStep.toNat⟩
    digitRecoverySymbol := row.pinnedSymbol
    digitCumulativeSequenceLossMinorUnits := row.cumulativeSequenceLossMinor }

def bookPnl (pnlMinorUnits : Int) : RiskLedger :=
  { ledger with
    dailyPnlMinorUnits := ledger.dailyPnlMinorUnits + pnlMinorUnits
    consecutiveLosses :=
      if pnlMinorUnits < 0 then ledger.consecutiveLosses + 1
      else if pnlMinorUnits > 0 then 0
      else ledger.consecutiveLosses }

end RiskLedger

/-- `timedelta(seconds=...)`, in microseconds. -/
def microseconds (seconds : Rat) : Int :=
  let scaled := seconds * 1000000
  Decimal.signed (decide (scaled < 0)) (Decimal.divHalfEven scaled.num.natAbs scaled.den)

def cooldownRemaining (started : Instant) (duration : Rat) (utc : Instant) : Rat :=
  mkRat (started + microseconds duration - utc) 1000000

def restoreCooldown (around : Surroundings) (row : DigitRiskRuntime) : RiskProgram Unit :=
  match row.cooldownStartedAt with
  | none => Program.modify (·.onLedger fun ledger => { ledger with digitCooldownDeadline := none })
  | some started =>
    match row.cooldownSeconds.reading with
    | .finite duration => Program.modify (·.onLedger fun ledger => { ledger with
        digitCooldownDeadline :=
          some (around.monotonic + max 0 (cooldownRemaining started duration around.utc)) })
    | _ => Program.raise (.value "could not convert string to float")

def restoreDigitRuntime (around : Surroundings) : Option DigitRiskRuntime → RiskProgram Unit
  | none => pure ()
  | some row => do
    let w ← Program.get
    if row.configFingerprint ≠ w.ledger.digitRuntimePolicy.configFingerprint then
      Program.raise (.value "digit runtime configuration does not match active policy")
    else do
      Program.modify (·.onLedger fun ledger => ledger.restoreRow row)
      restoreCooldown around row

/-! ### `check_digit_entry` -/

namespace RiskLedger

/-- Why `check_digit_entry` refuses before the cooldown is over. -/
def entryRefusal (ledger : RiskLedger) (monotonic : Rat) (config : DigitRiskConfig) :
    Option String :=
  if ledger.riskState = .riskLocked ∨
      ledger.digitDailyPnlMinorUnits ≤ -config.dailyStopLossMinorUnits then some dailyStopReason
  else if ledger.digitDailyPnlMinorUnits ≥ config.dailyTakeProfitMinorUnits then
    some takeProfitReason
  else match ledger.digitCooldownDeadline with
  | some deadline => if monotonic < deadline then some cooldownReason else none
  | none => none

end RiskLedger

def refreshDigitRuntime (around : Surroundings) : RiskProgram Unit :=
  match around.expirer with
  | none => pure ()
  | some (.error error) => Program.raise (.database error)
  | some (.ok row) => restoreDigitRuntime around row

def endElapsedCooldown (around : Surroundings) : RiskProgram Unit := do
  let before ← Program.get
  match before.ledger.digitCooldownDeadline with
  | none => pure ()
  | some _ => do
    Program.modify (·.onLedger RiskLedger.endDigitCooldown)
    refreshDigitRuntime around
    Program.modify fun w =>
      if w.ledger.riskState = .cooldown then w else w.clear cooldownReason

def checkLossBudget (config : DigitRiskConfig) : RiskProgram (Bool × Option String) := do
  let w ← Program.get
  if w.ledger.remainingLossBudget config ≤ 0 then do
    Program.modify fun w => (w.onLedger RiskLedger.lock).block dailyStopReason
    pure (false, some dailyStopReason)
  else pure (true, none)

def checkDigitEntry (around : Surroundings) (config : DigitRiskConfig) :
    RiskProgram (Bool × Option String) :=
  match config.validate with
  | .error reason => pure (false, some reason)
  | .ok () => do
    let w ← Program.get
    match w.ledger.entryRefusal around.monotonic config with
    | some reason => do
      Program.modify (·.block reason)
      pure (false, some reason)
    | none => do
      endElapsedCooldown around
      checkLossBudget config

/-- `check_digit_entry` of the configuration in force, also `refresh_digit_health_gate`. -/
def checkActiveDigitEntry (around : Surroundings) : RiskProgram (Bool × Option String) := do
  let w ← Program.get
  checkDigitEntry around w.ledger.digitConfig.1

def DigitRiskConfig.cooldownSeconds (config : DigitRiskConfig) : Rat :=
  match config.cooldownSecondsAfterLoss.reading with
  | .finite seconds => seconds
  | _ => 0

def applyDigitRealizedPnl (around : Surroundings) (pnlMinorUnits : Int) (currency : String) :
    RiskProgram Unit := do
  let w ← Program.get
  let config := w.ledger.digitConfig.1
  if currency ≠ config.currency then
    Program.raise (.value "digit P&L currency does not match active configuration")
  else do
    Program.modify (·.onLedger fun ledger =>
      ledger.settleDigit around.monotonic config.cooldownSeconds pnlMinorUnits)
    Program.modify fun w =>
      if pnlMinorUnits < 0 ∧ w.ledger.digitConsecutiveLosses ≥ config.maxConsecutiveLosses then
        w.block cooldownReason
      else w
    let _ ← checkActiveDigitEntry around
    pure ()

/-- `apply_realized_pnl`; the broker, the account and the currency are not read. -/
def applyRealizedPnl (pnlMinorUnits : Int) : RiskProgram Unit :=
  Program.modify fun w =>
    let booked := w.onLedger fun ledger => ledger.bookPnl pnlMinorUnits
    let config := w.ledger.config
    if booked.ledger.dailyPnlMinorUnits ≤ -config.consolidatedDailyStopLossMinorUnits then
      (booked.onLedger RiskLedger.lock).block dailyStopReason
    else if booked.ledger.consecutiveLosses ≥ config.maxConsecutiveLosses then
      (booked.onLedger fun ledger => { ledger with riskState := .cooldown }).block cooldownReason
    else booked

/-! ### Resets and configurations -/

/-- `_reset_digit_recovery_state`, also `reset_digit_recovery_state`. -/
def resetDigitRecoveryState : RiskProgram Unit :=
  Program.modify fun w => (w.onLedger fun ledger => { ledger.endDigitCooldown.leaveCooldown with
    digitExpectedStakeMinorUnits := none
    digitLastNetProfitRatio := none }).clear cooldownReason

def resetCooldown : RiskProgram Unit :=
  Program.modify fun w =>
    (w.onLedger fun ledger => ledger.endDigitCooldown.leaveCooldown).clear cooldownReason

def resetDailyPnl : RiskProgram Unit :=
  Program.modify fun w => (((w.onLedger fun ledger => { ledger.endDigitCooldown with
    dailyPnlMinorUnits := 0
    consecutiveLosses := 0
    riskState := .normal
    digitDailyPnlMinorUnits := 0 }).clear dailyStopReason).clear takeProfitReason).clear
      cooldownReason

def resetIf (resetActiveSequence : Bool) : RiskProgram Unit :=
  if resetActiveSequence then resetDigitRecoveryState else pure ()

def installDigitConfig (config : ValidDigitRiskConfig) : RiskProgram Unit :=
  Program.modify (·.onLedger fun ledger =>
    { ledger with digitConfig := config, digitMartingaleState := ⟨0⟩ })

def updateDigitRiskConfig (around : Surroundings) (config : DigitRiskConfig)
    (resetActiveSequence : Bool := false) : RiskProgram (Bool × Option String) :=
  match accepted : config.validate with
  | .error reason => pure (false, some reason)
  | .ok () => do
    let w ← Program.get
    if config.same w.ledger.digitConfig.1 then do
      resetIf resetActiveSequence
      let _ ← checkDigitEntry around config
      pure (true, none)
    else if w.ledger.digitMartingaleState.step > 0 ∧ config.martingaleEnabled = true ∧
        resetActiveSequence = false then
      pure (false, some "DIGIT_MARTINGALE_SEQUENCE_ACTIVE")
    else do
      resetIf resetActiveSequence
      installDigitConfig ⟨config, accepted⟩
      let _ ← checkDigitEntry around config
      pure (true, none)

/-! ### Stakes -/

def boundedMartingaleConfig (config : DigitRiskConfig) : Except String BoundedMartingaleConfig := do
  let baseStake ← Money.make config.stakeMinorUnits config.currency
  let maxStake ← Money.make config.martingaleMaxStakeMinorUnits config.currency
  let dailyStopLoss ← Money.make config.dailyStopLossMinorUnits config.currency
  BoundedMartingaleConfig.make {
    baseStake, maxStake, dailyStopLoss
    multiplier := config.martingaleMultiplier
    maxSteps := config.martingaleMaxSteps }

def unaffordable : RiskError :=
  .limitExceeded "DIGIT_MARTINGALE_RECOVERY_UNAFFORDABLE"
    "Recovery stake exceeds the configured safety limits."

def RiskLedger.recoveryStake (ledger : RiskLedger) (netProfitRatio : Decimal) :
    Except RiskError Int :=
  match boundedMartingaleConfig ledger.digitConfig.1 with
  | .error _ => .error unaffordable
  | .ok config =>
    match BoundedMartingaleAllocator.recoveryStake config ledger.digitMartingaleState
        ledger.digitCumulativeSequenceLossMinorUnits netProfitRatio
        (ledger.remainingLossBudget ledger.digitConfig.1) with
    | .ok stake => .ok stake
    | .error (.value _) => .error unaffordable
    | .error .arithmetic => .error .arithmetic

variable (ledger : RiskLedger) {around : Surroundings} {config : DigitRiskConfig} {w : RiskWorld}

def RiskLedger.entryStake (netProfitRatio : Option Decimal) : Except RiskError Int :=
  if ledger.digitMartingaleState.step = 0 then .ok ledger.digitConfig.1.stakeMinorUnits
  else match netProfitRatio with
  | none => .error (.limitExceeded "DIGIT_MARTINGALE_QUOTE_REQUIRED"
      "A fresh broker quote is required for recovery allocation.")
  | some ratio => ledger.recoveryStake ratio

def RiskLedger.expectStake (netProfitRatio : Option Decimal) (stake : Int) : RiskLedger :=
  { ledger with
    digitExpectedStakeMinorUnits := some stake
    digitLastNetProfitRatio :=
      if ledger.digitMartingaleState.step = 0 then ledger.digitLastNetProfitRatio
      else netProfitRatio }

/-- `raise RiskLimitExceededError(reason or ..., message)` when an entry is not allowed. -/
def requireEntry (answer : Bool × Option String) (message : String) : RiskProgram Unit :=
  if answer.1 then pure ()
  else Program.raise (.limitExceeded (answer.2.getD "DIGIT_RISK_ENTRY_BLOCKED") message)

def digitEntryStake (around : Surroundings) (netProfitRatio : Option Decimal) :
    RiskProgram Int := do
  let answer ← checkActiveDigitEntry around
  requireEntry answer "DIGIT risk gate blocked stake allocation."
  let w ← Program.get
  let stake ← Program.lift (w.ledger.entryStake netProfitRatio)
  Program.modify (·.onLedger fun ledger => ledger.expectStake netProfitRatio stake)
  pure stake

/-- `_current_digit_stake_minor_units`. -/
def RiskLedger.currentDigitStake : Except RiskError Int :=
  match ledger.digitExpectedStakeMinorUnits, ledger.digitLastNetProfitRatio with
  | some expected, _ => .ok expected
  | none, none => .ok ledger.digitConfig.1.stakeMinorUnits
  | none, some ratio =>
    if ledger.digitMartingaleState.step = 0 then .ok ledger.digitConfig.1.stakeMinorUnits
    else match ledger.recoveryStake ratio with
    | .error .arithmetic => .error .arithmetic
    | .error _ => .ok ledger.digitConfig.1.stakeMinorUnits
    | .ok stake => .ok stake

/-! ### `reserve` -/

inductive ExposureReading
  | missing
  | refused (reasonCode message : String)
  | failed
  | exposures (amounts : List (Money × String))

def readActiveExposure : ExposureReading → RiskProgram (List (Money × String))
  | .missing => do
    Program.modify (·.block "HG_EXPOSURE_UNKNOWN")
    Program.raise (.limitExceeded "HG_EXPOSURE_UNKNOWN"
      "Active exposure storage is not configured.")
  | .refused reasonCode message => Program.raise (.limitExceeded reasonCode message)
  | .failed => do
    Program.modify (·.block "HG_EXPOSURE_UNKNOWN")
    Program.raise (.limitExceeded "HG_EXPOSURE_UNKNOWN"
      "Active exposure could not be read from persistent storage.")
  | .exposures amounts => do
    let w ← Program.get
    if amounts.any fun exposure => exposure.1.currency != w.ledger.config.referenceCurrency then do
      Program.modify (·.block "HG_EXPOSURE_CURRENCY_MISMATCH")
      Program.raise (.limitExceeded "HG_EXPOSURE_CURRENCY_MISMATCH"
        "Active exposure currency does not match the configured reference currency.")
    else do
      Program.modify fun w =>
        (w.clear "HG_EXPOSURE_UNKNOWN").clear "HG_EXPOSURE_CURRENCY_MISMATCH"
      pure amounts

/-- The amount of a digit order must be the stake that the ledger has allocated. -/
def RiskLedger.checkStake (amount : Int) : Except RiskError Unit :=
  if ledger.digitConfig.1.martingaleEnabled = false then .ok ()
  else if ledger.digitExpectedStakeMinorUnits = none ∧ ledger.digitMartingaleState.step > 0 then
    .error (.limitExceeded "DIGIT_MARTINGALE_QUOTE_REQUIRED"
      "Recovery requires a fresh broker quote before reservation.")
  else do
    let expected ← ledger.currentDigitStake
    if amount ≠ expected then
      .error (.limitExceeded "DIGIT_RISK_STAKE_MISMATCH"
        "DIGIT stake does not match the Core-owned bounded progression.")
    else .ok ()

def reserveDigit (around : Surroundings) (amount : Int) : RiskProgram Unit := do
  let answer ← checkActiveDigitEntry around
  requireEntry answer "Specialized DIGITDIFF risk gate blocked the entry."
  let w ← Program.get
  Program.lift (w.ledger.checkStake amount)

def reserveProduct (around : Surroundings) (request : OrderRequest) : RiskProgram Unit :=
  if isDigitProduct request.product then reserveDigit around request.amount.minorUnits
  else pure ()

def requireUnlocked : RiskProgram Unit := do
  let w ← Program.get
  match w.ledger.riskState with
  | .riskLocked => do
    Program.modify (·.block dailyStopReason)
    Program.raise (.limitExceeded dailyStopReason
      "Consolidated daily stop loss reached: risk is locked.")
  | .cooldown => do
    Program.modify (·.block cooldownReason)
    Program.raise (.limitExceeded cooldownReason
      "Consecutive loss cooldown active: risk is locked.")
  | .normal => pure ()

def GlobalRiskConfig.checkExposure (config : GlobalRiskConfig) (exposure : List (Money × String))
    (amount : Int) (symbol : String) : Except RiskError Unit :=
  let canonical := canonicalizeSymbol symbol
  let currentSymbol := ((exposure.filter fun active =>
    canonicalizeSymbol active.2 == canonical).map fun active => active.1.minorUnits).sum
  let currentGlobal := (exposure.map fun active => active.1.minorUnits).sum
  if currentSymbol + amount > config.maxExposurePerSymbolMinorUnits then
    .error (.limitExceeded "HG_SYMBOL_EXPOSURE_LIMIT_EXCEEDED"
      (s!"Active exposure on symbol {canonical} ({currentSymbol + amount}) exceeds limit " ++
        s!"({config.maxExposurePerSymbolMinorUnits})."))
  else if currentGlobal + amount > config.globalMaxExposureMinorUnits then
    .error (.limitExceeded "HG_GLOBAL_EXPOSURE_EXCEEDED"
      (s!"Active global exposure ({currentGlobal + amount}) exceeds limit " ++
        s!"({config.globalMaxExposureMinorUnits})."))
  else .ok ()

def reserve (around : Surroundings) (request : OrderRequest) (exposure : ExposureReading) :
    RiskProgram Money := do
  let w ← Program.get
  if request.amount.currency ≠ w.ledger.config.referenceCurrency then do
    Program.modify (·.block "HG_EXPOSURE_CURRENCY_MISMATCH")
    Program.raise (.limitExceeded "HG_EXPOSURE_CURRENCY_MISMATCH"
      "Reservation currency does not match the configured reference currency.")
  else do
    reserveProduct around request
    requireUnlocked
    -- An order request has a positive amount, so the check of the sign never fails.
    let active ← readActiveExposure exposure
    Program.lift (w.ledger.config.checkExposure active request.amount.minorUnits request.symbol)
    Program.modify (·.onLedger fun ledger => { ledger with digitExpectedStakeMinorUnits := none })
    pure request.amount

inductive RiskOp
  | applyRealizedPnl (pnlMinorUnits : Int)
  | applyDigitRealizedPnl (around : Surroundings) (pnlMinorUnits : Int) (currency : String)
  | checkDigitEntry (around : Surroundings) (config : DigitRiskConfig)
  | digitEntryStake (around : Surroundings) (netProfitRatio : Option Decimal)
  | updateDigitRiskConfig (around : Surroundings) (config : DigitRiskConfig)
      (resetActiveSequence : Bool)
  | resetDigitRecoveryState
  | resetCooldown
  | restoreDigitRuntime (around : Surroundings) (row : Option DigitRiskRuntime)
  | reserve (around : Surroundings) (request : OrderRequest) (exposure : ExposureReading)
  | resetDailyPnl

/-- The state that an operation leaves, whether it returns or raises. -/
def riskStep (w : RiskWorld) : RiskOp → RiskWorld
  | .applyRealizedPnl pnlMinorUnits => (applyRealizedPnl pnlMinorUnits w).2
  | .applyDigitRealizedPnl around pnlMinorUnits currency =>
    (applyDigitRealizedPnl around pnlMinorUnits currency w).2
  | .checkDigitEntry around config => (checkDigitEntry around config w).2
  | .digitEntryStake around netProfitRatio => (digitEntryStake around netProfitRatio w).2
  | .updateDigitRiskConfig around config resetActiveSequence =>
    (updateDigitRiskConfig around config resetActiveSequence w).2
  | .resetDigitRecoveryState => (resetDigitRecoveryState w).2
  | .resetCooldown => (resetCooldown w).2
  | .restoreDigitRuntime around row => (restoreDigitRuntime around row w).2
  | .reserve around request exposure => (reserve around request exposure w).2
  | .resetDailyPnl => (resetDailyPnl w).2

theorem checkDigitEntry_of_refusal (accepted : config.validate = .ok ()) {reason : String}
    (refused : w.ledger.entryRefusal around.monotonic config = some reason) :
    checkDigitEntry around config w = (.ok (false, some reason), w.block reason) := by
  unfold checkDigitEntry
  rw [accepted]
  refine (Program.bind_of_ok Program.get_run).trans ?_
  simp only [refused]
  rfl

theorem checkDigitEntry_of_passed (accepted : config.validate = .ok ())
    (passed : w.ledger.entryRefusal around.monotonic config = none) :
    checkDigitEntry around config w =
      (endElapsedCooldown around >>= fun _ => checkLossBudget config) w := by
  unfold checkDigitEntry
  rw [accepted]
  refine (Program.bind_of_ok Program.get_run).trans ?_
  simp only [passed]

theorem checkActiveDigitEntry_run (around : Surroundings) (w : RiskWorld) :
    checkActiveDigitEntry around w = checkDigitEntry around w.ledger.digitConfig.1 w :=
  Program.bind_of_ok Program.get_run

theorem entryRefusal_of_locked {ledger : RiskLedger} (locked : ledger.riskState = .riskLocked)
    (monotonic : Rat) (config : DigitRiskConfig) :
    ledger.entryRefusal monotonic config = some dailyStopReason :=
  if_pos (.inl locked)

end TradingLab

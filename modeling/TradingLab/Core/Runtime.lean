import TradingLab.Core.Ledger
import TradingLab.Core.Lifecycle

/-!
# The runtime of the Core

The entry gates and the digit configuration of `CoreRuntime` after its start. Of the file of the
configuration only whether it could be written matters.
-/
namespace TradingLab

open Machine

structure CoreRuntime where
  ledger : RiskLedger
  gate : HealthGate
  db : Database
  dispatcherStarted : Bool := false

inductive RuntimeError
  | risk (error : RiskError)
  /-- An exception of the writer; every one is a `RuntimeError` or a `ValueError`. -/
  | database (error : DbError)
  /-- `OSError`, `RuntimeError` or `ValueError` of the store of the configuration. -/
  | store
  /-- Any other exception of that store. -/
  | unexpected
deriving DecidableEq, Repr

/-- `except (OSError, RuntimeError, ValueError)`. -/
def RuntimeError.isCaught : RuntimeError → Bool
  | .unexpected => false
  | _ => true

abbrev RuntimeProgram (α : Type) : Type := Program RuntimeError CoreRuntime α

namespace CoreRuntime

def world (rt : CoreRuntime) : RiskWorld :=
  ⟨rt.ledger, some rt.gate⟩

def withWorld (rt : CoreRuntime) (w : RiskWorld) : CoreRuntime :=
  { rt with ledger := w.ledger, gate := w.gate.getD rt.gate }

def onLedger {α : Type} (program : RiskProgram α) : RuntimeProgram α := fun rt =>
  match program rt.world with
  | (.ok answer, w) => (.ok answer, rt.withWorld w)
  | (.error error, w) => (.error (.risk error), rt.withWorld w)

theorem onLedger_state {α : Type} (program : RiskProgram α) (rt : CoreRuntime) :
    (onLedger program rt).2 = rt.withWorld (program rt.world).2 := by
  unfold onLedger
  cases program rt.world with
  | mk answer w => cases answer <;> rfl

/-- A transaction of the writer, which may fail for reasons of its own. -/
def onDatabase (fault : Option DbError) (operation : Operation Unit) : RuntimeProgram Unit :=
  fun rt =>
    match fault, operation rt.db with
    | some error, _ => (.error (.database error), rt)
    | none, .error error => (.error (.database error), rt)
    | none, .ok ((), db) => (.ok (), { rt with db })

variable (around : Surroundings)

def resumeNewEntries : RuntimeProgram Bool := do
  let _ ← onLedger (checkActiveDigitEntry around)
  Program.modify fun rt =>
    let gate := rt.gate.clearIf safeStopReason
    let started := gate.state.isOpen
    { rt with
      dispatcherStarted := started
      gate := if started then gate else gate.block safeStopReason }
  let rt ← Program.get
  pure rt.dispatcherStarted

def resumeNewEntriesFor (broker accountId : String) : RuntimeProgram Bool := do
  let _ ← onLedger (checkActiveDigitEntry around)
  Program.modify fun rt => { rt with gate := rt.gate.clearIf safeStopReason }
  let rt ← Program.get
  let armed := (rt.gate.stateFor broker accountId).isOpen
  Program.modify fun rt => { rt with dispatcherStarted := rt.dispatcherStarted || armed }
  pure armed

/-! ### `update_digit_risk_config` -/

structure PersistenceFaults where
  configure : Option DbError := none
  save : Option RuntimeError := none
  reconfigure : Option DbError := none

variable (faults : PersistenceFaults)

def persistDigitConfig (now : Instant) : RuntimeProgram Unit := do
  let rt ← Program.get
  onDatabase faults.configure (configureDigitRiskRuntime rt.ledger.digitRuntimePolicy true now)
  match faults.save with
  | none => pure ()
  | some error => Program.raise error

def restoreDigitConfig (now : Instant) (previous : DigitRiskConfig) :
    RuntimeProgram (Bool × Option String) := do
  let _ ← onLedger (TradingLab.updateDigitRiskConfig around previous)
  let rt ← Program.get
  onDatabase faults.reconfigure
    (configureDigitRiskRuntime rt.ledger.digitRuntimePolicy false now)
  pure (false, some "DIGIT_RISK_CONFIG_PERSISTENCE_FAILED")

def persistOrRestore (now : Instant) (previous : DigitRiskConfig) :
    RuntimeProgram (Bool × Option String) :=
  Program.handle (persistDigitConfig faults now >>= fun _ => pure (true, none)) fun error =>
    if error.isCaught then restoreDigitConfig around faults now previous
    else Program.raise error

def updateDigitRiskConfig (around : Surroundings) (faults : PersistenceFaults) (now : Instant)
    (config : DigitRiskConfig) : RuntimeProgram (Bool × Option String) := do
  let rt ← Program.get
  if rt.db.hasNonterminalDerivDigitOrder then
    pure (false, some "DIGIT_RISK_CONFIG_BLOCKED_OPEN_ORDER")
  else do
    let previous := rt.ledger.digitConfig.1
    let answer ← onLedger (TradingLab.updateDigitRiskConfig around config true)
    if answer.1 = false then pure (false, answer.2)
    else persistOrRestore around faults now previous

end CoreRuntime

end TradingLab

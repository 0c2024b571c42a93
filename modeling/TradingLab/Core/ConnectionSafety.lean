import Mathlib.Data.Rat.Floor

/-!
# The protection against login storms

`apps/core/iqoption_connection_safety.py`. The controller saves its state before it takes it over,
and a new process loads what was saved. Readings of the wall clock are exact numbers of seconds; one
that is not finite raises as a negative one does.
-/
namespace TradingLab.ConnectionSafety

def httpLoginWindowSeconds : ℚ := 15 * 60

def httpLoginLimit : Nat := 3

def connectionQuarantineSeconds : ℚ := 15 * 60

def immediateQuarantineReasons : List String :=
  ["IQOPTION_AUTH_FAILED", "IQOPTION_2FA_REQUIRED", "IQOPTION_RATE_LIMITED"]

structure Decision where
  allowed : Bool
  reasonCode : String
  attemptsInWindow : Nat
  retryAfterSeconds : Int

structure Snapshot where
  attemptsInWindow : Nat
  quarantineActive : Bool
  retryAfterSeconds : Int
  lastReasonCode : Option String

structure PersistentState where
  attemptEpochs : List ℚ := []
  quarantineUntilEpoch : ℚ := 0
  lastReasonCode : Option String := none

structure SafetyFile extends PersistentState where
  schemaVersion : Int

def stateInvalid : String := "IQOPTION_CONNECTION_SAFETY_STATE_INVALID"

/-- `load` of the store. -/
def load : Option SafetyFile → Except String PersistentState
  | none => .ok {}
  | some raw =>
    if raw.schemaVersion = 1 ∧ (∀ item ∈ raw.attemptEpochs, 0 ≤ item) ∧
        0 ≤ raw.quarantineUntilEpoch then .ok raw.toPersistentState
    else .error stateInvalid

structure Controller where
  file : Option SafetyFile := none
  state : PersistentState := {}

namespace Controller

variable (controller : Controller)

def restart : Except String Controller :=
  (load controller.file).map fun state => { controller with state := state }

def pruned (now : ℚ) : PersistentState :=
  { controller.state with
    attemptEpochs := controller.state.attemptEpochs.filter fun item =>
      decide (now - httpLoginWindowSeconds < item) }

/-- `_persist`, after `save` has completed or raised. -/
def persist (saved : Except String Unit) (state : PersistentState) : Except String Controller :=
  saved.map fun _ => ⟨some ⟨state, 1⟩, state⟩

def retryAfter (state : PersistentState) (now : ℚ) : Int :=
  max 0 ⌈state.quarantineUntilEpoch - now⌉

def decision (allowed : Bool) (state : PersistentState) (now : ℚ) : Decision where
  allowed := allowed
  reasonCode :=
    if allowed then "IQOPTION_CONNECTION_ATTEMPT_ADMITTED" else "IQOPTION_CONNECTION_QUARANTINED"
  attemptsInWindow := state.attemptEpochs.length
  retryAfterSeconds := retryAfter state now

def admitHttpLogin (now : ℚ) (saved : Except String Unit) :
    Except String (Decision × Controller) :=
  if now < 0 then .error stateInvalid
  else
    let state := controller.pruned now
    if now < state.quarantineUntilEpoch then
      .ok (decision false state now, { controller with state := state })
    else if httpLoginLimit ≤ state.attemptEpochs.length then
      let state := { state with
        quarantineUntilEpoch := now + connectionQuarantineSeconds
        lastReasonCode := some "IQOPTION_HTTP_LOGIN_LIMIT_REACHED" }
      (persist saved state).map fun next => (decision false state now, next)
    else
      let state := { state with
        attemptEpochs := state.attemptEpochs ++ [now]
        quarantineUntilEpoch := 0 }
      (persist saved state).map fun next => (decision true state now, next)

def recordFailure (reasonCode : String) (now : ℚ) (saved : Except String Unit) :
    Except String Controller :=
  if now < 0 then .error stateInvalid
  else
    let state := controller.pruned now
    persist saved { state with
      quarantineUntilEpoch := if reasonCode ∈ immediateQuarantineReasons then
          max state.quarantineUntilEpoch (now + connectionQuarantineSeconds)
        else state.quarantineUntilEpoch
      lastReasonCode := some reasonCode }

def recordSuccess (now : ℚ) (saved : Except String Unit) : Except String Controller :=
  if now < 0 then .error stateInvalid
  else persist saved ⟨(controller.pruned now).attemptEpochs, 0, none⟩

def snapshot (now : ℚ) : Except String (Snapshot × Controller) :=
  if now < 0 then .error stateInvalid
  else
    let state := controller.pruned now
    .ok (⟨state.attemptEpochs.length, decide (0 < retryAfter state now), retryAfter state now,
      state.lastReasonCode⟩, { controller with state := state })

end Controller

end TradingLab.ConnectionSafety

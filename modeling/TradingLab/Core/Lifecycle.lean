import TradingLab.Core.HealthGate
import TradingLab.Machine.Run

/-!
# Arming and disarming

The operator's side of `CoreLifecycleService` with the entry gates of `CoreRuntime` that it calls.
What the world decides is an input: whether the trader may resume, what the IQ Option session is
capable of, whether a connection comes up, and how the blockers other than HG_SAFE_STOP change.
-/
namespace TradingLab

def safeStopReason : String := "HG_SAFE_STOP"

structure OtherReason where
  code : String
  other : code ≠ safeStopReason

inductive HealthChange
  | block (reason : OtherReason)
  | clear (reason : OtherReason)
  | blockScope (broker accountId : String) (reason : OtherReason)
  | clearScope (broker accountId : String) (reason : OtherReason)
  | database (reason : Option String)

namespace HealthChange

def apply (gate : HealthGate) : HealthChange → HealthGate
  | .block reason => gate.block reason.code
  | .clear reason => gate.clearIf reason.code
  | .blockScope broker accountId reason => gate.blockScope broker accountId reason.code
  | .clearScope broker accountId reason => gate.clearScope broker accountId reason.code
  | .database reason => { gate with database := reason }

def applyAll (gate : HealthGate) (changes : List HealthChange) : HealthGate :=
  changes.foldl apply gate

end HealthChange

/-! ### The service -/

structure LifecycleService where
  gate : HealthGate
  dispatcherStarted : Bool
  safeStop : Bool
  iqoptionBotArmed : Bool
  iqoptionBotReason : String
  derivTransport : String

namespace LifecycleService

variable (s : LifecycleService)

def change (changes : List HealthChange) : LifecycleService :=
  { s with gate := HealthChange.applyAll s.gate changes }

def stopNewEntries : LifecycleService :=
  { s with dispatcherStarted := false, gate := s.gate.block safeStopReason }

def resumeNewEntries (refresh : List HealthChange) : Bool × LifecycleService :=
  let gate := (HealthChange.applyAll s.gate refresh).clearIf safeStopReason
  let started := gate.state.isOpen
  (started,
    { s with
      dispatcherStarted := started
      gate := if started then gate else gate.block safeStopReason })

/-- HG_SAFE_STOP is cleared whatever the answer. -/
def resumeNewEntriesFor (refresh : List HealthChange) (broker accountId : String) :
    Bool × LifecycleService :=
  let gate := (HealthChange.applyAll s.gate refresh).clearIf safeStopReason
  let armed := (gate.stateFor broker accountId).isOpen
  (armed, { s with gate, dispatcherStarted := s.dispatcherStarted || armed })

def stop : LifecycleService :=
  let stopped := if s.iqoptionBotArmed then s else s.stopNewEntries
  { stopped with safeStop := true }

def demoTestSessionBlockers : List String :=
  ["HG_DAILY_STOP_REACHED", "HG_DAILY_TAKE_PROFIT_REACHED", "HG_COOLDOWN_ACTIVE"]

/-- `_should_reset_demo_session_before_rearm`. -/
def shouldResetDemoSession : Bool :=
  s.derivTransport == "live-demo" && s.safeStop &&
    demoTestSessionBlockers.any fun reason => s.gate.contains reason

/-- `reset_digit_test_session`; the answer of the runtime is what it does to the other
    blockers, if it accepts. -/
def resetDigitTestSession (answer : Option (List HealthChange)) : Bool × LifecycleService :=
  if s.derivTransport ≠ "live-demo" then (false, s)
  else if ¬ (s.safeStop ∨ s.gate.contains safeStopReason) then (false, s)
  else match answer with
  | some changes => (true, { s.change changes with safeStop := true })
  | none => (false, s)

structure ResumeAnswers where
  manualResume : Option Bool
  recovered : List HealthChange
  refresh : List HealthChange
  sessionReset : Option (List HealthChange)
  secondRefresh : List HealthChange

def rearm (answers : ResumeAnswers) : Bool × LifecycleService :=
  let first := s.resumeNewEntries answers.refresh
  if ¬ first.1 ∧ first.2.shouldResetDemoSession then
    let reset := first.2.resetDigitTestSession answers.sessionReset
    if reset.1 then
      let second := reset.2.resumeNewEntries answers.secondRefresh
      (second.1, { second.2 with safeStop := ¬ second.1 })
    else (false, { reset.2 with safeStop := true })
  else (first.1, { first.2 with safeStop := ¬ first.1 })

def resume (answers : ResumeAnswers) : Bool × LifecycleService :=
  let s := s.change answers.recovered
  if answers.manualResume = some false then (false, { s with safeStop := true })
  else s.rearm answers

structure IqoptionSession where
  ready : Bool
  accountType : Option String
  canSubmitOrders : Bool
  supportsMarketData : Bool
  supportsReconciliation : Bool
  supportsOrderEvents : Bool

def IqoptionSession.refusal (session : IqoptionSession) : Option String :=
  if ¬ session.ready then some "IQOPTION_CONNECTION_REQUIRED"
  else match session.accountType with
  | none => some "IQOPTION_PRACTICE_REQUIRED"
  | some accountType =>
    if upperText accountType ∉ ["DEMO", "PRACTICE"] then some "IQOPTION_PRACTICE_REQUIRED"
    else if ¬ (session.canSubmitOrders ∧ session.supportsMarketData ∧
        session.supportsReconciliation ∧ session.supportsOrderEvents) then
      some "IQOPTION_PRACTICE_TRADING_CAPABILITY_UNAVAILABLE"
    else none

def iqoptionPracticeAccountId : String := "IQOPTION_PRACTICE"

/-- `control_iqoption_bot(False)`. -/
def disarmIqoptionBot : (Bool × String) × LifecycleService :=
  let disarmed := { s with iqoptionBotArmed := false }
  let stopped := if s.safeStop then disarmed.stopNewEntries else disarmed
  ((true, "IQOPTION_BOT_DISARMED"),
    { stopped with iqoptionBotReason := "IQOPTION_BOT_DISARMED" })

/-- `control_iqoption_bot(True)`. -/
def armIqoptionBot (session : IqoptionSession) (refresh : List HealthChange) :
    (Bool × String) × LifecycleService :=
  match session.refusal with
  | some reason => ((false, reason), { s with iqoptionBotReason := reason })
  | none =>
    let resumed := s.resumeNewEntriesFor refresh "IQ_OPTION" iqoptionPracticeAccountId
    if resumed.1 then
      ((true, "IQOPTION_BOT_ARMED"),
        { resumed.2 with iqoptionBotArmed := true, iqoptionBotReason := "IQOPTION_BOT_ARMED" })
    else
      let reason := (resumed.2.gate.stateFor "IQ_OPTION" iqoptionPracticeAccountId).reasonCode.getD
        "IQOPTION_HEALTH_GATE_BLOCKED"
      ((false, reason), { resumed.2 with iqoptionBotReason := reason })

structure ConnectionAnswers where
  /-- The answer of a call that returns before it touches anything. -/
  early : Option (Bool × String)
  changes : List HealthChange
  /-- The reason of the failure, or that of the success. -/
  outcome : Except String String
  transport : String

/-- `connect_iqoption_selected_account`. -/
def connectIqoption (answers : ConnectionAnswers) : (Bool × String) × LifecycleService :=
  match answers.early with
  | some answer => (answer, s)
  | none =>
    let changed :=
      { s with
        iqoptionBotArmed := false
        iqoptionBotReason := "IQOPTION_BOT_DISARMED_AFTER_CONNECTION_CHANGE" }.change
        answers.changes
    match answers.outcome with
    | .error reason => ((false, reason), changed)
    | .ok reason =>
      ((true, reason),
        { changed with iqoptionBotReason := "IQOPTION_BOT_READY_FOR_CAPABILITY_CHECK" })

/-- `connect_deriv_selected_account`. -/
def switchDerivAccount (answers : ConnectionAnswers) : (Bool × String) × LifecycleService :=
  match answers.early with
  | some answer => (answer, s)
  | none =>
    let stopped := { s.stopNewEntries with safeStop := true }.change answers.changes
    match answers.outcome with
    | .error reason => ((false, reason), stopped)
    | .ok reason => ((true, reason), { stopped with derivTransport := answers.transport })

end LifecycleService

inductive LifecycleInput
  | safeStop
  | resume (answers : LifecycleService.ResumeAnswers)
  | controlIqoptionBot (enabled : Bool) (session : LifecycleService.IqoptionSession)
    (refresh : List HealthChange)
  | connectIqoption (answers : LifecycleService.ConnectionAnswers)
  | switchDerivAccount (answers : LifecycleService.ConnectionAnswers)
  | health (change : HealthChange)

/-- The service, and whether a `safe_stop` has returned since the last success of `resume` or
    of `control_iqoption_bot(True)`. -/
structure LifecycleSystem where
  service : LifecycleService
  stopped : Bool

namespace LifecycleSystem

def step (system : LifecycleSystem) : LifecycleInput → LifecycleSystem
  | .safeStop => ⟨system.service.stop, true⟩
  | .resume answers =>
    let resumed := system.service.resume answers
    ⟨resumed.2, system.stopped && !resumed.1⟩
  | .controlIqoptionBot enabled session refresh =>
    if enabled then
      let armed := system.service.armIqoptionBot session refresh
      ⟨armed.2, system.stopped && !armed.1.1⟩
    else ⟨system.service.disarmIqoptionBot.2, system.stopped⟩
  | .connectIqoption answers => ⟨(system.service.connectIqoption answers).2, system.stopped⟩
  | .switchDerivAccount answers =>
    ⟨(system.service.switchDerivAccount answers).2, system.stopped⟩
  | .health change => ⟨system.service.change [change], system.stopped⟩

def initial (derivTransport : String) : LifecycleSystem where
  service :=
    { gate := { blockers := [safeStopReason] }
      dispatcherStarted := false
      safeStop := true
      iqoptionBotArmed := false
      iqoptionBotReason := "IQOPTION_BOT_DISARMED"
      derivTransport }
  stopped := false

end LifecycleSystem

end TradingLab

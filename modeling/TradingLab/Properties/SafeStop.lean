import TradingLab.Core.Lifecycle

/-!
# Safe stop is global

Four calls break the safe stop: `safe_stop` leaves the gate alone while the IQ Option bot is armed,
a refused `control_iqoption_bot(True)` keeps HG_SAFE_STOP cleared, a reconnection disarms the IQ
Option bot without setting it, and so does a `resume` that the trader refuses.
-/
namespace TradingLab

open Machine Relational
open LifecycleService HealthGate HealthChange

namespace LifecycleSystem

variable (system : LifecycleSystem)

def SafelyStopped : Prop :=
  (system.stopped = true → ∀ broker accountId,
    (system.service.gate.canEnterOrder broker accountId).1 = false) ∧
  (system.service.safeStop = true → system.service.iqoptionBotArmed = false →
    safeStopReason ∈ system.service.gate.blockers)

/-- The property holds now and whatever happens to the other blockers. -/
def Robust : Prop :=
  ∀ changes : List HealthChange,
    (run step system (changes.map LifecycleInput.health)).SafelyStopped

/-- The condition on a call: HG_SAFE_STOP is set where the call relies on it. -/
def Covered : LifecycleInput → Prop
  | .safeStop =>
    system.service.iqoptionBotArmed = true → safeStopReason ∈ system.service.gate.blockers
  | .resume answers =>
    answers.manualResume = some false → system.service.iqoptionBotArmed = false →
      safeStopReason ∈ system.service.gate.blockers
  | .controlIqoptionBot enabled session refresh =>
    enabled = true → session.refusal = none →
      (system.service.resumeNewEntriesFor refresh "IQ_OPTION"
        LifecycleService.iqoptionPracticeAccountId).1 = false →
      system.stopped = false ∧
        (system.service.safeStop = true → system.service.iqoptionBotArmed = true)
  | .connectIqoption answers =>
    answers.early = none → system.service.safeStop = true →
      safeStopReason ∈ system.service.gate.blockers
  | .switchDerivAccount _ | .health _ => True

end LifecycleSystem

/-! ### The other blockers leave HG_SAFE_STOP alone -/

namespace HealthGate

/-- HG_SAFE_STOP is a blocker of no scope. -/
def Unscoped (gate : HealthGate) : Prop :=
  ∀ reasons ∈ gate.scopedBlockers.values, safeStopReason ∉ reasons

variable {gate : HealthGate}

theorem mem_values_clearIf {reason : String} {reasons : Reasons}
    (member : reasons ∈ (gate.clearIf reason).scopedBlockers.values) :
    ∃ earlier ∈ gate.scopedBlockers.values, reasons = earlier.discard reason := by
  obtain ⟨entry, here, rfl⟩ := List.mem_map.mp member
  obtain ⟨earlier, place, rfl⟩ := List.mem_map.mp here
  exact ⟨earlier.2, List.mem_map.mpr ⟨earlier, place, rfl⟩, rfl⟩

theorem Unscoped.clearIf (unscoped : gate.Unscoped) (reason : String) :
    (gate.clearIf reason).Unscoped := by
  intro reasons member stop
  obtain ⟨earlier, place, rfl⟩ := mem_values_clearIf member
  exact unscoped earlier place (mem_discard.mp stop).1

theorem Unscoped.clearScope (unscoped : gate.Unscoped) (broker accountId reason : String) :
    (gate.clearScope broker accountId reason).Unscoped := by
  unfold HealthGate.clearScope
  split
  · exact unscoped
  · rename_i scope found
    split
    · exact fun reasons member => unscoped reasons (Dict.mem_values_of_erase member)
    · intro reasons member stop
      rcases Dict.mem_values_put member with rfl | earlier
      · exact unscoped scope (Dict.mem_values_of_get? found) (mem_discard.mp stop).1
      · exact unscoped reasons earlier stop

theorem scopeReasons_unscoped (unscoped : gate.Unscoped) (key : String × String) :
    safeStopReason ∉ gate.scopeReasons key := by
  unfold scopeReasons
  cases found : gate.scopedBlockers.get? key with
  | none => exact List.not_mem_nil
  | some reasons => exact unscoped reasons (Dict.mem_values_of_get? found)

end HealthGate

namespace HealthChange

variable {gate : HealthGate} {change : HealthChange} {reason : String} {reasons : Reasons}

theorem unscoped_apply (unscoped : gate.Unscoped) : (change.apply gate).Unscoped := by
  cases change with
  | block reason => exact unscoped
  | database reason => exact unscoped
  | clear reason => exact unscoped.clearIf reason.code
  | blockScope broker accountId reason =>
    intro reasons member stop
    rcases Dict.mem_values_put member with rfl | earlier
    · rcases mem_add.mp stop with here | same
      · exact scopeReasons_unscoped unscoped _ here
      · exact reason.other same.symm
    · exact unscoped reasons earlier stop
  | clearScope broker accountId reason =>
    exact unscoped.clearScope broker accountId reason.code

theorem mem_blockers_apply : safeStopReason ∈ (change.apply gate).blockers ↔
    safeStopReason ∈ gate.blockers := by
  cases change with
  | block reason =>
    rw [apply, mem_block]
    exact or_iff_left fun same => reason.other same.symm
  | clear reason =>
    rw [apply, mem_clearIf]
    exact and_iff_left fun same => reason.other same.symm
  | blockScope broker accountId reason => exact Iff.rfl
  | clearScope broker accountId reason => rw [apply, blockers_clearScope]
  | database reason => exact Iff.rfl

theorem unscoped_applyAll (unscoped : gate.Unscoped) (changes : List HealthChange) :
    (applyAll gate changes).Unscoped := by
  induction changes generalizing gate with
  | nil => exact unscoped
  | cons change rest ih => exact ih (unscoped_apply unscoped)

theorem mem_blockers_applyAll (changes : List HealthChange) :
    safeStopReason ∈ (applyAll gate changes).blockers ↔ safeStopReason ∈ gate.blockers := by
  induction changes generalizing gate with
  | nil => exact Iff.rfl
  | cons change rest ih => exact ih.trans mem_blockers_apply

/-! ### Everything else can disappear -/

def clearing (reasons : Reasons) : List HealthChange :=
  reasons.filterMap fun reason =>
    if other : reason ≠ safeStopReason then some (.clear ⟨reason, other⟩) else none

theorem applyAll_clearing_cons (other : reason ≠ safeStopReason) (rest : Reasons) :
    applyAll gate (clearing (reason :: rest)) =
      applyAll (gate.clearIf reason) (clearing rest) := by
  simp only [clearing, List.filterMap_cons, dif_pos other]
  rfl

theorem clearing_cons_self (rest : Reasons) :
    clearing (safeStopReason :: rest) = clearing rest := by
  simp [clearing]

theorem mem_applyAll_clearing (member : reason ∈ (applyAll gate (clearing reasons)).blockers) :
    reason ∈ gate.blockers ∧ (reason ∈ reasons → reason = safeStopReason) := by
  induction reasons generalizing gate with
  | nil => exact ⟨member, fun among => absurd among List.not_mem_nil⟩
  | cons first rest ih =>
    by_cases stop : first = safeStopReason
    · subst stop
      rw [clearing_cons_self] at member
      obtain ⟨here, cleared⟩ := ih member
      exact ⟨here, fun among => (List.mem_cons.mp among).elim id cleared⟩
    · rw [applyAll_clearing_cons stop] at member
      obtain ⟨here, cleared⟩ := ih member
      obtain ⟨here, differs⟩ := mem_clearIf.mp here
      exact ⟨here, fun among => cleared ((List.mem_cons.mp among).resolve_left differs)⟩

theorem mem_scope_applyAll_clearing {scope : Reasons}
    (place : scope ∈ (applyAll gate (clearing reasons)).scopedBlockers.values)
    (member : reason ∈ scope) :
    (∃ earlier ∈ gate.scopedBlockers.values, reason ∈ earlier) ∧
      (reason ∈ reasons → reason = safeStopReason) := by
  induction reasons generalizing gate with
  | nil => exact ⟨⟨scope, place, member⟩, fun among => absurd among List.not_mem_nil⟩
  | cons first rest ih =>
    by_cases stop : first = safeStopReason
    · subst stop
      rw [clearing_cons_self] at place
      obtain ⟨here, cleared⟩ := ih place
      exact ⟨here, fun among => (List.mem_cons.mp among).elim id cleared⟩
    · rw [applyAll_clearing_cons stop] at place
      obtain ⟨⟨later, found, inside⟩, cleared⟩ := ih place
      obtain ⟨earlier, before, rfl⟩ := mem_values_clearIf found
      obtain ⟨inside, differs⟩ := mem_discard.mp inside
      exact ⟨⟨earlier, before, inside⟩,
        fun among => cleared ((List.mem_cons.mp among).resolve_left differs)⟩

/-- The changes after which nothing but HG_SAFE_STOP can block. -/
def recovery (gate : HealthGate) : List HealthChange :=
  .database none :: clearing (gate.blockers ++ gate.scopedBlockers.values.flatten)

theorem database_clearing (reasons : Reasons) (healthy : gate.database = none) :
    (applyAll gate (clearing reasons)).database = none := by
  induction reasons generalizing gate with
  | nil => exact healthy
  | cons first rest ih =>
    by_cases stop : first = safeStopReason
    · subst stop
      rw [clearing_cons_self]
      exact ih healthy
    · rw [applyAll_clearing_cons stop]
      exact ih healthy

theorem canEnterOrder_recovery (unscoped : gate.Unscoped) (free : safeStopReason ∉ gate.blockers)
    (broker accountId : String) :
    ((applyAll gate (recovery gate)).canEnterOrder broker accountId).1 = true := by
  have scopes : ∀ scope ∈ (applyAll gate (recovery gate)).scopedBlockers.values, scope = [] := by
    intro scope place
    refine List.eq_nil_iff_forall_not_mem.mpr fun reason member => ?_
    obtain ⟨⟨earlier, before, inside⟩, cleared⟩ := mem_scope_applyAll_clearing place member
    have stop := cleared
      (List.mem_append_right _ (List.mem_flatten.mpr ⟨earlier, before, inside⟩))
    exact unscoped earlier before (stop ▸ inside)
  have scopeEmpty : ∀ key, (applyAll gate (recovery gate)).scopeReasons key = [] := by
    intro key
    unfold HealthGate.scopeReasons
    cases found : (applyAll gate (recovery gate)).scopedBlockers.get? key with
    | none => rfl
    | some scope => exact scopes scope (Dict.mem_values_of_get? found)
  refine canEnterOrder_iff.mpr ⟨database_clearing _ rfl, ?_, ?_⟩
  · refine List.eq_nil_iff_forall_not_mem.mpr fun reason member => ?_
    obtain ⟨here, cleared⟩ := mem_applyAll_clearing member
    exact free (cleared (List.mem_append_left _ here) ▸ here)
  · unfold accountReasons
    split <;> simp [scopeEmpty]

end HealthChange

/-! ### The invariant -/

namespace LifecycleSystem

/-- HG_SAFE_STOP blocks after a safe stop and while both bots are disarmed, and it is a global
    blocker only. -/
structure Held (system : LifecycleSystem) : Prop where
  stopped : system.stopped = true → safeStopReason ∈ system.service.gate.blockers
  disarmed : system.service.safeStop = true → system.service.iqoptionBotArmed = false →
    safeStopReason ∈ system.service.gate.blockers
  unscoped : system.service.gate.Unscoped

variable {system : LifecycleSystem}

theorem run_health (changes : List HealthChange) :
    run step system (changes.map LifecycleInput.health) =
      ⟨system.service.change changes, system.stopped⟩ := by
  induction changes generalizing system with
  | nil => rfl
  | cons change rest ih => rw [List.map_cons, run_cons, ih]; rfl

theorem Held.safelyStopped (held : system.Held) : system.SafelyStopped :=
  ⟨fun stopped => canEnterOrder_of_mem (held.stopped stopped), held.disarmed⟩

theorem Held.change (held : system.Held) (changes : List HealthChange) :
    Held ⟨system.service.change changes, system.stopped⟩ where
  stopped := fun stopped =>
    (mem_blockers_applyAll changes).mpr (held.stopped stopped)
  disarmed := fun safeStop disarmed =>
    (mem_blockers_applyAll changes).mpr (held.disarmed safeStop disarmed)
  unscoped := unscoped_applyAll held.unscoped changes

theorem Held.robust (held : system.Held) : system.Robust := by
  intro changes
  rw [run_health]
  exact (held.change changes).safelyStopped

theorem held_of_robust (unscoped : system.service.gate.Unscoped) (robust : system.Robust) :
    system.Held where
  unscoped := unscoped
  disarmed := (robust []).2
  stopped := by
    intro stopped
    by_contra free
    have entered := canEnterOrder_recovery unscoped free "DERIV" "demo"
    have safely := robust (HealthChange.recovery system.service.gate)
    rw [run_health] at safely
    exact absurd entered (Bool.eq_false_iff.mp (safely.1 stopped "DERIV" "demo"))

end LifecycleSystem

/-! ### The entry gates of the runtime -/

namespace LifecycleService

variable {s : LifecycleService} {refresh : List HealthChange}

theorem mem_resumeNewEntries : safeStopReason ∈ (s.resumeNewEntries refresh).2.gate.blockers ↔
    (s.resumeNewEntries refresh).1 = false := by
  unfold resumeNewEntries
  cases started : ((HealthChange.applyAll s.gate refresh).clearIf safeStopReason).state.isOpen with
  | true => simp [started, mem_clearIf]
  | false => simp [started, mem_block]

theorem unscoped_resumeNewEntries (unscoped : s.gate.Unscoped) :
    (s.resumeNewEntries refresh).2.gate.Unscoped := by
  have cleared := (unscoped_applyAll unscoped refresh).clearIf safeStopReason
  unfold resumeNewEntries
  dsimp only
  split
  · exact cleared
  · exact cleared

theorem not_mem_resumeNewEntriesFor (broker accountId : String) :
    safeStopReason ∉ (s.resumeNewEntriesFor refresh broker accountId).2.gate.blockers :=
  fun member => (mem_clearIf.mp member).2 rfl

theorem unscoped_resumeNewEntriesFor (unscoped : s.gate.Unscoped) (broker accountId : String) :
    (s.resumeNewEntriesFor refresh broker accountId).2.gate.Unscoped :=
  (unscoped_applyAll unscoped refresh).clearIf safeStopReason

theorem mem_stopNewEntries : safeStopReason ∈ s.stopNewEntries.gate.blockers :=
  mem_block.mpr (Or.inr rfl)

theorem unscoped_resetDigitTestSession (unscoped : s.gate.Unscoped)
    (answer : Option (List HealthChange)) :
    (s.resetDigitTestSession answer).2.gate.Unscoped := by
  unfold resetDigitTestSession
  split
  · exact unscoped
  · split
    · exact unscoped
    · cases answer with
      | none => exact unscoped
      | some changes => exact unscoped_applyAll unscoped changes

theorem resetDigitTestSession_refused {answer : Option (List HealthChange)}
    (refused : (s.resetDigitTestSession answer).1 = false) :
    (s.resetDigitTestSession answer).2 = s := by
  unfold resetDigitTestSession at refused ⊢
  by_cases elsewhere : s.derivTransport ≠ "live-demo"
  · rw [if_pos elsewhere]
  by_cases running : ¬ (s.safeStop = true ∨ s.gate.contains safeStopReason = true)
  · rw [if_neg elsewhere, if_pos running]
  cases answer with
  | none => rw [if_neg elsewhere, if_neg running]
  | some changes =>
    rw [if_neg elsewhere, if_neg running] at refused
    cases refused

theorem rearm_spec (unscoped : s.gate.Unscoped) (answers : ResumeAnswers) :
    (s.rearm answers).2.safeStop = !(s.rearm answers).1 ∧
      ((s.rearm answers).1 = false → safeStopReason ∈ (s.rearm answers).2.gate.blockers) ∧
      (s.rearm answers).2.gate.Unscoped := by
  have first : (s.resumeNewEntries answers.refresh).2.gate.Unscoped :=
    unscoped_resumeNewEntries unscoped
  unfold rearm
  dsimp only
  split
  · rename_i again
    cases accepted : ((s.resumeNewEntries answers.refresh).2.resetDigitTestSession
        answers.sessionReset).1 with
    | true =>
      simp only [if_true]
      exact ⟨by simp, mem_resumeNewEntries.mpr,
        unscoped_resumeNewEntries (unscoped_resetDigitTestSession first answers.sessionReset)⟩
    | false =>
      rw [resetDigitTestSession_refused accepted]
      have failed : (s.resumeNewEntries answers.refresh).1 = false := by simpa using again.1
      exact ⟨rfl, fun _ => mem_resumeNewEntries.mpr failed, first⟩
  · exact ⟨by simp, mem_resumeNewEntries.mpr, first⟩

end LifecycleService

/-! ### One step -/

namespace LifecycleService

variable {s : LifecycleService} {answers : ConnectionAnswers} {answer : Bool × String}
  {session : IqoptionSession}

theorem stop_armed (armed : s.iqoptionBotArmed = true) : s.stop = { s with safeStop := true } := by
  simp only [stop, armed, if_true]

theorem stop_disarmed (disarmed : s.iqoptionBotArmed = false) :
    s.stop = { s.stopNewEntries with safeStop := true } := by
  simp [stop, disarmed]

theorem resume_refused {answers : ResumeAnswers} (refused : answers.manualResume = some false) :
    s.resume answers = (false, { s.change answers.recovered with safeStop := true }) :=
  if_pos refused

theorem resume_agreed {answers : ResumeAnswers} (agreed : answers.manualResume ≠ some false) :
    s.resume answers = (s.change answers.recovered).rearm answers :=
  if_neg agreed

theorem connectIqoption_spec (s : LifecycleService) (passed : answers.early = none) :
    (s.connectIqoption answers).2.gate = HealthChange.applyAll s.gate answers.changes ∧
      (s.connectIqoption answers).2.safeStop = s.safeStop ∧
      (s.connectIqoption answers).2.iqoptionBotArmed = false := by
  unfold connectIqoption
  rw [passed]
  cases answers.outcome with
  | error reason => exact ⟨rfl, rfl, rfl⟩
  | ok reason => exact ⟨rfl, rfl, rfl⟩

theorem connectIqoption_early
    (early : answers.early = some answer) : (s.connectIqoption answers).2 = s := by
  simp only [connectIqoption, early]

theorem switchDerivAccount_spec (s : LifecycleService) (passed : answers.early = none) :
    (s.switchDerivAccount answers).2.gate =
      HealthChange.applyAll s.stopNewEntries.gate answers.changes := by
  unfold switchDerivAccount
  rw [passed]
  cases answers.outcome with
  | error reason => rfl
  | ok reason => rfl

theorem switchDerivAccount_early
    (early : answers.early = some answer) : (s.switchDerivAccount answers).2 = s := by
  simp only [switchDerivAccount, early]

theorem armIqoptionBot_spec (s : LifecycleService)
    (refresh : List HealthChange) (capable : session.refusal = none) :
    (s.armIqoptionBot session refresh).1.1 =
        (s.resumeNewEntriesFor refresh "IQ_OPTION" iqoptionPracticeAccountId).1 ∧
      (s.armIqoptionBot session refresh).2.gate =
        (s.resumeNewEntriesFor refresh "IQ_OPTION" iqoptionPracticeAccountId).2.gate ∧
      (s.armIqoptionBot session refresh).2.safeStop = s.safeStop ∧
      (s.armIqoptionBot session refresh).2.iqoptionBotArmed =
        ((s.resumeNewEntriesFor refresh "IQ_OPTION" iqoptionPracticeAccountId).1 ||
          s.iqoptionBotArmed) := by
  simp only [armIqoptionBot, capable]
  cases armed : (s.resumeNewEntriesFor refresh "IQ_OPTION" iqoptionPracticeAccountId).1 with
  | true => exact ⟨rfl, rfl, rfl, rfl⟩
  | false => exact ⟨rfl, rfl, rfl, rfl⟩

theorem armIqoptionBot_refused {refresh : List HealthChange}
    {reason : String} (refused : session.refusal = some reason) :
    s.armIqoptionBot session refresh =
      ((false, reason), { s with iqoptionBotReason := reason }) := by
  simp only [armIqoptionBot, refused]

section

variable (unscoped : s.gate.Unscoped)
include unscoped

theorem unscoped_connectIqoption (answers : ConnectionAnswers) :
    (s.connectIqoption answers).2.gate.Unscoped := by
  cases early : answers.early with
  | some answer => rwa [connectIqoption_early early]
  | none =>
    rw [(s.connectIqoption_spec early).1]
    exact unscoped_applyAll unscoped answers.changes

theorem unscoped_armIqoptionBot (session : IqoptionSession)
    (refresh : List HealthChange) : (s.armIqoptionBot session refresh).2.gate.Unscoped := by
  cases capable : session.refusal with
  | some reason =>
    rw [armIqoptionBot_refused capable]
    exact unscoped
  | none =>
    rw [(s.armIqoptionBot_spec refresh capable).2.1]
    exact unscoped_resumeNewEntriesFor unscoped _ _

theorem unscoped_resume (answers : ResumeAnswers) :
    (s.resume answers).2.gate.Unscoped := by
  have changed : (s.change answers.recovered).gate.Unscoped :=
    unscoped_applyAll unscoped answers.recovered
  by_cases refused : answers.manualResume = some false
  · rw [resume_refused refused]
    exact changed
  · rw [resume_agreed refused]
    exact (rearm_spec changed answers).2.2

theorem unscoped_stop : s.stop.gate.Unscoped := by
  cases armed : s.iqoptionBotArmed with
  | true => rwa [stop_armed armed]
  | false =>
    rw [stop_disarmed armed]
    exact unscoped

end

end LifecycleService

namespace LifecycleSystem

variable {system : LifecycleSystem}

section

variable (held : system.Held)
include held

theorem held_safeStop_iff :
    (system.step .safeStop).Held ↔ system.Covered .safeStop := by
  cases armed : system.service.iqoptionBotArmed with
  | true =>
    rw [step, stop_armed armed]
    constructor
    · exact fun after _ => after.stopped rfl
    · exact fun covered => ⟨fun _ => covered armed, fun _ _ => covered armed, held.unscoped⟩
  | false =>
    rw [step, stop_disarmed armed]
    have stop : safeStopReason ∈ system.service.stopNewEntries.gate.blockers :=
      mem_stopNewEntries
    refine iff_of_true ⟨fun _ => stop, fun _ _ => stop, held.unscoped⟩ fun wasArmed => ?_
    rw [armed] at wasArmed
    cases wasArmed

theorem held_resume_iff (answers : LifecycleService.ResumeAnswers) :
    (system.step (.resume answers)).Held ↔ system.Covered (.resume answers) := by
  have changed := held.change answers.recovered
  by_cases refused : answers.manualResume = some false
  · -- the trader refuses: Deriv is disarmed and the gate is left as it is
    simp only [step, resume_refused refused]
    have same : safeStopReason ∈
        (HealthChange.applyAll system.service.gate answers.recovered).blockers ↔
        safeStopReason ∈ system.service.gate.blockers :=
      mem_blockers_applyAll answers.recovered
    constructor
    · exact fun after _ disarmed => same.mp (after.disarmed rfl disarmed)
    · intro covered
      refine ⟨fun stopped => changed.stopped ?_, fun _ disarmed => ?_, changed.unscoped⟩
      · simpa using stopped
      · exact same.mpr (covered refused disarmed)
  · obtain ⟨safeStop, set, unscoped⟩ :=
      rearm_spec changed.unscoped answers
    simp only [step, resume_agreed refused]
    refine iff_of_true ⟨fun stopped => set ?_, fun disarmed _ => set ?_, unscoped⟩
      fun given => absurd given refused
    · simp_all
    · rw [safeStop] at disarmed
      simpa using disarmed

theorem held_disarm :
    Held ⟨system.service.disarmIqoptionBot.2, system.stopped⟩ := by
  cases safeStop : system.service.safeStop with
  | true =>
    have stop : safeStopReason ∈ system.service.disarmIqoptionBot.2.gate.blockers := by
      simp only [disarmIqoptionBot, safeStop, if_true]
      exact mem_stopNewEntries
    have unscoped : system.service.disarmIqoptionBot.2.gate.Unscoped := by
      simp only [disarmIqoptionBot, safeStop, if_true]
      exact held.unscoped
    exact ⟨fun _ => stop, fun _ _ => stop, unscoped⟩
  | false =>
    -- Deriv is armed: the gate is left as it is
    have same : system.service.disarmIqoptionBot.2 =
        { system.service with
          iqoptionBotArmed := false
          iqoptionBotReason := "IQOPTION_BOT_DISARMED" } := by
      simp [disarmIqoptionBot, safeStop]
    rw [same]
    refine ⟨held.stopped, fun disarmed => ?_, held.unscoped⟩
    rw [safeStop] at disarmed
    cases disarmed

theorem held_arm_iff (session : LifecycleService.IqoptionSession) (refresh : List HealthChange) :
    (system.step (.controlIqoptionBot true session refresh)).Held ↔
      system.Covered (.controlIqoptionBot true session refresh) := by
  simp only [step, if_true]
  cases capable : session.refusal with
  | some reason =>
    rw [armIqoptionBot_refused capable]
    refine iff_of_true ⟨fun stopped => held.stopped ?_, held.disarmed, held.unscoped⟩ ?_
    · simpa using stopped
    · intro _ passed
      rw [capable] at passed
      cases passed
  | none =>
    obtain ⟨answer, gate, safeStop, armed⟩ :=
      system.service.armIqoptionBot_spec refresh capable
    have free : safeStopReason ∉
        (system.service.armIqoptionBot session refresh).2.gate.blockers := by
      rw [gate]
      exact not_mem_resumeNewEntriesFor _ _
    have unscoped := unscoped_armIqoptionBot held.unscoped session refresh
    constructor
    · intro after _ _ refused
      rw [refused] at answer armed
      refine ⟨?_, fun stop => ?_⟩
      · by_contra running
        exact free (after.stopped (by simpa [answer] using running))
      · by_contra disarmed
        refine free (after.disarmed (safeStop.trans stop) ?_)
        simpa [armed] using disarmed
    · intro covered
      cases accepted : (system.service.resumeNewEntriesFor refresh "IQ_OPTION"
          LifecycleService.iqoptionPracticeAccountId).1 with
      | true =>
        rw [accepted] at answer armed
        refine ⟨fun stopped => ?_, fun _ disarmed => ?_, unscoped⟩
        · simp [answer] at stopped
        · simp [armed] at disarmed
      | false =>
        obtain ⟨running, derivArmed⟩ := covered rfl capable accepted
        rw [accepted] at answer armed
        refine ⟨fun stopped => ?_, fun stop disarmed => ?_, unscoped⟩
        · simp [running] at stopped
        · rw [armed, derivArmed (safeStop.symm.trans stop)] at disarmed
          cases disarmed

theorem held_connect_iff (answers : LifecycleService.ConnectionAnswers) :
    (system.step (.connectIqoption answers)).Held ↔
      system.Covered (.connectIqoption answers) := by
  simp only [step]
  cases early : answers.early with
  | some answer =>
    rw [connectIqoption_early early]
    refine iff_of_true held fun passed => ?_
    rw [early] at passed
    cases passed
  | none =>
    obtain ⟨gate, safeStop, disarmed⟩ := system.service.connectIqoption_spec early
    have same : safeStopReason ∈ (system.service.connectIqoption answers).2.gate.blockers ↔
        safeStopReason ∈ system.service.gate.blockers := by
      rw [gate]
      exact mem_blockers_applyAll answers.changes
    have unscoped := unscoped_connectIqoption held.unscoped answers
    constructor
    · exact fun after _ stop => same.mp (after.disarmed (safeStop.trans stop) disarmed)
    · intro covered
      exact ⟨fun stopped => same.mpr (held.stopped stopped),
        fun stop _ => same.mpr (covered early (safeStop.symm.trans stop)), unscoped⟩

theorem held_switch (answers : LifecycleService.ConnectionAnswers) :
    (system.step (.switchDerivAccount answers)).Held := by
  simp only [step]
  cases early : answers.early with
  | some answer =>
    rw [switchDerivAccount_early early]
    exact held
  | none =>
    have gate := system.service.switchDerivAccount_spec early
    have stopped : system.service.stopNewEntries.gate.Unscoped := held.unscoped
    have stop : safeStopReason ∈
        (system.service.switchDerivAccount answers).2.gate.blockers := by
      rw [gate]
      exact (mem_blockers_applyAll answers.changes).mpr
        mem_stopNewEntries
    refine ⟨fun _ => stop, fun _ _ => stop, ?_⟩
    rw [gate]
    exact unscoped_applyAll stopped answers.changes

theorem held_step_iff (input : LifecycleInput) :
    (system.step input).Held ↔ system.Covered input := by
  cases input with
  | safeStop => exact held_safeStop_iff held
  | resume answers => exact held_resume_iff held answers
  | controlIqoptionBot enabled session refresh =>
    cases enabled with
    | true => exact held_arm_iff held session refresh
    | false => exact iff_of_true (held_disarm held) fun armed => absurd armed Bool.false_ne_true
  | connectIqoption answers => exact held_connect_iff held answers
  | switchDerivAccount answers => exact iff_of_true (held_switch held answers) trivial
  | health change => exact iff_of_true (held.change [change]) trivial

theorem unscoped_step (input : LifecycleInput) :
    (system.step input).service.gate.Unscoped := by
  cases input with
  | safeStop => exact unscoped_stop held.unscoped
  | resume answers => exact unscoped_resume held.unscoped answers
  | controlIqoptionBot enabled session refresh =>
    cases enabled with
    | true => exact unscoped_armIqoptionBot held.unscoped session refresh
    | false => exact (held_disarm held).unscoped
  | connectIqoption answers =>
    exact unscoped_connectIqoption held.unscoped answers
  | switchDerivAccount answers => exact (held_switch held answers).unscoped
  | health change => exact (held.change [change]).unscoped

end

theorem held_initial (derivTransport : String) : (initial derivTransport).Held where
  stopped := fun stopped => absurd stopped Bool.false_ne_true
  disarmed := fun _ _ => List.mem_singleton_self safeStopReason
  unscoped := fun _ member => absurd member List.not_mem_nil

/-- Along every run from the disarmed service. -/
theorem safely_stopped_iff (derivTransport : String) (inputs : List LifecycleInput) :
    Always step Robust (initial derivTransport) inputs ↔
      Guarded step Covered (initial derivTransport) inputs := by
  have every : ∀ input ∈ inputs, (fun _ : LifecycleInput => True) input := fun _ _ => trivial
  have sound : ∀ system : LifecycleSystem, system.Held → system.Robust :=
    fun _ held => held.robust
  refine always_iff_guarded sound ?_ ?_ (held_initial derivTransport) every
  · exact fun _ input held _ covered => (held_step_iff held input).mpr covered
  · exact fun _ input held _ robust =>
      (held_step_iff held input).mp (held_of_robust (unscoped_step held input) robust)

end LifecycleSystem

namespace Sample

def practiceSession : LifecycleService.IqoptionSession where
  ready := true
  accountType := some "DEMO"
  canSubmitOrders := true
  supportsMarketData := true
  supportsReconciliation := true
  supportsOrderEvents := true

def reconnection : LifecycleService.ConnectionAnswers where
  early := none
  changes := []
  outcome := .ok "IQOPTION_PRACTICE_CONNECTED"
  transport := "live-demo"

/-- The IQ Option bot is armed from the disarmed service, and then the given call is made. -/
def armedThen (input : LifecycleInput) : LifecycleSystem :=
  run LifecycleSystem.step (LifecycleSystem.initial "live-demo")
    [.controlIqoptionBot true practiceSession [], input]

end Sample

/-- After the safe stop both brokers still take orders; after the reconnection both bots are
    disarmed and HG_SAFE_STOP is not set. -/
theorem armed_sample_not_stopped :
    (Sample.armedThen .safeStop).stopped = true ∧
      (Sample.armedThen .safeStop).service.gate.canEnterOrder "IQ_OPTION" "IQOPTION_PRACTICE" =
        (true, none) ∧
      (Sample.armedThen .safeStop).service.gate.canEnterOrder "DERIV" "demo" = (true, none) ∧
      (Sample.armedThen (.connectIqoption Sample.reconnection)).service.safeStop = true ∧
      (Sample.armedThen (.connectIqoption Sample.reconnection)).service.iqoptionBotArmed = false ∧
      (Sample.armedThen (.connectIqoption Sample.reconnection)).service.gate.contains
        safeStopReason = false := by
  refine ⟨?_, ?_, ?_, ?_, ?_, ?_⟩ <;> rfl

end TradingLab

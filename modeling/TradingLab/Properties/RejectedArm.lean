import TradingLab.Core.Runtime
import TradingLab.Properties.DailyStop

/-!
# A rejected attempt to arm

`resume_new_entries` and `resume_new_entries_for` clear HG_SAFE_STOP, look at the gate, and answer
whether it is open.
-/
namespace TradingLab

open Machine Relational
open Machine.Program HealthGate

/-! ### Blockers that stay -/

/-- Every blocker of the first gate is a blocker of the second, in the same scope, unless it is
    one of the lost ones. -/
structure HealthGate.Keeps (lost : String → Prop) (gate later : HealthGate) : Prop where
  blockers : ∀ reason ∈ gate.blockers, reason ∈ later.blockers ∨ lost reason
  scopes : ∀ key, ∀ reason ∈ gate.scopeReasons key, reason ∈ later.scopeReasons key ∨ lost reason

namespace HealthGate

variable {lost other : String → Prop} {gate middle later : HealthGate}

theorem Keeps.refl (lost : String → Prop) (gate : HealthGate) : gate.Keeps lost gate :=
  ⟨fun _ => .inl, fun _ _ => .inl⟩

theorem Keeps.mono (keeps : gate.Keeps lost later) (weaker : ∀ reason, lost reason → other reason) :
    gate.Keeps other later :=
  ⟨fun reason member => (keeps.blockers reason member).imp_right (weaker reason),
    fun key reason member => (keeps.scopes key reason member).imp_right (weaker reason)⟩

theorem Keeps.trans (first : gate.Keeps lost middle) (second : middle.Keeps lost later) :
    gate.Keeps lost later := by
  constructor
  · intro reason member
    rcases first.blockers reason member with there | gone
    · exact second.blockers reason there
    · exact .inr gone
  · intro key reason member
    rcases first.scopes key reason member with there | gone
    · exact second.scopes key reason there
    · exact .inr gone

variable (reason : String)

theorem keeps_block : gate.Keeps lost (gate.block reason) :=
  ⟨fun _ member => .inl (mem_block.mpr (.inl member)), fun _ _ => .inl⟩

theorem scopeReasons_clearIf (key : String × String) :
    (gate.clearIf reason).scopeReasons key = Reasons.discard (gate.scopeReasons key) reason := by
  unfold scopeReasons clearIf
  induction gate.scopedBlockers with
  | nil => rfl
  | cons entry rest ih =>
    simp only [List.map_cons, Dict.get?_cons] at ih ⊢
    split
    · rfl
    · exact ih

theorem keeps_clearIf : gate.Keeps (· = reason) (gate.clearIf reason) := by
  constructor
  · intro stays member
    by_cases same : stays = reason
    · exact .inr same
    · exact .inl (mem_clearIf.mpr ⟨member, same⟩)
  · intro key stays member
    by_cases same : stays = reason
    · exact .inr same
    · rw [scopeReasons_clearIf, mem_discard]
      exact .inl ⟨member, same⟩

theorem contains_clearIf : (gate.clearIf reason).contains reason = false := by
  simp [contains, clearIf, Reasons.discard, Dict.values]

theorem contains_block : (gate.block reason).contains reason = true := by
  have member : reason ∈ (gate.block reason).blockers := mem_block.mpr (.inr rfl)
  simp [contains, member]

end HealthGate

/-! ### What `check_digit_entry` does to the gate -/

/-- The digit cooldown has a deadline, and it has passed. -/
def RiskLedger.CooldownElapsed (ledger : RiskLedger) (monotonic : Rat) : Prop :=
  ∃ deadline, ledger.digitCooldownDeadline = some deadline ∧ deadline ≤ monotonic

section Check
variable {around : Surroundings} {config : DigitRiskConfig} {w : RiskWorld} {gate : HealthGate}

theorem restoreCooldown_gate (row : DigitRiskRuntime) (w : RiskWorld) :
    (restoreCooldown around row w).2.gate = w.gate := by
  unfold restoreCooldown
  cases row.cooldownStartedAt with
  | none => rfl
  | some started => cases row.cooldownSeconds.reading <;> rfl

theorem restoreDigitRuntime_gate (row : Option DigitRiskRuntime) (w : RiskWorld) :
    (restoreDigitRuntime around row w).2.gate = w.gate := by
  cases row with
  | none => rfl
  | some row =>
    refine bind_keeps RiskWorld.gate (fun _ => rfl) (fun seen w => ?_) w
    by_cases other : row.configFingerprint ≠ seen.ledger.digitRuntimePolicy.configFingerprint
    · rw [if_pos other]
      rfl
    · rw [if_neg other]
      exact bind_keeps RiskWorld.gate (fun _ => rfl) (fun _ => restoreCooldown_gate row) w

theorem refreshDigitRuntime_gate (around : Surroundings) (w : RiskWorld) :
    (refreshDigitRuntime around w).2.gate = w.gate := by
  unfold refreshDigitRuntime
  match around.expirer with
  | none => rfl
  | some (.error _) => rfl
  | some (.ok row) => exact restoreDigitRuntime_gate row w

theorem endElapsedCooldown_gate (around : Surroundings) (here : w.gate = some gate) :
    ∃ later, (endElapsedCooldown around w).2.gate = some later ∧
      gate.Keeps (fun reason => reason = cooldownReason ∧ w.ledger.digitCooldownDeadline ≠ none)
        later := by
  unfold endElapsedCooldown
  rw [bind_of_ok get_run]
  cases deadline : w.ledger.digitCooldownDeadline with
  | none => exact ⟨gate, here, .refl _ _⟩
  | some at_ =>
    simp only
    rw [bind_of_ok modify_run]
    have kept := refreshDigitRuntime_gate around (w.onLedger RiskLedger.endDigitCooldown)
    cases ran : refreshDigitRuntime around (w.onLedger RiskLedger.endDigitCooldown) with
    | mk answer middle =>
      rw [ran] at kept
      have same : middle.gate = some gate := kept.trans here
      cases answer with
      | error error =>
        rw [bind_of_error ran]
        exact ⟨gate, same, .refl _ _⟩
      | ok =>
        rw [bind_of_ok ran, modify_run]
        split
        · exact ⟨gate, same, .refl _ _⟩
        · refine ⟨gate.clearIf cooldownReason, ?_, ?_⟩
          · simp only [RiskWorld.clear, same, Option.map_some]
          · exact (keeps_clearIf cooldownReason).mono fun _ same => ⟨same, by simp⟩

theorem checkLossBudget_gate (config : DigitRiskConfig) (lost : String → Prop)
    (here : w.gate = some gate) :
    ∃ later, (checkLossBudget config w).2.gate = some later ∧ gate.Keeps lost later := by
  unfold checkLossBudget
  rw [bind_of_ok get_run]
  split
  · refine ⟨gate.block dailyStopReason, ?_, keeps_block _⟩
    simp only [RiskWorld.block, RiskWorld.onLedger, bind_of_ok modify_run,
      pure_run, here, Option.map_some]
  · exact ⟨gate, here, .refl _ _⟩

theorem checkDigitEntry_gate (around : Surroundings) (config : DigitRiskConfig)
    (here : w.gate = some gate) :
    ∃ later, (checkDigitEntry around config w).2.gate = some later ∧
      gate.Keeps (fun reason => reason = cooldownReason ∧
        w.ledger.CooldownElapsed around.monotonic) later := by
  cases accepted : config.validate with
  | error reason =>
    unfold checkDigitEntry
    rw [accepted]
    exact ⟨gate, here, .refl _ _⟩
  | ok =>
    cases refusal : w.ledger.entryRefusal around.monotonic config with
    | some reason =>
      rw [checkDigitEntry_of_refusal accepted refusal]
      refine ⟨gate.block reason, ?_, keeps_block _⟩
      simp only [RiskWorld.block, here, Option.map_some]
    | none =>
      rw [checkDigitEntry_of_passed accepted refusal]
      obtain ⟨middle, first, keeps⟩ := endElapsedCooldown_gate around here
      -- The entry was not refused for the cooldown, so a deadline that is there has passed.
      have elapsed : w.ledger.digitCooldownDeadline ≠ none →
          w.ledger.CooldownElapsed around.monotonic := by
        intro some
        obtain ⟨deadline, set⟩ := Option.ne_none_iff_exists'.mp some
        refine ⟨deadline, set, ?_⟩
        by_contra early
        unfold RiskLedger.entryRefusal at refusal
        simp only [set, not_le.mp early, if_true] at refusal
        split at refusal
        · cases refusal
        · split at refusal <;> cases refusal
      have keeps : gate.Keeps (fun reason => reason = cooldownReason ∧
          w.ledger.CooldownElapsed around.monotonic) middle :=
        keeps.mono fun _ lost => ⟨lost.1, elapsed lost.2⟩
      cases ran : endElapsedCooldown around w with
      | mk answer after =>
        rw [ran] at first
        cases answer with
        | error error =>
          rw [bind_of_error ran]
          exact ⟨middle, first, keeps⟩
        | ok =>
          rw [bind_of_ok ran]
          obtain ⟨later, second, more⟩ := checkLossBudget_gate config
            (fun reason => reason = cooldownReason ∧ w.ledger.CooldownElapsed around.monotonic)
              first
          exact ⟨later, second, keeps.trans more⟩

end Check

/-! ### Arming -/

namespace CoreRuntime

structure ArmLaw (around : Surroundings) (before : CoreRuntime) (answer : Bool)
    (after : CoreRuntime) : Prop where
  /-- A rejected attempt leaves a Safe Stop in place, and no account can enter an order. -/
  rejected : answer = false → before.gate.contains safeStopReason = true →
    after.gate.contains safeStopReason = true ∧
      ∀ broker accountId, (after.gate.canEnterOrder broker accountId).1 = false
  /-- A successful attempt removes HG_SAFE_STOP, and a cooldown that has elapsed. -/
  armed : answer = true → before.gate.Keeps (fun reason => reason = safeStopReason ∨
    reason = cooldownReason ∧ before.ledger.CooldownElapsed around.monotonic) after.gate

variable (rt : CoreRuntime) (around : Surroundings)

def refreshed : CoreRuntime :=
  (onLedger (checkActiveDigitEntry around) rt).2

/-- The gate lets the account pass, once HG_SAFE_STOP is cleared. -/
def Armable (broker accountId : String) : Prop :=
  (((rt.refreshed around).gate.clearIf safeStopReason).stateFor broker accountId).isOpen = true

instance (rt : CoreRuntime) (around : Surroundings) (broker accountId : String) :
    Decidable (rt.Armable around broker accountId) :=
  inferInstanceAs (Decidable (_ = true))

theorem refreshed_keeps :
    rt.gate.Keeps (fun reason => reason = cooldownReason ∧
      rt.ledger.CooldownElapsed around.monotonic) (rt.refreshed around).gate := by
  obtain ⟨later, gate, keeps⟩ :=
    checkDigitEntry_gate around rt.ledger.digitConfig.1 (w := rt.world) rfl
  have gate : (checkActiveDigitEntry around rt.world).2.gate = some later := by
    rw [checkActiveDigitEntry_run]
    exact gate
  have same : (rt.refreshed around).gate = later := by
    rw [refreshed, onLedger_state, withWorld, gate, Option.getD_some]
  rw [same]
  exact keeps

theorem cleared_keeps :
    rt.gate.Keeps (fun reason => reason = safeStopReason ∨ reason = cooldownReason ∧
      rt.ledger.CooldownElapsed around.monotonic)
      ((rt.refreshed around).gate.clearIf safeStopReason) :=
  ((rt.refreshed_keeps around).mono fun _ => Or.inr).trans
    ((keeps_clearIf safeStopReason).mono fun _ => Or.inl)

section Resume
variable {around : Surroundings} {rt after : CoreRuntime} {answer : Bool}
  {broker accountId : String}

theorem resumeNewEntries_ok (resumed : resumeNewEntries around rt = (.ok answer, after)) :
    let gate := (rt.refreshed around).gate.clearIf safeStopReason
    answer = gate.state.isOpen ∧
      after.gate = if gate.state.isOpen then gate else gate.block safeStopReason := by
  obtain ⟨_, middle, first, rest⟩ := bind_eq_ok.mp resumed
  have isRefreshed : middle = rt.refreshed around := by rw [refreshed, first]
  rw [bind_of_ok modify_run, bind_of_ok get_run] at rest
  cases rest
  rw [isRefreshed]
  exact ⟨rfl, rfl⟩

theorem resumeNewEntriesFor_ok
    (resumed : resumeNewEntriesFor around broker accountId rt = (.ok answer, after)) :
    let gate := (rt.refreshed around).gate.clearIf safeStopReason
    answer = (gate.stateFor broker accountId).isOpen ∧ after.gate = gate := by
  obtain ⟨_, middle, first, rest⟩ := bind_eq_ok.mp resumed
  have isRefreshed : middle = rt.refreshed around := by rw [refreshed, first]
  rw [bind_of_ok modify_run, bind_of_ok get_run] at rest
  simp only [bind_of_ok modify_run] at rest
  cases rest
  rw [isRefreshed]
  exact ⟨rfl, rfl⟩

theorem resumeNewEntries_armLaw (resumed : resumeNewEntries around rt = (.ok answer, after)) :
    ArmLaw around rt answer after := by
  obtain ⟨isAnswer, gate⟩ := resumeNewEntries_ok resumed
  constructor
  · intro refused _
    rw [← isAnswer, refused, if_neg Bool.false_ne_true] at gate
    rw [gate]
    exact ⟨contains_block _, fun broker accountId =>
      canEnterOrder_of_mem (mem_block.mpr (.inr rfl)) broker accountId⟩
  · intro open_
    rw [← isAnswer, open_, if_pos rfl] at gate
    rw [gate]
    exact rt.cleared_keeps around

theorem resumeNewEntriesFor_armLaw_iff
    (resumed : resumeNewEntriesFor around broker accountId rt = (.ok answer, after)) :
    ArmLaw around rt answer after ↔
      (rt.gate.contains safeStopReason = true → rt.Armable around broker accountId) := by
  obtain ⟨isAnswer, gate⟩ := resumeNewEntriesFor_ok resumed
  constructor
  · intro law stopped
    by_contra refused
    have rejected : answer = false := isAnswer.trans (Bool.eq_false_iff.mpr refused)
    have still := (law.rejected rejected stopped).1
    rw [gate, contains_clearIf] at still
    cases still
  · intro armable
    constructor
    · intro rejected stopped
      have armed : answer = true := isAnswer.trans (armable stopped)
      rw [rejected] at armed
      cases armed
    · intro _
      rw [gate]
      exact rt.cleared_keeps around

end Resume

end CoreRuntime

/-- `resume_new_entries` obeys the law in every state of the gate, the database and the ledger.
    `resume_new_entries_for` obeys it exactly when HG_SAFE_STOP was no blocker before the call or
    nothing else blocks the account. -/
theorem rejected_arm_iff (around : Surroundings) (rt : CoreRuntime) :
    (∀ answer after, rt.resumeNewEntries around = (.ok answer, after) →
      CoreRuntime.ArmLaw around rt answer after) ∧
    ∀ broker accountId answer after,
      rt.resumeNewEntriesFor around broker accountId = (.ok answer, after) →
      (CoreRuntime.ArmLaw around rt answer after ↔
        (rt.gate.contains safeStopReason = true → rt.Armable around broker accountId)) :=
  ⟨fun _ _ => CoreRuntime.resumeNewEntries_armLaw,
    fun _ _ _ _ => CoreRuntime.resumeNewEntriesFor_armLaw_iff⟩

namespace Sample

def stoppedRuntime : CoreRuntime where
  ledger := freshLedger.ledger
  gate := {
    blockers := [safeStopReason]
    scopedBlockers := [(("DERIV", "CR100"), ["HG_ORDER_UNKNOWN"])] }
  db := Database.empty

def quiet : Surroundings := ⟨0, 0, none⟩

end Sample

/-- The attempt to arm the blocked account is rejected, and it has lifted the Safe Stop: another
    account can enter orders. -/
theorem rejected_arm_lifts_safe_stop :
    Sample.stoppedRuntime.gate.contains safeStopReason = true ∧
      (Sample.stoppedRuntime.resumeNewEntriesFor Sample.quiet "DERIV" "CR100").1.toOption =
        some false ∧
      ((Sample.stoppedRuntime.resumeNewEntriesFor Sample.quiet "DERIV" "CR100").2.gate.contains
        safeStopReason) = false ∧
      ((Sample.stoppedRuntime.resumeNewEntriesFor Sample.quiet "DERIV" "CR100").2.gate.canEnterOrder
        "IQOPTION" "B7").1 = true := by
  decide

theorem free_account_armed :
    CoreRuntime.ArmLaw Sample.quiet Sample.stoppedRuntime true
      (Sample.stoppedRuntime.resumeNewEntriesFor Sample.quiet "IQOPTION" "B7").2 :=
  ((rejected_arm_iff Sample.quiet Sample.stoppedRuntime).2 "IQOPTION" "B7" true _ rfl).mpr
    fun _ => by decide

end TradingLab

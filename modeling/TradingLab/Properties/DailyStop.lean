import TradingLab.Core.Ledger

/-!
# The daily stop

A profit that settles after the lock can lift the daily result above the stop again; a series of
losses from there reaches the loss limit first, whose branch replaces the lock by a cooldown.
-/
namespace TradingLab

open Machine
open Machine.Program

def RiskWorld.Locked (w : RiskWorld) : Prop :=
  w.ledger.riskState = .riskLocked

instance (w : RiskWorld) : Decidable w.Locked :=
  inferInstanceAs (Decidable (w.ledger.riskState = .riskLocked))

/-! ### The operations that keep the lock -/

section Keep
variable {around : Surroundings}

theorem restoreCooldown_locked (row : DigitRiskRuntime) :
    Program.Preserves RiskWorld.Locked (restoreCooldown around row) := by
  unfold restoreCooldown
  split
  · exact preserves_modify fun _ locked => locked
  · split
    · exact preserves_modify fun _ locked => locked
    · exact preserves_raise

theorem restoreDigitRuntime_locked (row : Option DigitRiskRuntime) :
    Program.Preserves RiskWorld.Locked (restoreDigitRuntime around row) := by
  cases row with
  | none => exact preserves_pure
  | some row =>
    refine preserves_bind preserves_get fun w => ?_
    split
    · exact preserves_raise
    · exact preserves_bind (preserves_modify fun _ locked => locked)
        fun _ => restoreCooldown_locked row

theorem checkDigitEntry_locked (config : DigitRiskConfig) :
    Program.Preserves RiskWorld.Locked (checkDigitEntry around config) := by
  intro w locked
  cases accepted : config.validate with
  | error reason =>
    unfold checkDigitEntry
    rw [accepted]
    exact locked
  | ok =>
    rw [checkDigitEntry_of_refusal accepted (entryRefusal_of_locked locked _ _)]
    exact locked

theorem checkActiveDigitEntry_locked :
    Program.Preserves RiskWorld.Locked (checkActiveDigitEntry around) :=
  preserves_bind preserves_get fun _ => checkDigitEntry_locked _

theorem resetDigitRecoveryState_locked : Program.Preserves RiskWorld.Locked resetDigitRecoveryState := by
  refine preserves_modify fun w locked => ?_
  have kept : (if w.ledger.riskState = .cooldown then RiskState.normal else w.ledger.riskState) =
      .riskLocked := by
    rw [show w.ledger.riskState = .riskLocked from locked]
    rfl
  exact kept

theorem resetCooldown_locked : Program.Preserves RiskWorld.Locked resetCooldown :=
  resetDigitRecoveryState_locked

theorem settleDigit_riskState (ledger : RiskLedger) (monotonic cooldown : Rat)
    (pnlMinorUnits : Int) :
    (ledger.settleDigit monotonic cooldown pnlMinorUnits).riskState = ledger.riskState := by
  unfold RiskLedger.settleDigit
  simp only
  split
  · unfold RiskLedger.settleDigitLoss
    simp only
    split <;> rfl
  · split
    · unfold RiskLedger.settleDigitWin
      simp only
      split <;> rfl
    · rfl

theorem applyDigitRealizedPnl_locked (pnlMinorUnits : Int) (currency : String) :
    Program.Preserves RiskWorld.Locked (applyDigitRealizedPnl around pnlMinorUnits currency) := by
  refine preserves_bind preserves_get fun seen => ?_
  simp only
  split
  · exact preserves_raise
  · refine preserves_bind (preserves_modify fun w locked => ?_) fun _ => ?_
    · exact (settleDigit_riskState w.ledger _ _ _).trans locked
    refine preserves_bind (preserves_modify fun w locked => ?_) fun _ => ?_
    · split
      · exact locked
      · exact locked
    exact preserves_bind checkActiveDigitEntry_locked fun _ => preserves_pure

theorem updateDigitRiskConfig_locked (config : DigitRiskConfig) (resetActiveSequence : Bool) :
    Program.Preserves RiskWorld.Locked
      (updateDigitRiskConfig around config resetActiveSequence) := by
  have reset : Program.Preserves RiskWorld.Locked (resetIf resetActiveSequence) := by
    unfold resetIf
    split
    · exact resetDigitRecoveryState_locked
    · exact preserves_pure
  have checked : Program.Preserves RiskWorld.Locked (do
      let _ ← checkDigitEntry around config
      pure ((true, none) : Bool × Option String)) :=
    preserves_bind (checkDigitEntry_locked config) fun _ => preserves_pure
  unfold updateDigitRiskConfig
  split
  · exact preserves_pure
  · refine preserves_bind preserves_get fun seen => ?_
    split
    · exact preserves_bind reset fun _ => checked
    · split
      · exact preserves_pure
      · refine preserves_bind reset fun _ => ?_
        exact preserves_bind (preserves_modify fun _ locked => locked)
          fun _ => checked

theorem requireEntry_locked (answer : Bool × Option String) (message : String) :
    Program.Preserves RiskWorld.Locked (requireEntry answer message) := by
  unfold requireEntry
  split
  · exact preserves_pure
  · exact preserves_raise

theorem digitEntryStake_locked (netProfitRatio : Option Decimal) :
    Program.Preserves RiskWorld.Locked (digitEntryStake around netProfitRatio) := by
  refine preserves_bind checkActiveDigitEntry_locked fun answer => ?_
  refine preserves_bind (requireEntry_locked _ _) fun _ => ?_
  refine preserves_bind preserves_get fun w => ?_
  refine preserves_bind preserves_lift fun stake => ?_
  exact preserves_bind (preserves_modify fun _ locked => locked)
    fun _ => preserves_pure

theorem reserve_locked (around : Surroundings) (request : OrderRequest) (exposure : ExposureReading) {w : RiskWorld}
    (locked : w.Locked) :
    ∃ error after, reserve around request exposure w = (.error error, after) ∧ after.Locked := by
  unfold reserve
  rw [bind_of_ok get_run]
  split
  · exact ⟨_, _, rfl, locked⟩
  -- The digit check finds the lock first; any other product meets it right after.
  have unlocked : ∀ v : RiskWorld, v.Locked → ∃ error after,
      requireUnlocked v = (.error error, after) ∧ after.Locked := by
    intro v locked
    unfold requireUnlocked
    rw [bind_of_ok get_run]
    simp only [show v.ledger.riskState = .riskLocked from locked]
    exact ⟨_, _, rfl, locked⟩
  by_cases digit : isDigitProduct request.product = true
  · have refused : checkActiveDigitEntry around w =
        (.ok (false, some dailyStopReason), w.block dailyStopReason) := by
      rw [checkActiveDigitEntry_run]
      exact checkDigitEntry_of_refusal w.ledger.digitConfig.2 (entryRefusal_of_locked locked _ _)
    have raised : reserveDigit around request.amount.minorUnits w =
        (.error (.limitExceeded dailyStopReason
          "Specialized DIGITDIFF risk gate blocked the entry."), w.block dailyStopReason) := by
      unfold reserveDigit
      rw [bind_of_ok refused]
      exact bind_of_error rfl
    have product : reserveProduct around request w = _ :=
      (congrFun (if_pos digit) w).trans raised
    exact ⟨_, _, bind_of_error product, locked⟩
  · have product : reserveProduct around request w = (.ok (), w) := congrFun (if_neg digit) w
    obtain ⟨error, after, raised, kept⟩ := unlocked w locked
    rw [bind_of_ok product]
    exact ⟨error, after, bind_of_error raised, kept⟩

end Keep

/-! ### The run -/

/-- A result that is booked on a locked ledger and replaces the lock by a cooldown: the daily
    result is above the stop again, and the losses in a row reach their limit. -/
def Unlocks (w : RiskWorld) (pnlMinorUnits : Int) : Prop :=
  -w.ledger.config.consolidatedDailyStopLossMinorUnits <
      (w.ledger.bookPnl pnlMinorUnits).dailyPnlMinorUnits ∧
    w.ledger.config.maxConsecutiveLosses ≤ (w.ledger.bookPnl pnlMinorUnits).consecutiveLosses

theorem applyRealizedPnl_locked_iff {w : RiskWorld} (locked : w.Locked) (pnlMinorUnits : Int) :
    ((applyRealizedPnl pnlMinorUnits w).2).Locked ↔ ¬ Unlocks w pnlMinorUnits := by
  have kept : (w.ledger.bookPnl pnlMinorUnits).riskState = .riskLocked := locked
  simp only [applyRealizedPnl, modify_run, Unlocks, RiskWorld.onLedger, ge_iff_le]
  split
  · rename_i below
    constructor
    · rintro - ⟨above, -⟩
      omega
    · intro _
      rfl
  · rename_i above
    split
    · rename_i losses
      constructor
      · intro still
        cases still
      · intro held
        exact absurd ⟨by omega, losses⟩ held
    · rename_i few
      constructor
      · rintro - ⟨-, losses⟩
        exact few losses
      · intro _
        exact kept

/-- A ledger, and whether it has been locked since the last `reset_daily_pnl`. -/
structure LatchedLedger where
  world : RiskWorld
  latched : Bool

namespace LatchedLedger

def start (w : RiskWorld) : LatchedLedger :=
  ⟨w, decide w.Locked⟩

def step (s : LatchedLedger) (op : RiskOp) : LatchedLedger :=
  match op with
  | .resetDailyPnl => start (riskStep s.world .resetDailyPnl)
  | op =>
    let after := riskStep s.world op
    ⟨after, s.latched || decide after.Locked⟩

/-- A ledger that has been locked is locked, and refuses every reservation. -/
def Holds (s : LatchedLedger) : Prop :=
  s.latched = true → s.world.Locked ∧
    ∀ around request exposure, ∃ error after,
      reserve around request exposure s.world = (.error error, after)

def Keeps (s : LatchedLedger) : RiskOp → Prop
  | .applyRealizedPnl pnlMinorUnits => s.world.Locked → ¬ Unlocks s.world pnlMinorUnits
  | _ => True

def Faithful (s : LatchedLedger) : Prop :=
  s.latched = true ↔ s.world.Locked

theorem faithful_start (w : RiskWorld) : (start w).Faithful :=
  decide_eq_true_iff

variable {s : LatchedLedger} {op : RiskOp}

theorem Faithful.holds (faithful : s.Faithful) : s.Holds := by
  intro latched
  have locked := faithful.mp latched
  refine ⟨locked, fun around request exposure => ?_⟩
  obtain ⟨error, after, raised, -⟩ := reserve_locked around request exposure locked
  exact ⟨error, after, raised⟩

theorem locked_riskStep {w : RiskWorld} (locked : w.Locked)
    (notReset : op ≠ .resetDailyPnl) (notResult : ∀ pnl, op ≠ .applyRealizedPnl pnl) :
    (riskStep w op).Locked := by
  cases op with
  | applyRealizedPnl pnl => exact absurd rfl (notResult pnl)
  | applyDigitRealizedPnl around pnl currency => exact applyDigitRealizedPnl_locked pnl currency w locked
  | checkDigitEntry around config => exact checkDigitEntry_locked config w locked
  | digitEntryStake around ratio => exact digitEntryStake_locked ratio w locked
  | updateDigitRiskConfig around config reset => exact updateDigitRiskConfig_locked config reset w locked
  | resetDigitRecoveryState => exact resetDigitRecoveryState_locked w locked
  | resetCooldown => exact resetCooldown_locked w locked
  | restoreDigitRuntime around row => exact restoreDigitRuntime_locked row w locked
  | reserve around request exposure =>
    obtain ⟨error, after, raised, kept⟩ := reserve_locked around request exposure locked
    simp only [riskStep, raised]
    exact kept
  | resetDailyPnl => exact absurd rfl notReset

theorem faithful_step_iff (faithful : s.Faithful) (notReset : op ≠ .resetDailyPnl) :
    (s.step op).Faithful ↔ (s.world.Locked → (riskStep s.world op).Locked) := by
  have unfolded : s.step op = ⟨riskStep s.world op,
      s.latched || decide (riskStep s.world op).Locked⟩ := by
    cases op <;> first | rfl | exact absurd rfl notReset
  have flag : s.latched = true ↔ s.world.Locked := faithful
  rw [unfolded, Faithful]
  simp only [Bool.or_eq_true, decide_eq_true_eq, flag]
  exact or_iff_right_iff_imp

theorem step_keeps (faithful : s.Faithful) (keeps : s.Keeps op) : (s.step op).Faithful := by
  by_cases isReset : op = .resetDailyPnl
  · subst isReset
    exact faithful_start _
  rw [faithful_step_iff faithful isReset]
  intro locked
  by_cases isResult : ∃ pnl, op = .applyRealizedPnl pnl
  · obtain ⟨pnl, rfl⟩ := isResult
    exact (applyRealizedPnl_locked_iff locked pnl).mpr (keeps locked)
  · exact locked_riskStep locked isReset fun pnl same => isResult ⟨pnl, same⟩

theorem step_breaks (faithful : s.Faithful) (holds : (s.step op).Holds) : s.Keeps op := by
  cases op with
  | applyRealizedPnl pnl =>
    intro locked
    have latched : (s.step (.applyRealizedPnl pnl)).latched = true := by
      simp only [step, faithful.mpr locked, Bool.true_or]
    exact (applyRealizedPnl_locked_iff locked pnl).mp (holds latched).1
  | _ => trivial

end LatchedLedger

/-- The lock holds throughout a run of the ledger, from every state, exactly when no result that
    is booked on the locked ledger lifts the day above the stop and reaches the loss limit. -/
theorem daily_stop_latches_iff (w : RiskWorld) (ops : List RiskOp) :
    Always LatchedLedger.step LatchedLedger.Holds (LatchedLedger.start w) ops ↔
      Guarded LatchedLedger.step LatchedLedger.Keeps (LatchedLedger.start w) ops :=
  have keeps : ∀ (s : LatchedLedger) (op : RiskOp), s.Faithful → True → s.Keeps op →
      (s.step op).Faithful := fun _ _ faithful _ keeps => LatchedLedger.step_keeps faithful keeps
  always_iff_guarded (fun _ faithful => faithful.holds) keeps
    (fun _ _ faithful _ holds => LatchedLedger.step_breaks faithful holds)
    (LatchedLedger.faithful_start w) (fun _ _ => trivial)

namespace Sample

theorem defaultLimits_accepted :
    ∃ given : GlobalRiskConfigFields, given.postInit = .ok ({} : GlobalRiskConfigFields) :=
  ⟨{}, by decide⟩

def ledgerConfig : GlobalRiskConfig :=
  ⟨{}, defaultLimits_accepted⟩

theorem defaultConfig_valid : ({} : DigitRiskConfig).validate = .ok () := by
  decide

def fingerprint : Fingerprint :=
  ⟨"policy", by decide⟩

def freshLedger : RiskWorld where
  ledger := {
    config := ledgerConfig
    digitConfig := ⟨{}, defaultConfig_valid⟩
    fingerprintOf := fun _ => fingerprint }
  gate := none

def unlockingOps : List RiskOp :=
  [.applyRealizedPnl (-10000), .applyRealizedPnl 5000, .applyRealizedPnl (-100),
    .applyRealizedPnl (-100), .applyRealizedPnl (-100), .resetCooldown]

end Sample

/-- The three losses after the profit turn the lock into a cooldown, and the reset of the cooldown
    ends it: the ledger is open again without `reset_daily_pnl`. -/
theorem daily_stop_unlatched :
    (run riskStep Sample.freshLedger (Sample.unlockingOps.take 1)).ledger.riskState = .riskLocked ∧
      (run riskStep Sample.freshLedger (Sample.unlockingOps.take 5)).ledger.riskState =
        .cooldown ∧
      (run riskStep Sample.freshLedger Sample.unlockingOps).ledger.riskState = .normal := by
  decide

end TradingLab

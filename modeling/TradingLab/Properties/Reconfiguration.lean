import TradingLab.Properties.Progressions

/-!
# A reconfiguration that fails

`update_digit_risk_config` writes a new configuration into the ledger, into the database and into a
file. The first two writes reset the recovery sequence; when a later one fails, the compensation
installs the previous configuration again, but it has not kept the sequence.
-/
namespace TradingLab

open Machine
open Machine.Program
open RiskLedger DigitRiskRuntime

/-- How far a recovery sequence has gone; its cooldown is marked on one of the two clocks. -/
structure DigitSequence (τ : Type) where
  consecutiveLosses : Int := 0
  martingaleStep : Int := 0
  symbol : Option String := none
  cumulativeLoss : Int := 0
  cooldown : Option τ := none
deriving DecidableEq

def RiskLedger.sequence (ledger : RiskLedger) : DigitSequence Rat where
  consecutiveLosses := ledger.digitConsecutiveLosses
  martingaleStep := ledger.digitMartingaleState.step
  symbol := ledger.digitRecoverySymbol
  cumulativeLoss := ledger.digitCumulativeSequenceLossMinorUnits
  cooldown := ledger.digitCooldownDeadline

namespace DigitRiskRuntimeFields

def sequence (row : DigitRiskRuntimeFields) : DigitSequence Instant where
  consecutiveLosses := row.consecutiveLosses
  martingaleStep := row.martingaleStep
  symbol := row.pinnedSymbol
  cumulativeLoss := row.cumulativeSequenceLossMinor
  cooldown := row.cooldownStartedAt

def policy (row : DigitRiskRuntimeFields) : DigitRuntimePolicy where
  configFingerprint := row.configFingerprint
  currency := row.currency
  martingaleEnabled := row.martingaleEnabled
  martingaleMaxSteps := row.martingaleMaxSteps
  maxConsecutiveLosses := row.maxConsecutiveLosses
  cooldownSeconds := row.cooldownSeconds

end DigitRiskRuntimeFields

def Database.digitState (db : Database) : Option (DigitRuntimePolicy × DigitSequence Instant) :=
  db.digitRiskRuntime.map fun row => (row.policy, row.sequence)

structure CoreRuntime.Unchanged (before after : CoreRuntime) : Prop where
  config : after.ledger.digitConfig = before.ledger.digitConfig
  sequence : after.ledger.sequence = before.ledger.sequence
  stored : after.db.digitState = before.db.digitState

/-! ### The configuration in the ledger -/

theorem DigitRiskConfig.same_comm (config other : DigitRiskConfig) :
    config.same other = other.same config := by
  unfold DigitRiskConfig.same
  rw [Decimal.numEq_comm config.minQuantumConfidencePct,
    Decimal.numEq_comm config.martingaleMultiplier,
    Decimal.numEq_comm config.performanceRatchetCapPp]
  congr 1
  · ac_rfl
  · rw [decide_eq_decide]
    cases config
    cases other
    simp only [DigitRiskConfig.mk.injEq, true_and]
    constructor <;> rintro ⟨⟩ <;> simp_all

section Ledger
variable {around : Surroundings} {config : DigitRiskConfig} {reset : Bool} {w : RiskWorld}

/-- The ledger starts a sequence, under one of two configurations. -/
structure RiskLedger.Restarted (ledger : RiskLedger) (config : ValidDigitRiskConfig)
    (later : RiskLedger) : Prop where
  sequence : later.sequence = {}
  config : later.digitConfig = config
  fingerprintOf : later.fingerprintOf = ledger.fingerprintOf

theorem resetIf_run (rests : reset = true ∨ w.ledger.sequence = {}) :
    ∃ after, resetIf reset w = (.ok (), after) ∧
      w.ledger.Restarted w.ledger.digitConfig after.ledger := by
  cases reset with
  | true => exact ⟨_, rfl, rfl, rfl, rfl⟩
  | false => exact ⟨w, rfl, by simpa using rests, rfl, rfl⟩

theorem check_restarted {ledger : RiskLedger} {installed : ValidDigitRiskConfig}
    (accepted : config.validate = .ok ()) (restarted : ledger.Restarted installed w.ledger) :
    ∃ after, (checkDigitEntry around config >>= fun _ =>
        (pure (true, none) : RiskProgram (Bool × Option String))) w = (.ok (true, none), after) ∧
      ledger.Restarted installed after.ledger := by
  have noDeadline : w.ledger.digitCooldownDeadline = none :=
    congrArg DigitSequence.cooldown restarted.sequence
  obtain ⟨answer, after, run, same⟩ : ∃ answer after,
      checkDigitEntry around config w = (.ok answer, after) ∧ after.ledger = w.ledger :=
    checkDigitEntry_ledger accepted fun past => past.2 noDeadline
  refine ⟨after, ?_, ?_⟩
  · rw [bind_of_ok run, pure_run]
  · rw [same]
    exact restarted

/-- A configuration that is equal to the one in force does not replace it. -/
def RiskLedger.replacing (ledger : RiskLedger) (config : ValidDigitRiskConfig) :
    ValidDigitRiskConfig :=
  if config.1.same ledger.digitConfig.1 then ledger.digitConfig else config

theorem updateDigitRiskConfig_of_accepted (accepted : config.validate = .ok ()) :
    updateDigitRiskConfig around config reset = (do
      let w ← Program.get
      if config.same w.ledger.digitConfig.1 then do
        resetIf reset
        let _ ← checkDigitEntry around config
        pure (true, none)
      else if w.ledger.digitMartingaleState.step > 0 ∧ config.martingaleEnabled = true ∧
          reset = false then
        pure (false, some "DIGIT_MARTINGALE_SEQUENCE_ACTIVE")
      else do
        resetIf reset
        installDigitConfig ⟨config, accepted⟩
        let _ ← checkDigitEntry around config
        pure (true, none)) := by
  unfold updateDigitRiskConfig
  split
  · rename_i reason refused
    rw [accepted] at refused
    cases refused
  · rfl

theorem updateDigitRiskConfig_restarts (accepted : config.validate = .ok ())
    (rests : reset = true ∨ w.ledger.sequence = {}) :
    ∃ after, updateDigitRiskConfig around config reset w = (.ok (true, none), after) ∧
      w.ledger.Restarted (w.ledger.replacing ⟨config, accepted⟩) after.ledger := by
  obtain ⟨middle, isReset, restarted⟩ := resetIf_run rests
  rw [updateDigitRiskConfig_of_accepted accepted, bind_of_ok get_run]
  by_cases same : config.same w.ledger.digitConfig.1 = true
  · rw [if_pos same, bind_of_ok isReset, replacing, if_pos same]
    exact check_restarted accepted restarted
  · have step : ¬ (w.ledger.digitMartingaleState.step > 0 ∧ config.martingaleEnabled = true ∧
        reset = false) := by
      rintro ⟨further, -, kept⟩
      rcases rests with isTrue | start
      · rw [kept] at isTrue
        cases isTrue
      · have first : (w.ledger.digitMartingaleState.step : Int) = 0 :=
          congrArg DigitSequence.martingaleStep start
        omega
    rw [if_neg same, if_neg step, bind_of_ok isReset, installDigitConfig,
      bind_of_ok modify_run, replacing, if_neg same]
    apply check_restarted accepted
    refine ⟨?_, rfl, restarted.fingerprintOf⟩
    have start := restarted.sequence
    simp only [RiskLedger.sequence, DigitSequence.mk.injEq] at start ⊢
    exact ⟨start.1, rfl, start.2.2⟩

theorem updateDigitRiskConfig_refused {reason : String}
    (refused : config.validate = .error reason) :
    updateDigitRiskConfig around config reset w = (.ok (false, some reason), w) := by
  have whole : updateDigitRiskConfig around config reset = pure (false, some reason) := by
    unfold updateDigitRiskConfig
    split
    · rename_i other refused'
      rw [refused] at refused'
      cases refused'
      rfl
    · rename_i accepted
      rw [refused] at accepted
      cases accepted
  rw [whole, pure_run]

end Ledger

/-! ### The row in the database -/

theorem policy_validate (ledger : RiskLedger) : ledger.digitRuntimePolicy.validate = .ok () := by
  have limits := DigitRiskConfig.limits_of_validate ledger.digitConfig.2
  obtain ⟨seconds, reading, positive⟩ := limits.cooldown
  have currency : ledger.digitConfig.1.currency.length = 3 := by
    rw [limits.currency]
    rfl
  simp only [DigitRuntimePolicy.validate, digitRuntimePolicy, reading]
  exact if_pos ⟨(ledger.fingerprintOf _).2, currency, limits.steps, limits.losses, positive⟩

theorem policy_checks {policy : DigitRuntimePolicy} (valid : policy.validate = .ok ())
    {row : DigitRiskRuntimeFields} (same : row.policy = policy)
    (nonneg : 0 ≤ row.consecutiveLosses ∧ 0 ≤ row.martingaleStep ∧
      0 ≤ row.cumulativeSequenceLossMinor) : row.Checks := by
  subst same
  unfold DigitRuntimePolicy.validate at valid
  split at valid
  · cases valid
  · cases valid
  · split at valid
    · rename_i limits
      exact ⟨limits.2.1, limits.2.2.1, limits.2.2.2.1, nonneg⟩
    · cases valid

section Row
variable {policy : DigitRuntimePolicy} {db : Database} {reset : Bool} {now : Instant}

theorem configure_resets (valid : policy.validate = .ok ()) :
    ∃ after, configureDigitRiskRuntime policy true now db = .ok ((), after) ∧
      after.digitState = some (policy, {}) := by
  unfold configureDigitRiskRuntime
  rw [valid]
  cases stored : db.digitRiskRuntime with
  | none =>
    have checks : (policy.newRow now).Checks :=
      policy_checks valid rfl ⟨Int.le_refl 0, Int.le_refl 0, Int.le_refl 0⟩
    refine ⟨{ db with digitRiskRuntime := some ⟨policy.newRow now, checks⟩ }, ?_, rfl⟩
    simp only [Except.ok_bind, make_of_checks checks]
  | some current =>
    have checks : (policy.install current.toDigitRiskRuntimeFields now).resetSequence.Checks :=
      policy_checks valid rfl ⟨Int.le_refl 0, Int.le_refl 0, Int.le_refl 0⟩
    refine ⟨{ db with digitRiskRuntime := some ⟨_, checks⟩ }, ?_, rfl⟩
    simp only [Except.ok_bind, Bool.true_eq_false, and_false, if_false, if_true,
      make_of_checks checks]

theorem configure_keeps {after : Database} (valid : policy.validate = .ok ())
    (configured : configureDigitRiskRuntime policy false now db = .ok ((), after)) :
    after.digitState = some (policy, (db.digitState.map Prod.snd).getD {}) := by
  unfold configureDigitRiskRuntime at configured
  rw [valid, Except.ok_bind] at configured
  cases stored : db.digitRiskRuntime with
  | none =>
    rw [stored] at configured
    obtain ⟨row, made, returned⟩ := Except.bind_ok_iff.mp configured
    cases returned
    have fields := make_eq_ok made
    simp only [Database.digitState, Option.map_some, fields, stored, Option.map_none]
    rfl
  | some current =>
    rw [stored] at configured
    simp only at configured
    split at configured
    · cases configured
    · obtain ⟨row, made, returned⟩ := Except.bind_ok_iff.mp configured
      cases returned
      have fields := make_eq_ok made
      simp only [Database.digitState, Option.map_some, fields, stored]
      rfl

end Row

/-! ### The runtime -/

namespace CoreRuntime

variable {around : Surroundings} {faults : PersistenceFaults} {now : Instant}
  {config : DigitRiskConfig} {rt middle after : CoreRuntime} {answer : Bool × Option String}
  {ledger : RiskLedger} {replaced : ValidDigitRiskConfig}

/-- The configuration is invalid, or an order is open. -/
def Refuses (rt : CoreRuntime) (config : DigitRiskConfig) : Prop :=
  rt.db.hasNonterminalDerivDigitOrder = true ∨ config.validate ≠ .ok ()

/-- The ledger is at the start of a sequence, and the row has its policy; if the row could be
    written, it is at the start of a sequence, too. -/
def NothingToLose (rt : CoreRuntime) (faults : PersistenceFaults) : Prop :=
  rt.ledger.sequence = {} ∧ ∃ sequence,
    rt.db.digitState = some (rt.ledger.digitRuntimePolicy, sequence) ∧
      (faults.configure = none → sequence = {})

theorem onDatabase_ok {fault : Option DbError} {operation : Operation Unit} {done : Unit}
    (committed : onDatabase fault operation rt = (.ok done, after)) :
    ∃ db, operation rt.db = .ok ((), db) ∧ after = { rt with db } := by
  unfold onDatabase at committed
  cases fault with
  | some error => cases committed
  | none =>
    cases ran : operation rt.db with
    | error error =>
      rw [ran] at committed
      cases committed
    | ok result =>
      rw [ran] at committed
      cases committed
      exact ⟨result.2, rfl, rfl⟩

theorem replacing_back {later : RiskLedger} {config : ValidDigitRiskConfig}
    (installed : later.digitConfig = ledger.replacing config) :
    later.replacing ledger.digitConfig = ledger.digitConfig := by
  unfold replacing at installed ⊢
  rw [installed]
  by_cases same : config.1.same ledger.digitConfig.1 = true
  · rw [if_pos same, ite_self]
  · rw [if_neg same, DigitRiskConfig.same_comm, if_neg same]

theorem restoreDigitConfig_ok
    (restarted : ledger.Restarted (ledger.replacing replaced) middle.ledger)
    (restored : restoreDigitConfig around faults now ledger.digitConfig.1 middle =
      (.ok answer, after)) :
    after.ledger.sequence = {} ∧ after.ledger.digitConfig = ledger.digitConfig ∧
      after.db.digitState =
        some (ledger.digitRuntimePolicy, (middle.db.digitState.map Prod.snd).getD {}) := by
  obtain ⟨again, updated, back⟩ : ∃ again, TradingLab.updateDigitRiskConfig around
      ledger.digitConfig.1 false middle.world = (.ok (true, none), again) ∧
      middle.ledger.Restarted (middle.ledger.replacing ledger.digitConfig) again.ledger :=
    updateDigitRiskConfig_restarts ledger.digitConfig.2 (.inr restarted.sequence)
  have onward : onLedger (TradingLab.updateDigitRiskConfig around ledger.digitConfig.1) middle =
      (.ok (true, none), middle.withWorld again) := by
    unfold onLedger
    rw [updated]
  unfold restoreDigitConfig at restored
  rw [bind_of_ok onward, bind_of_ok get_run] at restored
  obtain ⟨_, written, committed, returned⟩ := bind_eq_ok.mp restored
  cases returned
  obtain ⟨db, configured, rfl⟩ := onDatabase_ok committed
  have config : again.ledger.digitConfig = ledger.digitConfig :=
    back.config.trans (replacing_back restarted.config)
  have policy : again.ledger.digitRuntimePolicy = ledger.digitRuntimePolicy := by
    unfold digitRuntimePolicy
    rw [config, back.fingerprintOf, restarted.fingerprintOf]
  refine ⟨back.sequence, config, ?_⟩
  have kept := configure_keeps (policy_validate again.ledger) configured
  rw [policy] at kept
  exact kept

theorem persistOrRestore_unchanged {reason : Option String}
    (restarted : rt.ledger.Restarted (rt.ledger.replacing replaced) middle.ledger)
    (sameDb : middle.db = rt.db)
    (failed : persistOrRestore around faults now rt.ledger.digitConfig.1 middle =
      (.ok (false, reason), after)) : rt.Unchanged after ↔ rt.NothingToLose faults := by
  have unchanged : ∀ stored, after.ledger.sequence = {} →
      after.ledger.digitConfig = rt.ledger.digitConfig → after.db.digitState = stored →
      (rt.Unchanged after ↔ rt.ledger.sequence = {} ∧ rt.db.digitState = stored) := by
    intro stored sequence config isStored
    constructor
    · exact fun same => ⟨same.sequence.symm.trans sequence, same.stored.symm.trans isStored⟩
    · exact fun same => ⟨config, sequence.trans same.1.symm, isStored.trans same.2.symm⟩
  unfold persistOrRestore at failed
  cases fault : faults.configure with
  | some error =>
    have raised : persistDigitConfig faults now middle = (.error (.database error), middle) := by
      unfold persistDigitConfig
      rw [bind_of_ok get_run, fault]
      exact bind_of_error rfl
    rw [handle_of_error (bind_of_error raised)] at failed
    obtain ⟨sequence, config, stored⟩ := restoreDigitConfig_ok restarted failed
    rw [unchanged _ sequence config stored, NothingToLose, sameDb]
    refine and_congr_right fun _ => ?_
    constructor
    · exact fun same => ⟨_, same, fun none => by rw [fault] at none; cases none⟩
    · rintro ⟨sequence, same, -⟩
      rw [same]
      rfl
  | none =>
    obtain ⟨db, configured, state⟩ : ∃ db, configureDigitRiskRuntime
        middle.ledger.digitRuntimePolicy true now middle.db = .ok ((), db) ∧
        db.digitState = some (middle.ledger.digitRuntimePolicy, {}) :=
      configure_resets (policy_validate middle.ledger)
    have written : onDatabase none (configureDigitRiskRuntime middle.ledger.digitRuntimePolicy
        true now) middle = (.ok (), { middle with db }) := by
      simp only [onDatabase, configured]
    cases saving : faults.save with
    | none =>
      have done : persistDigitConfig faults now middle = (.ok (), { middle with db }) := by
        unfold persistDigitConfig
        rw [bind_of_ok get_run, fault, bind_of_ok written, saving]
        rfl
      rw [handle_bind_of_ok done] at failed
      cases failed
    | some error =>
      have raised : persistDigitConfig faults now middle = (.error error, { middle with db }) := by
        unfold persistDigitConfig
        rw [bind_of_ok get_run, fault, bind_of_ok written, saving]
        rfl
      rw [handle_of_error (bind_of_error raised)] at failed
      split at failed
      · have kept : rt.ledger.Restarted (rt.ledger.replacing replaced)
            ({ middle with db } : CoreRuntime).ledger := restarted
        obtain ⟨sequence, config, stored⟩ := restoreDigitConfig_ok kept failed
        rw [state] at stored
        rw [unchanged _ sequence config stored, NothingToLose]
        refine and_congr_right fun _ => ?_
        constructor
        · exact fun same => ⟨_, same, fun _ => rfl⟩
        · rintro ⟨sequence, same, rests⟩
          rw [same, rests fault]
          rfl
      · cases failed

end CoreRuntime

/-- A reconfiguration that answers False has left the configuration, the sequence and the stored
    row alone exactly when it was refused at once, or there was no sequence to lose. -/
theorem failed_reconfiguration_iff (around : Surroundings) (faults : CoreRuntime.PersistenceFaults)
    (now : Instant) (config : DigitRiskConfig) (rt after : CoreRuntime) (reason : Option String)
    (failed : rt.updateDigitRiskConfig around faults now config = (.ok (false, reason), after)) :
    rt.Unchanged after ↔ rt.Refuses config ∨ rt.NothingToLose faults := by
  rw [CoreRuntime.updateDigitRiskConfig, bind_of_ok get_run] at failed
  by_cases isOpen : rt.db.hasNonterminalDerivDigitOrder = true
  · rw [if_pos isOpen] at failed
    cases failed
    exact iff_of_true ⟨rfl, rfl, rfl⟩ (.inl (.inl isOpen))
  · rw [if_neg isOpen] at failed
    cases accepted : config.validate with
    | error refusal =>
      have refused : CoreRuntime.onLedger (updateDigitRiskConfig around config true) rt =
          (.ok (false, some refusal), rt) := by
        unfold CoreRuntime.onLedger
        rw [updateDigitRiskConfig_refused accepted]
        rfl
      rw [bind_of_ok refused] at failed
      cases failed
      exact iff_of_true ⟨rfl, rfl, rfl⟩ (.inl (.inr (by simp [accepted])))
    | ok =>
      obtain ⟨w, updated, restarted⟩ : ∃ w, updateDigitRiskConfig around config true rt.world =
          (.ok (true, none), w) ∧
          rt.ledger.Restarted (rt.ledger.replacing ⟨config, accepted⟩) w.ledger :=
        updateDigitRiskConfig_restarts accepted (.inl rfl)
      have onward : CoreRuntime.onLedger (updateDigitRiskConfig around config true) rt =
          (.ok (true, none), rt.withWorld w) := by
        unfold CoreRuntime.onLedger
        rw [updated]
      rw [bind_of_ok onward] at failed
      have begun : rt.ledger.Restarted (rt.ledger.replacing ⟨config, accepted⟩)
          (rt.withWorld w).ledger := restarted
      rw [CoreRuntime.persistOrRestore_unchanged begun rfl failed, or_iff_right]
      rintro (opened | invalid)
      · exact isOpen opened
      · exact invalid accepted

namespace Sample

/-- The progression has reached its first recovery step, in memory and in the row. -/
def recoveringFields : DigitRiskRuntimeFields :=
  { zeroFields enabledConfig with
    dailyPnlMinor := -100
    consecutiveLosses := 1
    martingaleStep := 1
    pinnedSymbol := some "R_100"
    cumulativeSequenceLossMinor := 100 }

theorem recoveringFields_checks : recoveringFields.Checks := by
  decide

theorem newFingerprint_nonempty : "new policy" ≠ "" := by
  decide

def digestOf (config : DigitRiskConfig) : Fingerprint :=
  if config.dailyStopLossMinorUnits = 5000 then fingerprint
  else ⟨"new policy", newFingerprint_nonempty⟩

def recoveringRuntime : CoreRuntime where
  ledger := { enabledLedger.ledger with
    fingerprintOf := digestOf
    digitDailyPnlMinorUnits := -100
    digitConsecutiveLosses := 1
    digitMartingaleState := ⟨1⟩
    digitRecoverySymbol := some "R_100"
    digitCumulativeSequenceLossMinorUnits := 100 }
  gate := {}
  db := databaseWith ⟨recoveringFields, recoveringFields_checks⟩

def newConfig : DigitRiskConfig :=
  { enabledConfig with dailyStopLossMinorUnits := 4000 }

def saveFails : CoreRuntime.PersistenceFaults :=
  { save := some .store }

def restingRuntime : CoreRuntime where
  ledger := { enabledLedger.ledger with fingerprintOf := digestOf }
  gate := {}
  db := databaseWith enabledZeroRow

end Sample

/-- The file of the configuration cannot be written. The answer is False, and the open loss is
    gone from the ledger and from the row. -/
theorem failed_reconfiguration_forgets :
    (Sample.recoveringRuntime.updateDigitRiskConfig Sample.quiet Sample.saveFails 0
        Sample.newConfig).1.toOption =
        some (false, some "DIGIT_RISK_CONFIG_PERSISTENCE_FAILED") ∧
      Sample.recoveringRuntime.ledger.sequence = ⟨1, 1, some "R_100", 100, none⟩ ∧
      (Sample.recoveringRuntime.updateDigitRiskConfig Sample.quiet Sample.saveFails 0
        Sample.newConfig).2.ledger.sequence = {} ∧
      Sample.recoveringRuntime.db.digitState.map Prod.snd = some ⟨1, 1, some "R_100", 100, none⟩ ∧
      (Sample.recoveringRuntime.updateDigitRiskConfig Sample.quiet Sample.saveFails 0
        Sample.newConfig).2.db.digitState.map Prod.snd = some {} := by
  decide

theorem resting_reconfiguration_unchanged :
    Sample.restingRuntime.Unchanged (Sample.restingRuntime.updateDigitRiskConfig Sample.quiet
      Sample.saveFails 0 Sample.newConfig).2 :=
  (failed_reconfiguration_iff Sample.quiet Sample.saveFails 0 Sample.newConfig
    Sample.restingRuntime _ (some "DIGIT_RISK_CONFIG_PERSISTENCE_FAILED")
    (Prod.ext (by decide) rfl)).mpr
    (.inr ⟨rfl, {}, by decide, fun _ => rfl⟩)

end TradingLab

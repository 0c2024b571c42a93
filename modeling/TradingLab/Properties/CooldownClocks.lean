import TradingLab.Properties.RejectedArm

/-!
# The cooldown and its two clocks

The deadline in memory is a reading of the monotonic clock, and the durable cooldown ends by the
UTC clock. When the deadline has passed, `check_digit_entry` takes over the durable row, and allows
the entry even if the row is still in its cooldown.
-/
namespace TradingLab

open Machine Relational
open Machine.Program RiskLedger

/-! ### The durable cooldown -/

/-- The row is in a cooldown that is not over at that reading of the UTC clock. -/
def DigitRiskRuntimeFields.Unexpired (row : DigitRiskRuntimeFields) (utc : Instant) : Prop :=
  ∃ started duration, row.cooldownStartedAt = some started ∧
    row.cooldownSeconds.reading = .finite duration ∧ elapsedSeconds started utc < duration

def DigitRiskRuntimeFields.Readable (row : DigitRiskRuntimeFields) : Prop :=
  row.cooldownStartedAt = none ∨ ∃ duration, row.cooldownSeconds.reading = .finite duration

def Surroundings.deadlineOf (around : Surroundings) (row : DigitRiskRuntime) : Option Rat :=
  match row.cooldownStartedAt, row.cooldownSeconds.reading with
  | some started, .finite duration =>
    some (around.monotonic + max 0 (cooldownRemaining started duration around.utc))
  | _, _ => none

theorem two_mul_divHalfEven_le (n d : Nat) : 2 * (d * Decimal.divHalfEven n d) ≤ 2 * n + d := by
  have quotient := Nat.div_add_mod n d
  unfold Decimal.divHalfEven
  simp only
  split
  · rw [Nat.mul_add, Nat.mul_one]
    omega
  · omega

theorem le_two_mul_divHalfEven {n d : Nat} (positive : 0 < d) :
    2 * n ≤ 2 * (d * Decimal.divHalfEven n d) + d := by
  have quotient := Nat.div_add_mod n d
  have small := Nat.mod_lt n positive
  unfold Decimal.divHalfEven
  simp only
  split
  · rw [Nat.mul_add, Nat.mul_one]
    omega
  · omega

theorem microseconds_le (seconds : Rat) :
    (microseconds seconds : Rat) ≤ seconds * 1000000 + 1 / 2 := by
  unfold microseconds
  simp only
  generalize seconds * 1000000 = scaled
  have positive : 0 < scaled.den := scaled.den_pos
  have denominator : (0 : Rat) < scaled.den := by exact_mod_cast positive
  have value : (scaled.num : Rat) / scaled.den = scaled := Rat.num_div_den scaled
  by_cases negative : scaled < 0
  · have numerator : (scaled.num.natAbs : Rat) = -scaled.num := by
      have : scaled.num ≤ 0 := le_of_lt (Rat.num_neg.mpr negative)
      rw [Nat.cast_natAbs, abs_of_nonpos this]
      push_cast
      ring
    have bound : (2 * scaled.num.natAbs : Rat) ≤
        2 * (scaled.den * Decimal.divHalfEven scaled.num.natAbs scaled.den) + scaled.den := by
      exact_mod_cast le_two_mul_divHalfEven (n := scaled.num.natAbs) positive
    simp only [negative, decide_true, Decimal.signed, if_true]
    push_cast
    rw [numerator] at bound
    have divided : -(scaled.num : Rat) / scaled.den ≤
        Decimal.divHalfEven scaled.num.natAbs scaled.den + 1 / 2 := by
      rw [div_le_iff₀ denominator]
      linarith
    rw [neg_div, value] at divided
    linarith
  · have numerator : (scaled.num.natAbs : Rat) = scaled.num := by
      have : 0 ≤ scaled.num := Rat.num_nonneg.mpr (not_lt.mp negative)
      rw [Nat.cast_natAbs, abs_of_nonneg this]
    have bound : (2 * (scaled.den * Decimal.divHalfEven scaled.num.natAbs scaled.den) : Rat) ≤
        2 * scaled.num.natAbs + scaled.den := by
      exact_mod_cast two_mul_divHalfEven_le scaled.num.natAbs scaled.den
    simp only [negative, decide_false, Decimal.signed, Bool.false_eq_true, if_false]
    push_cast
    rw [numerator] at bound
    have divided : (Decimal.divHalfEven scaled.num.natAbs scaled.den : Rat) - 1 / 2 ≤
        scaled.num / scaled.den := by
      rw [le_div_iff₀ denominator]
      linarith
    rw [value] at divided
    linarith

theorem deadlineOf_le {around : Surroundings} {row : DigitRiskRuntime}
    (past : ¬ row.Unexpired around.utc) {deadline : Rat}
    (installed : around.deadlineOf row = some deadline) : deadline ≤ around.monotonic := by
  unfold Surroundings.deadlineOf at installed
  split at installed
  · rename_i started duration isStarted isDuration
    cases installed
    have elapsed : duration ≤ elapsedSeconds started around.utc := by
      by_contra early
      exact past ⟨started, duration, isStarted, isDuration, not_le.mp early⟩
    have remaining : cooldownRemaining started duration around.utc ≤ 0 := by
      have rounded := microseconds_le duration
      rw [elapsedSeconds, Rat.mkRat_eq_div] at elapsed
      push_cast at elapsed
      rw [le_div_iff₀ (by norm_num)] at elapsed
      -- Both sides are whole numbers of microseconds, so half a microsecond is not enough.
      have whole : microseconds duration ≤ around.utc - started := by
        have real : (microseconds duration : Rat) < ((around.utc - started + 1 : Int) : Rat) := by
          push_cast
          linarith
        exact Int.lt_add_one_iff.mp (by exact_mod_cast real)
      rw [cooldownRemaining, Rat.mkRat_eq_div]
      apply div_nonpos_of_nonpos_of_nonneg
      · have past : started + microseconds duration - around.utc ≤ 0 := by linarith
        exact_mod_cast past
      · norm_num
    rw [max_eq_left remaining, add_zero]
  · cases installed

/-! ### What the check does with the row -/

/-- `check_digit_entry` takes the cooldown for over and goes on with this row. -/
structure RiskLedger.TakesOver (ledger : RiskLedger) (around : Surroundings)
    (config : DigitRiskConfig) (row : DigitRiskRuntime) : Prop where
  accepted : config.validate = .ok ()
  passed : ledger.entryRefusal around.monotonic config = none
  deadline : ledger.digitCooldownDeadline ≠ none
  answered : around.expirer = some (.ok (some row))
  samePolicy : row.configFingerprint = ledger.digitRuntimePolicy.configFingerprint
  readable : row.Readable

def RiskLedger.withRow (ledger : RiskLedger) (around : Surroundings) (row : DigitRiskRuntime) :
    RiskLedger :=
  { ledger.restoreRow row with digitCooldownDeadline := around.deadlineOf row }

section Refresh
variable {around : Surroundings} {config : DigitRiskConfig} {w after : RiskWorld}
  {row : DigitRiskRuntime} {answer : Unit}

theorem restoreCooldown_of_readable (readable : row.Readable) :
    restoreCooldown around row w = (.ok (), w.onLedger fun ledger =>
      { ledger with digitCooldownDeadline := around.deadlineOf row }) := by
  unfold restoreCooldown Surroundings.deadlineOf
  cases started : row.cooldownStartedAt with
  | none => rfl
  | some at_ =>
    rcases readable with none | ⟨duration, isDuration⟩
    · rw [none] at started
      cases started
    · rw [isDuration]
      rfl

theorem restoreCooldown_ok
    (restored : restoreCooldown around row w = (.ok answer, after)) : row.Readable := by
  unfold restoreCooldown at restored
  cases started : row.cooldownStartedAt with
  | none => exact .inl started
  | some at_ =>
    rw [started] at restored
    cases reading : row.cooldownSeconds.reading with
    | finite duration => exact .inr ⟨duration, reading⟩
    | invalid | notFinite =>
      rw [reading] at restored
      cases restored

theorem refreshDigitRuntime_ok (refreshed : refreshDigitRuntime around w = (.ok answer, after)) :
    (∃ row, around.expirer = some (.ok (some row)) ∧
      row.configFingerprint = w.ledger.digitRuntimePolicy.configFingerprint ∧ row.Readable ∧
      after = w.onLedger fun ledger => ledger.withRow around row) ∨
    (∀ row, around.expirer ≠ some (.ok (some row))) ∧ after = w := by
  unfold refreshDigitRuntime at refreshed
  match found : around.expirer with
  | none =>
    rw [found] at refreshed
    cases refreshed
    exact .inr ⟨by simp, rfl⟩
  | some (.error error) =>
    rw [found] at refreshed
    cases refreshed
  | some (.ok none) =>
    rw [found] at refreshed
    cases refreshed
    exact .inr ⟨by simp, rfl⟩
  | some (.ok (some row)) =>
    rw [found] at refreshed
    left
    refine ⟨row, rfl, ?_⟩
    obtain ⟨seen, middle, isSeen, rest⟩ := bind_eq_ok.mp refreshed
    cases isSeen
    split at rest
    · cases rest
    · rename_i same
      rw [bind_of_ok modify_run] at rest
      have readable := restoreCooldown_ok rest
      rw [restoreCooldown_of_readable readable] at rest
      cases rest
      exact ⟨not_not.mp same, readable, rfl⟩

theorem refreshDigitRuntime_of_row (answered : around.expirer = some (.ok (some row)))
    (same : row.configFingerprint = w.ledger.digitRuntimePolicy.configFingerprint)
    (readable : row.Readable) :
    refreshDigitRuntime around w =
      (.ok (), w.onLedger fun ledger => ledger.withRow around row) := by
  unfold refreshDigitRuntime
  rw [answered]
  refine (bind_of_ok get_run).trans ?_
  rw [if_neg (not_not.mpr same), bind_of_ok modify_run,
    restoreCooldown_of_readable readable]
  rfl

end Refresh

/-! ### Honouring the cooldown -/

/-- What a call of `check_digit_entry` owes to the cooldown. -/
structure CooldownHonoured (around : Surroundings) (before : RiskWorld)
    (answer : Except RiskError (Bool × Option String)) (after : RiskWorld) : Prop where
  /-- An entry is allowed when no deadline is ahead. -/
  deadline : answer = .ok (true, none) →
    ∀ deadline, after.ledger.digitCooldownDeadline = some deadline → deadline ≤ around.monotonic
  /-- The expirer is asked when there was a deadline; its row is then out of its cooldown. -/
  durable : answer = .ok (true, none) → before.ledger.digitCooldownDeadline ≠ none →
    ∀ row, around.expirer = some (.ok (some row)) → ¬ row.Unexpired around.utc
  /-- HG_COOLDOWN_ACTIVE is cleared in that case only. -/
  cleared : ∀ gate later, before.gate = some gate → after.gate = some later →
    gate.contains cooldownReason = true → later.contains cooldownReason = false →
      answer = .ok (true, none)

/-- The row that is taken over is out of its cooldown if it leaves a loss budget; if it leaves
    none, there is no HG_COOLDOWN_ACTIVE to clear. -/
def SafeToTakeOver (around : Surroundings) (config : DigitRiskConfig) (w : RiskWorld)
    (row : DigitRiskRuntime) : Prop :=
  (0 < config.dailyStopLossMinorUnits + row.dailyPnlMinor → ¬ row.Unexpired around.utc) ∧
  (config.dailyStopLossMinorUnits + row.dailyPnlMinor ≤ 0 → w.ledger.riskState = .cooldown ∨
    ∀ gate, w.gate = some gate → gate.contains cooldownReason = false)

section Check
variable {around : Surroundings} {config : DigitRiskConfig} {w after : RiskWorld}
  {gate : HealthGate} {reason other : String} {row : DigitRiskRuntime}

theorem HealthGate.contains_of_block
    (there : gate.contains other = true) : (gate.block reason).contains other = true := by
  unfold HealthGate.contains at there ⊢
  rw [Bool.or_eq_true] at there ⊢
  rcases there with global | scope
  · left
    rw [List.contains_iff_mem] at global ⊢
    exact HealthGate.mem_block.mpr (.inl global)
  · exact .inr scope

theorem cooldownHonoured_of_refused {answer : Except RiskError (Bool × Option String)}
    (refused : answer ≠ .ok (true, none))
    (gate : after.gate = w.gate ∨ ∃ reason, after.gate = (w.block reason).gate) :
    CooldownHonoured around w answer after := by
  refine ⟨fun allowed => absurd allowed refused, fun allowed => absurd allowed refused, ?_⟩
  intro first later isFirst isLater there gone
  exfalso
  rcases gate with same | ⟨reason, blocked⟩
  · rw [isLater, isFirst] at same
    cases same
    rw [there] at gone
    cases gone
  · simp only [RiskWorld.block, isLater, isFirst, Option.map_some, Option.some.injEq] at blocked
    rw [blocked, HealthGate.contains_of_block there] at gone
    cases gone

theorem budget_of_passed {ledger : RiskLedger} {monotonic : Rat}
    (passed : ledger.entryRefusal monotonic config = none) :
    0 < ledger.remainingLossBudget config := by
  unfold entryRefusal at passed
  split at passed
  · cases passed
  · rename_i unlocked
    rw [remainingLossBudget]
    have := not_le.mp fun low => unlocked (.inr low)
    omega

theorem checkLossBudget_of_pos (left : 0 < w.ledger.remainingLossBudget config) :
    checkLossBudget config w = (.ok (true, none), w) := by
  refine (bind_of_ok get_run).trans ?_
  rw [if_neg (not_le.mpr left)]
  rfl

theorem checkLossBudget_of_spent (spent : w.ledger.remainingLossBudget config ≤ 0) :
    checkLossBudget config w =
      (.ok (false, some dailyStopReason), (w.onLedger lock).block dailyStopReason) := by
  refine (bind_of_ok get_run).trans ?_
  rw [if_pos spent]
  rfl

theorem checkDigitEntry_ledger (accepted : config.validate = .ok ())
    (running : ¬ (w.ledger.entryRefusal around.monotonic config = none ∧
      w.ledger.digitCooldownDeadline ≠ none)) :
    ∃ answer after, checkDigitEntry around config w = (.ok answer, after) ∧
      after.ledger = w.ledger := by
  cases refusal : w.ledger.entryRefusal around.monotonic config with
  | some reason => exact ⟨_, _, checkDigitEntry_of_refusal accepted refusal, rfl⟩
  | none =>
    have noDeadline : w.ledger.digitCooldownDeadline = none := by
      by_contra deadline
      exact running ⟨refusal, deadline⟩
    have ended : endElapsedCooldown around w = (.ok (), w) := by
      refine (bind_of_ok get_run).trans ?_
      rw [noDeadline]
      rfl
    refine ⟨(true, none), w, ?_, rfl⟩
    rw [checkDigitEntry_of_passed accepted refusal, bind_of_ok ended,
      checkLossBudget_of_pos (budget_of_passed refusal)]

def RiskWorld.cooldownEnded (w : RiskWorld) : RiskWorld :=
  if w.ledger.riskState = .cooldown then w else w.clear cooldownReason

@[simp] theorem cooldownEnded_ledger (w : RiskWorld) : w.cooldownEnded.ledger = w.ledger := by
  unfold RiskWorld.cooldownEnded
  split <;> rfl

theorem endElapsedCooldown_run (deadline : w.ledger.digitCooldownDeadline ≠ none) :
    endElapsedCooldown around w =
      (refreshDigitRuntime around >>= fun _ => Program.modify RiskWorld.cooldownEnded)
        (w.onLedger endDigitCooldown) := by
  refine (bind_of_ok get_run).trans ?_
  cases found : w.ledger.digitCooldownDeadline with
  | none => exact absurd found deadline
  | some at_ => rfl

theorem checkDigitEntry_without_row (accepted : config.validate = .ok ())
    (passed : w.ledger.entryRefusal around.monotonic config = none)
    (deadline : w.ledger.digitCooldownDeadline ≠ none)
    (refreshed : refreshDigitRuntime around (w.onLedger endDigitCooldown) =
      (.ok (), w.onLedger endDigitCooldown)) :
    checkDigitEntry around config w =
      (.ok (true, none), (w.onLedger endDigitCooldown).cooldownEnded) := by
  rw [checkDigitEntry_of_passed accepted passed]
  have ended : endElapsedCooldown around w =
      (.ok (), (w.onLedger endDigitCooldown).cooldownEnded) := by
    rw [endElapsedCooldown_run deadline, bind_of_ok refreshed, modify_run]
  have left : 0 < w.ledger.remainingLossBudget config := budget_of_passed passed
  rw [bind_of_ok ended, checkLossBudget_of_pos]
  rw [remainingLossBudget, cooldownEnded_ledger]
  exact left

def RiskWorld.takenOver (w : RiskWorld) (around : Surroundings) (row : DigitRiskRuntime) :
    RiskWorld :=
  (w.onLedger fun ledger => ledger.endDigitCooldown.withRow around row).cooldownEnded

theorem checkDigitEntry_of_takesOver (takes : w.ledger.TakesOver around config row) :
    checkDigitEntry around config w =
      checkLossBudget config (w.takenOver around row) := by
  rw [checkDigitEntry_of_passed takes.accepted takes.passed]
  have refreshed := refreshDigitRuntime_of_row (w := w.onLedger endDigitCooldown)
    takes.answered takes.samePolicy takes.readable
  have ended : endElapsedCooldown around w = (.ok (), w.takenOver around row) := by
    rw [endElapsedCooldown_run takes.deadline, bind_of_ok refreshed]
    rfl
  rw [bind_of_ok ended]

theorem cooldownEnded_gate_cleared (isGate : w.gate = some gate)
    (other : w.ledger.riskState ≠ .cooldown) :
    w.cooldownEnded.gate = some (gate.clearIf cooldownReason) := by
  rw [RiskWorld.cooldownEnded, if_neg other, RiskWorld.clear, isGate]
  rfl

theorem HealthGate.contains_block_of_ne
    (absent : gate.contains other = false) (differs : other ≠ reason) :
    (gate.block reason).contains other = false := by
  unfold HealthGate.contains at absent ⊢
  rw [Bool.or_eq_false_iff] at absent ⊢
  refine ⟨?_, absent.2⟩
  have missing : other ∉ gate.blockers := by
    simpa using absent.1
  have still : other ∉ (gate.block reason).blockers := fun member =>
    (HealthGate.mem_block.mp member).elim missing differs
  simpa using still

theorem takenOver_budget (row : DigitRiskRuntime) :
    (w.takenOver around row).ledger.remainingLossBudget config =
      config.dailyStopLossMinorUnits + row.dailyPnlMinor := by
  rw [RiskWorld.takenOver, cooldownEnded_ledger]
  rfl

theorem takenOver_deadline (row : DigitRiskRuntime) :
    (w.takenOver around row).ledger.digitCooldownDeadline = around.deadlineOf row := by
  rw [RiskWorld.takenOver, cooldownEnded_ledger]
  rfl

theorem safeToTakeOver_of_honoured (takes : w.ledger.TakesOver around config row)
    (honoured : CooldownHonoured around w (checkDigitEntry around config w).1
      (checkDigitEntry around config w).2) : SafeToTakeOver around config w row := by
  rw [checkDigitEntry_of_takesOver takes] at honoured
  constructor
  · intro left
    rw [checkLossBudget_of_pos (by rwa [takenOver_budget])] at honoured
    exact honoured.durable rfl takes.deadline row takes.answered
  · intro spent
    rw [checkLossBudget_of_spent (by rwa [takenOver_budget])] at honoured
    by_contra unsafe_
    push Not at unsafe_
    obtain ⟨other, gate, isGate, there⟩ := unsafe_
    -- The gate is cleared, and then the entry is refused for the daily stop.
    have cleared := cooldownEnded_gate_cleared
      (w := w.onLedger fun ledger => ledger.endDigitCooldown.withRow around row) isGate other
    have absent : (gate.clearIf cooldownReason).contains cooldownReason = false :=
      HealthGate.contains_clearIf cooldownReason
    have gone := HealthGate.contains_block_of_ne absent
      (by decide : cooldownReason ≠ dailyStopReason)
    have blocked : (((w.takenOver around row).onLedger lock).block
        dailyStopReason).gate = some ((gate.clearIf cooldownReason).block dailyStopReason) := by
      have same : (w.takenOver around row).gate = some (gate.clearIf cooldownReason) := cleared
      rw [RiskWorld.block, RiskWorld.onLedger, same]
      rfl
    have impossible := honoured.cleared gate _ isGate blocked
      (Bool.eq_true_of_not_eq_false there) gone
    cases impossible

theorem honoured_of_safeToTakeOver
    (takes : w.ledger.TakesOver around config row) (safe : SafeToTakeOver around config w row) :
    CooldownHonoured around w (checkDigitEntry around config w).1
      (checkDigitEntry around config w).2 := by
  rw [checkDigitEntry_of_takesOver takes]
  by_cases spent : config.dailyStopLossMinorUnits + row.dailyPnlMinor ≤ 0
  · rw [checkLossBudget_of_spent (by rwa [takenOver_budget])]
    refine ⟨nofun, nofun, ?_⟩
    intro gate later isGate isLater there gone
    exfalso
    rcases safe.2 spent with cooling | absent
    · -- The consolidated cooldown keeps the reason in the gate.
      have same : (w.takenOver around row).gate = some gate := by
        rw [RiskWorld.takenOver, RiskWorld.cooldownEnded, if_pos (by exact cooling)]
        exact isGate
      rw [RiskWorld.block, RiskWorld.onLedger, same] at isLater
      cases isLater
      rw [HealthGate.contains_of_block there] at gone
      cases gone
    · rw [absent gate isGate] at there
      cases there
  · have left := not_le.mp spent
    rw [checkLossBudget_of_pos (by rwa [takenOver_budget])]
    refine ⟨fun _ deadline installed => ?_, fun _ _ other answered => ?_, fun _ _ _ _ _ _ => rfl⟩
    · rw [takenOver_deadline] at installed
      exact deadlineOf_le (safe.1 left) installed
    · rw [takes.answered] at answered
      cases answered
      exact safe.1 left

theorem honoured_of_not_takesOver (none : ∀ row, ¬ w.ledger.TakesOver around config row) :
    CooldownHonoured around w (checkDigitEntry around config w).1
      (checkDigitEntry around config w).2 := by
  cases accepted : config.validate with
  | error reason =>
    have run : checkDigitEntry around config w = (.ok (false, some reason), w) := by
      unfold checkDigitEntry
      rw [accepted]
      rfl
    rw [run]
    exact cooldownHonoured_of_refused (by simp) (.inl rfl)
  | ok =>
    cases refusal : w.ledger.entryRefusal around.monotonic config with
    | some reason =>
      rw [checkDigitEntry_of_refusal accepted refusal]
      exact cooldownHonoured_of_refused (by simp) (.inr ⟨reason, rfl⟩)
    | none =>
      by_cases deadline : w.ledger.digitCooldownDeadline = Option.none
      · have ended : endElapsedCooldown around w = (.ok (), w) := by
          refine (bind_of_ok get_run).trans ?_
          rw [deadline]
          rfl
        rw [checkDigitEntry_of_passed accepted refusal, bind_of_ok ended,
          checkLossBudget_of_pos (budget_of_passed refusal)]
        refine ⟨fun _ later installed => ?_, fun _ some => absurd deadline some,
          fun _ _ _ _ _ _ => rfl⟩
        rw [deadline] at installed
        cases installed
      · cases refreshed : refreshDigitRuntime around (w.onLedger endDigitCooldown) with
        | mk answer middle =>
          cases answer with
          | error error =>
            have kept := refreshDigitRuntime_gate around (w.onLedger endDigitCooldown)
            rw [refreshed] at kept
            have ended : endElapsedCooldown around w = (.error error, middle) := by
              rw [endElapsedCooldown_run deadline, bind_of_error refreshed]
            rw [checkDigitEntry_of_passed accepted refusal, bind_of_error ended]
            exact cooldownHonoured_of_refused (by simp) (.inl kept)
          | ok =>
            rcases refreshDigitRuntime_ok refreshed with
              ⟨row, answered, same, readable, _⟩ | ⟨noRow, unchanged⟩
            · exact absurd ⟨accepted, refusal, deadline, answered, same, readable⟩ (none row)
            · rw [unchanged] at refreshed
              rw [checkDigitEntry_without_row accepted refusal deadline refreshed]
              refine ⟨fun _ later installed => ?_, fun _ _ row answered =>
                absurd answered (noRow row),
                fun _ _ _ _ _ _ => rfl⟩
              rw [cooldownEnded_ledger] at installed
              cases installed

end Check

/-- A call of `check_digit_entry` honours the cooldown exactly when the row it takes over, if it
    takes one over, is out of its cooldown by the UTC clock and does not exhaust the loss budget
    behind a cooldown that is cleared. -/
theorem cooldown_honoured_iff (around : Surroundings) (config : DigitRiskConfig) (w : RiskWorld) :
    CooldownHonoured around w (checkDigitEntry around config w).1
      (checkDigitEntry around config w).2 ↔
    ∀ row, w.ledger.TakesOver around config row → SafeToTakeOver around config w row := by
  constructor
  · intro honoured row takes
    exact safeToTakeOver_of_honoured takes honoured
  · intro safe
    by_cases taken : ∃ row, w.ledger.TakesOver around config row
    · obtain ⟨row, takes⟩ := taken
      exact honoured_of_safeToTakeOver takes (safe row takes)
    · exact honoured_of_not_takesOver fun row takes => taken ⟨row, takes⟩

namespace Sample

/-- A loss has started a cooldown of thirty seconds, under the default policy. -/
def coolingFields : DigitRiskRuntimeFields where
  configFingerprint := "policy"
  currency := "USD"
  martingaleEnabled := false
  martingaleMaxSteps := 2
  maxConsecutiveLosses := 1
  cooldownSeconds := ⟨"30.0", .finite 30⟩
  dailyPnlMinor := -100
  consecutiveLosses := 1
  cumulativeSequenceLossMinor := 100
  cooldownStartedAt := some 0
  updatedAt := 0

theorem coolingFields_checks : coolingFields.Checks := by
  decide

def coolingDatabase : Database :=
  { Database.empty with digitRiskRuntime := some ⟨coolingFields, coolingFields_checks⟩ }

def coolingLedger : RiskWorld where
  ledger := { freshLedger.ledger with
    digitDailyPnlMinorUnits := -100
    digitConsecutiveLosses := 1
    digitCooldownDeadline := some 30 }
  gate := some { blockers := [cooldownReason] }

/-- Thirty seconds later by the monotonic clock, and ten seconds later by the UTC clock. -/
def laggingClock : Surroundings where
  monotonic := 30
  utc := 10000000
  expirer := some ((expireDigitCooldown 10000000 coolingDatabase).map Prod.fst)

end Sample

/-- The UTC clock lags behind: the entry is allowed, HG_COOLDOWN_ACTIVE is cleared, and the
    ledger has a deadline that is twenty seconds ahead. -/
theorem cooldown_ended_early :
    (checkDigitEntry Sample.laggingClock {} Sample.coolingLedger).1.toOption =
        some (true, none) ∧
      (checkDigitEntry Sample.laggingClock {} Sample.coolingLedger).2.ledger.digitCooldownDeadline =
        some 50 ∧
      Sample.laggingClock.monotonic < 50 ∧
      Sample.coolingFields.cooldownStartedAt = some 0 ∧
      elapsedSeconds 0 Sample.laggingClock.utc < 30 ∧
      (checkDigitEntry Sample.laggingClock {} Sample.coolingLedger).2.gate.map
        (fun gate => gate.contains cooldownReason) = some false := by
  decide +kernel

end TradingLab

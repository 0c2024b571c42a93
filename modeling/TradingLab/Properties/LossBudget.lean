import TradingLab.Properties.Progressions

/-!
# The daily loss budget

What is left to lose on a day is the daily stop loss and the digit result of the day. A recovery
stake never exceeds this budget, but the first stake of a sequence is the base stake, whatever is
left.
-/
namespace TradingLab

open Machine
open RiskLedger Machine.Program

/-! ### Entries -/

inductive DeskOp
  | check (around : Surroundings)
  | stake (around : Surroundings) (netProfitRatio : Option Decimal)
  | reserve (around : Surroundings) (request : OrderRequest) (exposure : ExposureReading)
  | settle (around : Surroundings) (pnlMinorUnits : Int)

/-- The ledger, the stake of the entry that is open, and a log of the stakes that were allocated
    or reserved, each with the budget at that moment. -/
structure DigitDesk where
  world : RiskWorld
  reserved : Option Int := none
  log : List (Int × Int) := []

def RiskLedger.budget (ledger : RiskLedger) : Int :=
  ledger.remainingLossBudget ledger.digitConfig.1

namespace DigitDesk

def step (desk : DigitDesk) : DeskOp → DigitDesk
  | .check around => { desk with world := (checkActiveDigitEntry around desk.world).2 }
  | .stake around netProfitRatio =>
    match digitEntryStake around netProfitRatio desk.world with
    | (.ok stake, after) =>
      { desk with world := after, log := (stake, after.ledger.budget) :: desk.log }
    | (.error _, after) => { desk with world := after }
  | .reserve around request exposure =>
    match TradingLab.reserve around request exposure desk.world with
    | (.ok amount, after) =>
      { world := after
        reserved := some amount.minorUnits
        log := (amount.minorUnits, after.ledger.budget) :: desk.log }
    | (.error _, after) => { desk with world := after }
  | .settle around pnlMinorUnits =>
    { desk with
      world := (applyDigitRealizedPnl around pnlMinorUnits
        desk.world.ledger.digitConfig.1.currency desk.world).2
      reserved := none }

end DigitDesk

/-- A row that the expirer returns records the same settlements: the result of the day is the
    ledger's, and a sequence that goes on has a loss to recover. -/
def Surroundings.Carries (around : Surroundings) (dailyPnl : Int) : Prop :=
  ∀ row, around.expirer = some (.ok (some row)) →
    row.dailyPnlMinor = dailyPnl ∧ (0 < row.martingaleStep → 0 < row.cumulativeSequenceLossMinor)

/-- Entries are sequential, and none loses more than its stake. -/
def DigitDesk.Admissible (desk : DigitDesk) : DeskOp → Prop
  | .check around => around.Carries desk.world.ledger.digitDailyPnlMinorUnits
  | .stake around _ => around.Carries desk.world.ledger.digitDailyPnlMinorUnits
  | .reserve around request _ =>
    around.Carries desk.world.ledger.digitDailyPnlMinorUnits ∧ desk.reserved = none ∧
      isDigitProduct request.product = true
  | .settle around pnlMinorUnits =>
    around.Carries (desk.world.ledger.digitDailyPnlMinorUnits + pnlMinorUnits) ∧
      ∃ stake, desk.reserved = some stake ∧ -stake ≤ pnlMinorUnits

/-- Every stake so far was within the budget of its moment. -/
def DigitDesk.Within (desk : DigitDesk) : Prop :=
  ∀ entry ∈ desk.log, entry.1 ≤ entry.2

/-- Where the base stake is used, it fits: when an entry is allowed at the start of a sequence,
    and when a reservation is accepted without an allocated stake. -/
def DigitDesk.BaseFits (desk : DigitDesk) : DeskOp → Prop
  | .stake around _ => ∀ answer after,
    checkActiveDigitEntry around desk.world = (.ok answer, after) → answer.1 = true →
      after.ledger.digitMartingaleState.step = 0 →
      desk.world.ledger.digitConfig.1.stakeMinorUnits ≤ desk.world.ledger.budget
  | .reserve around request exposure => ∀ amount after,
    TradingLab.reserve around request exposure desk.world = (.ok amount, after) →
      desk.world.ledger.digitExpectedStakeMinorUnits = none →
      desk.world.ledger.digitConfig.1.stakeMinorUnits ≤ desk.world.ledger.budget
  | _ => True

/-! ### What a check leaves alone -/

/-- A loss to recover stands behind every recovery step. -/
def RiskLedger.OpenLoss (ledger : RiskLedger) : Prop :=
  0 ≤ ledger.digitCumulativeSequenceLossMinorUnits ∧
    (0 < ledger.digitMartingaleState.step → 0 < ledger.digitCumulativeSequenceLossMinorUnits)

/-- The configuration, the result of the day and the allocated stake. -/
structure RiskWorld.Books (config : ValidDigitRiskConfig) (dailyPnl : Int) (expected : Option Int)
    (w : RiskWorld) : Prop where
  config : w.ledger.digitConfig = config
  dailyPnl : w.ledger.digitDailyPnlMinorUnits = dailyPnl
  expected : w.ledger.digitExpectedStakeMinorUnits = expected
  openLoss : w.ledger.OpenLoss

section Check
variable {config : ValidDigitRiskConfig} {dailyPnl : Int} {expected : Option Int}
  {around : Surroundings} {w : RiskWorld}

theorem books_gate (books : w.Books config dailyPnl expected) (gate : Option HealthGate) :
    RiskWorld.Books config dailyPnl expected { w with gate := gate } :=
  ⟨books.config, books.dailyPnl, books.expected, books.openLoss⟩

theorem restoreCooldown_books (row : DigitRiskRuntime) :
    (restoreCooldown around row).Preserves (RiskWorld.Books config dailyPnl expected) := by
  intro w books
  unfold restoreCooldown
  cases row.cooldownStartedAt with
  | none => exact ⟨books.config, books.dailyPnl, books.expected, books.openLoss⟩
  | some started =>
    cases row.cooldownSeconds.reading with
    | finite duration => exact ⟨books.config, books.dailyPnl, books.expected, books.openLoss⟩
    | invalid | notFinite => exact books

theorem restoreRow_books {row : DigitRiskRuntime}
    (books : w.Books config dailyPnl expected) (same : row.dailyPnlMinor = dailyPnl)
    (owed : 0 < row.martingaleStep → 0 < row.cumulativeSequenceLossMinor) :
    (w.onLedger fun ledger => ledger.restoreRow row).Books config dailyPnl expected := by
  obtain ⟨-, -, -, -, stepNonneg, lossNonneg⟩ := row.checks
  refine ⟨books.config, same, books.expected, lossNonneg, fun further => owed ?_⟩
  simp only [RiskWorld.onLedger, restoreRow] at further
  omega

theorem refreshDigitRuntime_books (carries : around.Carries dailyPnl) :
    (refreshDigitRuntime around).Preserves (RiskWorld.Books config dailyPnl expected) := by
  unfold refreshDigitRuntime
  match found : around.expirer with
  | none => exact preserves_pure
  | some (.error error) => exact preserves_raise
  | some (.ok none) => exact preserves_pure
  | some (.ok (some row)) =>
    obtain ⟨same, owed⟩ := carries row found
    refine preserves_bind preserves_get fun seen => ?_
    split
    · exact preserves_raise
    · refine preserves_bind (preserves_modify fun w books => ?_)
        fun _ => restoreCooldown_books row
      exact restoreRow_books books same owed

theorem endElapsedCooldown_books (carries : around.Carries dailyPnl) :
    (endElapsedCooldown around).Preserves (RiskWorld.Books config dailyPnl expected) := by
  refine preserves_bind preserves_get fun seen => ?_
  cases seen.ledger.digitCooldownDeadline with
  | none => exact preserves_pure
  | some deadline =>
    refine preserves_bind (preserves_modify fun w books => ?_) fun _ =>
      preserves_bind (refreshDigitRuntime_books carries) fun _ =>
        preserves_modify fun w books => ?_
    · -- The sequence is over: no step is left, and no loss.
      exact ⟨books.config, books.dailyPnl, books.expected, Int.le_refl 0,
        fun further => absurd further (Nat.lt_irrefl 0)⟩
    · split
      · exact books
      · exact books_gate books _

theorem checkLossBudget_books (limits : DigitRiskConfig) :
    (checkLossBudget limits).Preserves (RiskWorld.Books config dailyPnl expected) := by
  refine preserves_bind preserves_get fun seen => ?_
  split
  · refine preserves_bind (preserves_modify fun w books => ?_)
      fun _ => preserves_pure
    exact ⟨books.config, books.dailyPnl, books.expected, books.openLoss⟩
  · exact preserves_pure

theorem checkActiveDigitEntry_books (carries : around.Carries dailyPnl) :
    (checkActiveDigitEntry around).Preserves (RiskWorld.Books config dailyPnl expected) := by
  refine preserves_bind preserves_get fun seen => ?_
  unfold checkDigitEntry
  cases seen.ledger.digitConfig.1.validate with
  | error reason => exact preserves_pure
  | ok =>
    refine preserves_bind preserves_get fun now => ?_
    cases now.ledger.entryRefusal around.monotonic seen.ledger.digitConfig.1 with
    | some reason =>
      exact preserves_bind (preserves_modify fun w books => books_gate books _)
        fun _ => preserves_pure
    | none =>
      exact preserves_bind (endElapsedCooldown_books carries)
        fun _ => checkLossBudget_books _

end Check

/-! ### The size of a stake -/

variable {stake : Int} {netProfitRatio : Decimal} {ledger : RiskLedger}

theorem recoveryStake_le {config : BoundedMartingaleConfig} {state : BoundedMartingaleState}
    {outstandingLoss remainingLossBudget : Int}
    (allocated : BoundedMartingaleAllocator.recoveryStake config state outstandingLoss
      netProfitRatio remainingLossBudget = .ok stake)
    (further : state.step ≠ 0) (owed : 0 < outstandingLoss) : stake ≤ remainingLossBudget := by
  have capped : BoundedMartingaleAllocator.hardCap config remainingLossBudget ≤
      remainingLossBudget := min_le_right _ _
  unfold BoundedMartingaleAllocator.recoveryStake at allocated
  rw [if_neg (by simp [further, owed])] at allocated
  split at allocated
  · cases allocated
  · split at allocated
    · cases allocated
    · split at allocated
      · cases allocated
      · obtain ⟨full, -, allocated⟩ := Except.bind_ok_iff.mp allocated
        split at allocated
        · rename_i fits
          cases allocated
          exact fits.trans capped
        · obtain ⟨slice, -, allocated⟩ := Except.bind_ok_iff.mp allocated
          obtain ⟨divided, -, allocated⟩ := Except.bind_ok_iff.mp allocated
          split at allocated
          · rename_i fits
            cases allocated
            exact fits.trans capped
          · cases allocated

theorem ledger_recoveryStake_le (allocated : ledger.recoveryStake netProfitRatio = .ok stake)
    (further : ledger.digitMartingaleState.step ≠ 0) (openLoss : ledger.OpenLoss) :
    stake ≤ ledger.budget := by
  unfold recoveryStake at allocated
  split at allocated
  · cases allocated
  · split at allocated
    · rename_i made
      cases allocated
      exact recoveryStake_le made further (openLoss.2 (Nat.pos_of_ne_zero further))
    · cases allocated
    · cases allocated

theorem entryStake_le {netProfitRatio : Option Decimal}
    (allocated : ledger.entryStake netProfitRatio = .ok stake) (openLoss : ledger.OpenLoss)
    (fits : ledger.digitMartingaleState.step = 0 →
      ledger.digitConfig.1.stakeMinorUnits ≤ ledger.budget) : stake ≤ ledger.budget := by
  unfold entryStake at allocated
  split at allocated
  · rename_i first
    cases allocated
    exact fits first
  · rename_i further
    split at allocated
    · cases allocated
    · exact ledger_recoveryStake_le allocated further openLoss

theorem checkStake_ok {amount : Int} (enabled : ledger.digitConfig.1.martingaleEnabled = true)
    (accepted : ledger.checkStake amount = .ok ()) :
    ledger.digitExpectedStakeMinorUnits = some amount ∨
      ledger.digitExpectedStakeMinorUnits = none ∧
        amount = ledger.digitConfig.1.stakeMinorUnits := by
  unfold checkStake at accepted
  rw [enabled, if_neg (by decide)] at accepted
  split at accepted
  · cases accepted
  · rename_i quoted
    obtain ⟨expected, current, same⟩ := Except.bind_ok_iff.mp accepted
    have same : amount = expected := by
      by_contra differs
      rw [if_pos differs] at same
      cases same
    rw [same]
    unfold currentDigitStake at current
    cases cached : ledger.digitExpectedStakeMinorUnits with
    | some stake =>
      rw [cached] at current
      cases current
      exact .inl rfl
    | none =>
      rw [cached] at current quoted
      refine .inr ⟨rfl, ?_⟩
      cases ratio : ledger.digitLastNetProfitRatio with
      | none =>
        rw [ratio] at current
        cases current
        rfl
      | some ratio' =>
        have first : ledger.digitMartingaleState.step = 0 := by simpa using quoted
        rw [ratio] at current
        simp only [first, if_true] at current
        cases current
        rfl

theorem settleDigit_openLoss (openLoss : ledger.OpenLoss)
    (monotonic cooldown : Rat) (pnlMinorUnits : Int) :
    (ledger.settleDigit monotonic cooldown pnlMinorUnits).OpenLoss := by
  have ended : ∀ later : RiskLedger, later.digitMartingaleState.step = 0 →
      later.digitCumulativeSequenceLossMinorUnits = 0 → later.OpenLoss := by
    intro later first none
    rw [RiskLedger.OpenLoss, first, none]
    exact ⟨Int.le_refl 0, fun further => absurd further (Nat.lt_irrefl 0)⟩
  have owed := openLoss.1
  unfold settleDigit
  simp only
  split
  · rename_i loss
    unfold settleDigitLoss
    simp only
    split
    · refine ⟨?_, fun _ => ?_⟩ <;> simp only <;> omega
    · exact ended _ rfl rfl
  · split
    · unfold settleDigitWin
      simp only
      split
      · rename_i partial_
        exact ⟨Int.le_of_lt partial_.2.1, fun _ => partial_.2.1⟩
      · exact ended _ rfl rfl
    · exact ended _ rfl rfl

/-! ### The operations -/

section Operations
variable {config : ValidDigitRiskConfig} {dailyPnl : Int} {expected : Option Int}
  {around : Surroundings} {w after : RiskWorld}

theorem requireEntry_ok {answer : Bool × Option String} {message : String} {done : Unit}
    (passed : requireEntry answer message w = (.ok done, after)) :
    answer.1 = true ∧ after = w := by
  unfold requireEntry at passed
  split at passed
  · rename_i allowed
    cases passed
    exact ⟨allowed, rfl⟩
  · cases passed

theorem requireEntry_books (answer : Bool × Option String) (message : String) :
    (requireEntry answer message).Preserves (RiskWorld.Books config dailyPnl expected) := by
  unfold requireEntry
  split
  · exact preserves_pure
  · exact preserves_raise

theorem digitEntryStake_ok {netProfitRatio : Option Decimal}
    (allocated : digitEntryStake around netProfitRatio w = (.ok stake, after)) :
    ∃ answer middle, checkActiveDigitEntry around w = (.ok answer, middle) ∧ answer.1 = true ∧
      middle.ledger.entryStake netProfitRatio = .ok stake ∧
      after = middle.onLedger fun ledger => ledger.expectStake netProfitRatio stake := by
  obtain ⟨answer, middle, checked, rest⟩ := bind_eq_ok.mp allocated
  obtain ⟨_, held, passed, reads⟩ := bind_eq_ok.mp rest
  obtain ⟨allowed, rfl⟩ := requireEntry_ok passed
  rw [bind_of_ok get_run] at reads
  obtain ⟨granted, _, lifted, returns⟩ := bind_eq_ok.mp reads
  obtain ⟨found, rfl⟩ := lift_eq_ok.mp lifted
  cases returns
  exact ⟨answer, _, checked, allowed, found, rfl⟩

theorem digitEntryStake_onRaise (carries : around.Carries dailyPnl)
    (netProfitRatio : Option Decimal) :
    (digitEntryStake around netProfitRatio).PreservesOnRaise
      (RiskWorld.Books config dailyPnl expected) :=
  onRaise_bind (checkActiveDigitEntry_books carries) fun answer =>
    onRaise_bind (requireEntry_books answer _) fun _ =>
      onRaise_bind preserves_get fun _ =>
        onRaise_bind preserves_lift fun _ => onRaise_modify_pure

theorem requireUnlocked_books :
    requireUnlocked.Preserves (RiskWorld.Books config dailyPnl expected) := by
  refine preserves_bind preserves_get fun seen => ?_
  cases seen.ledger.riskState with
  | normal => exact preserves_pure
  | cooldown | riskLocked =>
    exact preserves_bind (preserves_modify fun w books => books_gate books _)
      fun _ => preserves_raise

theorem readActiveExposure_books (exposure : ExposureReading) :
    (readActiveExposure exposure).Preserves (RiskWorld.Books config dailyPnl expected) := by
  have blocked : ∀ reason message,
      (Program.modify (·.block reason) >>= fun _ =>
        (Program.raise (.limitExceeded reason message) : RiskProgram (List (Money × String)))
        ).Preserves (RiskWorld.Books config dailyPnl expected) := fun reason message =>
    preserves_bind (preserves_modify fun w books => books_gate books _)
      fun _ => preserves_raise
  cases exposure with
  | missing => exact blocked _ _
  | refused reasonCode message => exact preserves_raise
  | failed => exact blocked _ _
  | exposures amounts =>
    refine preserves_bind preserves_get fun seen => ?_
    split
    · exact blocked _ _
    · exact preserves_bind (preserves_modify fun w books => books_gate books _)
        fun _ => preserves_pure

theorem reserveProduct_books (carries : around.Carries dailyPnl) (request : OrderRequest) :
    (reserveProduct around request).Preserves (RiskWorld.Books config dailyPnl expected) := by
  unfold reserveProduct
  split
  · exact preserves_bind (checkActiveDigitEntry_books carries) fun answer =>
      preserves_bind (requireEntry_books answer _) fun _ =>
        preserves_bind preserves_get fun _ => preserves_lift
  · exact preserves_pure

theorem reserve_onRaise (carries : around.Carries dailyPnl) (request : OrderRequest)
    (exposure : ExposureReading) :
    (reserve around request exposure).PreservesOnRaise
      (RiskWorld.Books config dailyPnl expected) := by
  refine onRaise_bind preserves_get fun seen => ?_
  split
  · exact (preserves_bind (preserves_modify fun w books => books_gate books _)
      fun _ => preserves_raise).onRaise
  · exact onRaise_bind (reserveProduct_books carries request) fun _ =>
      onRaise_bind requireUnlocked_books fun _ =>
        onRaise_bind (readActiveExposure_books exposure) fun _ =>
          onRaise_bind preserves_lift fun _ => onRaise_modify_pure

theorem reserve_ok {request : OrderRequest} {exposure : ExposureReading} {amount : Money}
    (digit : isDigitProduct request.product = true) (carries : around.Carries dailyPnl)
    (books : w.Books config dailyPnl expected) (enabled : config.1.martingaleEnabled = true)
    (accepted : reserve around request exposure w = (.ok amount, after)) :
    (expected = some amount.minorUnits ∨
      expected = none ∧ amount.minorUnits = config.1.stakeMinorUnits) ∧
      after.Books config dailyPnl none := by
  rw [reserve, bind_of_ok get_run] at accepted
  split at accepted
  · cases accepted
  · obtain ⟨_, first, product, rest₁⟩ := bind_eq_ok.mp accepted
    obtain ⟨_, second, unlocked, rest₂⟩ := bind_eq_ok.mp rest₁
    obtain ⟨active, third, read, rest₃⟩ := bind_eq_ok.mp rest₂
    obtain ⟨_, fourth, lifted, returns⟩ := bind_eq_ok.mp rest₃
    obtain ⟨-, rfl⟩ := lift_eq_ok.mp lifted
    cases returns
    -- Every part but the last keeps the books.
    have kept₁ := reserveProduct_books carries request w books
    rw [product] at kept₁
    have kept₂ := requireUnlocked_books first kept₁
    rw [unlocked] at kept₂
    have kept₃ := readActiveExposure_books exposure second kept₂
    rw [read] at kept₃
    refine ⟨?_, kept₃.config, kept₃.dailyPnl, rfl, kept₃.openLoss⟩
    rw [reserveProduct, if_pos digit] at product
    obtain ⟨answer, middle, checked, rest⟩ := bind_eq_ok.mp product
    obtain ⟨_, held, passed, compares⟩ := bind_eq_ok.mp rest
    obtain ⟨-, rfl⟩ := requireEntry_ok passed
    rw [bind_of_ok get_run] at compares
    obtain ⟨found, -⟩ := lift_eq_ok.mp compares
    have kept := checkActiveDigitEntry_books carries w books
    rw [checked] at kept
    have stake := checkStake_ok (by rw [kept.config]; exact enabled) found
    rwa [kept.expected, kept.config] at stake

theorem applyDigitRealizedPnl_books {pnlMinorUnits : Int}
    (carries : around.Carries (dailyPnl + pnlMinorUnits))
    (books : w.Books config dailyPnl expected) :
    (applyDigitRealizedPnl around pnlMinorUnits w.ledger.digitConfig.1.currency w).2.Books config
      (dailyPnl + pnlMinorUnits) none := by
  have checks : ∀ blocked : RiskWorld, blocked.Books config (dailyPnl + pnlMinorUnits) none →
      ((checkActiveDigitEntry around >>= fun _ => pure ()) blocked).2.Books config
        (dailyPnl + pnlMinorUnits) none :=
    preserves_bind (checkActiveDigitEntry_books carries) fun _ => preserves_pure
  have booked : (w.onLedger fun ledger => ledger.settleDigit around.monotonic
      w.ledger.digitConfig.1.cooldownSeconds pnlMinorUnits).Books config
        (dailyPnl + pnlMinorUnits) none := by
    refine ⟨?_, ?_, rfl, settleDigit_openLoss books.openLoss _ _ _⟩
    · exact (settleDigit_config _ _ _ _).trans books.config
    · exact congrArg (· + pnlMinorUnits) books.dailyPnl
  unfold applyDigitRealizedPnl
  rw [bind_of_ok get_run]
  simp only [ne_eq, not_true_eq_false, if_false]
  rw [bind_of_ok modify_run, bind_of_ok modify_run]
  apply checks
  split
  · exact books_gate booked _
  · exact booked

end Operations

/-! ### Runs -/

structure DigitDesk.Solvent (config : ValidDigitRiskConfig) (desk : DigitDesk) : Prop where
  config : desk.world.ledger.digitConfig = config
  openLoss : desk.world.ledger.OpenLoss
  stop : 0 ≤ desk.world.ledger.budget
  expected : ∀ stake, desk.world.ledger.digitExpectedStakeMinorUnits = some stake →
    stake ≤ desk.world.ledger.budget
  reserved : ∀ stake, desk.reserved = some stake → stake ≤ desk.world.ledger.budget
  within : desk.Within

namespace DigitDesk

variable {config : ValidDigitRiskConfig} {desk : DigitDesk} {w : RiskWorld} {expected : Option Int}
  {around : Surroundings}

theorem Solvent.books (solvent : desk.Solvent config) :
    desk.world.Books config desk.world.ledger.digitDailyPnlMinorUnits
      desk.world.ledger.digitExpectedStakeMinorUnits :=
  ⟨solvent.config, rfl, rfl, solvent.openLoss⟩

theorem budget_eq {dailyPnl : Int} (books : w.Books config dailyPnl expected) :
    w.ledger.budget = config.1.dailyStopLossMinorUnits + dailyPnl := by
  rw [RiskLedger.budget, RiskLedger.remainingLossBudget, books.config, books.dailyPnl]

theorem budget_same (solvent : desk.Solvent config)
    (books : w.Books config desk.world.ledger.digitDailyPnlMinorUnits expected) :
    w.ledger.budget = desk.world.ledger.budget := by
  rw [budget_eq books, budget_eq solvent.books]

theorem Solvent.idle (solvent : desk.Solvent config)
    (books : w.Books config desk.world.ledger.digitDailyPnlMinorUnits
      desk.world.ledger.digitExpectedStakeMinorUnits) :
    Solvent config { desk with world := w } := by
  have same := budget_same solvent books
  refine ⟨books.config, books.openLoss, ?_, ?_, ?_, solvent.within⟩
  · rw [same]
    exact solvent.stop
  · intro stake cached
    rw [same]
    exact solvent.expected stake (books.expected.symm.trans cached)
  · intro stake open_
    rw [same]
    exact solvent.reserved stake open_

variable {stake : Int}

theorem within_cons {world : RiskWorld} {reserved : Option Int} {budget : Int}
    (within : desk.Within) (fits : stake ≤ budget) :
    Within { world := world, reserved := reserved, log := (stake, budget) :: desk.log } := by
  intro entry member
  rcases List.mem_cons.mp member with rfl | earlier
  · exact fits
  · exact within entry earlier

theorem step_stake {netProfitRatio : Option Decimal} (solvent : desk.Solvent config)
    (carries : around.Carries desk.world.ledger.digitDailyPnlMinorUnits)
    (fits : desk.BaseFits (.stake around netProfitRatio)) :
    (desk.step (.stake around netProfitRatio)).Solvent config := by
  cases ran : digitEntryStake around netProfitRatio desk.world with
  | mk answer after =>
    simp only [step, ran]
    cases answer with
    | error error =>
      exact solvent.idle
        (digitEntryStake_onRaise carries netProfitRatio desk.world solvent.books error after ran)
    | ok stake =>
      obtain ⟨answer, middle, checked, allowed, granted, rfl⟩ := digitEntryStake_ok ran
      have books := checkActiveDigitEntry_books carries desk.world solvent.books
      rw [checked] at books
      have same := budget_same solvent books
      have small : stake ≤ middle.ledger.budget := by
        refine entryStake_le granted books.openLoss fun first => ?_
        rw [same, books.config, ← solvent.config]
        exact fits answer middle checked allowed first
      have kept : (middle.onLedger fun ledger =>
          ledger.expectStake netProfitRatio stake).ledger.budget = middle.ledger.budget := rfl
      refine ⟨books.config, books.openLoss, ?_, ?_, ?_, ?_⟩
      · rw [kept, same]
        exact solvent.stop
      · intro cached isCached
        cases isCached
        rw [kept]
        exact small
      · intro open_ isOpen
        rw [kept, same]
        exact solvent.reserved open_ isOpen
      · exact within_cons solvent.within (by rwa [kept])

theorem step_reserve {request : OrderRequest} {exposure : ExposureReading}
    (enabled : config.1.martingaleEnabled = true) (solvent : desk.Solvent config)
    (carries : around.Carries desk.world.ledger.digitDailyPnlMinorUnits)
    (digit : isDigitProduct request.product = true)
    (fits : desk.BaseFits (.reserve around request exposure)) :
    (desk.step (.reserve around request exposure)).Solvent config := by
  cases ran : TradingLab.reserve around request exposure desk.world with
  | mk answer after =>
    simp only [step, ran]
    cases answer with
    | error error =>
      exact solvent.idle
        (reserve_onRaise carries request exposure desk.world solvent.books error after ran)
    | ok amount =>
      obtain ⟨stake, books⟩ := reserve_ok digit carries solvent.books enabled ran
      have same := budget_same solvent books
      have small : amount.minorUnits ≤ after.ledger.budget := by
        rw [same]
        rcases stake with cached | ⟨none, base⟩
        · exact solvent.expected _ cached
        · rw [base, ← solvent.config]
          exact fits amount after ran none
      refine ⟨books.config, books.openLoss, ?_, ?_, ?_, within_cons solvent.within small⟩
      · rw [same]
        exact solvent.stop
      · intro stake cached
        rw [books.expected] at cached
        cases cached
      · intro stake open_
        cases open_
        exact small

theorem step_settle {pnlMinorUnits : Int} (solvent : desk.Solvent config)
    (carries : around.Carries (desk.world.ledger.digitDailyPnlMinorUnits + pnlMinorUnits))
    (open_ : desk.reserved = some stake) (bounded : -stake ≤ pnlMinorUnits) :
    (desk.step (.settle around pnlMinorUnits)).Solvent config := by
  have books := applyDigitRealizedPnl_books carries solvent.books
  have before := budget_eq solvent.books
  have after := budget_eq books
  have covered := solvent.reserved stake open_
  refine ⟨books.config, books.openLoss, ?_, ?_, nofun, solvent.within⟩
  · simp only [step]
    omega
  · intro cached isCached
    rw [step, books.expected] at isCached
    cases isCached

section

variable (enabled : config.1.martingaleEnabled = true) (op : DeskOp) (solvent : desk.Solvent config)
  (admissible : desk.Admissible op)
include enabled op solvent admissible

theorem step_keeps (fits : desk.BaseFits op) :
    (desk.step op).Solvent config := by
  cases op with
  | check around =>
    exact solvent.idle (checkActiveDigitEntry_books admissible desk.world solvent.books)
  | stake around netProfitRatio => exact step_stake solvent admissible fits
  | reserve around request exposure =>
    exact step_reserve enabled solvent admissible.1 admissible.2.2 fits
  | settle around pnlMinorUnits =>
    obtain ⟨carries, stake, open_, bounded⟩ := admissible
    exact step_settle solvent carries open_ bounded

theorem step_breaks (within : (desk.step op).Within) : desk.BaseFits op := by
  cases op with
  | check around => trivial
  | settle around pnlMinorUnits => trivial
  | stake around netProfitRatio =>
    intro answer after checked allowed first
    have books := checkActiveDigitEntry_books admissible desk.world solvent.books
    rw [checked] at books
    have passed : requireEntry answer "DIGIT risk gate blocked stake allocation." after =
        (.ok (), after) := by
      rw [requireEntry, if_pos allowed]
      rfl
    have granted : after.ledger.entryStake netProfitRatio = .ok config.1.stakeMinorUnits := by
      unfold entryStake
      rw [if_pos first, books.config]
    have ran : digitEntryStake around netProfitRatio desk.world =
        (.ok config.1.stakeMinorUnits, after.onLedger fun ledger =>
          ledger.expectStake netProfitRatio config.1.stakeMinorUnits) := by
      unfold digitEntryStake
      rw [bind_of_ok checked, bind_of_ok passed, bind_of_ok get_run,
        granted]
      rfl
    simp only [step, ran] at within
    have small := within _ List.mem_cons_self
    rw [solvent.config, ← budget_same solvent books]
    exact small
  | reserve around request exposure =>
    intro amount after ran none
    obtain ⟨stake, books⟩ := reserve_ok admissible.2.2 admissible.1 solvent.books enabled ran
    simp only [step, ran] at within
    have small := within _ List.mem_cons_self
    rcases stake with cached | ⟨-, base⟩
    · rw [none] at cached
      cases cached
    · rw [solvent.config, ← base, ← budget_same solvent books]
      exact small

end

end DigitDesk

/-- A desk that opens: nothing allocated, nothing lost, and the sequence at its start. -/
structure DigitDesk.Opens (desk : DigitDesk) : Prop where
  enabled : desk.world.ledger.digitConfig.1.martingaleEnabled = true
  zero : desk.world.ledger.AtZero
  expected : desk.world.ledger.digitExpectedStakeMinorUnits = none
  reserved : desk.reserved = none
  log : desk.log = []

theorem DigitDesk.Opens.solvent {desk : DigitDesk} (opens : desk.Opens) :
    desk.Solvent desk.world.ledger.digitConfig := by
  obtain ⟨-, ⟨pnl, -, first, owed⟩, expected, reserved, log⟩ := opens
  refine ⟨rfl, ?_, ?_, ?_, ?_, ?_⟩
  · rw [RiskLedger.OpenLoss, first, owed]
    exact ⟨Int.le_refl 0, fun further => absurd further (Nat.lt_irrefl 0)⟩
  · rw [RiskLedger.budget, RiskLedger.remainingLossBudget, pnl, add_zero]
    exact (DigitRiskConfig.limits_of_validate desk.world.ledger.digitConfig.2).stopLoss.le
  · intro stake cached
    rw [expected] at cached
    cases cached
  · intro stake open_
    rw [reserved] at open_
    cases open_
  · intro entry member
    rw [log] at member
    cases member

namespace Sample

def tightConfig : DigitRiskConfig :=
  { dailyStopLossMinorUnits := 250
    maxConsecutiveLosses := 2
    martingaleEnabled := true
    martingaleMaxSteps := 1
    martingaleMaxStakeMinorUnits := 150 }

theorem tightConfig_valid : tightConfig.validate = .ok () := by
  decide

def tightDesk : DigitDesk where
  world := freshLedger.onLedger fun ledger =>
    { ledger with digitConfig := ⟨tightConfig, tightConfig_valid⟩ }

def clockAt (monotonic : Rat) : Surroundings :=
  ⟨monotonic, 0, none⟩

theorem clockAt_carries (monotonic : Rat) (dailyPnl : Int) :
    (clockAt monotonic).Carries dailyPnl := by
  intro row answered
  cases answered

def digitRequestFields (amount : Int) : OrderRequestFields where
  correlationId := "correlation-1"
  broker := .deriv
  accountId := "CR100"
  product := "DIGITDIFF"
  symbol := "R_100"
  direction := .call
  amount := ⟨amount, "USD", currencyCode_usd⟩
  strategyId := "tail-probability-edge"
  strategyVersion := "1"
  deadlineAt := 0
  durationUnit := "t"
  predictionDigit := some 5

theorem baseRequest_valid : (digitRequestFields 100).postInit = .ok () := by
  decide

theorem recoveryRequest_valid : (digitRequestFields 112).postInit = .ok () := by
  decide

def baseRequest : OrderRequest :=
  ⟨digitRequestFields 100, baseRequest_valid⟩

def recoveryRequest : OrderRequest :=
  ⟨digitRequestFields 112, recoveryRequest_valid⟩

def lostSequence : List DeskOp :=
  [.stake (clockAt 0) none, .reserve (clockAt 0) baseRequest (.exposures []),
    .settle (clockAt 1) (-100), .stake (clockAt 2) (some (.finite false 9 (-1))),
    .reserve (clockAt 2) recoveryRequest (.exposures []), .settle (clockAt 3) (-112)]

def firstEntry : List DeskOp :=
  [.stake (clockAt 0) none, .reserve (clockAt 0) baseRequest (.exposures []),
    .settle (clockAt 1) (-100)]

def nextEntry : List DeskOp :=
  [.stake (clockAt 40) none, .reserve (clockAt 40) baseRequest (.exposures []),
    .settle (clockAt 41) (-100)]

end Sample

end TradingLab

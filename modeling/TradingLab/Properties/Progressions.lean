import TradingLab.Properties.CooldownClocks

/-!
# The two digit progressions

A loss with the progression switched off ends the sequence in the ledger, outstanding loss included;
the database resets the step only and adds the loss to the outstanding one.
-/
namespace TradingLab

open Machine
open RiskLedger
open DigitRiskRuntimeFields Machine.Program

/-- A settled digit order, as both sides see it. -/
structure DigitSettlement where
  pnlMinor : Int
  orderId : String
  settlementId : String
  symbol : String
  product : String
  occurredAt : Instant
  /-- The clocks, and the expirer, when the ledger books it. -/
  around : Surroundings
  digit : isDigitProduct product = true

def bookSettlements (currency : String) (settlements : List DigitSettlement) : RiskProgram Unit :=
  settlements.forM fun settlement =>
    applyDigitRealizedPnl settlement.around settlement.pnlMinor currency

def Database.applySettlements (db : Database) (currency : String)
    (settlements : List DigitSettlement) : Except DbError Database :=
  settlements.foldlM (fun db settlement =>
    db.applyDigitRuntimeSettlement settlement.product settlement.symbol currency
      settlement.pnlMinor settlement.orderId settlement.settlementId settlement.occurredAt) db

/-! ### Agreement -/

/-- The ledger and the row are equally far in the sequence. -/
structure RiskLedger.Agrees (ledger : RiskLedger) (row : DigitRiskRuntimeFields) : Prop where
  dailyPnl : ledger.digitDailyPnlMinorUnits = row.dailyPnlMinor
  losses : ledger.digitConsecutiveLosses = row.consecutiveLosses
  step : (ledger.digitMartingaleState.step : Int) = row.martingaleStep
  cumulative : ledger.digitCumulativeSequenceLossMinorUnits = row.cumulativeSequenceLossMinor

structure DigitRiskConfig.PolicyOf (config : DigitRiskConfig) (row : DigitRiskRuntimeFields) :
    Prop where
  currency : row.currency = config.currency
  enabled : row.martingaleEnabled = config.martingaleEnabled
  maxSteps : row.martingaleMaxSteps = config.martingaleMaxSteps
  maxLosses : row.maxConsecutiveLosses = config.maxConsecutiveLosses

def DigitRiskRuntimeFields.AtZero (row : DigitRiskRuntimeFields) : Prop :=
  row.dailyPnlMinor = 0 ∧ row.consecutiveLosses = 0 ∧ row.martingaleStep = 0 ∧
    row.cumulativeSequenceLossMinor = 0

def RiskLedger.AtZero (ledger : RiskLedger) : Prop :=
  ledger.digitDailyPnlMinorUnits = 0 ∧ ledger.digitConsecutiveLosses = 0 ∧
    ledger.digitMartingaleState.step = 0 ∧ ledger.digitCumulativeSequenceLossMinorUnits = 0

def AgreeAfter (w : RiskWorld) (db : Database) (settlements : List DigitSettlement) : Prop :=
  let currency := w.ledger.digitConfig.1.currency
  ∃ after later row, bookSettlements currency settlements w = (.ok (), after) ∧
    db.applySettlements currency settlements = .ok later ∧
    later.digitRiskRuntime = some row ∧ after.ledger.Agrees row.toDigitRiskRuntimeFields

section Settle
variable {ledger : RiskLedger} {row : DigitRiskRuntimeFields} {monotonic cooldown : Rat}
  {symbol orderId settlementId : String} {pnlMinor : Int} {occurredAt : Instant}

section

variable (agrees : ledger.Agrees row) (policy : ledger.digitConfig.1.PolicyOf row)
include agrees policy

theorem settleLoss_agrees_iff (checks : row.Checks) (loss : pnlMinor < 0) :
    ({ ledger.settleDigitLoss monotonic cooldown pnlMinor with
        digitDailyPnlMinorUnits := ledger.digitDailyPnlMinorUnits + pnlMinor
        digitExpectedStakeMinorUnits := none } : RiskLedger).Agrees
      { row.settleLoss symbol pnlMinor occurredAt with
        dailyPnlMinor := row.dailyPnlMinor + pnlMinor
        lastOrderId := some orderId
        lastSettlementId := some settlementId
        updatedAt := occurredAt } ↔
      ledger.digitConfig.1.martingaleEnabled = true := by
  obtain ⟨dailyPnl, losses, step, cumulative⟩ := agrees
  obtain ⟨-, enabled, maxSteps, -⟩ := policy
  obtain ⟨-, -, -, -, -, owed⟩ := checks
  cases on : ledger.digitConfig.1.martingaleEnabled with
  | true =>
    refine iff_of_true ?_ rfl
    rw [on] at enabled
    unfold settleDigitLoss settleLoss
    by_cases further :
        (ledger.digitMartingaleState.step : Int) < ledger.digitConfig.1.martingaleMaxSteps
    · have notExhausted : ¬ row.martingaleStep ≥ row.martingaleMaxSteps := by omega
      simp only [on, further, and_self, if_true, enabled, notExhausted, decide_false,
        Bool.and_false, Bool.false_eq_true, if_false]
      exact ⟨by rw [dailyPnl], by rw [losses], by push_cast; rw [step], by rw [cumulative]⟩
    · have exhausted : row.martingaleStep ≥ row.martingaleMaxSteps := by omega
      simp only [on, further, and_false, if_false, enabled, exhausted, decide_true,
        Bool.and_true, if_true]
      exact ⟨by rw [dailyPnl], by rw [losses], rfl, rfl⟩
  | false =>
    refine iff_of_false (fun after => ?_) Bool.false_ne_true
    have outstanding := after.cumulative
    rw [on] at enabled
    simp [settleDigitLoss, endDigitSequence,
      settleLoss, on, enabled] at outstanding
    omega

theorem settleWin_agrees :
    ({ ledger.settleDigitWin pnlMinor with
        digitDailyPnlMinorUnits := ledger.digitDailyPnlMinorUnits + pnlMinor
        digitExpectedStakeMinorUnits := none } : RiskLedger).Agrees
      { row.settleWin pnlMinor with
        dailyPnlMinor := row.dailyPnlMinor + pnlMinor
        lastOrderId := some orderId
        lastSettlementId := some settlementId
        updatedAt := occurredAt } := by
  obtain ⟨dailyPnl, losses, step, cumulative⟩ := agrees
  obtain ⟨-, enabled, maxSteps, -⟩ := policy
  unfold settleDigitWin settleWin
  simp only [gt_iff_lt]
  rw [enabled, maxSteps, ← step, ← cumulative]
  split
  · exact ⟨by rw [dailyPnl], rfl, by push_cast; rfl, rfl⟩
  · exact ⟨by rw [dailyPnl], rfl, rfl, rfl⟩

theorem settle_agrees_iff (checks : row.Checks) :
    (ledger.settleDigit monotonic cooldown pnlMinor).Agrees
        (row.settle symbol pnlMinor orderId settlementId occurredAt) ↔
      (ledger.digitConfig.1.martingaleEnabled = true ∨ 0 ≤ pnlMinor) := by
  unfold settleDigit settle
  by_cases loss : pnlMinor < 0
  · simp only [loss, if_true]
    rw [settleLoss_agrees_iff agrees policy checks loss, or_iff_left (not_le.mpr loss)]
  · have gain := not_lt.mp loss
    refine iff_of_true ?_ (.inr gain)
    simp only [loss, if_false]
    by_cases win : pnlMinor > 0
    · simp only [win, if_true]
      exact settleWin_agrees agrees policy
    · simp only [win, if_false]
      exact ⟨by rw [agrees.dailyPnl], agrees.losses, rfl, rfl⟩

end

end Settle

/-! ### One settlement on both sides -/

def DigitSettlement.booked (settlement : DigitSettlement) (ledger : RiskLedger) : RiskLedger :=
  ledger.settleDigit settlement.around.monotonic ledger.digitConfig.1.cooldownSeconds
    settlement.pnlMinor

/-- The check that ends `apply_digit_realized_pnl` finds that a cooldown is over. -/
def DigitSettlement.Expires (settlement : DigitSettlement) (ledger : RiskLedger) : Prop :=
  (settlement.booked ledger).entryRefusal settlement.around.monotonic ledger.digitConfig.1 = none ∧
    (settlement.booked ledger).digitCooldownDeadline ≠ none

/-- No settlement of the sequence finds a cooldown over. -/
def NoExpiry (w : RiskWorld) (settlements : List DigitSettlement) : Prop :=
  ∀ done next, done ++ [next] <+: settlements →
    ¬ next.Expires (bookSettlements w.ledger.digitConfig.1.currency done w).2.ledger

theorem settleDigit_config (ledger : RiskLedger) (monotonic cooldown : Rat) (pnlMinor : Int) :
    (ledger.settleDigit monotonic cooldown pnlMinor).digitConfig = ledger.digitConfig := by
  unfold settleDigit settleDigitLoss settleDigitWin
  simp only
  split
  · split <;> rfl
  · split
    · split <;> rfl
    · rfl

theorem settle_policy {config : DigitRiskConfig} {row : DigitRiskRuntimeFields}
    (policy : config.PolicyOf row) (symbol : String) (pnlMinor : Int)
    (orderId settlementId : String) (occurredAt : Instant) :
    config.PolicyOf (row.settle symbol pnlMinor orderId settlementId occurredAt) := by
  have same : ∀ later : DigitRiskRuntimeFields, later.currency = row.currency →
      later.martingaleEnabled = row.martingaleEnabled →
      later.martingaleMaxSteps = row.martingaleMaxSteps →
      later.maxConsecutiveLosses = row.maxConsecutiveLosses → config.PolicyOf later :=
    fun _ currency enabled maxSteps maxLosses => ⟨currency.trans policy.currency,
      enabled.trans policy.enabled, maxSteps.trans policy.maxSteps,
        maxLosses.trans policy.maxLosses⟩
  unfold settle settleLoss
    settleWin
  simp only
  split
  · exact same _ rfl rfl rfl rfl
  · split
    · split <;> exact same _ rfl rfl rfl rfl
    · exact same _ rfl rfl rfl rfl

variable {settlement : DigitSettlement} {w : RiskWorld} {row : DigitRiskRuntime} {db : Database}

theorem applyDigitRealizedPnl_booked (running : ¬ settlement.Expires w.ledger) :
    ∃ after, applyDigitRealizedPnl settlement.around settlement.pnlMinor
        w.ledger.digitConfig.1.currency w = (.ok (), after) ∧
      after.ledger = settlement.booked w.ledger := by
  have checks : ∀ blocked : RiskWorld, blocked.ledger = settlement.booked w.ledger →
      ∃ after, (checkActiveDigitEntry settlement.around >>= fun _ => pure ()) blocked =
        (.ok (), after) ∧ after.ledger = settlement.booked w.ledger := by
    intro blocked ledger
    have config : blocked.ledger.digitConfig = w.ledger.digitConfig := by
      rw [ledger]
      exact settleDigit_config _ _ _ _
    have stays : ¬ (blocked.ledger.entryRefusal settlement.around.monotonic
        blocked.ledger.digitConfig.1 = none ∧ blocked.ledger.digitCooldownDeadline ≠ none) := by
      rw [config, ledger]
      exact running
    obtain ⟨answer, after, run, same⟩ :=
      checkDigitEntry_ledger blocked.ledger.digitConfig.2 stays
    rw [← checkActiveDigitEntry_run] at run
    exact ⟨after, by rw [bind_of_ok run, pure_run], same.trans ledger⟩
  unfold applyDigitRealizedPnl
  rw [bind_of_ok get_run]
  simp only [ne_eq, not_true_eq_false, if_false]
  rw [bind_of_ok modify_run, bind_of_ok modify_run]
  apply checks
  split <;> rfl

def DigitSettlement.settled (settlement : DigitSettlement) (row : DigitRiskRuntime) :
    DigitRiskRuntime :=
  row.settle settlement.symbol settlement.pnlMinor settlement.orderId settlement.settlementId
    settlement.occurredAt

theorem applyDigitRuntimeSettlement_settled
    (stored : db.digitRiskRuntime = some row) (settlement : DigitSettlement)
    (fresh : row.lastOrderId ≠ some settlement.orderId) :
    db.applyDigitRuntimeSettlement settlement.product settlement.symbol row.currency
        settlement.pnlMinor settlement.orderId settlement.settlementId settlement.occurredAt =
      .ok { db with digitRiskRuntime := some (settlement.settled row) } := by
  simp only [Database.applyDigitRuntimeSettlement, settlement.digit, stored, fresh, if_true,
    if_false, DigitSettlement.settled]

/-! ### Sequences of settlements -/

theorem bookSettlements_cons (currency : String) (settlement : DigitSettlement)
    (rest : List DigitSettlement) :
    bookSettlements currency (settlement :: rest) =
      (applyDigitRealizedPnl settlement.around settlement.pnlMinor currency >>= fun _ =>
        bookSettlements currency rest) :=
  rfl

section Run
variable {w after : RiskWorld} {db : Database} {settlement : DigitSettlement}
  {rest : List DigitSettlement}

theorem agreeAfter_cons (stored : db.digitRiskRuntime = some row)
    (policy : w.ledger.digitConfig.1.PolicyOf row.toDigitRiskRuntimeFields)
    (fresh : row.lastOrderId ≠ some settlement.orderId)
    (run : applyDigitRealizedPnl settlement.around settlement.pnlMinor
      w.ledger.digitConfig.1.currency w = (.ok (), after))
    (config : after.ledger.digitConfig = w.ledger.digitConfig) (rest : List DigitSettlement) :
    AgreeAfter w db (settlement :: rest) ↔
      AgreeAfter after { db with digitRiskRuntime := some (settlement.settled row) } rest := by
  have settled := applyDigitRuntimeSettlement_settled stored settlement fresh
  rw [policy.currency] at settled
  unfold AgreeAfter Database.applySettlements
  simp only [bookSettlements_cons, bind_of_ok run, List.foldlM_cons, config, settled]
  rfl

theorem NoExpiry.head (noExpiry : NoExpiry w (settlement :: rest)) :
    ¬ settlement.Expires w.ledger :=
  noExpiry [] settlement (by simp)

theorem NoExpiry.tail (noExpiry : NoExpiry w (settlement :: rest))
    (run : applyDigitRealizedPnl settlement.around settlement.pnlMinor
      w.ledger.digitConfig.1.currency w = (.ok (), after))
    (config : after.ledger.digitConfig = w.ledger.digitConfig) : NoExpiry after rest := by
  intro done next before
  have early := noExpiry (settlement :: done) next (by simpa using before)
  rw [bookSettlements_cons, bind_of_ok run] at early
  rwa [config]

end Run

theorem agreeAfter_iff (settlements : List DigitSettlement)
    (stored : db.digitRiskRuntime = some row)
    (policy : w.ledger.digitConfig.1.PolicyOf row.toDigitRiskRuntimeFields)
    (agrees : w.ledger.Agrees row.toDigitRiskRuntimeFields)
    (unseen : ∀ settlement ∈ settlements, row.lastOrderId ≠ some settlement.orderId)
    (distinct : (settlements.map DigitSettlement.orderId).Nodup)
    (noExpiry : NoExpiry w settlements) :
    (∀ done, done <+: settlements → AgreeAfter w db done) ↔
      (w.ledger.digitConfig.1.martingaleEnabled = true ∨
        ∀ settlement ∈ settlements, 0 ≤ settlement.pnlMinor) := by
  induction settlements generalizing w db row with
  | nil =>
    refine iff_of_true (fun done before => ?_) (.inr (by simp))
    rw [List.prefix_nil.mp before]
    exact ⟨w, db, row, rfl, rfl, stored, agrees⟩
  | cons settlement rest ih =>
    obtain ⟨after, run, ledger⟩ := applyDigitRealizedPnl_booked noExpiry.head
    have config : after.ledger.digitConfig = w.ledger.digitConfig := by
      rw [ledger]
      exact settleDigit_config _ _ _ _
    have next := agreeAfter_cons stored policy (unseen settlement (by simp)) run config
    -- The first settlement decides whether the states still agree.
    have first : after.ledger.Agrees (settlement.settled row).toDigitRiskRuntimeFields ↔
        (w.ledger.digitConfig.1.martingaleEnabled = true ∨ 0 ≤ settlement.pnlMinor) := by
      rw [ledger]
      exact settle_agrees_iff agrees policy row.checks
    obtain ⟨others, distinct⟩ := List.nodup_cons.mp distinct
    have later : ∀ other ∈ rest, (settlement.settled row).lastOrderId ≠ some other.orderId := by
      intro other member same
      exact others (List.mem_map.mpr ⟨other, member, (Option.some.inj same).symm⟩)
    have stored' : ({ db with digitRiskRuntime := some (settlement.settled row) } :
        Database).digitRiskRuntime = some (settlement.settled row) := rfl
    have go := fun still => ih stored' (config ▸ settle_policy policy _ _ _ _ _) still later
      distinct (noExpiry.tail run config)
    rw [config] at go
    constructor
    · intro all
      have one := (next []).mp (all [settlement] (by simp))
      obtain ⟨_, _, _, sameWorld, sameDatabase, sameRow, still⟩ := one
      cases sameWorld
      cases sameDatabase
      cases sameRow
      rcases first.mp still with enabled | gain
      · exact .inl enabled
      · have prefixes : ∀ done, done <+: rest → AgreeAfter after _ done := fun done before =>
          (next done).mp (all (settlement :: done) (by simpa using before))
        refine ((go still).mp prefixes).imp_right fun gains => ?_
        simpa using ⟨gain, gains⟩
    · intro condition done before
      have still := first.mpr (condition.imp_right fun gains => gains settlement (by simp))
      have rests := (go still).mpr
        (condition.imp_right fun gains other member => gains other (by simp [member]))
      cases done with
      | nil => exact ⟨w, db, row, rfl, rfl, stored, agrees⟩
      | cons head tail =>
        obtain ⟨same, before⟩ := List.cons_prefix_cons.mp before
        rw [same]
        exact (next tail).mpr (rests tail before)

/-- The two progressions, from the zero state, under one policy and over settlements of distinct
    orders none of which finds a cooldown over. -/
theorem progressions_agree_iff (w : RiskWorld) (db : Database) (row : DigitRiskRuntime)
    (settlements : List DigitSettlement) (stored : db.digitRiskRuntime = some row)
    (policy : w.ledger.digitConfig.1.PolicyOf row.toDigitRiskRuntimeFields)
    (ledgerZero : w.ledger.AtZero) (rowZero : row.AtZero)
    (unseen : ∀ settlement ∈ settlements, row.lastOrderId ≠ some settlement.orderId)
    (distinct : (settlements.map DigitSettlement.orderId).Nodup)
    (noExpiry : NoExpiry w settlements) :
    (∀ done, done <+: settlements → AgreeAfter w db done) ↔
      (w.ledger.digitConfig.1.martingaleEnabled = true ∨
        ∀ settlement ∈ settlements, 0 ≤ settlement.pnlMinor) := by
  obtain ⟨pnl, losses, step, cumulative⟩ := ledgerZero
  obtain ⟨rowPnl, rowLosses, rowStep, rowCumulative⟩ := rowZero
  have agrees : w.ledger.Agrees row.toDigitRiskRuntimeFields := by
    constructor
    · rw [pnl, rowPnl]
    · rw [losses, rowLosses]
    · rw [step, rowStep]
      rfl
    · rw [cumulative, rowCumulative]
  exact agreeAfter_iff settlements stored policy agrees unseen distinct noExpiry

theorem noExpiry_singleton (running : ¬ settlement.Expires w.ledger) : NoExpiry w [settlement] := by
  intro done next before
  have short : done = [] := by
    have := before.length_le
    simp at this
    exact this
  subst short
  have same : next = settlement := by simpa using before
  rw [same]
  exact running

namespace Sample

def enabledConfig : DigitRiskConfig :=
  { martingaleEnabled := true, maxConsecutiveLosses := 3 }

theorem enabledConfig_valid : enabledConfig.validate = .ok () := by
  decide

def enabledLedger : RiskWorld :=
  freshLedger.onLedger fun ledger =>
    { ledger with digitConfig := ⟨enabledConfig, enabledConfig_valid⟩ }

def zeroFields (config : DigitRiskConfig) : DigitRiskRuntimeFields where
  configFingerprint := "policy"
  currency := config.currency
  martingaleEnabled := config.martingaleEnabled
  martingaleMaxSteps := config.martingaleMaxSteps
  maxConsecutiveLosses := config.maxConsecutiveLosses
  cooldownSeconds := config.cooldownSecondsAfterLoss
  updatedAt := 0

theorem zeroFields_checks : (zeroFields {}).Checks := by
  decide

theorem zeroFields_enabled_checks : (zeroFields enabledConfig).Checks := by
  decide

def zeroRow : DigitRiskRuntime :=
  ⟨zeroFields {}, zeroFields_checks⟩

def enabledZeroRow : DigitRiskRuntime :=
  ⟨zeroFields enabledConfig, zeroFields_enabled_checks⟩

def databaseWith (row : DigitRiskRuntime) : Database :=
  { Database.empty with digitRiskRuntime := some row }

def lossSettlement : DigitSettlement where
  pnlMinor := -100
  orderId := "order-1"
  settlementId := "settlement-1"
  symbol := "R_100"
  product := "DIGITDIFF"
  occurredAt := 5000000
  around := ⟨5, 5000000, none⟩
  digit := by decide

end Sample

/-- One loss with the progression switched off: the ledger owes nothing, and the row owes the
    loss. -/
theorem loss_diverges :
    (bookSettlements "USD" [Sample.lossSettlement] Sample.freshLedger).1.toOption = some () ∧
      (bookSettlements "USD" [Sample.lossSettlement]
        Sample.freshLedger).2.ledger.digitCumulativeSequenceLossMinorUnits = 0 ∧
      (((Sample.databaseWith Sample.zeroRow).applySettlements "USD"
        [Sample.lossSettlement]).toOption.bind fun db =>
          db.digitRiskRuntime.map (·.cumulativeSequenceLossMinor)) = some 100 := by
  decide +kernel

theorem enabled_loss_agrees :
    AgreeAfter Sample.enabledLedger (Sample.databaseWith Sample.enabledZeroRow)
      [Sample.lossSettlement] :=
  (progressions_agree_iff Sample.enabledLedger (Sample.databaseWith Sample.enabledZeroRow)
    Sample.enabledZeroRow [Sample.lossSettlement] rfl ⟨rfl, rfl, rfl, rfl⟩ ⟨rfl, rfl, rfl, rfl⟩
    ⟨rfl, rfl, rfl, rfl⟩ (by decide) (by decide)
    (noExpiry_singleton fun expires => expires.2 rfl)).mpr (.inl rfl) _ (List.prefix_refl _)

end TradingLab

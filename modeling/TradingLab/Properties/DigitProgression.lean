import TradingLab.Properties.DigitLedger

/-!
# The digit progression

The digit row as a state machine of its own. A sequence runs while `martingale_step` is positive;
its losses are those settled since it has started. A win of a row between two sequences that still
carries a loss starts a sequence without a loss of its own.
-/
namespace TradingLab

open Relational
open Operation

inductive DigitOp
  | configure (policy : DigitRuntimePolicy) (resetActiveSequence : Bool) (now : Instant)
  | settle (product symbol currency : String) (pnlMinor : Int) (orderId settlementId : String)
      (occurredAt : Instant)
  | expire (checkedAt : Instant)
  | reset (now : Instant)

namespace DigitOp

def body : DigitOp → Operation Unit
  | .configure policy resetActiveSequence now =>
    configureDigitRiskRuntime policy resetActiveSequence now
  | .settle product symbol currency pnlMinor orderId settlementId occurredAt => fun db =>
    (db.applyDigitRuntimeSettlement product symbol currency pnlMinor orderId settlementId
      occurredAt).map fun next => ((), next)
  | .expire checkedAt => (expireDigitCooldown checkedAt).silent
  | .reset now => resetDigitTestSessionIfFlat now

def policy : DigitOp → Option DigitRuntimePolicy
  | .configure policy _ _ => some policy
  | _ => none

def lossSymbol (db : Database) : DigitOp → Option String
  | .settle product symbol _ pnlMinor orderId _ _ =>
    if isDigitProduct product = true ∧ pnlMinor < 0 ∧
        db.digitRiskRuntime.bind (fun row => row.lastOrderId) ≠ some orderId then some symbol
    else none
  | _ => none

end DigitOp

/-- A database, and the symbols of the losses of the current sequence, the last one first. -/
structure Progression where
  db : Database
  losses : List String

namespace Progression

def isRunning (db : Database) : Bool :=
  db.digitRiskRuntime.any fun row => decide (row.martingaleStep > 0)

/-- One operation. The losses are forgotten when the sequence ends. -/
def step (s : Progression) (op : DigitOp) : Progression :=
  match op.body s.db with
  | .error _ => s
  | .ok (_, next) =>
    ⟨next, if isRunning next then (op.lossSymbol s.db).toList ++ s.losses else []⟩

end Progression

/-! ### The writer moves the row along this machine -/

section Writer
variable {db db' : Database}

/-- The digit row of `db'` is that of `db`, or what one operation of the machine makes of it. -/
def DigitMoves (db db' : Database) : Prop :=
  db'.digitRiskRuntime = db.digitRiskRuntime ∨ ∃ (op : DigitOp) (next : Database),
    op.body db = .ok ((), next) ∧ next.digitRiskRuntime = db'.digitRiskRuntime

theorem digitMoves_of_settlement {base : Database} (same : db.digitRiskRuntime = base.digitRiskRuntime)
    {product symbol currency : String} {pnlMinor : Int} {orderId settlementId : String}
    {occurredAt : Instant}
    (applied : base.applyDigitRuntimeSettlement product symbol currency pnlMinor orderId settlementId
      occurredAt = .ok db') : DigitMoves db db' := by
  have here := applyDigitRuntimeSettlement_congr same applied
  refine .inr ⟨.settle product symbol currency pnlMinor orderId settlementId occurredAt,
    { db with digitRiskRuntime := db'.digitRiskRuntime }, ?_, rfl⟩
  simp only [DigitOp.body, here]
  rfl

theorem event_digitMoves {event : BrokerOrderEvent} {receivedAt : Instant}
    {answer : BrokerEventApplyResult}
    (h : applyNormalizedBrokerEvent event receivedAt db = .ok (answer, db')) : DigitMoves db db' := by
  rcases applyNormalizedBrokerEvent_cases h with
    ⟨inbox, -⟩ | ⟨row, ti, target, moved, -, -, -, -, -, effect, settles, -⟩
  · exact .inl (by rw [inbox])
  · unfold Database.settleDigitEvent at settles
    split at settles
    · split at settles
      · exact digitMoves_of_settlement effect.digit.symm settles
      · cases settles
        exact .inl effect.digit
    · cases settles
      exact .inl effect.digit

theorem evidence_digitMoves {attemptId : String} {evidence : ReconciliationEvidence}
    {resolvedAt : Instant} {answer : ReconciliationApplyResult}
    (h : applyReconciliationEvidence attemptId evidence resolvedAt db = .ok (answer, db')) :
    DigitMoves db db' := by
  obtain ⟨row, ti, -, -, -, ⟨only, -⟩ | ⟨target, -, -, applied, -⟩⟩ :=
    applyReconciliationEvidence_cases h
  · exact .inl (by rw [only])
  · have digit := applied.digit
    generalize after : ({ db with digitRiskRuntime := db'.digitRiskRuntime } : Database) = next
      at digit
    have stored : db'.digitRiskRuntime = next.digitRiskRuntime := by rw [← after]
    have moves : DigitMoves db next := by
      unfold Database.settleDigitEvidence at digit
      split at digit
      · cases digit
        exact .inl rfl
      · split at digit
        · exact digitMoves_of_settlement rfl digit
        · cases digit
          exact .inl rfl
    unfold DigitMoves
    rwa [stored]

theorem MovedAlong.digit {allowed : OrderState → Prop} (chain : MovedAlong allowed db db') :
    db'.digitRiskRuntime = db.digitRiskRuntime := by
  induction chain with
  | refl => rfl
  | tail _ step ih =>
    obtain ⟨i, s, -, moved⟩ := step
    rw [moved.frame]
    exact ih

end Writer

/-- **Every committed operation moves the digit row by at most one operation of its machine.** -/
theorem WriterOp.digitMoves {op : WriterOp} {db db' : Database} (regular : op.isRegular = true)
    (h : op.body db = .ok ((), db')) : DigitMoves db db' := by
  cases op with
  | persistIntentReservationOutbox =>
    obtain ⟨-, -, -, -, frame⟩ := persist_inserts h
    exact .inl (by rw [frame])
  | claimNextMessage =>
    obtain ⟨_, h⟩ := silent_eq_ok h
    rcases claimNextMessage_moved h with ⟨-, rfl⟩ | ⟨_, moved⟩
    · exact .inl rfl
    · exact .inl (by rw [moved.frame])
  | recordDispatchResult =>
    obtain ⟨_, _, _, -, moved⟩ := recordDispatchResult_moved h
    exact .inl (by rw [moved.frame])
  | recordDispatchNotSent => exact .inl (by rw [(recordDispatchNotSent_moved h).frame])
  | cancelExpiredBeforeDispatch =>
    simp only [WriterOp.body, TradingLab.cancelExpiredBeforeDispatch, Except.bind_ok_iff] at h
    obtain ⟨next, cancelled, h⟩ := h
    cases h
    exact .inl (by rw [(cancel_moved cancelled).frame])
  | recoverInterruptedDispatches =>
    obtain ⟨_, h⟩ := silent_eq_ok h
    exact .inl (recoverInterruptedDispatches_moved h).digit
  | cancelExpiredPendingMessages =>
    obtain ⟨_, h⟩ := silent_eq_ok h
    exact .inl (cancelExpiredPendingMessages_moved h).digit
  | applyBrokerEvent => cases regular
  | applyNormalizedBrokerEvent =>
    obtain ⟨_, h⟩ := silent_eq_ok h
    exact event_digitMoves h
  | beginReconciliationAttempt => exact .inl (by rw [(beginReconciliationAttempt_begins h).1])
  | completeReconciliationAttempt =>
    exact .inl (by rw [(completeReconciliationAttempt_finished h).1])
  | applyReconciliationEvidence =>
    obtain ⟨_, h⟩ := silent_eq_ok h
    exact evidence_digitMoves h
  | applyReconciliationNotFound =>
    obtain ⟨_, h⟩ := silent_eq_ok h
    exact .inl (notFound_settlesNone h).2
  | releaseReservation => exact .inl (by rw [releaseReservation_frame h])
  | releaseAfterReconciliation => cases regular
  | configureDigitRiskRuntime policy resets now => exact .inr ⟨.configure policy resets now, db', h, rfl⟩
  | resetDigitTestSessionIfFlat now => exact .inr ⟨.reset now, db', h, rfl⟩
  | expireDigitCooldown checkedAt => exact .inr ⟨.expire checkedAt, db', h, rfl⟩

/-- What the row says about the current sequence is right. -/
structure DigitRiskRuntimeFields.Coherent (row : DigitRiskRuntimeFields) (losses : List String) :
    Prop where
  bounded : 0 ≤ row.martingaleStep ∧ row.martingaleStep ≤ row.martingaleMaxSteps
  running : 0 < row.martingaleStep →
    (∃ symbol ∈ losses, row.pinnedSymbol = some symbol) ∧ 0 < row.cumulativeSequenceLossMinor
  between : row.martingaleStep = 0 → row.pinnedSymbol = none

def Progression.Coherent (s : Progression) : Prop :=
  ∀ row, s.db.digitRiskRuntime = some row → row.toDigitRiskRuntimeFields.Coherent s.losses

/-- The settlement is a win that leaves a part of a loss that no sequence has: the row is
    between two sequences and carries a larger loss, under a policy with progression. -/
def DigitRiskRuntimeFields.ResumesWithoutLoss (row : DigitRiskRuntimeFields) (pnlMinor : Int) :
    Prop :=
  row.martingaleEnabled = true ∧ row.martingaleStep = 0 ∧ 0 < pnlMinor ∧
    pnlMinor < row.cumulativeSequenceLossMinor

def DigitOp.KeepsCoherent (s : Progression) : DigitOp → Prop
  | .settle product _ currency pnlMinor orderId _ _ =>
    ∀ row, s.db.digitRiskRuntime = some row → isDigitProduct product = true →
      row.currency = currency → row.lastOrderId ≠ some orderId →
      ¬ row.ResumesWithoutLoss pnlMinor
  | _ => True

/-! ### One settlement -/

namespace DigitRiskRuntimeFields

variable {row : DigitRiskRuntimeFields} {losses : List String} {pnlMinor : Int}

theorem Coherent.of_between (bound : 0 ≤ row.martingaleMaxSteps) (stopped : row.martingaleStep = 0)
    (unpinned : row.pinnedSymbol = none) : row.Coherent losses := by
  constructor
  case bounded => rw [stopped]; exact ⟨Int.le_refl 0, bound⟩
  case running =>
    intro moving
    rw [stopped] at moving
    exact absurd moving (Int.lt_irrefl 0)
  case between => exact fun _ => unpinned

theorem Coherent.forget (coherent : row.Coherent losses) :
    row.Coherent (if decide (row.martingaleStep > 0) = true then losses else []) := by
  constructor
  case bounded => exact coherent.bounded
  case running =>
    intro moving
    rw [if_pos (decide_eq_true moving)]
    exact coherent.running moving
  case between => exact coherent.between

theorem coherent_settleLoss (checks : row.Checks) (coherent : row.Coherent losses)
    (symbol : String) (loss : pnlMinor < 0) (occurredAt : Instant) :
    (row.settleLoss symbol pnlMinor occurredAt).Coherent (symbol :: losses) := by
  obtain ⟨-, steps, -, -, -, cumulativeNonneg⟩ := checks
  have bounded := coherent.bounded
  have further : (row.settleLoss symbol pnlMinor occurredAt).martingaleStep = 0 ∨
      row.martingaleStep < row.martingaleMaxSteps ∧
      (row.settleLoss symbol pnlMinor occurredAt).martingaleStep = row.martingaleStep + 1 ∧
      (row.settleLoss symbol pnlMinor occurredAt).cumulativeSequenceLossMinor =
        row.cumulativeSequenceLossMinor + -pnlMinor := by
    cases enabled : row.martingaleEnabled with
    | false => exact .inl (by simp [settleLoss, enabled])
    | true =>
      by_cases exhausted : row.martingaleStep ≥ row.martingaleMaxSteps
      · exact .inl (by simp [settleLoss, enabled, exhausted])
      · refine .inr ⟨by omega, ?_, ?_⟩ <;> simp [settleLoss, enabled, exhausted]
  rcases further with stopped | ⟨below, moved, carried⟩
  · refine Coherent.of_between (Int.le_trans (by decide) steps.1 : 0 ≤ row.martingaleMaxSteps)
      stopped ?_
    have unpinned : (row.settleLoss symbol pnlMinor occurredAt).pinnedSymbol =
        if (row.settleLoss symbol pnlMinor occurredAt).martingaleStep > 0 then some symbol
        else none := rfl
    rw [unpinned, stopped, if_neg (Int.lt_irrefl 0)]
  · -- The loss is the newest one of the sequence, and its symbol is pinned.
    have moving : (row.settleLoss symbol pnlMinor occurredAt).martingaleStep > 0 := by omega
    constructor
    case bounded =>
      rw [moved]
      exact ⟨by omega, below⟩
    case running =>
      intro _
      exact ⟨⟨symbol, List.mem_cons_self, if_pos moving⟩, by omega⟩
    case between =>
      intro stopped
      omega

theorem coherent_settleWin (checks : row.Checks) (coherent : row.Coherent losses)
    (win : 0 < pnlMinor) :
    (row.settleWin pnlMinor).Coherent losses ↔ ¬ row.ResumesWithoutLoss pnlMinor := by
  obtain ⟨-, steps, -, -, -, cumulativeNonneg⟩ := checks
  have bounded := coherent.bounded
  unfold settleWin
  simp only
  split
  · rename_i goesOn
    obtain ⟨enabled, carried, below⟩ := goesOn
    constructor
    · -- A sequence that starts with this win has nothing pinned.
      rintro after ⟨-, stopped, -, -⟩
      obtain ⟨⟨symbol, -, pinned⟩, -⟩ := after.running (by simp only; omega)
      simp only [coherent.between stopped] at pinned
      cases pinned
    · intro resumes
      have moving : 0 < row.martingaleStep := by
        by_contra stopped
        exact resumes ⟨enabled, by omega, win, by omega⟩
      constructor
      case bounded => exact ⟨by simp only; omega, below⟩
      case running => exact fun _ => ⟨(coherent.running moving).1, carried⟩
      case between =>
        intro stopped
        simp only at stopped
        omega
  · rename_i ends
    constructor
    · rintro - ⟨enabled, stopped, -, larger⟩
      exact ends ⟨enabled, by omega, by omega⟩
    · intro _
      exact .of_between (Int.le_trans (by decide) steps.1) rfl rfl

theorem settle_policy (row : DigitRiskRuntimeFields) (symbol : String) (pnlMinor : Int)
    (orderId settlementId : String) (occurredAt : Instant) :
    (row.settle symbol pnlMinor orderId settlementId occurredAt).configFingerprint =
        row.configFingerprint ∧
      (row.settle symbol pnlMinor orderId settlementId occurredAt).martingaleMaxSteps =
        row.martingaleMaxSteps := by
  simp only [settle, settleLoss, settleWin, endSequence]
  repeat' split
  all_goals exact ⟨rfl, rfl⟩

theorem coherent_settle (checks : row.Checks) (coherent : row.Coherent losses) (symbol : String)
    (pnlMinor : Int) (orderId settlementId : String) (occurredAt : Instant) :
    (row.settle symbol pnlMinor orderId settlementId occurredAt).Coherent
        ((if pnlMinor < 0 then [symbol] else []) ++ losses) ↔
      ¬ row.ResumesWithoutLoss pnlMinor := by
  unfold settle
  simp only
  by_cases loss : pnlMinor < 0
  · simp only [if_pos loss]
    have after := coherent_settleLoss checks coherent symbol loss occurredAt
    refine ⟨fun _ resumes => ?_, fun _ => ⟨after.bounded, after.running, after.between⟩⟩
    exact absurd resumes.2.2.1 (by omega)
  · simp only [if_neg loss, List.nil_append]
    by_cases win : pnlMinor > 0
    · simp only [if_pos win]
      rw [← coherent_settleWin checks coherent win]
      constructor <;> exact fun after => ⟨after.bounded, after.running, after.between⟩
    · simp only [if_neg win]
      refine ⟨fun _ resumes => win resumes.2.2.1, fun _ => ?_⟩
      exact .of_between (Int.le_trans (by decide) checks.2.1.1) rfl rfl

end DigitRiskRuntimeFields

/-! ### One operation -/

/-- Policies with one fingerprint are one policy. -/
def DeterminedByFingerprint (policies : List DigitRuntimePolicy) : Prop :=
  ∀ p ∈ policies, ∀ q ∈ policies, p.configFingerprint = q.configFingerprint → p = q

namespace Progression

/-- Coherence, and the row's policy is one of those that the run has configured. -/
structure Sound (policies : List DigitRuntimePolicy) (s : Progression) : Prop where
  coherent : s.Coherent
  installed : ∀ row, s.db.digitRiskRuntime = some row → ∃ p ∈ policies,
    row.configFingerprint = p.configFingerprint ∧ row.martingaleMaxSteps = p.martingaleMaxSteps

section Step
variable {policies : List DigitRuntimePolicy} {s : Progression} {op : DigitOp} {next : Database}
  {row row' : DigitRiskRuntime} {product symbol currency orderId settlementId : String}
  {pnlMinor : Int} {occurredAt : Instant}

section

variable (h : op.body s.db = .ok ((), next)) (present : next.digitRiskRuntime = some row')
include h present

theorem step_of_ok :
    s.step op = ⟨next, if decide (row'.martingaleStep > 0) = true then
      (op.lossSymbol s.db).toList ++ s.losses else []⟩ := by
  simp only [step, h, isRunning, present, Option.any_some]

theorem coherent_step_iff :
    (s.step op).Coherent ↔
      row'.toDigitRiskRuntimeFields.Coherent ((op.lossSymbol s.db).toList ++ s.losses) := by
  rw [step_of_ok h present]
  constructor
  · intro after
    have coherent := after row' present
    refine ⟨coherent.bounded, ?_, coherent.between⟩
    intro moving
    have forgotten := coherent.running moving
    rwa [if_pos (decide_eq_true moving)] at forgotten
  · intro coherent r there
    simp only [present, Option.some.injEq] at there
    subst there
    exact coherent.forget

theorem coherent_of_between (stopped : row'.martingaleStep = 0)
    (unpinned : row'.pinnedSymbol = none) : (s.step op).Coherent := by
  rw [coherent_step_iff h present]
  exact .of_between (Int.le_trans (by decide) row'.checks.2.1.1) stopped unpinned

end

theorem settle_cases
    (h : (DigitOp.settle product symbol currency pnlMinor orderId settlementId occurredAt).body
      s.db = .ok ((), next)) :
    (isDigitProduct product = false ∨
        ∃ row, s.db.digitRiskRuntime = some row ∧ row.lastOrderId = some orderId) ∧ next = s.db ∨
      ∃ row, isDigitProduct product = true ∧ s.db.digitRiskRuntime = some row ∧
        row.currency = currency ∧ row.lastOrderId ≠ some orderId ∧ next = { s.db with
          digitRiskRuntime :=
            some (row.settle symbol pnlMinor orderId settlementId occurredAt) } := by
  cases applied : s.db.applyDigitRuntimeSettlement product symbol currency pnlMinor orderId
      settlementId occurredAt with
  | error e =>
    simp only [DigitOp.body, applied] at h
    cases h
  | ok after =>
    simp only [DigitOp.body, applied] at h
    cases h
    rcases Database.applyDigitRuntimeSettlement_eq_ok applied with
      ⟨other, same⟩ | ⟨row, digit, present, paid, ⟨seen, same⟩ | ⟨unseen, counted⟩⟩
    · exact .inl ⟨.inl other, same⟩
    · exact .inl ⟨.inr ⟨row, present, seen⟩, same⟩
    · exact .inr ⟨row, digit, present, paid, unseen, counted⟩

theorem coherent_of_same (h : op.body s.db = .ok ((), s.db)) (noLoss : op.lossSymbol s.db = none)
    (coherent : s.Coherent) : (s.step op).Coherent := by
  cases present : s.db.digitRiskRuntime with
  | none =>
    intro row there
    simp only [step, h] at there
    rw [present] at there
    cases there
  | some row =>
    rw [coherent_step_iff h present, noLoss]
    exact coherent row present

theorem coherent_settle_iff (coherent : s.Coherent) :
    (s.step (.settle product symbol currency pnlMinor orderId settlementId occurredAt)).Coherent ↔
      (DigitOp.settle product symbol currency pnlMinor orderId settlementId
        occurredAt).KeepsCoherent s := by
  by_cases counted : ∃ row, s.db.digitRiskRuntime = some row ∧ isDigitProduct product = true ∧
      row.currency = currency ∧ row.lastOrderId ≠ some orderId
  · obtain ⟨row, present, digit, paid, unseen⟩ := counted
    have applied : (DigitOp.settle product symbol currency pnlMinor orderId settlementId
        occurredAt).body s.db = .ok ((), { s.db with
          digitRiskRuntime :=
            some (row.settle symbol pnlMinor orderId settlementId occurredAt) }) := by
      simp only [DigitOp.body, Database.applyDigitRuntimeSettlement, digit, present, paid,
        if_neg unseen, if_true]
      rfl
    have losses : ((DigitOp.settle product symbol currency pnlMinor orderId settlementId
        occurredAt).lossSymbol s.db).toList = if pnlMinor < 0 then [symbol] else [] := by
      by_cases loss : pnlMinor < 0 <;> simp [DigitOp.lossSymbol, digit, present, unseen, loss]
    rw [coherent_step_iff applied rfl, losses]
    refine (DigitRiskRuntimeFields.coherent_settle row.checks (coherent row present) symbol pnlMinor
      orderId settlementId occurredAt).trans ⟨?_, fun keeps => keeps row present digit paid unseen⟩
    intro fine row₁ there _ _ _
    rw [present] at there
    cases there
    exact fine
  · -- The settlement is refused or skipped.
    refine ⟨fun _ row present digit paid unseen => absurd ⟨row, present, digit, paid, unseen⟩ counted,
      fun _ => ?_⟩
    cases h : (DigitOp.settle product symbol currency pnlMinor orderId settlementId
        occurredAt).body s.db with
    | error e =>
      simp only [step, h]
      exact coherent
    | ok answer =>
      obtain ⟨⟨⟩, next⟩ := answer
      rcases settle_cases h with ⟨skipped, rfl⟩ | ⟨row, digit, present, paid, unseen, -⟩
      · apply coherent_of_same h _ coherent
        rcases skipped with other | ⟨row, present, seen⟩
        · simp [DigitOp.lossSymbol, other]
        · simp [DigitOp.lossSymbol, present, seen]
      · exact absurd ⟨row, present, digit, paid, unseen⟩ counted

section

variable (sound : Sound policies s)
include sound

theorem Sound.configure (determined : DeterminedByFingerprint policies)
    {policy : DigitRuntimePolicy} {resets : Bool} {now : Instant} (known : policy ∈ policies)
    (h : configureDigitRiskRuntime policy resets now s.db = .ok ((), next)) :
    Sound policies (s.step (.configure policy resets now)) := by
  have committed : (DigitOp.configure policy resets now).body s.db = .ok ((), next) := h
  obtain ⟨-, row', rfl, kind⟩ := configureDigitRiskRuntime_cases h
  have installed : row'.configFingerprint = policy.configFingerprint ∧
      row'.martingaleMaxSteps = policy.martingaleMaxSteps := by
    rcases kind with ⟨-, fields⟩ | ⟨row, -, -, fields⟩
    · rw [fields]
      exact ⟨rfl, rfl⟩
    · rw [fields]
      cases resets <;> exact ⟨rfl, rfl⟩
  constructor
  case installed =>
    intro row₁ there
    simp only [step, committed, Option.some.injEq] at there
    subst there
    exact ⟨policy, known, installed⟩
  case coherent =>
    rcases kind with ⟨-, fields⟩ | ⟨row, present, idle, fields⟩
    · exact coherent_of_between committed rfl (by rw [fields]; rfl) (by rw [fields]; rfl)
    cases resets with
    | true => exact coherent_of_between committed rfl (by rw [fields]; rfl) (by rw [fields]; rfl)
    | false =>
      have coherent := sound.coherent row present
      by_cases stopped : row.martingaleStep = 0
      · apply coherent_of_between committed rfl
        · rw [fields]
          exact stopped
        · rw [fields]
          exact coherent.between stopped
      · -- The sequence goes on, so the fingerprint is the row's, and so is the bound.
        have same : row.configFingerprint = policy.configFingerprint := by
          by_contra other
          have bounded := coherent.bounded
          exact idle ⟨other, by omega, rfl⟩
        obtain ⟨p, member, fingerprint, bound⟩ := sound.installed row present
        have p_eq : p = policy := determined p member policy known (fingerprint.symm.trans same)
        subst p_eq
        rw [coherent_step_iff committed rfl, fields]
        refine ⟨?_, coherent.running, coherent.between⟩
        have bounded := coherent.bounded
        rw [bound] at bounded
        exact bounded

theorem Sound.settle (keeps : (DigitOp.settle product symbol currency pnlMinor orderId settlementId
      occurredAt).KeepsCoherent s) :
    Sound policies
      (s.step (.settle product symbol currency pnlMinor orderId settlementId occurredAt)) := by
  refine ⟨(coherent_settle_iff sound.coherent).mpr keeps, ?_⟩
  intro row' there
  cases h : (DigitOp.settle product symbol currency pnlMinor orderId settlementId
      occurredAt).body s.db with
  | error e =>
    simp only [step, h] at there
    exact sound.installed row' there
  | ok answer =>
    obtain ⟨⟨⟩, next⟩ := answer
    simp only [step, h] at there
    rcases settle_cases h with ⟨-, same⟩ | ⟨row, -, present, -, -, counted⟩
    · rw [same] at there
      exact sound.installed row' there
    · rw [counted] at there
      cases there
      have policy : (row.settle symbol pnlMinor orderId settlementId occurredAt).configFingerprint =
          row.configFingerprint ∧
          (row.settle symbol pnlMinor orderId settlementId occurredAt).martingaleMaxSteps =
            row.martingaleMaxSteps :=
        DigitRiskRuntimeFields.settle_policy row.toDigitRiskRuntimeFields symbol pnlMinor orderId
          settlementId occurredAt
      rw [policy.1, policy.2]
      exact sound.installed row present

theorem Sound.restart (noLoss : op.lossSymbol s.db = none) (h : op.body s.db = .ok ((), next))
    (resets : next = s.db ∨ ∃ row row', s.db.digitRiskRuntime = some row ∧
      next = { s.db with digitRiskRuntime := some row' } ∧ row'.martingaleStep = 0 ∧
      row'.pinnedSymbol = none ∧ row'.configFingerprint = row.configFingerprint ∧
      row'.martingaleMaxSteps = row.martingaleMaxSteps) : Sound policies (s.step op) := by
  rcases resets with rfl | ⟨row, row', present, rfl, stopped, unpinned, fingerprint, bound⟩
  · refine ⟨coherent_of_same h noLoss sound.coherent, ?_⟩
    intro row there
    simp only [step, h] at there
    exact sound.installed row there
  · refine ⟨coherent_of_between h rfl stopped unpinned, ?_⟩
    intro row₁ there
    simp only [step, h, Option.some.injEq] at there
    subst there
    rw [fingerprint, bound]
    exact sound.installed row present

theorem Sound.step (determined : DeterminedByFingerprint policies)
    (known : ∀ p ∈ op.policy, p ∈ policies) (keeps : op.KeepsCoherent s) :
    Sound policies (s.step op) := by
  cases h : op.body s.db with
  | error e =>
    simp only [Progression.step, h]
    exact sound
  | ok answer =>
    obtain ⟨⟨⟩, next⟩ := answer
    cases op with
    | configure policy resets now => exact sound.configure determined (known policy rfl) h
    | settle => exact sound.settle keeps
    | expire checkedAt =>
      apply sound.restart rfl h
      obtain ⟨_, expired⟩ := silent_eq_ok h
      obtain ⟨-, same | ⟨row, row', present, after, fields⟩⟩ := expireDigitCooldown_cases expired
      · exact .inl same
      · refine .inr ⟨row, row', present, after, ?_⟩
        rw [fields]
        exact ⟨rfl, rfl, rfl, rfl⟩
    | reset now =>
      apply sound.restart rfl h
      obtain ⟨row, row', present, after, fields⟩ := resetDigitTestSessionIfFlat_cases h
      refine .inr ⟨row, row', present, after, ?_⟩
      rw [fields]
      exact ⟨rfl, rfl, rfl, rfl⟩

theorem Sound.keepsCoherent (after : (s.step op).Coherent) :
    op.KeepsCoherent s := by
  cases op with
  | settle => exact (coherent_settle_iff sound.coherent).mp after
  | configure | expire | reset => trivial

end

end Step

end Progression

/-! ### Runs -/

/-- **The digit row is coherent throughout a run exactly when no settled win starts a
    sequence.** The run may start from any database without a digit row, and its policies
    are determined by their fingerprints. -/
theorem progression_iff {db : Database} (unconfigured : db.digitRiskRuntime = none)
    (ops : List DigitOp) (determined : DeterminedByFingerprint (ops.filterMap DigitOp.policy)) :
    Machine.Always Progression.step Progression.Coherent ⟨db, []⟩ ops ↔
      Machine.Guarded Progression.step (fun s op => op.KeepsCoherent s) ⟨db, []⟩ ops := by
  have noRow : ∀ row, db.digitRiskRuntime ≠ some row := by
    intro row present
    rw [unconfigured] at present
    cases present
  have start : Progression.Sound (ops.filterMap DigitOp.policy) ⟨db, []⟩ :=
    ⟨fun row present => absurd present (noRow row), fun row present => absurd present (noRow row)⟩
  have known : ∀ op ∈ ops, ∀ p ∈ op.policy, p ∈ ops.filterMap DigitOp.policy :=
    fun op member p given => List.mem_filterMap.mpr ⟨op, member, given⟩
  have keeps : ∀ (s : Progression) (op : DigitOp),
      Progression.Sound (ops.filterMap DigitOp.policy) s →
      (∀ p ∈ op.policy, p ∈ ops.filterMap DigitOp.policy) → op.KeepsCoherent s →
      Progression.Sound (ops.filterMap DigitOp.policy) (s.step op) :=
    fun s op sound known keeps => sound.step determined known keeps
  apply Machine.always_iff_guarded _ keeps _ start known
  · exact fun s sound => sound.coherent
  · exact fun s op sound _ after => sound.keepsCoherent after

namespace Sample

def flatPolicy : DigitRuntimePolicy :=
  { digitPolicy with configFingerprint := "policy-0", martingaleEnabled := false }

def recoveryOps : List DigitOp :=
  [.configure digitPolicy false 0,
    .settle "DIGITEVEN" "R_10" "USD" (-100) "order-1" "event-1" 10,
    .settle "DIGITEVEN" "R_10" "USD" (-200) "order-2" "event-2" 20,
    .settle "DIGITEVEN" "R_10" "USD" 150 "order-3" "event-3" 30]

def resumedOps : List DigitOp :=
  [.configure flatPolicy false 0,
    .settle "DIGITEVEN" "R_10" "USD" (-100) "order-1" "event-1" 10,
    .configure digitPolicy false 20,
    .settle "DIGITEVEN" "R_10" "USD" 50 "order-2" "event-2" 30]

end Sample

theorem recovery_sample_coherent :
    Machine.Always Progression.step Progression.Coherent ⟨Database.empty, []⟩ Sample.recoveryOps := by
  have determined : DeterminedByFingerprint (Sample.recoveryOps.filterMap DigitOp.policy) := by
    intro p hp q hq _
    rw [List.mem_singleton.mp hp, List.mem_singleton.mp hq]
  apply (progression_iff rfl Sample.recoveryOps determined).mpr
  refine ⟨trivial, ?_, ?_, ?_, trivial⟩
  · exact fun row _ _ _ _ resumes => absurd resumes.2.2.1 (by decide)
  · exact fun row _ _ _ _ resumes => absurd resumes.2.2.1 (by decide)
  · intro row present _ _ _ resumes
    have second : (Machine.run Progression.step ⟨Database.empty, []⟩
        (Sample.recoveryOps.take 3)).db.digitRiskRuntime.map (fun row => row.martingaleStep) =
          some 2 := by decide
    rw [show (Machine.run Progression.step ⟨Database.empty, []⟩
      (Sample.recoveryOps.take 3)).db.digitRiskRuntime = some row from present,
      Option.map_some, resumes.2.1] at second
    cases second

/-- The win starts a sequence at step 1 with nothing pinned. -/
theorem resumed_sample_unpinned :
    DeterminedByFingerprint (Sample.resumedOps.filterMap DigitOp.policy) ∧
      ∃ row, (Machine.run Progression.step ⟨Database.empty, []⟩
          Sample.resumedOps).db.digitRiskRuntime = some row ∧
        row.martingaleStep = 1 ∧ row.cumulativeSequenceLossMinor = 50 ∧ row.pinnedSymbol = none ∧
        ¬ (Machine.run Progression.step ⟨Database.empty, []⟩ Sample.resumedOps).Coherent := by
  have reached : (Machine.run Progression.step ⟨Database.empty, []⟩
      Sample.resumedOps).db.digitRiskRuntime.map (fun row =>
        (row.martingaleStep, row.cumulativeSequenceLossMinor, row.pinnedSymbol)) =
      some (1, 50, none) := by decide
  obtain ⟨row, present, columns⟩ := Option.map_eq_some_iff.mp reached
  simp only [Prod.mk.injEq] at columns
  obtain ⟨first, carried, unpinned⟩ := columns
  constructor
  · intro p hp q hq same
    have two : Sample.resumedOps.filterMap DigitOp.policy =
        [Sample.flatPolicy, Sample.digitPolicy] := rfl
    simp only [two, List.mem_cons, List.not_mem_nil, or_false] at hp hq
    rcases hp with rfl | rfl <;> rcases hq with rfl | rfl <;>
      first | rfl | exact absurd same (by decide)
  · refine ⟨row, present, first, carried, unpinned, ?_⟩
    intro coherent
    obtain ⟨⟨symbol, -, pinned⟩, -⟩ := (coherent row present).running (by omega)
    rw [unpinned] at pinned
    cases pinned

end TradingLab

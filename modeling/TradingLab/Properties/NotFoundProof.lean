import Mathlib.Data.List.Induction
import TradingLab.Persistence.Attempts
import TradingLab.Properties.EvidenceReading

/-!
# The proof that an order was never submitted

Negative evidence rejects an UNKNOWN order when an earlier attempt has found it missing in both
sources as well. The earlier attempt is looked up by its reason; what other attempts reported in
between is not.
-/
namespace TradingLab

open Relational
open Database Operation

/-! ### Reports -/

/-- The operation reports that both sources miss the order. -/
def ReportsNotFound (db : Database) (op : WriterOp) (orderId : String) (observedAt : Instant) :
    Prop :=
  ∃ attemptId evidence policy resolvedAt row result db',
    op = .applyReconciliationNotFound attemptId evidence policy resolvedAt ∧
    db.orderOfStartedAttempt attemptId = some row ∧ row.orderId = orderId ∧
    evidence.confirmsBothSources = true ∧ evidence.observedAt = observedAt ∧
    applyReconciliationNotFound attemptId evidence policy resolvedAt db = .ok (result, db')

/-- The operation reports that the order exists at the broker, in whatever state. -/
def ReportsFound (db : Database) (op : WriterOp) (orderId : String) : Prop :=
  ∃ attemptId evidence resolvedAt row,
    op = .applyReconciliationEvidence attemptId evidence resolvedAt ∧
    db.orderOfStartedAttempt attemptId = some row ∧ row.orderId = orderId

/-- The run has found the order missing in both sources, and has not seen it since. -/
def Proven (ops : List WriterOp) (orderId : String) (observedAt : Instant) : Prop :=
  ∃ before op after, ops = before ++ op :: after ∧
    ReportsNotFound (Machine.run writerStep Database.empty before) op orderId observedAt ∧
    Machine.Guarded writerStep (fun db later => ¬ ReportsFound db later orderId)
      (writerStep (Machine.run writerStep Database.empty before) op) after

variable {orderId attemptId : String} {target : OrderState} {db : Database}

theorem Proven.extend {ops : List WriterOp} {observedAt : Instant}
    (proven : Proven ops orderId observedAt) {op : WriterOp}
    (unseen : ¬ ReportsFound (Machine.run writerStep Database.empty ops) op orderId) :
    Proven (ops ++ [op]) orderId observedAt := by
  obtain ⟨before, first, after, rfl, reports, silent⟩ := proven
  refine ⟨before, first, after ++ [op], by simp, reports, ?_⟩
  rw [Machine.run_append] at unseen
  exact Machine.guarded_append.mpr ⟨silent, unseen, trivial⟩

theorem not_proven_of_found {before after : List WriterOp} {found : WriterOp}
    (seen : ReportsFound (Machine.run writerStep Database.empty before) found orderId)
    (silent : ∀ db, ∀ op ∈ after, ∀ observedAt, ¬ ReportsNotFound db op orderId observedAt)
    (observedAt : Instant) : ¬ Proven (before ++ found :: after) orderId observedAt := by
  rintro ⟨first, op, rest, split, reports, unseen⟩
  have differ : found ≠ op := by
    rintro rfl
    obtain ⟨_, _, _, _, absent, -⟩ := seen
    obtain ⟨_, _, _, _, _, _, _, missing, -⟩ := reports
    rw [absent] at missing
    cases missing
  rcases List.append_eq_append_iff.mp split with ⟨middle, rfl, tail⟩ | ⟨middle, rfl, tail⟩
  · -- The report of absence would come after the report of existence.
    cases middle with
    | nil => exact absurd (List.cons.inj tail).1 differ
    | cons head middle =>
      obtain ⟨rfl, later⟩ := List.cons.inj tail
      refine silent _ op ?_ observedAt reports
      rw [later]
      simp
  · cases middle with
    | nil => exact absurd (List.cons.inj tail).1.symm differ
    | cons head middle =>
      obtain ⟨rfl, rfl⟩ := List.cons.inj tail
      rw [Machine.run_append] at seen
      exact (Machine.guarded_append.mp unseen).2.1 seen

/-- An attempt that `apply_reconciliation_not_found` takes for an earlier proof. -/
def AttemptRow.NotFoundAt (a : AttemptRow) (orderId : String) (observedAt : Instant) : Prop :=
  a.orderId = orderId ∧ a.result = "UNRESOLVED" ∧ a.reasonCode = some notFoundReason ∧
    a.completedAt = some observedAt

/-- Evidence for an order with an earlier proof moves the order, and an attempt is completed
    under the reason of the proof by negative evidence only. -/
def KeepsProof (db : Database) : WriterOp → Prop
  | .applyReconciliationEvidence attemptId evidence _ =>
    ∀ row ti, db.orderOfStartedAttempt attemptId = some row → db.intent row.intentId = some ti →
      (∀ a ∈ db.reconciliationAttempts.rows, ∀ at_, ¬ a.NotFoundAt row.orderId at_) ∨
        ∃ target, db.readEvidence row ti evidence = .stands target ∧ db.Resolvable row ti target
  | .completeReconciliationAttempt _ result reasonCode _ =>
    ¬ (result = "UNRESOLVED" ∧ reasonCode = notFoundReason)
  | _ => True

/-! ### Where the earlier attempts come from -/

section Origin
variable {db db' : Database} {attemptId : String} {a' : AttemptRow}
  {result : ReconciliationApplyResult} {evidence : NotFoundEvidence} {policy : NotFoundPolicy}
  {resolvedAt : Instant}

theorem AttemptFinished.before {result : String} {reasonCode : Option String}
    (finished : AttemptFinished db db' attemptId result reasonCode)
    (member : a' ∈ db'.reconciliationAttempts.rows) :
    a' ∈ db.reconciliationAttempts.rows ∨
      (∃ a ∈ db.reconciliationAttempts.rows, a.attemptId = attemptId ∧ a'.orderId = a.orderId) ∧
        a'.result = result ∧ a'.reasonCode = reasonCode := by
  obtain ⟨f, keeps, rows⟩ := finished
  rw [rows, List.mem_map] at member
  obtain ⟨a, here, rfl⟩ := member
  unfold Table.change
  split
  · rename_i chosen
    simp only [Bool.and_eq_true, beq_iff_eq] at chosen
    exact .inr ⟨⟨a, here, chosen.1, (keeps a).2.1⟩, (keeps a).2.2⟩
  · exact .inl here

theorem confirms_of_applied
    (h : applyReconciliationNotFound attemptId evidence policy resolvedAt db = .ok (result, db')) :
    evidence.confirmsBothSources = true := by
  unfold applyReconciliationNotFound at h
  split at h
  · cases h
  · rename_i valid
    by_contra unconfirmed
    exact valid (.inl (Bool.not_eq_true _ ▸ unconfirmed))

theorem reason_of_inconclusive {reading : EvidenceReading} {s : OrderState}
    (answer : reading.answer s = some result) (unresolved : result.status = .unresolved) :
    result.reasonCode = some "RECONCILIATION_EXTERNAL_UNKNOWN" := by
  cases reading <;> cases answer <;> first | rfl | cases unresolved

theorem status_of_value {status : ReconciliationApplyStatus} (h : status.value = "UNRESOLVED") :
    status = .unresolved := by
  cases status <;> first | rfl | exact absurd h (by decide)

theorem completedAt_of_unresolved
    (h : applyReconciliationNotFound attemptId evidence policy resolvedAt db = .ok (result, db'))
    (unresolved : result.status = .unresolved) (member : a' ∈ db'.reconciliationAttempts.rows) :
    a' ∈ db.reconciliationAttempts.rows ∨ a'.completedAt = some evidence.observedAt := by
  unfold applyReconciliationNotFound at h
  split at h
  · cases h
  split at h
  · cases h
  rename_i row started
  obtain ⟨_, -, -, byId⟩ := orderOfStartedAttempt_spec started
  split at h
  · simp only [Except.bind_ok_iff] at h
    obtain ⟨_, -, h⟩ := h
    cases h
    cases unresolved
  split at h
  · obtain ⟨-, -, rfl⟩ := rejectNotFound_spec (order_of_orderById byId) h
    cases unresolved
  · simp only [Except.bind_ok_iff] at h
    obtain ⟨finished, finishes, h⟩ := h
    cases h
    unfold finishReconciliationAttempt updateStartedAttempt at finishes
    simp only at finishes
    split at finishes <;> cases finishes
    obtain ⟨a, here, rfl⟩ := List.mem_map.mp member
    unfold Table.change
    split
    · exact .inr rfl
    · exact .inl here

theorem notFoundAt_before (reachable : Reachable db) {op : WriterOp}
    (h : op.body db = .ok ((), db')) (keeps : KeepsProof db op)
    (member : a' ∈ db'.reconciliationAttempts.rows) {observedAt : Instant}
    (missing : a'.NotFoundAt orderId observedAt) :
    a' ∈ db.reconciliationAttempts.rows ∨ ReportsNotFound db op orderId observedAt := by
  obtain ⟨named, unresolved, reason, completed⟩ := missing
  by_cases other : op.onAttempts = false
  · rw [op.attempts_eq other h] at member
    exact .inl member
  cases op with
  | beginReconciliationAttempt =>
    obtain ⟨-, -, a, -, -, started, inserted⟩ := beginReconciliationAttempt_begins h
    rw [(Table.insert_eq_some_iff.mp inserted).2, List.mem_append, List.mem_singleton] at member
    rcases member with old | rfl
    · exact .inl old
    · rw [started] at unresolved
      exact absurd unresolved (by decide)
  | completeReconciliationAttempt =>
    rcases (completeReconciliationAttempt_finished h).2.before member with old | ⟨-, result, code⟩
    · exact .inl old
    · rw [result] at unresolved
      rw [code] at reason
      exact absurd ⟨unresolved, Option.some.inj reason⟩ keeps
  | applyReconciliationEvidence attemptId evidence resolvedAt =>
    obtain ⟨result, h⟩ := silent_eq_ok h
    obtain ⟨row, ti, started, intent, closed, -⟩ := applyReconciliationEvidence_cases h
    rcases closed.before member with old | ⟨-, status, code⟩
    · exact .inl old
    · have answer := ((applyReconciliationEvidence_iff reachable.evidenced started intent).mp
        ⟨db', h⟩).2
      have own := reason_of_inconclusive answer (status_of_value (status.symm.trans unresolved))
      rw [code, own] at reason
      exact absurd (Option.some.inj reason) (by decide)
  | applyReconciliationNotFound attemptId evidence policy resolvedAt =>
    obtain ⟨result, h⟩ := silent_eq_ok h
    obtain ⟨row, started, closed, -⟩ := applyReconciliationNotFound_cases h
    rcases closed.before member with old | ⟨⟨a, here, sameId, sameOrder⟩, status, -⟩
    · exact .inl old
    · have observed := completedAt_of_unresolved h (status_of_value (status.symm.trans unresolved))
        member
      refine observed.imp_right fun observed => ?_
      obtain ⟨attempt, begun, -, byId⟩ := orderOfStartedAttempt_spec started
      obtain rfl : a = attempt := Option.some.inj
        ((Table.lookup_eq_some_iff unique_attemptRow_attemptId).mpr ⟨here, sameId⟩ |>.symm.trans
          begun)
      refine ⟨attemptId, evidence, policy, resolvedAt, row, result, db', rfl, started, ?_,
        confirms_of_applied h, Option.some.inj (observed.symm.trans completed), h⟩
      rw [(Table.mem_of_lookup byId).2, ← sameOrder, named]
  | _ => exact absurd rfl other

end Origin

def OrderState.beforeAnswer (s : OrderState) : Bool :=
  s == .outboxed || s == .dispatching || s == .unknown

theorem OrderState.beforeAnswer_of_allowed {s : OrderState}
    (allowed : target ∈ allowedTransitions s) (early : target.beforeAnswer = true) :
    s.beforeAnswer = true := by
  revert allowed early
  cases s <;> cases target <;> decide

theorem beforeAnswer_target {status : ExternalOrderStatus}
    (named : orderStateForExternalStatus status = some target) : target.beforeAnswer = false := by
  cases status <;> cases named <;> rfl

section States
variable {db db' : Database}

theorem WriterOp.beforeAnswer_before {op : WriterOp} (h : op.body db = .ok ((), db')) {o o' : OrderRow} (found : db.orderById orderId = some o)
    (found' : db'.orderById orderId = some o') (early : o'.state.beforeAnswer = true) :
    o.state.beforeAnswer = true := by
  rcases op.creates_or_changes h with created | changes
  · obtain rfl := Option.some.inj ((orderById_creates created found).symm.trans found')
    exact early
  · by_contra late
    have stays : ∃ o', db'.orderById orderId = some o' ∧ ¬ o'.state.beforeAnswer = true := by
      refine Changes.invariant
        (fun db => ∃ o, db.orderById orderId = some o ∧ ¬ o.state.beforeAnswer = true) ?_
        ⟨o, found, late⟩ changes
      rintro db db' ⟨o, found, late⟩ change
      obtain ⟨o', found', step⟩ := orderById_change change found
      refine ⟨o', found', fun early => late ?_⟩
      rcases step.state with same | allowed
      · rwa [← same]
      · exact OrderState.beforeAnswer_of_allowed allowed early
    obtain ⟨o'', found'', late'⟩ := stays
    obtain rfl := Option.some.inj (found'.symm.trans found'')
    exact late' early

end States

/-! ### Runs -/

/-- Every earlier attempt that could still reject its order is a proof of the run. -/
def AllProven (ops : List WriterOp) : Prop :=
  ∀ a ∈ (Machine.run writerStep Database.empty ops).reconciliationAttempts.rows,
    ∀ orderId observedAt o, a.NotFoundAt orderId observedAt →
      (Machine.run writerStep Database.empty ops).orderById orderId = some o →
      o.state.beforeAnswer = true → Proven ops orderId observedAt

section Runs
variable {ops : List WriterOp} {op : WriterOp}

theorem unseen_of_keeps {db : Database} (reachable : Reachable db) (keeps : KeepsProof db op) {a : AttemptRow} {observedAt : Instant}
    (member : a ∈ db.reconciliationAttempts.rows) (missing : a.NotFoundAt orderId observedAt)
    {o' : OrderRow} (found' : (writerStep db op).orderById orderId = some o')
    (early : o'.state.beforeAnswer = true) : ¬ ReportsFound db op orderId := by
  rintro ⟨attemptId, evidence, resolvedAt, row, rfl, started, rfl⟩
  obtain ⟨_, -, -, byId⟩ := orderOfStartedAttempt_spec started
  obtain ⟨ti, intent⟩ := reachable.intent_of_order (order_of_orderById byId)
  rcases keeps row ti started intent with none | ⟨target, stands, resolvable⟩
  · exact none a member observedAt missing
  · have answers : ∃ db', applyReconciliationEvidence attemptId evidence resolvedAt db =
        .ok (⟨.resolved, target, none⟩, db') :=
      (applyReconciliationEvidence_iff reachable.evidenced started intent).mpr
        (by rw [stands]; exact ⟨resolvable, rfl⟩)
    obtain ⟨db', answered⟩ := answers
    obtain ⟨named, after⟩ := order_of_resolved started answered rfl
    have step : writerStep db (.applyReconciliationEvidence attemptId evidence resolvedAt) = db' :=
      transact_silent_of_ok answered
    rw [step, after] at found'
    obtain rfl := Option.some.inj found'
    rw [OrderRow.afterEvidence_state, beforeAnswer_target named] at early
    cases early

theorem AllProven.step (proven : AllProven ops)
    (keeps : KeepsProof (Machine.run writerStep Database.empty ops) op) :
    AllProven (ops ++ [op]) := by
  intro a member orderId observedAt o' missing found' early
  have reachable : Reachable (Machine.run writerStep Database.empty ops) := ⟨ops, rfl⟩
  rw [Machine.run_append, Machine.run_cons, Machine.run_nil] at member found'
  -- An attempt that was there before is a proof before, and the step has not seen the order.
  have old : a ∈ (Machine.run writerStep Database.empty ops).reconciliationAttempts.rows →
      (∀ o, (Machine.run writerStep Database.empty ops).orderById orderId = some o →
        o.state.beforeAnswer = true) → Proven (ops ++ [op]) orderId observedAt := by
    intro member before
    have there := reachable.attempted a member
    rw [missing.1, Option.isSome_iff_exists] at there
    obtain ⟨o, found⟩ := there
    exact (proven a member orderId observedAt o missing found (before o found)).extend
      (unseen_of_keeps reachable keeps member missing found' early)
  cases committed : op.body (Machine.run writerStep Database.empty ops) with
  | error e =>
    have same := Machine.transact_of_error committed
    rw [writerStep, same] at member found'
    exact old member fun o found => Option.some.inj (found'.symm.trans found) ▸ early
  | ok answer =>
    have next := Machine.transact_of_ok committed
    rw [writerStep, next] at member found'
    rcases notFoundAt_before reachable committed keeps member missing with before | reports
    · exact old before fun o found => op.beforeAnswer_before committed found found' early
    · exact ⟨ops, op, [], rfl, reports, trivial⟩

theorem allProven_of_guarded
    (guarded : Machine.Guarded writerStep KeepsProof Database.empty ops) : AllProven ops := by
  induction ops using List.reverseRecOn with
  | nil =>
    intro a member
    cases member
  | append_singleton before op ih =>
    obtain ⟨earlier, keeps, -⟩ := Machine.guarded_append.mp guarded
    exact (ih earlier).step keeps

end Runs

/-! ### The rejection -/

theorem foldl_choice {α : Type*} {choose : Option α → α → Option α}
    (chooses : ∀ best next, choose best next = some next ∨ choose best next = best)
    {rows : List α} {entry : α} {best : Option α}
    (chosen : rows.foldl choose best = some entry) : best = some entry ∨ entry ∈ rows := by
  induction rows generalizing best with
  | nil => exact .inl chosen
  | cons next rest ih =>
    rcases ih chosen with here | later
    · rcases chooses best next with taken | kept
      · exact .inr (Option.some.inj (taken.symm.trans here) ▸ List.mem_cons_self)
      · exact .inl (kept.symm.trans here)
    · exact .inr (List.mem_cons_of_mem _ later)

theorem latestCompletion_mem {rows : List (AttemptRow × Instant)} {entry : AttemptRow × Instant}
    (latest : latestCompletion rows = some entry) : entry ∈ rows := by
  refine (foldl_choice ?_ latest).resolve_left nofun
  rintro (none | current) next
  · exact .inl rfl
  · by_cases later : current.2 < next.2
    · exact .inl (if_pos later)
    · exact .inr (if_neg later)

theorem notFoundAt_of_prior
    {prior : AttemptRow × Instant} (found : db.priorNotFound orderId attemptId = some prior) :
    prior.1 ∈ db.reconciliationAttempts.rows ∧ prior.1.NotFoundAt orderId prior.2 := by
  obtain ⟨a, member, chosen⟩ := List.mem_filterMap.mp (latestCompletion_mem found)
  split at chosen
  · rename_i completedAt completed
    split at chosen
    · rename_i fits
      cases chosen
      exact ⟨member, fits.1, fits.2.2.1, fits.2.2.2, completed⟩
    · cases chosen
  · cases chosen

theorem checked_of_rejected {db' : Database} {evidence : NotFoundEvidence}
    {policy : NotFoundPolicy} {resolvedAt : Instant} {result : ReconciliationApplyResult}
    (h : applyReconciliationNotFound attemptId evidence policy resolvedAt db = .ok (result, db'))
    (resolved : result.status = .resolved) :
    ∃ row prior observedAt, db.orderOfStartedAttempt attemptId = some row ∧
      row.state = .unknown ∧
      policy.notFoundGraceSeconds ≤ elapsedSeconds row.createdAt evidence.observedAt ∧
      prior ∈ db.reconciliationAttempts.rows ∧ prior.NotFoundAt row.orderId observedAt ∧
      policy.confirmationIntervalSeconds ≤ elapsedSeconds observedAt evidence.observedAt := by
  unfold applyReconciliationNotFound at h
  split at h
  · cases h
  split at h
  · cases h
  rename_i row started
  split at h
  · simp only [Except.bind_ok_iff] at h
    obtain ⟨_, -, h⟩ := h
    cases h
    cases resolved
  split at h
  · rename_i prior chosen
    obtain ⟨found, checks⟩ := Option.filter_eq_some_iff.mp chosen
    simp only [decide_eq_true_eq] at checks
    obtain ⟨unknown, grace, interval⟩ := checks
    obtain ⟨member, missing⟩ := notFoundAt_of_prior found
    exact ⟨row, prior.1, prior.2, started, unknown, grace, member, missing, interval⟩
  · simp only [Except.bind_ok_iff] at h
    obtain ⟨_, -, h⟩ := h
    cases h
    cases resolved

/-- **Absence is proven twice, without a sighting in between**, whenever negative evidence
    changes an order or a reservation of a run that meets the condition. -/
theorem not_found_rejection_proven (ops : List WriterOp)
    (guarded : Machine.Guarded writerStep KeepsProof Database.empty ops) (attemptId : String)
    (evidence : NotFoundEvidence) (policy : NotFoundPolicy) (resolvedAt : Instant)
    {db next : Database} (now : db = Machine.run writerStep Database.empty ops)
    (step : next = writerStep db
      (.applyReconciliationNotFound attemptId evidence policy resolvedAt))
    (moves : next.orders ≠ db.orders ∨ next.riskReservations ≠ db.riskReservations) :
    ∃ row observedAt, db.orderOfStartedAttempt attemptId = some row ∧ row.state = .unknown ∧
      evidence.statementChecked = true ∧ evidence.portfolioChecked = true ∧
      policy.notFoundGraceSeconds ≤ elapsedSeconds row.createdAt evidence.observedAt ∧
      policy.confirmationIntervalSeconds ≤ elapsedSeconds observedAt evidence.observedAt ∧
      Proven ops row.orderId observedAt := by
  rw [step, writerStep, WriterOp.body] at moves
  cases applied : applyReconciliationNotFound attemptId evidence policy resolvedAt db with
  | error e =>
    rw [transact_silent_of_error applied] at moves
    simp at moves
  | ok answer =>
    obtain ⟨result, next⟩ := answer
    rw [transact_silent_of_ok applied] at moves
    obtain ⟨-, -, -, ⟨frame, -⟩ | ⟨-, -, rfl⟩⟩ := applyReconciliationNotFound_cases applied
    · rw [frame] at moves
      simp at moves
    · obtain ⟨row, prior, observedAt, started, unknown, grace, member, missing, interval⟩ :=
        checked_of_rejected applied rfl
      have both := confirms_of_applied applied
      rw [NotFoundEvidence.confirmsBothSources, Bool.and_eq_true] at both
      obtain ⟨_, -, -, byId⟩ := orderOfStartedAttempt_spec started
      have found := orderById_of_order (order_of_orderById byId)
      refine ⟨row, observedAt, started, unknown, both.1, both.2, grace, interval, ?_⟩
      subst now
      exact allProven_of_guarded guarded prior member row.orderId observedAt row missing found
        (by rw [unknown]; rfl)

namespace Sample

def notFoundPolicy : NotFoundPolicy := ⟨600, 60⟩

def missingAt (seconds : Int) : NotFoundEvidence := ⟨seconds * 1000000, true, true⟩

def missedOps : List WriterOp :=
  [persistOp, .claimNextMessage 1 none none,
    .recordDispatchResult command "TIMEOUT_AFTER_POSSIBLE_SEND" none none 2,
    .beginReconciliationAttempt "attempt-1" "order-1" "corr-1" 5,
    .applyReconciliationNotFound "attempt-1" (missingAt 700) notFoundPolicy 6,
    .beginReconciliationAttempt "attempt-2" "order-1" "corr-1" 7]

def sightedOps : List WriterOp :=
  missedOps ++ .applyReconciliationEvidence "attempt-2" unknownEvidence 8 ::
    [.beginReconciliationAttempt "attempt-3" "order-1" "corr-1" 9]

end Sample

theorem missed_sample_proven :
    ∃ observedAt, 60 ≤ elapsedSeconds observedAt 800000000 ∧
      Proven Sample.missedOps "order-1" observedAt := by
  obtain ⟨row, observedAt, started, -, -, -, -, interval, proven⟩ :=
    not_found_rejection_proven Sample.missedOps
      ⟨trivial, trivial, trivial, trivial, trivial, trivial, trivial⟩ "attempt-2"
      (Sample.missingAt 800) Sample.notFoundPolicy 10 rfl rfl (.inl (by decide))
  obtain rfl := Option.some.inj started
  exact ⟨observedAt, interval, proven⟩

/-- Missed, seen at the broker and missed again, the order is rejected and its reservation
    released, although nothing proves its absence. -/
theorem sighted_sample_rejected :
    let db := Machine.run writerStep Database.empty Sample.sightedOps
    let next := writerStep db
      (.applyReconciliationNotFound "attempt-3" (Sample.missingAt 800) Sample.notFoundPolicy 10)
    (db.order "intent-1").map OrderRow.state = some .unknown ∧
      (next.order "intent-1").map OrderRow.state = some .rejected ∧
      (next.reservation "intent-1").map ReservationRow.state = some .released ∧
      ∀ observedAt, ¬ Proven Sample.sightedOps "order-1" observedAt := by
  refine ⟨by decide, by decide, by decide, not_proven_of_found ?_ ?_⟩
  · exact ⟨"attempt-2", Sample.unknownEvidence, 8, _, rfl, rfl, rfl⟩
  · intro db op later observedAt reports
    rw [List.mem_singleton] at later
    obtain ⟨_, _, _, _, _, _, _, negative, -⟩ := reports
    rw [later] at negative
    cases negative

end TradingLab

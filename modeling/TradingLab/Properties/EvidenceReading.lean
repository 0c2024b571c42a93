import TradingLab.Properties.Exposure
import TradingLab.Properties.References

/-!
# What evidence says about its order

`apply_reconciliation_evidence` compares evidence with its order in four places. Three answer
CONFLICT; the last one, the transitions of the order's state, raises. The comparisons are read off
as one value here.
-/
namespace TradingLab

open Relational
open Database
open OrderRow

/-! ### Readings -/

inductive EvidenceReading
  | refused
  | conflicts (reason : String)
  /-- The evidence that has resolved the order already. -/
  | repeats
  | inconclusive
  | stands (target : OrderState)
deriving DecidableEq, Repr

def EvidenceReading.answer (s : OrderState) : EvidenceReading → Option ReconciliationApplyResult
  | .refused => none
  | .conflicts reason => some ⟨.conflict, s, some reason⟩
  | .repeats => some ⟨.idempotent, s, none⟩
  | .inconclusive => some ⟨.unresolved, s, some "RECONCILIATION_EXTERNAL_UNKNOWN"⟩
  | .stands target => some ⟨.resolved, target, none⟩

namespace Database

def readStored (db : Database) (row : OrderRow) (ti : IntentRow)
    (evidence : ReconciliationEvidence) : EvidenceReading :=
  match matchingConflictReason row ti evidence with
  | some reason => .conflicts reason
  | none =>
    match db.priorEvidence row evidence with
    | .error _ => .refused
    | .ok .same => .repeats
    | .ok .contradicts => .conflicts "RECONCILIATION_EVIDENCE_CONFLICT"
    | .ok _ =>
      match orderStateForExternalStatus evidence.externalStatus with
      | none => .inconclusive
      | some target => .stands target

def readEvidence (db : Database) (row : OrderRow) (ti : IntentRow)
    (evidence : ReconciliationEvidence) : EvidenceReading :=
  match db.evidence evidence.evidenceId with
  | some existing =>
    if existing.canonicalHash = evidenceHash evidence ∧ existing.orderId = row.orderId then
      db.readStored row ti evidence
    else .conflicts "RECONCILIATION_EVIDENCE_CONFLICT"
  | none => if 0 < evidence.amount.minorUnits then db.readStored row ti evidence else .refused

/-- A digit order settles only under a digit policy in its own currency. -/
def DigitReady (db : Database) (ti : IntentRow) : Prop :=
  isDigitProduct ti.product = true →
    ∃ runtime, db.digitRiskRuntime = some runtime ∧ runtime.currency = ti.amount.currency

/-- The order can be moved to the state that the evidence reports. -/
def Resolvable (db : Database) (row : OrderRow) (ti : IntentRow) (target : OrderState) : Prop :=
  CanResolve row.state (resolvesFrom row.state) target ∧
    (target = .settled → row.state ≠ .settled → db.DigitReady ti)

end Database

def EvidenceReading.Applies (db : Database) (row : OrderRow) (ti : IntentRow) :
    EvidenceReading → Prop
  | .refused => False
  | .stands target => db.Resolvable row ti target
  | _ => True

/-! ### Evidence that stands -/

section Stands
variable {db db' : Database} {evidence : ReconciliationEvidence} {row : OrderRow} {ti : IntentRow}
  {target : OrderState} {resolvedAt : Instant}

theorem applyDigitRuntimeSettlement_iff {symbol : String} {pnlMinor : Int}
    {orderId settlementId : String} :
    (∃ next, db.applyDigitRuntimeSettlement ti.product symbol ti.amount.currency pnlMinor orderId
      settlementId resolvedAt = .ok next) ↔ db.DigitReady ti := by
  constructor
  · rintro ⟨next, settles⟩ digit
    rcases applyDigitRuntimeSettlement_eq_ok settles with
      ⟨other, -⟩ | ⟨runtime, -, present, currency, -⟩
    · rw [digit] at other
      cases other
    · exact ⟨runtime, present, currency⟩
  · intro ready
    unfold applyDigitRuntimeSettlement
    split
    · rename_i digit
      obtain ⟨runtime, present, currency⟩ := ready digit
      simp only [present, if_pos currency]
      split <;> exact ⟨_, rfl⟩
    · exact ⟨db, rfl⟩

theorem settleDigitEvidence_iff
    (named : orderStateForExternalStatus evidence.externalStatus = some target) :
    (∃ next, db.settleDigitEvidence evidence row ti target resolvedAt = .ok next) ↔
      (target = .settled → row.state ≠ .settled → db.DigitReady ti) := by
  unfold settleDigitEvidence
  cases given : evidence.realizedPnlMinor with
  | none =>
    -- Without a result the evidence is not SETTLED.
    refine iff_of_true ⟨db, rfl⟩ fun settled => ?_
    have reported : evidence.externalStatus = .settled := by
      rw [settled] at named
      revert named
      cases evidence.externalStatus <;> simp [orderStateForExternalStatus]
    obtain ⟨pnl, some⟩ := evidence.pnl_of_settled reported
    rw [given] at some
    cases some
  | some pnl =>
    simp only
    split
    · rename_i newly
      rw [applyDigitRuntimeSettlement_iff]
      exact ⟨fun ready _ _ => ready, fun ready => ready newly.1 newly.2⟩
    · rename_i kept
      exact iff_of_true ⟨db, rfl⟩ fun settled open_ => absurd ⟨settled, open_⟩ kept

theorem canResolve_of_moves {ambiguous : Bool} {entered moved : Database} {at₁ at₂ : Instant}
    {brokerOrderId : Option String} {pnl : Option Int} (found : db.order row.intentId = some row)
    (enters : db.enterReconciling row ambiguous at₁ = .ok entered)
    (moves : entered.transitionUnless (if ambiguous then .reconciling else row.state) row.intentId
      target at₂ brokerOrderId pnl = .ok moved) : CanResolve row.state ambiguous target := by
  have reached : ∀ {db moved : Database} {o : OrderRow} {s : OrderState} {at_ : Instant}
      {id : Option String} {pnl : Option Int}, db.order row.intentId = some o →
      db.transitionOrder row.intentId s at_ id pnl = .ok moved → o.state.CanReach s := by
    intro db moved o s at_ id pnl here transition
    rcases transitionOrder_cases here with ⟨can, -⟩ | ⟨-, refused⟩
    · exact can
    · rw [refused] at transition
      cases transition
  cases ambiguous with
  | true =>
    have enters : db.transitionOrder row.intentId .reconciling at₁ none none = .ok entered := enters
    obtain ⟨o, here, state, -⟩ := order_transitionOrder found enters
    have second := reached here (transitionOrder_of_transitionUnless here state moves)
    exact ⟨reached found enters, by rwa [state] at second⟩
  | false =>
    cases enters
    exact reached found (transitionOrder_of_transitionUnless found rfl moves)

theorem resolveByEvidence_iff {attemptId : String} {attempt : AttemptRow}
    {result : ReconciliationApplyResult} (found : db.order row.intentId = some row)
    (begun : db.attempt attemptId = some attempt) (started : attempt.result = "STARTED")
    (named : orderStateForExternalStatus evidence.externalStatus = some target) :
    (∃ db', db.resolveByEvidence attemptId evidence row ti target resolvedAt =
      .ok (result, db')) ↔ db.Resolvable row ti target ∧ ⟨.resolved, target, none⟩ = result := by
  constructor
  · rintro ⟨db', resolves⟩
    obtain ⟨rfl, applied⟩ := resolveByEvidence_spec found resolves
    refine ⟨⟨?_, (settleDigitEvidence_iff named).mp ⟨_, applied.digit⟩⟩, rfl⟩
    simp only [resolveByEvidence, Except.bind_ok_iff] at resolves
    obtain ⟨entered, enters, moved, moves, -⟩ := resolves
    exact canResolve_of_moves found enters moves
  · rintro ⟨⟨can, digits⟩, rfl⟩
    obtain ⟨next, settles⟩ := (settleDigitEvidence_iff named).mpr digits
    exact resolveByEvidence_of_canResolve found can begun started settles

end Stands

/-! ### The transaction answers what its evidence reads -/

section Reading
variable {db db' recorded : Database} {evidence : ReconciliationEvidence} {row : OrderRow}
  {ti : IntentRow} {resolvedAt : Instant} {attemptId : String} {attempt : AttemptRow}
  {result : ReconciliationApplyResult}

theorem finish_then_iff (begun : db.attempt attemptId = some attempt)
    (started : attempt.result = "STARTED") {text : String} {reasonCode evidenceId : Option String}
    {answer : ReconciliationApplyResult} :
    (∃ db', (do
        let db ← db.finishReconciliationAttempt attemptId text reasonCode resolvedAt evidenceId
        .ok (answer, db) : Except DbError (ReconciliationApplyResult × Database)) =
          .ok (result, db')) ↔ answer = result := by
  obtain ⟨next, finishes⟩ := finishReconciliationAttempt_of_started begun started text reasonCode
    resolvedAt evidenceId
  rw [finishes, Except.ok_bind]
  constructor
  · rintro ⟨db', h⟩
    cases h
    rfl
  · rintro rfl
    exact ⟨next, rfl⟩

theorem applyRecordedEvidence_iff (found : db.order row.intentId = some row)
    (begun : db.attempt attemptId = some attempt) (started : attempt.result = "STARTED") :
    (∃ db', db.applyRecordedEvidence attemptId evidence row ti resolvedAt = .ok (result, db')) ↔
      (db.readStored row ti evidence).Applies db row ti ∧
        (db.readStored row ti evidence).answer row.state = some result := by
  unfold applyRecordedEvidence Database.readStored
  cases matchingConflictReason row ti evidence with
  | some reason =>
    refine (finish_then_iff begun started).trans ?_
    simp [EvidenceReading.Applies, EvidenceReading.answer]
  | none =>
    simp only [applyMatchingEvidence]
    cases db.priorEvidence row evidence with
    | error e => simp [EvidenceReading.Applies, Except.bind_ok_iff]
    | ok prior =>
      rw [Except.ok_bind]
      cases named : orderStateForExternalStatus evidence.externalStatus with
      | none =>
        cases prior
        all_goals
          refine (finish_then_iff begun started).trans ?_
          simp [EvidenceReading.Applies, EvidenceReading.answer]
      | some target =>
        cases prior
        case same | contradicts =>
          refine (finish_then_iff begun started).trans ?_
          simp [EvidenceReading.Applies, EvidenceReading.answer]
        case none | progresses =>
          refine (resolveByEvidence_iff found begun started named).trans ?_
          simp [EvidenceReading.Applies, EvidenceReading.answer]

theorem priorEvidence_recorded (evidenced : db.Evidenced)
    (found : db.order row.intentId = some row) (fresh : db.evidence evidence.evidenceId = none)
    (inserts : db.insertReconciliationEvidence row.orderId evidence resolvedAt = .ok recorded) :
    recorded.priorEvidence row evidence = db.priorEvidence row evidence := by
  unfold priorEvidence
  cases used : row.resolutionEvidenceId with
  | none => rfl
  | some previousId =>
    have stored := evidenced _ _ _ found used
    have other : previousId ≠ evidence.evidenceId := by
      rintro rfl
      rw [fresh] at stored
      cases stored
    have kept : recorded.evidence previousId = db.evidence previousId := by
      unfold insertReconciliationEvidence at inserts
      split at inserts
      · simp only [Except.bind_ok_iff, orIntegrityError_eq_ok] at inserts
        obtain ⟨table, inserted, h⟩ := inserts
        cases h
        have lookup := Table.lookup_insert inserted unique_evidenceRow_evidenceId previousId
        exact lookup.trans (if_neg other.symm)
      · cases inserts
    simp only [kept]

theorem resolvable_recorded {target : OrderState}
    (frame : recorded = { db with reconciliationEvidence := recorded.reconciliationEvidence }) :
    recorded.Resolvable row ti target ↔ db.Resolvable row ti target := by
  rw [frame]
  rfl

/-- **The transaction answers what its evidence reads**, and raises when it cannot act on it. -/
theorem applyReconciliationEvidence_iff (evidenced : db.Evidenced)
    (started : db.orderOfStartedAttempt attemptId = some row)
    (intent : db.intent row.intentId = some ti) :
    (∃ db', applyReconciliationEvidence attemptId evidence resolvedAt db = .ok (result, db')) ↔
      (db.readEvidence row ti evidence).Applies db row ti ∧
        (db.readEvidence row ti evidence).answer row.state = some result := by
  obtain ⟨attempt, begun, running, byId⟩ := orderOfStartedAttempt_spec started
  have found := order_of_orderById byId
  simp only [applyReconciliationEvidence, started, intent, Database.readEvidence]
  cases known : db.evidence evidence.evidenceId with
  | some existing =>
    simp only
    split
    · exact applyRecordedEvidence_iff found begun running
    · refine (finish_then_iff begun running).trans ?_
      simp [EvidenceReading.Applies, EvidenceReading.answer]
  | none =>
    simp only
    split
    · rename_i positive
      obtain ⟨table, inserted⟩ : ∃ table, db.reconciliationEvidence.insert
          ⟨evidence, row.orderId, evidenceHash evidence, resolvedAt, positive⟩ = some table :=
        ⟨_, dif_pos fun r member clash => Table.lookup_eq_none_iff.mp known r member clash⟩
      obtain ⟨recorded, inserts⟩ :
          ∃ recorded, db.insertReconciliationEvidence row.orderId evidence resolvedAt =
            .ok recorded := by
        rw [insertReconciliationEvidence, dif_pos positive, inserted]
        exact ⟨_, rfl⟩
      obtain ⟨-, frame, -⟩ := insertReconciliationEvidence_spec inserts
      have found' : recorded.order row.intentId = some row := by
        rw [frame]
        exact found
      have begun' : recorded.attempt attemptId = some attempt := by
        rw [frame]
        exact begun
      rw [inserts, Except.ok_bind, applyRecordedEvidence_iff found' begun' running]
      have sameReading : recorded.readStored row ti evidence = db.readStored row ti evidence := by
        unfold Database.readStored
        rw [priorEvidence_recorded evidenced found known inserts]
      rw [sameReading]
      refine and_congr_left fun _ => ?_
      cases db.readStored row ti evidence with
      | stands target => exact resolvable_recorded frame
      | _ => exact Iff.rfl
    · rename_i nonpositive
      rw [insertReconciliationEvidence, dif_neg nonpositive]
      simp [EvidenceReading.Applies, Except.bind_ok_iff]

end Reading

/-! ### Totality -/

variable {db : Database} {row : OrderRow}

theorem AttemptFinished.closed {db' : Database} {attemptId : String} {attempt : AttemptRow}
    {status : ReconciliationApplyStatus} {reasonCode : Option String}
    (begun : db.attempt attemptId = some attempt)
    (finished : AttemptFinished db db' attemptId status.value reasonCode) :
    ∃ closed, db'.attempt attemptId = some closed ∧ closed.result ≠ "STARTED" := by
  obtain ⟨f, keeps, rows⟩ := finished
  obtain ⟨member, named⟩ := Table.mem_of_lookup begun
  refine ⟨Table.change (fun a => a.attemptId == attemptId && a.result == "STARTED") f attempt,
    ?_, ?_⟩
  · apply (Table.lookup_eq_some_iff unique_attemptRow_attemptId).mpr
    constructor
    · rw [rows]
      exact List.mem_map_of_mem member
    · exact (Table.column_change (fun a => (keeps a).1) attempt).trans named
  · by_cases started : attempt.result = "STARTED"
    · rw [Table.change_of_true (by simp [named, started]), (keeps attempt).2.2.1]
      cases status <;> decide
    · rw [Table.change_of_false (by simp [started])]
      exact started

theorem Reachable.intent_of_order (reachable : Reachable db)
    (found : db.order row.intentId = some row) : ∃ ti, db.intent row.intentId = some ti := by
  rw [← Option.isSome_iff_exists, ← reachable.linked.order, found]
  rfl

namespace Sample

def rejectedEvidence : ReconciliationEvidence :=
  ⟨evidenceFields "evidence-1" .rejected none, by decide⟩

def acceptedQueriedOps : List WriterOp :=
  acceptOps ++ [.beginReconciliationAttempt "attempt-1" "order-1" "corr-1" 5]

def settledQueriedOps : List WriterOp :=
  settleOps ++ [.beginReconciliationAttempt "attempt-1" "order-1" "corr-1" 13]

end Sample

/-- The evidence reports another result than the one recorded for a SETTLED order. -/
def ContradictsAmount (row : OrderRow) (evidence : ReconciliationEvidence) : Prop :=
  ∃ recorded reported, row.state = .settled ∧ row.realizedPnlMinor = some recorded ∧
    evidence.realizedPnlMinor = some reported ∧ recorded ≠ reported

/-- RESOLVED means agreement, and a contradicted amount is a CONFLICT. -/
structure ResolvedAgrees (db : Database) (attemptId : String) (evidence : ReconciliationEvidence)
    (resolvedAt : Instant) (row : OrderRow) : Prop where
  agreement : ∀ result db',
    applyReconciliationEvidence attemptId evidence resolvedAt db = .ok (result, db') →
    result.status = .resolved →
    ∃ o, db'.orderById row.orderId = some o ∧
      orderStateForExternalStatus evidence.externalStatus = some o.state ∧
      (evidence.externalStatus = .settled → o.realizedPnlMinor = evidence.realizedPnlMinor)
  conflict : ContradictsAmount row evidence → ∃ reason db',
    applyReconciliationEvidence attemptId evidence resolvedAt db =
      .ok (⟨.conflict, row.state, some reason⟩, db')

theorem OrderRow.afterEvidence_of_settled (settled : row.state = .settled)
    (evidence : ReconciliationEvidence) (resolvedAt : Instant) :
    (row.afterEvidence evidence .settled resolvedAt).realizedPnlMinor = row.realizedPnlMinor := by
  simp [afterEvidence, resolve, reach, noteEvidence, settled,
    Database.resolvesFrom]

section Agreement
variable {db : Database} {attemptId : String} {row : OrderRow} {ti : IntentRow}
  {evidence : ReconciliationEvidence} {resolvedAt : Instant} {reading : EvidenceReading}
  {s : OrderState} {result : ReconciliationApplyResult}

theorem EvidenceReading.stands_of_resolved (answer : reading.answer s = some result)
    (resolved : result.status = .resolved) : reading = .stands result.orderState := by
  cases reading <;> cases answer <;> first | rfl | cases resolved

theorem EvidenceReading.conflicts_of_conflict
    {reason : String} (answer : reading.answer s = some ⟨.conflict, s, some reason⟩) :
    reading = .conflicts reason := by
  cases reading <;> cases answer
  rfl

theorem order_of_resolved {db' : Database} (started : db.orderOfStartedAttempt attemptId = some row)
    (answered : applyReconciliationEvidence attemptId evidence resolvedAt db = .ok (result, db'))
    (resolved : result.status = .resolved) :
    orderStateForExternalStatus evidence.externalStatus = some result.orderState ∧
      db'.orderById row.orderId =
        some (row.afterEvidence evidence result.orderState resolvedAt) := by
  obtain ⟨row', _, started', -, -, ⟨-, unresolved, -⟩ | ⟨target, -, named, applied, rfl⟩⟩ :=
    applyReconciliationEvidence_cases answered
  · exact absurd resolved unresolved
  obtain rfl : row = row' := Option.some.inj (started.symm.trans started')
  refine ⟨named, ?_⟩
  have here := (applied.order row.intentId).trans (if_pos rfl)
  have byId := orderById_of_order here
  rwa [row.afterEvidence_orderId] at byId

end Agreement

/-- **RESOLVED means agreement** exactly when evidence that stands for a SETTLED order repeats
    its amount, and evidence of another amount is caught by one of the other comparisons. -/
theorem resolved_agrees_iff {db : Database} (reachable : Reachable db) {attemptId : String}
    {row : OrderRow} (started : db.orderOfStartedAttempt attemptId = some row)
    (evidence : ReconciliationEvidence) (resolvedAt : Instant) :
    ResolvedAgrees db attemptId evidence resolvedAt row ↔
      ∃ ti, db.intent row.intentId = some ti ∧
        (db.readEvidence row ti evidence = .stands .settled → row.state = .settled →
          row.realizedPnlMinor = evidence.realizedPnlMinor) ∧
        (ContradictsAmount row evidence →
          ∃ reason, db.readEvidence row ti evidence = .conflicts reason) := by
  obtain ⟨attempt, begun, -, byId⟩ := orderOfStartedAttempt_spec started
  obtain ⟨ti, intent⟩ := reachable.intent_of_order (order_of_orderById byId)
  have answers : ∀ result,
      (∃ db', applyReconciliationEvidence attemptId evidence resolvedAt db = .ok (result, db')) ↔
        (db.readEvidence row ti evidence).Applies db row ti ∧
          (db.readEvidence row ti evidence).answer row.state = some result :=
    fun _ => applyReconciliationEvidence_iff reachable.evidenced started intent
  constructor
  · intro agrees
    refine ⟨ti, intent, ?_, ?_⟩
    · intro stands settled
      -- Nothing stops evidence of a settlement from standing for a SETTLED order.
      have applies : (db.readEvidence row ti evidence).Applies db row ti := by
        rw [stands]
        exact ⟨by rw [settled]; decide, fun _ open_ => absurd settled open_⟩
      obtain ⟨db', answered⟩ := (answers ⟨.resolved, .settled, none⟩).mpr
        ⟨applies, by rw [stands]; rfl⟩
      obtain ⟨o, there, -, amount⟩ := agrees.agreement _ _ answered rfl
      obtain ⟨named, after⟩ := order_of_resolved started answered rfl
      obtain rfl := Option.some.inj (there.symm.trans after)
      have reported : evidence.externalStatus = .settled := by
        revert named
        cases evidence.externalStatus <;> simp [orderStateForExternalStatus]
      rw [← amount reported]
      exact (afterEvidence_of_settled settled evidence resolvedAt).symm
    · intro contradicts
      obtain ⟨reason, db', answered⟩ := agrees.conflict contradicts
      exact ⟨reason, EvidenceReading.conflicts_of_conflict ((answers _).mp ⟨db', answered⟩).2⟩
  · rintro ⟨ti', intent', repeats, caught⟩
    obtain rfl : ti = ti' := Option.some.inj (intent.symm.trans intent')
    constructor
    · intro result db' answered resolved
      obtain ⟨named, after⟩ := order_of_resolved started answered resolved
      refine ⟨_, after, by rw [named, afterEvidence_state], fun reported => ?_⟩
      have target : result.orderState = .settled := by
        rw [reported] at named
        exact (Option.some.inj named).symm
      have stands := EvidenceReading.stands_of_resolved ((answers result).mp ⟨db', answered⟩).2
        resolved
      rw [target] at stands ⊢
      by_cases settled : row.state = .settled
      · rw [afterEvidence_of_settled settled, repeats stands settled]
      · obtain ⟨pnl, given⟩ := evidence.pnl_of_settled reported
        rw [row.afterEvidence_realizedPnlMinor evidence resolvedAt settled given, given]
    · intro contradicts
      obtain ⟨reason, conflicts⟩ := caught contradicts
      obtain ⟨db', answered⟩ := (answers ⟨.conflict, row.state, some reason⟩).mpr
        (by rw [conflicts]; exact ⟨trivial, rfl⟩)
      exact ⟨reason, db', answered⟩

theorem repeated_amount_agrees :
    ∃ row, (Machine.run writerStep Database.empty Sample.settledQueriedOps).orderOfStartedAttempt
        "attempt-1" = some row ∧
      ResolvedAgrees (Machine.run writerStep Database.empty Sample.settledQueriedOps) "attempt-1"
        ⟨Sample.evidenceFields "evidence-1" .settled (some 90), by decide⟩ 20 row := by
  refine ⟨_, rfl, (resolved_agrees_iff ⟨Sample.settledQueriedOps, rfl⟩ rfl _ 20).mpr
    ⟨newIntent Sample.request "intent-1" 0, by decide, fun _ _ => rfl, ?_⟩⟩
  rintro ⟨recorded, reported, -, stored, given, differ⟩
  cases stored
  cases given
  exact absurd rfl differ

/-- Evidence of 80 for the same order is RESOLVED as well, and the order keeps its 90. -/
theorem other_amount_resolved :
    ∃ db row evidence result db' o, Reachable db ∧
      db.orderOfStartedAttempt "attempt-1" = some row ∧ ContradictsAmount row evidence ∧
      applyReconciliationEvidence "attempt-1" evidence 20 db = .ok (result, db') ∧
      result.status = .resolved ∧ evidence.realizedPnlMinor = some 80 ∧
      db'.orderById "order-1" = some o ∧ o.state = .settled ∧ o.realizedPnlMinor = some 90 :=
  ⟨Machine.run writerStep Database.empty Sample.settledQueriedOps, _,
    ⟨Sample.evidenceFields "evidence-1" .settled (some 80), by decide⟩, _, _, _, ⟨_, rfl⟩, rfl,
    ⟨90, 80, rfl, rfl, rfl, by decide⟩, rfl, rfl, rfl, rfl, rfl, rfl⟩

end TradingLab

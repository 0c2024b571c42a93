import TradingLab.Relational.Sum
import TradingLab.Properties.Settlements

/-!
# The daily P&L of the digit row

A session of the digit row opens when the row is created and at each reset. The daily P&L is the
sum of the results of the digit orders settled in the session, each of them once.
-/
namespace TradingLab

open Relational
open Database

/-- A database, and the database in which its digit session has opened. -/
structure DigitSession where
  db : Database
  opened : Database

namespace DigitSession

def empty : DigitSession := ⟨Database.empty, Database.empty⟩

variable (s : DigitSession)

/-- One operation. A committed reset opens a session; so does everything as long as there
    is no row, so that the session of a new row opens with the row. -/
def step (op : WriterOp) : DigitSession :=
  match op.body s.db with
  | .error _ => s
  | .ok (_, next) =>
    ⟨next, if op.isReset ∨ s.db.digitRiskRuntime = none then next else s.opened⟩

/-- The order of the intent has become SETTLED in the session, and is for a digit product. -/
def hasSettlement (intentId : String) : Bool :=
  s.db.isDigitIntent intentId && s.db.hasSettled intentId && !s.opened.hasSettled intentId

def settlements : List OrderRow :=
  s.db.orders.rows.filter fun o => s.hasSettlement o.intentId

/-- `SUM(realized_pnl_minor)` over the settlements of the session. -/
def sessionPnl : Int :=
  sumMinor (s.settlements.map fun o => o.realizedPnlMinor.getD 0)

end DigitSession

namespace DigitSession

variable {s : DigitSession}

def settledResult (s : DigitSession) (intentId : String) : Int :=
  ((s.db.settledPnl intentId).getD none).getD 0

theorem sessionPnl_eq : s.sessionPnl = sumWhere s.db.orderedIntents s.hasSettlement
    s.settledResult := by
  rw [orderedIntents, sumWhere_map]
  apply sumWhere_congr
  intro o member
  have found : s.db.order o.intentId = some o := order_eq_some_iff.mpr ⟨member, rfl⟩
  unfold weight
  split
  · rename_i settlement
    simp only [hasSettlement, Bool.and_eq_true] at settlement
    obtain ⟨pnl, present⟩ := Option.isSome_iff_exists.mp settlement.1.2
    obtain ⟨o', found', -, given⟩ := settledPnl_eq_some present
    rw [found] at found'
    cases found'
    simp only [settledResult, present, Option.getD_some, given]
  · rfl

theorem sessionPnl_of_opened (db : Database) : (DigitSession.mk db db).sessionPnl = 0 := by
  rw [sessionPnl_eq]
  apply sumWhere_eq_zero
  intro i _
  simp [weight, hasSettlement]

end DigitSession

/-! ### One operation -/

section Step
variable {db db' opened : Database} {op : WriterOp} {i : String}

theorem orderedIntents_of_committed (h : op.body db = .ok ((), db')) :
    (∀ i ∈ db.orderedIntents, db'.isDigitIntent i = db.isDigitIntent i) ∧
      ∃ added, db'.orderedIntents = db.orderedIntents ++ added ∧
        ∀ i ∈ added, db'.hasSettled i = false := by
  rcases op.creates_or_changes h with created | changes
  · obtain ⟨_, _, intentId, _, _, _, _, persisted⟩ := created
    constructor
    · intro i member
      have other : intentId ≠ i := by
        rintro rfl
        obtain ⟨o, inTable, same⟩ := List.mem_map.mp member
        exact Table.lookup_eq_none_iff.mp (order_fresh persisted) o inTable same
      simp only [isDigitIntent, intent_created persisted, if_neg other]
    · obtain ⟨-, -, -, inserted, -⟩ := persist_inserts persisted
      refine ⟨[intentId], ?_, ?_⟩
      · rw [orderedIntents, (Table.insert_eq_some_iff.mp inserted).2, List.map_append]
        rfl
      · intro i new
        rw [List.mem_singleton.mp new, hasSettled, settledPnl_of_open
          ((order_created persisted intentId).trans (if_pos rfl)) (by simp [newOrder])]
        rfl
  · obtain ⟨intents, ids⟩ := rows_changes changes
    refine ⟨?_, [], by rw [ids, List.append_nil], by simp⟩
    intro i _
    simp only [isDigitIntent, intent, intents]

theorem sessionPnl_of_committed (h : op.body db = .ok ((), db')) :
    (DigitSession.mk db' opened).sessionPnl = sumWhere db.orderedIntents
      (DigitSession.mk db' opened).hasSettlement (DigitSession.mk db' opened).settledResult := by
  obtain ⟨-, added, ids, unsettled⟩ := orderedIntents_of_committed h
  have none : sumWhere added (DigitSession.mk db' opened).hasSettlement
      (DigitSession.mk db' opened).settledResult = 0 := by
    apply sumWhere_eq_zero
    intro i new
    simp [weight, DigitSession.hasSettlement, unsettled i new]
  rw [DigitSession.sessionPnl_eq]
  simp only [ids]
  rw [sumWhere_append, none, Int.add_zero]

section

variable (reachable : Reachable db) (h : op.body db = .ok ((), db'))
include reachable h

theorem settledPnl_of_committed {pnl : Option Int} (before : db.settledPnl i = some pnl) :
    db'.settledPnl i = some pnl := by
  have kept := reachable.settledPnl_kept op before
  rwa [writerStep, Machine.transact_of_ok h] at kept

theorem SettlesNone.settledPnl
    (settles : SettlesNone db db') (i : String) : db'.settledPnl i = db.settledPnl i := by
  cases before : db.settledPnl i with
  | some pnl => exact settledPnl_of_committed reachable h before
  | none =>
    by_contra settled
    have now := settles.none i (Option.isSome_iff_ne_none.mpr settled)
    rw [hasSettled, before] at now
    cases now

theorem SettlesNone.sessionPnl (settles : SettlesNone db db') :
    (DigitSession.mk db' opened).sessionPnl = (DigitSession.mk db opened).sessionPnl := by
  obtain ⟨kinds, -⟩ := orderedIntents_of_committed h
  have same := settles.settledPnl reachable h
  rw [sessionPnl_of_committed h, DigitSession.sessionPnl_eq]
  apply sumWhere_congr
  intro i member
  apply weight_congr
  · simp only [DigitSession.hasSettlement, hasSettled, same, kinds i member]
  · simp only [DigitSession.settledResult, same]

end

theorem SettlesOne.sessionPnl {result : Int} (h : op.body db = .ok ((), db'))
    (settles : SettlesOne db db' i result) (fresh : opened.hasSettled i = false) :
    (DigitSession.mk db' opened).sessionPnl = (DigitSession.mk db opened).sessionPnl +
      if db.isDigitIntent i then result else 0 := by
  obtain ⟨kinds, added, ids, unsettled⟩ := orderedIntents_of_committed h
  have settled : db'.hasSettled i = true := by
    rw [hasSettled, settles.after]
    rfl
  have member : i ∈ db.orderedIntents := by
    obtain ⟨o, found, -⟩ := settledPnl_eq_some settles.after
    obtain ⟨inTable, named⟩ := Table.mem_of_lookup found
    have present : i ∈ db'.orderedIntents := List.mem_map.mpr ⟨o, inTable, named⟩
    rw [ids] at present
    rcases List.mem_append.mp present with old | new
    · exact old
    · rw [unsettled i new] at settled
      cases settled
  have nodup : db.orderedIntents.Nodup := Table.nodup_column unique_orderRow_intentId db.orders
  have others : ∀ j ∈ db.orderedIntents, j ≠ i →
      weight (DigitSession.mk db' opened).hasSettlement
        (DigitSession.mk db' opened).settledResult j =
      weight (DigitSession.mk db opened).hasSettlement
        (DigitSession.mk db opened).settledResult j := by
    intro j between other
    apply weight_congr
    · simp only [DigitSession.hasSettlement, hasSettled, settledPnl,
        settles.others j other, kinds j between]
    · simp only [DigitSession.settledResult, settledPnl, settles.others j other]
  rw [sessionPnl_of_committed h, DigitSession.sessionPnl_eq, sumWhere_point nodup member others]
  simp [weight, DigitSession.hasSettlement, DigitSession.settledResult, settled, settles.before,
    settles.after, fresh, kinds i member]

end Step

/-! ### Runs -/

namespace DigitSession

structure Balanced (s : DigitSession) : Prop where
  reachable : Reachable s.db
  paid : ∀ i pnl, s.db.settledPnl i = some pnl → pnl ≠ none
  older : ∀ i, s.opened.hasSettled i = true → s.db.hasSettled i = true
  daily : ∀ row, s.db.digitRiskRuntime = some row → row.dailyPnlMinor = s.sessionPnl

theorem balanced_empty : Balanced empty := by
  constructor
  case reachable => exact ⟨[], rfl⟩
  case paid =>
    intro i pnl settled
    cases settled
  case older => exact fun i settled => settled
  case daily =>
    intro row present
    cases present

section Committed
variable {s : DigitSession} {next : Database} {op : WriterOp} {row' : DigitRiskRuntime} {i : String}

theorem Balanced.daily_next (balanced : Balanced s) (h : op.body s.db = .ok ((), next))
    (settlement : SettlesNone s.db next ∨ ∃ i result, SettlesOne s.db next i result)
    (configured : s.db.digitRiskRuntime ≠ none) (present : next.digitRiskRuntime = some row') :
    row'.dailyPnlMinor = (DigitSession.mk next s.opened).sessionPnl := by
  rcases settlement with none | ⟨i, result, one⟩
  · rw [none.sessionPnl balanced.reachable h]
    rcases none.daily row' present with ⟨row, before, same⟩ | ⟨missing, -⟩
    · exact same.trans (balanced.daily row before)
    · exact absurd missing configured
  · have fresh : s.opened.hasSettled i = false := by
      by_contra settled
      rw [Bool.not_eq_false] at settled
      have before := one.before
      rw [balanced.older i settled] at before
      cases before
    have counted := one.counted
    rw [one.sessionPnl h fresh]
    cases digit : s.db.isDigitIntent i with
    | true =>
      rw [digit, if_pos rfl] at counted
      obtain ⟨row, row₁, before, after, sum⟩ := counted
      rw [present] at after
      cases after
      rw [sum, balanced.daily row before, if_pos rfl]
    | false =>
      rw [digit, if_neg Bool.false_ne_true] at counted
      rw [counted] at present
      rw [balanced.daily row' present, if_neg Bool.false_ne_true, Int.add_zero]

theorem daily_of_new
    (settlement : SettlesNone s.db next ∨ ∃ i result, SettlesOne s.db next i result)
    (missing : s.db.digitRiskRuntime = none)
    (present : next.digitRiskRuntime = some row') : row'.dailyPnlMinor = 0 := by
  rcases settlement with none | ⟨i, result, one⟩
  · rcases none.daily row' present with ⟨row, before, -⟩ | ⟨-, zero⟩
    · rw [missing] at before
      cases before
    · exact zero
  · -- Without a row no digit order settles, and another order makes no row.
    have counted := one.counted
    split at counted
    · obtain ⟨row, -, before, -⟩ := counted
      rw [missing] at before
      cases before
    · rw [counted, missing] at present
      cases present

theorem Balanced.paid_next (balanced : Balanced s) (h : op.body s.db = .ok ((), next))
    (settlement : SettlesNone s.db next ∨ ∃ i result, SettlesOne s.db next i result)
      {pnl : Option Int} (settled : next.settledPnl i = some pnl) : pnl ≠ none := by
  rcases settlement with none | ⟨j, result, one⟩
  · rw [none.settledPnl balanced.reachable h] at settled
    exact balanced.paid i pnl settled
  · by_cases here : i = j
    · subst here
      rw [one.after] at settled
      cases settled
      exact Option.some_ne_none result
    · rw [settledPnl, one.others i here] at settled
      exact balanced.paid i pnl settled

theorem Balanced.older_next (balanced : Balanced s) (h : op.body s.db = .ok ((), next))
    (before : s.opened.hasSettled i = true) : next.hasSettled i = true := by
  obtain ⟨pnl, settled⟩ := Option.isSome_iff_exists.mp (balanced.older i before)
  rw [hasSettled, settledPnl_of_committed balanced.reachable h settled]
  rfl

end Committed

theorem Balanced.step {s : DigitSession} (balanced : Balanced s) {op : WriterOp}
    (regular : op.isRegular = true) : Balanced (s.step op) := by
  unfold DigitSession.step
  cases h : op.body s.db with
  | error e => exact balanced
  | ok answer =>
    obtain ⟨⟨⟩, next⟩ := answer
    simp only
    have reachable : Reachable next := by
      have there := balanced.reachable.step op
      rwa [writerStep, Machine.transact_of_ok h] at there
    by_cases reset : op.isReset = true
    · -- A reset changes the digit row only, and opens a session.
      rw [if_pos (.inl reset)]
      cases op <;> cases reset
      obtain ⟨row, row', -, rfl, fields⟩ := resetDigitTestSessionIfFlat_cases h
      refine ⟨reachable, balanced.paid, fun i settled => settled, ?_⟩
      intro row₁ present
      cases present
      rw [sessionPnl_of_opened, fields]
    · rw [Bool.not_eq_true] at reset
      have settlement := op.settlement balanced.reachable regular reset h
      by_cases missing : s.db.digitRiskRuntime = none
      · rw [if_pos (.inr missing)]
        refine ⟨reachable, fun i pnl => balanced.paid_next h settlement, fun i settled => settled,
          ?_⟩
        intro row' present
        rw [sessionPnl_of_opened]
        exact daily_of_new settlement missing present
      · rw [if_neg (by simp [reset, missing])]
        exact ⟨reachable, fun i pnl => balanced.paid_next h settlement,
          fun i => balanced.older_next h,
          fun row' present => balanced.daily_next h settlement missing present⟩

end DigitSession

/-- **The daily P&L of the digit row is conserved**: it is the sum of the results of the session. -/
theorem dailyPnl_eq_sessionPnl (ops : List WriterOp) (regular : ∀ op ∈ ops, op.isRegular = true)
    {s : DigitSession} (reached : Machine.run DigitSession.step DigitSession.empty ops = s)
    {row : DigitRiskRuntime} (present : s.db.digitRiskRuntime = some row) :
    row.dailyPnlMinor = s.sessionPnl ∧ ∀ o ∈ s.settlements, o.realizedPnlMinor ≠ none := by
  have balanced : s.Balanced := by
    rw [← reached]
    apply Machine.guarded_invariant DigitSession.Balanced _ DigitSession.balanced_empty
      (Machine.guarded_of_forall regular _)
    intro s op balanced allowed
    exact balanced.step allowed
  refine ⟨balanced.daily row present, ?_⟩
  intro o member
  obtain ⟨inTable, settlement⟩ := List.mem_filter.mp member
  simp only [DigitSession.hasSettlement, Bool.and_eq_true] at settlement
  obtain ⟨pnl, settled⟩ := Option.isSome_iff_exists.mp settlement.1.2
  obtain ⟨o', found, -, given⟩ := settledPnl_eq_some settled
  rw [order_eq_some_iff.mpr ⟨inTable, rfl⟩] at found
  cases found
  rw [given]
  exact balanced.paid o.intentId pnl settled

namespace Sample

def lostOps : List WriterOp :=
  digitOps ++ [.applyNormalizedBrokerEvent digitSettled 20,
    .applyNormalizedBrokerEvent digitSettled 21]

end Sample

theorem lost_sample_balanced :
    ∃ row, (Machine.run DigitSession.step DigitSession.empty Sample.lostOps).db.digitRiskRuntime =
        some row ∧ row.dailyPnlMinor = -100 ∧ row.dailyPnlMinor =
          (Machine.run DigitSession.step DigitSession.empty Sample.lostOps).sessionPnl := by
  have counted : (Machine.run DigitSession.step DigitSession.empty
      Sample.lostOps).db.digitRiskRuntime.map (fun row => row.dailyPnlMinor) = some (-100) := by
    decide
  obtain ⟨row, present, loss⟩ := Option.map_eq_some_iff.mp counted
  exact ⟨row, present, loss, (dailyPnl_eq_sessionPnl Sample.lostOps (by decide) rfl present).1⟩

end TradingLab

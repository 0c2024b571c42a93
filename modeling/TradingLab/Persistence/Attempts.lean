import TradingLab.Persistence.Moves
import TradingLab.Persistence.Rows

/-!
# Reconciliation attempts

An attempt is begun for an order that exists, and finished once. Every operation but four leaves
`reconciliation_attempts` alone.
-/
namespace TradingLab

open Relational

def Database.Attempted (db : Database) : Prop :=
  ∀ a ∈ db.reconciliationAttempts.rows, (db.orderById a.orderId).isSome = true

section Attempted
variable {db db' : Database} {op : WriterOp}

/-- The attempts after an operation: those before it, up to what finishing assigns, and one
    that is begun now for an order that exists. -/
theorem WriterOp.attempt_before (h : op.body db = .ok ((), db')) {a' : AttemptRow}
    (member : a' ∈ db'.reconciliationAttempts.rows) :
    (∃ a ∈ db.reconciliationAttempts.rows, a.orderId = a'.orderId) ∨
      (db.orderById a'.orderId).isSome = true := by
  have finished : ∀ {attemptId result : String} {reasonCode : Option String},
      AttemptFinished db db' attemptId result reasonCode →
      ∃ a ∈ db.reconciliationAttempts.rows, a.orderId = a'.orderId := by
    rintro attemptId result reasonCode ⟨f, keeps, rows⟩
    rw [rows, List.mem_map] at member
    obtain ⟨a, here, rfl⟩ := member
    exact ⟨a, here, (Table.column_change (fun a => (keeps a).2.1) a).symm⟩
  by_cases other : op.onAttempts = false
  · rw [op.attempts_eq other h] at member
    exact .inl ⟨a', member, rfl⟩
  cases op with
  | beginReconciliationAttempt =>
    obtain ⟨-, ⟨o, found⟩, a, -, order, -, inserted⟩ := beginReconciliationAttempt_begins h
    rw [(Table.insert_eq_some_iff.mp inserted).2, List.mem_append, List.mem_singleton] at member
    rcases member with old | rfl
    · exact .inl ⟨a', old, rfl⟩
    · rw [order, found]
      exact .inr rfl
  | completeReconciliationAttempt =>
    exact .inl (finished (completeReconciliationAttempt_finished h).2)
  | applyReconciliationEvidence =>
    obtain ⟨_, h⟩ := Operation.silent_eq_ok h
    obtain ⟨_, _, -, -, closed, -⟩ := applyReconciliationEvidence_cases h
    exact .inl (finished closed)
  | applyReconciliationNotFound =>
    obtain ⟨_, h⟩ := Operation.silent_eq_ok h
    obtain ⟨_, -, closed, -⟩ := applyReconciliationNotFound_cases h
    exact .inl (finished closed)
  | _ => exact absurd rfl other

theorem WriterOp.orderById_isSome (h : op.body db = .ok ((), db'))
    {orderId : String} (there : (db.orderById orderId).isSome = true) :
    (db'.orderById orderId).isSome = true := by
  rcases op.creates_or_changes h with created | changes
  · obtain ⟨o, found⟩ := Option.isSome_iff_exists.mp there
    rw [orderById_creates created found]
    rfl
  · refine Changes.invariant (fun db => (db.orderById orderId).isSome = true) ?_ there changes
    intro db db' there change
    obtain ⟨o, found⟩ := Option.isSome_iff_exists.mp there
    obtain ⟨o', found', -⟩ := orderById_change change found
    rw [found']
    rfl

theorem Reachable.attempted (reachable : Reachable db) : db.Attempted := by
  apply reachable.invariant
  · intro a member
    cases member
  · intro op db db' attempted h a' member
    apply op.orderById_isSome h
    rcases op.attempt_before h member with ⟨a, here, same⟩ | there
    · rw [← same]
      exact attempted a here
    · exact there

end Attempted

end TradingLab

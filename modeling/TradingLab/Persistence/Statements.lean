import TradingLab.Machine.Program
import TradingLab.Persistence.Writer

/-!
# Inside the transaction

`persist_intent_reservation_outbox` statement by statement, inside `BEGIN IMMEDIATE`. Between the
statements the writer calls its fault injector, which may raise. Without a fault the transaction is
the operation of the writer.
-/
namespace TradingLab

open Relational Machine

inductive InjectionStage
  | afterIntent
  | afterReservation
  | afterOutbox
  | beforeCommit
deriving DecidableEq, Repr

/-- What the fault injector raises at each stage. -/
abbrev FaultInjector := InjectionStage → Option DbError

abbrev Statements (α : Type) := Program DbError Database α

namespace Statements

def inject (faults : FaultInjector) (stage : InjectionStage) : Statements Unit :=
  match faults stage with
  | some e => Program.raise e
  | none => pure ()

def execute (statement : Database → Except DbError Database) : Statements Unit := fun db =>
  match statement db with
  | .ok next => (.ok (), next)
  | .error e => (.error e, db)

def require (check : Database → Except DbError Unit) : Statements Unit := fun db =>
  (check db, db)

end Statements

def persistStatements (faults : FaultInjector) (request : OrderRequest) (command : OrderCommand)
    (intentId reservationId orderId : String) (createdAt : Instant) (limits : ExposureLimits) :
    Statements Unit := do
  Statements.require fun _ => Database.requireReferenceCurrency request limits.referenceCurrency
  Statements.require fun db => db.requireGlobalExposure request limits.globalMaxExposureMinorUnits
  Statements.require fun db => db.requireSymbolExposure request
    limits.maxExposurePerSymbolMinorUnits
  Statements.execute fun db => do
    let tradeIntents ← orIntegrityError (db.tradeIntents.insert
      (newIntent request intentId createdAt))
    .ok { db with tradeIntents }
  Statements.inject faults .afterIntent
  Statements.execute fun db =>
    db.insertReservation (newReservation request intentId reservationId createdAt)
  Statements.inject faults .afterReservation
  Statements.execute fun db => do
    let outboxMessages ← orIntegrityError
      (db.outboxMessages.insert (newOutboxMessage request command intentId createdAt))
    .ok { db with outboxMessages }
  Statements.inject faults .afterOutbox
  Statements.execute fun db => do
    let orders ← orIntegrityError (db.orders.insert (newOrder request intentId orderId createdAt))
    .ok { db with orders }
  Statements.inject faults .beforeCommit

def persistWithFaults (faults : FaultInjector) (request : OrderRequest) (command : OrderCommand)
    (intentId reservationId orderId : String) (createdAt : Instant) (limits : ExposureLimits) :
    Statements Unit :=
  Program.atomic
    (persistStatements faults request command intentId reservationId orderId createdAt limits)

/-! ### The statements and the operation -/

section Rules
variable {db db' : Database} {u : Unit}

theorem inject_eq_ok {faults : FaultInjector} {stage : InjectionStage} :
    Statements.inject faults stage db = (.ok u, db') ↔ faults stage = none ∧ db' = db := by
  unfold Statements.inject
  cases faults stage with
  | none => simp [eq_comm]
  | some e => simp

theorem execute_eq_ok {statement : Database → Except DbError Database} :
    Statements.execute statement db = (.ok u, db') ↔ statement db = .ok db' := by
  unfold Statements.execute
  cases statement db <;> simp

theorem require_eq_ok {check : Database → Except DbError Unit} :
    Statements.require check db = (.ok u, db') ↔ check db = .ok () ∧ db' = db := by
  simp [Statements.require, eq_comm]

end Rules

/-- **The statements commit exactly when no fault is injected and the operation commits,**
    and then they commit the same database. -/
theorem persistWithFaults_eq_ok {faults : FaultInjector} {request : OrderRequest}
    {command : OrderCommand} {intentId reservationId orderId : String} {createdAt : Instant}
    {limits : ExposureLimits} {db db' : Database} :
    persistWithFaults faults request command intentId reservationId orderId createdAt limits db =
        (.ok (), db') ↔
      (∀ stage, faults stage = none) ∧
        persistIntentReservationOutbox request command intentId reservationId orderId createdAt
          limits db = .ok ((), db') := by
  have stages : (∀ stage, faults stage = none) ↔ faults .afterIntent = none ∧
      faults .afterReservation = none ∧ faults .afterOutbox = none ∧
      faults .beforeCommit = none := by
    constructor
    · exact fun all => ⟨all _, all _, all _, all _⟩
    · rintro ⟨first, second, third, fourth⟩ stage
      cases stage <;> assumption
  rw [persistWithFaults, Program.atomic_eq_ok, stages]
  simp only [persistStatements, Program.bind_eq_ok, inject_eq_ok, execute_eq_ok, require_eq_ok,
    persistIntentReservationOutbox, Except.bind_ok_iff]
  constructor
  · rintro ⟨_, _, ⟨currency, rfl⟩, _, _, ⟨globally, rfl⟩, _, _, ⟨bySymbol, rfl⟩, _, _,
      ⟨intents, insertedIntent, ⟨⟩⟩, _, _, ⟨first, rfl⟩, _, _, reserves, _, _, ⟨second, rfl⟩,
      _, _, ⟨messages, insertedMessage, ⟨⟩⟩, _, _, ⟨third, rfl⟩, _, _,
      ⟨orders, insertedOrder, ⟨⟩⟩, fourth, rfl⟩
    exact ⟨⟨first, second, third, fourth⟩, (), currency, (), globally, (), bySymbol, intents,
      insertedIntent, _, reserves, messages, insertedMessage, orders, insertedOrder, rfl⟩
  · rintro ⟨⟨first, second, third, fourth⟩, _, currency, _, globally, _, bySymbol, intents,
      insertedIntent, reserved, reserves, messages, insertedMessage, orders, insertedOrder, ⟨⟩⟩
    exact ⟨(), _, ⟨currency, rfl⟩, (), _, ⟨globally, rfl⟩, (), _, ⟨bySymbol, rfl⟩, (), _,
      ⟨intents, insertedIntent, rfl⟩, (), _, ⟨first, rfl⟩, (), reserved, reserves, (), _,
      ⟨second, rfl⟩, (), _, ⟨messages, insertedMessage, rfl⟩, (), _, ⟨third, rfl⟩, (), _,
      ⟨orders, insertedOrder, rfl⟩, fourth, rfl⟩

end TradingLab

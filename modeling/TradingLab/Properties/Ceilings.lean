import TradingLab.Core.RiskLedger
import TradingLab.Persistence.Rows
import TradingLab.Persistence.Statements
import TradingLab.Properties.Exposure
import TradingLab.Relational.Sum

/-!
# Exposure ceilings

Every reservation is made in one transaction that first sums up the ACTIVE reservations, so the
limits are ceilings of every reachable state.
-/
namespace TradingLab

open Relational Machine
open Database

section Reservations
variable {db db' : Database}

/-- A reservation keeps its intent and its amount, and is never ACTIVE again. -/
structure ReservationRow.Follows (r' r : ReservationRow) : Prop where
  intentId : r'.intentId = r.intentId
  amount : r'.amount = r.amount
  active : r'.state = .active → r.state = .active

theorem reservations_change (change : Change db db') :
    ∃ next : ReservationRow → ReservationRow,
      db'.riskReservations.rows = db.riskReservations.rows.map next ∧
        ∀ r, (next r).Follows r := by
  have same : db'.riskReservations = db.riskReservations → ∃ next : ReservationRow → ReservationRow,
      db'.riskReservations.rows = db.riskReservations.rows.map next ∧
        ∀ r, (next r).Follows r := by
    intro kept
    exact ⟨id, by rw [kept, List.map_id], fun r => ⟨rfl, rfl, id⟩⟩
  cases change with
  | close intentId _ _ _ _ releasedAt reason evidence _ _ moved =>
    refine ⟨Table.change (fun r => r.intentId == intentId && r.state == .active)
      fun r => r.release releasedAt reason evidence, ?_, ?_⟩
    · rw [transitionOrder_frame moved]
      rfl
    · intro r
      unfold Table.change
      split
      · refine ⟨rfl, rfl, ?_⟩
        intro active
        cases active
      · exact ⟨rfl, rfl, id⟩
  | move _ _ _ _ _ moved => exact same (by rw [transitionOrder_frame moved])
  | claim _ _ _ _ moved => exact same (by rw [transitionOrder_frame moved]; rfl)
  | settleDigit _ _ _ _ _ _ _ _ applied =>
    obtain ⟨row, rfl⟩ := applyDigitRuntimeSettlement_frame applied
    exact same rfl
  | message | note | inbox | evidence | attempts | processed | digitRow => exact same rfl

end Reservations

namespace Database

variable {db : Database}

def hasCanonicalSymbol (db : Database) (canonical : String) (r : ReservationRow) : Bool :=
  match db.intent r.intentId with
  | some ti => canonicalizeSymbol ti.symbol == canonical
  | none => false

def canonicalExposure (db : Database) (canonical : String) : Int :=
  sumWhere db.riskReservations.rows
    (fun r => r.state == .active && db.hasCanonicalSymbol canonical r) fun r => r.amount.minorUnits

theorem activeGlobalExposure_eq (currency : String) : db.activeGlobalExposure currency =
    sumWhere db.riskReservations.rows
      (fun r => r.state == .active && r.amount.currency == currency) fun r => r.amount.minorUnits :=
  rfl

theorem activeSymbolExposure_eq {currency : String}
    (one : ∀ r ∈ db.riskReservations.rows, r.amount.currency = currency) (symbol : String) :
    db.activeSymbolExposure currency symbol = db.canonicalExposure (canonicalizeSymbol symbol) := by
  have filtered : db.activeSymbolExposure currency symbol = sumWhere db.riskReservations.rows
      (fun r => db.hasCanonicalSymbol (canonicalizeSymbol symbol) r &&
        (r.state == .active && r.amount.currency == currency)) fun r => r.amount.minorUnits := by
    unfold activeSymbolExposure activeReservations sumWhere
    rw [List.filter_filter]
    rfl
  rw [filtered, canonicalExposure]
  apply sumWhere_congr
  intro r member
  apply weight_congr _ rfl
  rw [one r member, beq_self_eq_true, Bool.and_true, Bool.and_comm]

end Database

section Persist
variable {request : OrderRequest} {command : OrderCommand} {intentId reservationId orderId : String}
  {createdAt : Instant} {config : GlobalRiskConfig} {db db' : Database}

section

variable
  (h : persistIntentReservationOutbox request command intentId reservationId orderId createdAt config.limits db = .ok ((), db'))
include h

theorem persist_within :
    request.amount.currency = config.referenceCurrency ∧
      db.activeGlobalExposure request.amount.currency + request.amount.minorUnits ≤
        config.globalMaxExposureMinorUnits ∧
      db.activeSymbolExposure request.amount.currency request.symbol + request.amount.minorUnits ≤
        config.maxExposurePerSymbolMinorUnits := by
  simp only [persistIntentReservationOutbox, Except.bind_ok_iff] at h
  obtain ⟨_, currency, _, globally, _, bySymbol, -⟩ := h
  simp only [requireReferenceCurrency, GlobalRiskConfig.limits] at currency
  simp only [requireGlobalExposure, GlobalRiskConfig.limits] at globally
  simp only [requireSymbolExposure, GlobalRiskConfig.limits] at bySymbol
  split at currency
  · rename_i same
    split at globally
    · cases globally
    · split at bySymbol
      · cases bySymbol
      · exact ⟨same, by omega, by omega⟩
  · cases currency

theorem hasCanonicalSymbol_created {r : ReservationRow}
    (member : r ∈ db.riskReservations.rows) (canonical : String) :
    db'.hasCanonicalSymbol canonical r = db.hasCanonicalSymbol canonical r := by
  obtain ⟨-, reserved, -⟩ := persist_inserts h
  have other : intentId ≠ r.intentId := by
    intro same
    exact unique_reservationRow_intentId r (newReservation request intentId reservationId createdAt)
      same.symm ((Table.insert_eq_some_iff.mp reserved).1 r member)
  simp only [Database.hasCanonicalSymbol, intent_created h, if_neg other]

end

end Persist

/-! ### The ceilings -/

/-- The ceilings of a configuration, and what makes its two sums comparable. -/
structure WithinCeilings (config : GlobalRiskConfig) (db : Database) : Prop where
  currency : ∀ r ∈ db.riskReservations.rows, r.amount.currency = config.referenceCurrency
  positive : ∀ r ∈ db.riskReservations.rows, 0 < r.amount.minorUnits
  globally : db.activeGlobalExposure config.referenceCurrency ≤ config.globalMaxExposureMinorUnits
  bySymbol : ∀ canonical,
    db.canonicalExposure canonical ≤ config.maxExposurePerSymbolMinorUnits

namespace WithinCeilings

variable {config : GlobalRiskConfig} {db db' : Database}

theorem empty (config : GlobalRiskConfig) : WithinCeilings config Database.empty := by
  have limits := config.limits_pos
  constructor
  case currency =>
    intro r member
    cases member
  case positive =>
    intro r member
    cases member
  case globally => exact Int.le_of_lt limits.1
  case bySymbol => exact fun _ => Int.le_of_lt limits.2

theorem weight_follows {r r' : ReservationRow} (follows : r'.Follows r)
    (positive : 0 < r.amount.minorUnits) {p q : ReservationRow → Bool} (same : p r' = q r) :
    weight (fun r => r.state == .active && p r) (fun r => r.amount.minorUnits) r' ≤
      weight (fun r => r.state == .active && q r) (fun r => r.amount.minorUnits) r := by
  simp only [weight, follows.amount, same]
  by_cases active : r'.state = .active
  · rw [active, follows.active active]
  · simp only [beq_eq_false_iff_ne.mpr active, Bool.false_and, Bool.false_eq_true, if_false]
    split <;> omega

theorem change (within : WithinCeilings config db) (change : Change db db') :
    WithinCeilings config db' := by
  obtain ⟨next, rows, follows⟩ := reservations_change change
  have intents := tradeIntents_change change
  have symbols : ∀ canonical r, db'.hasCanonicalSymbol canonical (next r) =
      db.hasCanonicalSymbol canonical r := by
    intro canonical r
    simp only [Database.hasCanonicalSymbol, intent, intents, (follows r).intentId]
  have from_ : ∀ r' ∈ db'.riskReservations.rows, ∃ r ∈ db.riskReservations.rows,
      r'.amount = r.amount := by
    intro r' member
    rw [rows] at member
    obtain ⟨r, inTable, rfl⟩ := List.mem_map.mp member
    exact ⟨r, inTable, (follows r).amount⟩
  constructor
  case currency =>
    intro r' member
    obtain ⟨r, inTable, amount⟩ := from_ r' member
    rw [amount]
    exact within.currency r inTable
  case positive =>
    intro r' member
    obtain ⟨r, inTable, amount⟩ := from_ r' member
    rw [amount]
    exact within.positive r inTable
  case globally =>
    apply Int.le_trans _ within.globally
    rw [activeGlobalExposure_eq, activeGlobalExposure_eq, rows, sumWhere_map]
    apply sumWhere_mono
    intro r member
    exact weight_follows (p := fun r => r.amount.currency == config.referenceCurrency)
      (q := fun r => r.amount.currency == config.referenceCurrency) (follows r)
      (within.positive r member) (by rw [(follows r).amount])
  case bySymbol =>
    intro canonical
    apply Int.le_trans _ (within.bySymbol canonical)
    rw [Database.canonicalExposure, Database.canonicalExposure, rows, sumWhere_map]
    apply sumWhere_mono
    intro r member
    exact weight_follows (p := db'.hasCanonicalSymbol canonical)
      (q := db.hasCanonicalSymbol canonical) (follows r) (within.positive r member)
      (symbols canonical r)

theorem persist (within : WithinCeilings config db) {request : OrderRequest}
    {command : OrderCommand} {intentId reservationId orderId : String} {createdAt : Instant}
    (h : persistIntentReservationOutbox request command intentId reservationId orderId createdAt
      config.limits db = .ok ((), db')) : WithinCeilings config db' := by
  obtain ⟨currency, globally, bySymbol⟩ := persist_within h
  obtain ⟨-, reserved, -⟩ := persist_inserts h
  have rows := (Table.insert_eq_some_iff.mp reserved).2
  rw [activeSymbolExposure_eq (currency ▸ within.currency)] at bySymbol
  rw [currency] at globally
  constructor
  case currency =>
    intro r member
    rw [rows] at member
    rcases List.mem_append.mp member with old | new
    · exact within.currency r old
    · rw [List.mem_singleton.mp new]
      exact currency
  case positive =>
    intro r member
    rw [rows] at member
    rcases List.mem_append.mp member with old | new
    · exact within.positive r old
    · rw [List.mem_singleton.mp new]
      exact request.amount_pos
  case globally =>
    rw [activeGlobalExposure_eq, rows, sumWhere_append, ← activeGlobalExposure_eq,
      sumWhere_cons, sumWhere_nil]
    simp only [weight, newReservation, currency, beq_self_eq_true, Bool.and_self, if_true]
    omega
  case bySymbol =>
    intro canonical
    have old : sumWhere db.riskReservations.rows
        (fun r => r.state == .active && db'.hasCanonicalSymbol canonical r)
        (fun r => r.amount.minorUnits) = db.canonicalExposure canonical := by
      apply sumWhere_congr
      intro r member
      apply weight_congr _ rfl
      rw [hasCanonicalSymbol_created h member]
    have symbol : db'.hasCanonicalSymbol canonical
        (newReservation request intentId reservationId createdAt) =
          (canonicalizeSymbol request.symbol == canonical) := by
      simp only [Database.hasCanonicalSymbol, intent_created h, newReservation, if_true, newIntent]
    rw [Database.canonicalExposure, rows, sumWhere_append, old, sumWhere_cons, sumWhere_nil]
    by_cases here : canonicalizeSymbol request.symbol = canonical
    · subst here
      simp only [weight, symbol, beq_self_eq_true, Bool.and_true]
      simp only [newReservation, beq_self_eq_true, if_true]
      omega
    · have still := within.bySymbol canonical
      simp only [weight, symbol, beq_eq_false_iff_ne.mpr here, Bool.and_false, Bool.false_eq_true,
        if_false]
      omega

end WithinCeilings

/-! ### Runs -/

/-- What the writer is asked to do under one configuration: a reservation with the limits
    of the configuration and any faults, or another operation. -/
inductive ReservationOp
  | persist (faults : FaultInjector) (request : OrderRequest) (command : OrderCommand)
      (intentId reservationId orderId : String) (createdAt : Instant)
  | other (op : WriterOp) (adds : op.newCommand = none)

def ReservationOp.step (config : GlobalRiskConfig) (db : Database) : ReservationOp → Database
  | .persist faults request command intentId reservationId orderId createdAt =>
    (persistWithFaults faults request command intentId reservationId orderId createdAt
      config.limits db).2
  | .other op _ => writerStep db op

theorem WithinCeilings.step {config : GlobalRiskConfig} {db : Database}
    (within : WithinCeilings config db) (op : ReservationOp) :
    WithinCeilings config (op.step config db) := by
  cases op with
  | other op adds =>
    refine Machine.transact_cases (WithinCeilings config) within ?_
    intro _ db' committed
    exact Changes.invariant (WithinCeilings config)
      (fun _ _ before step => before.change step) within (op.changes adds committed)
  | persist faults request command intentId reservationId orderId createdAt =>
    simp only [ReservationOp.step]
    by_cases commits : ∃ db', persistWithFaults faults request command intentId reservationId
      orderId
        createdAt config.limits db = (.ok (), db')
    · obtain ⟨db', committed⟩ := commits
      rw [committed]
      exact within.persist (persistWithFaults_eq_ok.mp committed).2
    · obtain ⟨e, refused⟩ := Program.atomic_of_not_ok fun _ db' ends =>
        commits ⟨db', Program.atomic_eq_ok.mpr ends⟩
      rw [persistWithFaults, refused]
      exact within

/-- The call would break a ceiling, finds the account busy, or fails at a stage. -/
def Refused (config : GlobalRiskConfig) (faults : FaultInjector) (request : OrderRequest)
    (db : Database) : Prop :=
  config.globalMaxExposureMinorUnits <
      db.activeGlobalExposure config.referenceCurrency + request.amount.minorUnits ∨
    config.maxExposurePerSymbolMinorUnits <
      db.canonicalExposure (canonicalizeSymbol request.symbol) + request.amount.minorUnits ∨
    (∃ r ∈ db.riskReservations.rows, r.state = .active ∧ r.broker = request.broker ∧
      r.accountId = request.accountId) ∨
    ∃ stage, faults stage ≠ none

theorem not_persist_of_busy {request : OrderRequest} {command : OrderCommand}
    {intentId reservationId orderId : String} {createdAt : Instant} {limits : ExposureLimits}
    {db db' : Database} {r : ReservationRow} (member : r ∈ db.riskReservations.rows)
    (active : r.state = .active) (broker : r.broker = request.broker)
    (account : r.accountId = request.accountId) :
    persistIntentReservationOutbox request command intentId reservationId orderId createdAt limits
      db ≠ .ok ((), db') := by
  intro h
  obtain ⟨-, reserved, -⟩ := persist_inserts h
  have apart := (Table.insert_eq_some_iff.mp reserved).1 r member
  exact apart.2.2 ⟨active, rfl, broker, account⟩

/-- **The exposure ceilings hold in every state that the calls reach,** and a refused call leaves
    the database as it was. -/
theorem ceilings_hold (config : GlobalRiskConfig) (ops : List ReservationOp) {db : Database}
    (reached : Machine.run (ReservationOp.step config) Database.empty ops = db) :
    db.activeGlobalExposure config.referenceCurrency ≤ config.globalMaxExposureMinorUnits ∧
      (∀ canonical, db.canonicalExposure canonical ≤ config.maxExposurePerSymbolMinorUnits) ∧
      ∀ faults request command intentId reservationId orderId createdAt,
        Refused config faults request db →
        ∃ e, persistWithFaults faults request command intentId reservationId orderId createdAt
          config.limits db = (.error e, db) := by
  have within : WithinCeilings config db := by
    rw [← reached]
    exact Machine.run_invariant (WithinCeilings config) (fun _ op before => before.step op)
      (.empty config) ops
  refine ⟨within.globally, within.bySymbol, ?_⟩
  intro faults request command intentId reservationId orderId createdAt refused
  apply Program.atomic_of_not_ok
  intro _ db' ends
  obtain ⟨noFault, committed⟩ := persistWithFaults_eq_ok.mp (Program.atomic_eq_ok.mpr ends)
  obtain ⟨currency, globally, bySymbol⟩ := persist_within committed
  rw [activeSymbolExposure_eq (currency ▸ within.currency)] at bySymbol
  rw [currency] at globally
  rcases refused with large | large | ⟨r, member, active, broker, account⟩ | ⟨stage, fault⟩
  · omega
  · omega
  · exact not_persist_of_busy member active broker account committed
  · exact fault (noFault stage)

namespace Sample

def riskConfig : GlobalRiskConfig :=
  ⟨{}, ⟨{}, by decide⟩⟩

def reserved : Database :=
  Machine.run (ReservationOp.step riskConfig) Database.empty
    [.persist (fun _ => none) request command "intent-1" "reservation-1" "order-1" 0]

end Sample

theorem busy_sample_refused :
    Sample.reserved.activeGlobalExposure "USD" = 100 ∧
      ∃ e, persistWithFaults (fun _ => none) Sample.request Sample.command "intent-2"
        "reservation-2" "order-2" 1 Sample.riskConfig.limits Sample.reserved =
          (.error e, Sample.reserved) := by
  refine ⟨by decide, ?_⟩
  apply (ceilings_hold Sample.riskConfig
    [.persist (fun _ => none) Sample.request Sample.command "intent-1" "reservation-1" "order-1" 0]
    rfl).2.2
  exact .inr (.inr (.inl ⟨_, List.mem_singleton.mpr rfl, by decide, by decide, by decide⟩))

end TradingLab

import TradingLab.Persistence.Writer

/-!
# What a writer operation can do

Every committed operation adds one intent with its rows, or is a chain of a few kinds of changes, so
an invariant of the database is a statement about a new intent and about one change. A transition to
a terminal state and the release of the reservation are one change (`close`).
-/
namespace TradingLab

open Relational
open Relational.Table Database

/-! ### Inversion of the primitives -/

namespace Database

variable {db db' : Database} {intentId orderId product symbol currency settlementId : String}
  {s : OrderState} {at_ occurredAt : Instant} {brokerOrderId : Option String} {pnl : Option Int}
  {o : OrderRow} {pnlMinor : Int}

theorem transitionOrder_eq_ok (h : db.transitionOrder intentId s at_ brokerOrderId pnl = .ok db') :
    ∃ row, db.order intentId = some row ∧
      ((row.state = s ∧ db' = db) ∨
        (row.state ≠ s ∧ s ∈ allowedTransitions row.state ∧
          db' = db.updateOrders (fun o => o.intentId == intentId)
            (fun o => o.transition s at_ brokerOrderId pnl)
            (OrderRow.transition_keys s at_ brokerOrderId pnl))) := by
  unfold transitionOrder at h
  split at h
  · cases h
  · rename_i row found
    refine ⟨row, found, ?_⟩
    split at h
    · rename_i same
      cases h
      exact .inl ⟨same, rfl⟩
    · rename_i differs
      split at h
      · rename_i allowed
        cases h
        exact .inr ⟨differs, allowed, rfl⟩
      · cases h

/-! An update of orders does not change which orders there are. -/

section UpdateOrders
variable (db : Database) (p : OrderRow → Bool) (f : OrderRow → OrderRow)
  (same : OrderRow.SameKeys f)

@[simp] theorem order_updateOrders (intentId : String) :
    (db.updateOrders p f same).order intentId = (db.order intentId).map (Table.change p f) :=
  lookup_update (OrderRow.keeps same) (fun o => (same o).2) intentId

@[simp] theorem orderById_updateOrders (orderId : String) :
    (db.updateOrders p f same).orderById orderId =
      (db.orderById orderId).map (Table.change p f) :=
  lookup_update (OrderRow.keeps same) (fun o => (same o).1) orderId

omit p in
theorem order_updateOrders_intent (intentId j : String) :
    (db.updateOrders (fun o => o.intentId == intentId) f same).order j =
      if j = intentId then (db.order intentId).map f else db.order j :=
  lookup_update_at (fun o => (same o).2) intentId j (OrderRow.keeps same)

end UpdateOrders

theorem orderById_eq_some_iff :
    db.orderById orderId = some o ↔ o ∈ db.orders.rows ∧ o.orderId = orderId :=
  lookup_eq_some_iff unique_orderRow_orderId

theorem order_eq_some_iff :
    db.order intentId = some o ↔ o ∈ db.orders.rows ∧ o.intentId = intentId :=
  lookup_eq_some_iff unique_orderRow_intentId

theorem order_of_orderById (h : db.orderById orderId = some o) : db.order o.intentId = some o :=
  order_eq_some_iff.mpr ⟨(orderById_eq_some_iff.mp h).1, rfl⟩

theorem orderById_of_order (h : db.order intentId = some o) : db.orderById o.orderId = some o :=
  orderById_eq_some_iff.mpr ⟨(order_eq_some_iff.mp h).1, rfl⟩

theorem order_transitionOrder {row : OrderRow} (found : db.order intentId = some row)
    (h : db.transitionOrder intentId s at_ brokerOrderId pnl = .ok db') :
    ∃ o, db'.order intentId = some o ∧ o.state = s ∧ o.orderId = row.orderId := by
  obtain ⟨row', found', ⟨same, rfl⟩ | ⟨-, -, rfl⟩⟩ := transitionOrder_eq_ok h
  · rw [found] at found'
    cases found'
    exact ⟨row, found, same, rfl⟩
  · refine ⟨row.transition s at_ brokerOrderId pnl, ?_, rfl, rfl⟩
    have here : row.intentId = intentId := (order_eq_some_iff.mp found).2
    rw [order_updateOrders, found, Option.map_some, change_of_true]
    simpa using here

theorem transitionOrder_frame (h : db.transitionOrder intentId s at_ brokerOrderId pnl = .ok db') :
    db' = { db with orders := db'.orders } := by
  obtain ⟨row, -, ⟨-, rfl⟩ | ⟨-, -, rfl⟩⟩ := transitionOrder_eq_ok h <;> rfl

section

variable
  (h : db.applyDigitRuntimeSettlement product symbol currency pnlMinor orderId settlementId occurredAt = .ok db')
include h

theorem applyDigitRuntimeSettlement_eq_ok :
    (isDigitProduct product = false ∧ db' = db) ∨
      ∃ runtime, isDigitProduct product = true ∧ db.digitRiskRuntime = some runtime ∧
        runtime.currency = currency ∧
        ((runtime.lastOrderId = some orderId ∧ db' = db) ∨
          (runtime.lastOrderId ≠ some orderId ∧ db' = { db with
            digitRiskRuntime :=
              some (runtime.settle symbol pnlMinor orderId settlementId occurredAt) })) := by
  unfold applyDigitRuntimeSettlement at h
  split at h
  · rename_i digit
    split at h
    · cases h
    · rename_i runtime present
      split at h
      · rename_i currency
        refine .inr ⟨runtime, digit, present, currency, ?_⟩
        split at h
        · rename_i seen
          cases h
          exact .inl ⟨seen, rfl⟩
        · rename_i unseen
          cases h
          exact .inr ⟨unseen, rfl⟩
      · cases h
  · rename_i other
    cases h
    exact .inl ⟨by simpa using other, rfl⟩

theorem applyDigitRuntimeSettlement_frame : ∃ row, db' = { db with digitRiskRuntime := row } := by
  rcases applyDigitRuntimeSettlement_eq_ok h with ⟨-, rfl⟩ | ⟨_, -, -, -, ⟨-, rfl⟩ | ⟨-, rfl⟩⟩ <;>
    exact ⟨_, rfl⟩

end

theorem transitionOrder_of_transitionUnless {current target : OrderState}
    (found : db.order intentId = some o) (state : o.state = current)
    (h : db.transitionUnless current intentId target at_ brokerOrderId pnl = .ok db') :
    db.transitionOrder intentId target at_ brokerOrderId pnl = .ok db' := by
  unfold transitionUnless at h
  split at h
  · rename_i same
    cases h
    simp only [transitionOrder, found, state.trans same, if_true]
  · exact h

end Database

/-! ### A new intent -/

variable {db db' : Database}

/-- A committed `persist_intent_reservation_outbox` inserts one row in each of the four
    financial tables. -/
theorem persist_inserts {request : OrderRequest} {command : OrderCommand}
    {intentId reservationId orderId : String} {createdAt : Instant} {limits : ExposureLimits}
    (h : persistIntentReservationOutbox request command intentId reservationId orderId createdAt
      limits db = .ok ((), db')) :
    db.tradeIntents.insert (newIntent request intentId createdAt) = some db'.tradeIntents ∧
    db.riskReservations.insert (newReservation request intentId reservationId createdAt) =
      some db'.riskReservations ∧
    db.outboxMessages.insert (newOutboxMessage request command intentId createdAt) =
      some db'.outboxMessages ∧
    db.orders.insert (newOrder request intentId orderId createdAt) = some db'.orders ∧
    db' = { db with
      tradeIntents := db'.tradeIntents
      riskReservations := db'.riskReservations
      outboxMessages := db'.outboxMessages
      orders := db'.orders } := by
  simp only [persistIntentReservationOutbox, Except.bind_ok_iff, orIntegrityError_eq_ok] at h
  obtain ⟨-, -, -, -, -, -, intents, insertedIntent, reserved, reserves, messages, insertedMessage,
    orders, insertedOrder, h⟩ := h
  unfold insertReservation at reserves
  split at reserves
  · cases reserves
  · simp only [Except.bind_ok_iff, orIntegrityError_eq_ok] at reserves
    obtain ⟨reservations, insertedReservation, reserves⟩ := reserves
    cases reserves
    cases h
    exact ⟨insertedIntent, insertedReservation, insertedMessage, insertedOrder, rfl⟩

section Created
variable {request : OrderRequest} {command : OrderCommand} {intentId reservationId orderId : String}
  {createdAt : Instant} {limits : ExposureLimits} {db db' : Database}
  (h : persistIntentReservationOutbox request command intentId reservationId orderId createdAt limits db = .ok ((), db'))
include h

theorem intent_created (j : String) : db'.intent j =
    if intentId = j then some (newIntent request intentId createdAt) else db.intent j :=
  lookup_insert (persist_inserts h).1 unique_intentRow_intentId j

theorem reservation_created (j : String) : db'.reservation j =
    if intentId = j then some (newReservation request intentId reservationId createdAt)
    else db.reservation j :=
  lookup_insert (persist_inserts h).2.1 unique_reservationRow_intentId j

theorem outbox_created (j : String) : db'.outbox j =
    if intentId = j then some (newOutboxMessage request command intentId createdAt)
    else db.outbox j :=
  lookup_insert (persist_inserts h).2.2.1 unique_outboxRow_intentId j

theorem message_created (id : String) : db'.message id =
    if command.messageId = id then some (newOutboxMessage request command intentId createdAt)
    else db.message id :=
  lookup_insert (persist_inserts h).2.2.1 unique_outboxRow_messageId id

theorem message_fresh : db.message command.messageId = none :=
  lookup_none_of_insert (persist_inserts h).2.2.1 unique_outboxRow_messageId

theorem order_created (j : String) : db'.order j =
    if intentId = j then some (newOrder request intentId orderId createdAt) else db.order j :=
  lookup_insert (persist_inserts h).2.2.2.1 unique_orderRow_intentId j

theorem order_fresh : db.order intentId = none :=
  lookup_none_of_insert (persist_inserts h).2.2.2.1 unique_orderRow_intentId

end Created

/-! ### The changes -/

/-- A message in this state is not waiting for a dispatch or in one. -/
def OutboxState.isDone (s : OutboxState) : Bool :=
  s != .pending && s != .dispatching

/-- The columns of a message that no update assigns. -/
structure OutboxRow.SameCommand (m' m : OutboxRow) : Prop where
  messageId : m'.messageId = m.messageId
  intentId : m'.intentId = m.intentId
  payload : m'.payload = m.payload
  createdAt : m'.createdAt = m.createdAt

/-- The columns of an order that only a transition may assign, or none at all. -/
structure OrderRow.SameFacts (o' o : OrderRow) : Prop where
  orderId : o'.orderId = o.orderId
  intentId : o'.intentId = o.intentId
  broker : o'.broker = o.broker
  accountId : o'.accountId = o.accountId
  correlationId : o'.correlationId = o.correlationId
  createdAt : o'.createdAt = o.createdAt
  state : o'.state = o.state
  realizedPnlMinor : o'.realizedPnlMinor = o.realizedPnlMinor
  pnlApplicationCount : o'.pnlApplicationCount = o.pnlApplicationCount

/-- What the operations other than `persist_intent_reservation_outbox` do: none of them
    adds an intent, a reservation, a message or an order. -/
inductive Change : Database → Database → Prop
  | move {db db' : Database} (intentId : String) (s : OrderState) (at_ : Instant)
      (brokerOrderId : Option String) (live : s.isTerminal = false)
      (moved : db.transitionOrder intentId s at_ brokerOrderId none = .ok db') : Change db db'
  /-- A transition to a terminal state together with the release. -/
  | close {db db' : Database} (intentId : String) (s : OrderState) (at_ : Instant)
      (brokerOrderId : Option String) (pnl : Option Int) (releasedAt : Instant) (reason : String)
      (evidence : Option String) (terminal : s.isTerminal = true)
      (onlySettled : pnl ≠ none → s = .settled)
      (moved : db.transitionOrder intentId s at_ brokerOrderId pnl = .ok db') :
      Change db (db'.releaseForIntent intentId releasedAt reason evidence)
  | claim {db db' : Database} (message : OutboxRow) (claimedAt : Instant)
      (found : db.message message.messageId = some message) (pending : message.state = .pending)
      (moved : (db.updateOutbox (fun m => m.messageId == message.messageId && m.state == .pending)
        (fun m => m.claim claimedAt) (OutboxRow.claim_keys claimedAt)).transitionOrder
          message.intentId .dispatching claimedAt none none = .ok db') : Change db db'
  /-- A message leaves the PENDING and DISPATCHING states for good. -/
  | message {db : Database} {p : OutboxRow → Bool} {f : OutboxRow → OutboxRow}
      {keys : OutboxRow.SameKeys f} (same : ∀ m, (f m).SameCommand m)
      (attempts : ∀ m, (f m).attemptCount = m.attemptCount)
      (done : ∀ m, (f m).state.isDone = true) :
      Change db (db.updateOutbox p f keys)
  /-- An order remembers the event or the evidence that moved it. -/
  | note {db : Database} {orderId : String} {f : OrderRow → OrderRow}
      {keys : OrderRow.SameKeys f} (same : ∀ o, (f o).SameFacts o)
      (sequenced : (∀ o, (f o).lastExternalSequence = o.lastExternalSequence) ∨
        ∃ e ∈ db.brokerOrderEvents.rows, e.orderId = some orderId)
      (evidenced : (∀ o, (f o).resolutionEvidenceId = o.resolutionEvidenceId) ∨
        ∃ id, (db.evidence id).isSome ∧ ∀ o, (f o).resolutionEvidenceId = some id) :
      Change db (db.updateOrders (fun o => o.orderId == orderId) f keys)
  /-- The inbox of broker events grows, or annotates an event it has. -/
  | inbox {db : Database} {brokerOrderEvents : Table EventRow}
      (grows : ∀ e ∈ db.brokerOrderEvents.rows,
        ∃ e' ∈ brokerOrderEvents.rows, e'.event = e.event ∧ e'.orderId = e.orderId) :
      Change db { db with brokerOrderEvents }
  | evidence {db : Database} {reconciliationEvidence : Table EvidenceRow} (row : EvidenceRow)
      (inserted : db.reconciliationEvidence.insert row = some reconciliationEvidence) :
      Change db { db with reconciliationEvidence }
  | attempts {db : Database} (reconciliationAttempts : Table AttemptRow) :
      Change db { db with reconciliationAttempts }
  | processed {db : Database} (processedOrderEvents : Table ProcessedEventRow) :
      Change db { db with processedOrderEvents }
  | settleDigit {db db' : Database} (product symbol currency : String) (pnlMinor : Int)
      (orderId settlementId : String) (occurredAt : Instant)
      (settled : ∃ o, db.orderById orderId = some o ∧ o.state = .settled)
      (applied : db.applyDigitRuntimeSettlement product symbol currency pnlMinor orderId
        settlementId occurredAt = .ok db') : Change db db'
  | digitRow {db : Database} (row : DigitRiskRuntime)
      (same : row.lastOrderId = none ∨
        ∃ old, db.digitRiskRuntime = some old ∧ row.lastOrderId = old.lastOrderId) :
      Change db { db with digitRiskRuntime := some row }

/-- A committed operation that adds no intent is a chain of changes. -/
abbrev Changes : Database → Database → Prop := Relation.ReflTransGen Change

/-! ### What a chain leaves alone -/

namespace Database

/-- The inbox, and the orders with their last sequence numbers. -/
def sequenceView (db : Database) : Table EventRow × List (String × Option Int) :=
  (db.brokerOrderEvents, db.orders.rows.map fun o => (o.orderId, o.lastExternalSequence))

theorem sequenceView_updateOrders {p : OrderRow → Bool} {f : OrderRow → OrderRow}
    {same : OrderRow.SameKeys f} (kept : ∀ o, (f o).lastExternalSequence = o.lastExternalSequence) :
    (db.updateOrders p f same).sequenceView = db.sequenceView := by
  have column : ∀ o, ((Table.change p f o).orderId, (Table.change p f o).lastExternalSequence) =
      (o.orderId, o.lastExternalSequence) := fun o =>
    Prod.ext (column_change (fun o => (same o).1) o) (column_change kept o)
  simp only [sequenceView, updateOrders, rows_update, List.map_map, Function.comp_def, column]

theorem sequenceView_transitionOrder {intentId : String} {s : OrderState} {at_ : Instant}
    {brokerOrderId : Option String} {pnl : Option Int}
    (h : db.transitionOrder intentId s at_ brokerOrderId pnl = .ok db') :
    db'.sequenceView = db.sequenceView := by
  obtain ⟨_, -, ⟨-, rfl⟩ | ⟨-, -, rfl⟩⟩ := transitionOrder_eq_ok h
  · rfl
  · exact sequenceView_updateOrders fun _ => rfl

end Database

/-- Whether a chain of changes may touch the inbox and the sequence numbers, and the attempts. -/
structure Touches where
  inbox : Bool
  attempts : Bool

structure ChangeWithin (t : Touches) (db db' : Database) : Prop where
  change : Change db db'
  sequences : t.inbox = false → db'.sequenceView = db.sequenceView
  tries : t.attempts = false → db'.reconciliationAttempts = db.reconciliationAttempts

abbrev ChangesWithin (t : Touches) : Database → Database → Prop :=
  Relation.ReflTransGen (ChangeWithin t)

namespace ChangesWithin

variable {t : Touches}

theorem changes (chain : ChangesWithin t db db') : Changes db db' :=
  chain.lift id fun _ _ within => within.change

theorem sequenceView_eq (quiet : t.inbox = false) (chain : ChangesWithin t db db') :
    db'.sequenceView = db.sequenceView := by
  induction chain with
  | refl => rfl
  | tail _ last ih => exact (last.sequences quiet).trans ih

theorem attempts_eq (quiet : t.attempts = false) (chain : ChangesWithin t db db') :
    db'.reconciliationAttempts = db.reconciliationAttempts := by
  induction chain with
  | refl => rfl
  | tail _ last ih => exact (last.tries quiet).trans ih

end ChangesWithin

namespace ChangeWithin

variable {t : Touches}

theorem changes (h : ChangeWithin t db db') : ChangesWithin t db db' :=
  .single h

theorem andThen {next : Database} (rest : ChangesWithin t next db') (h : ChangeWithin t db next) :
    ChangesWithin t db db' :=
  .head h rest

theorem move (intentId : String) (s : OrderState) (at_ : Instant) (brokerOrderId : Option String)
    (live : s.isTerminal = false)
    (moved : db.transitionOrder intentId s at_ brokerOrderId none = .ok db') :
    ChangeWithin t db db' :=
  ⟨.move intentId s at_ brokerOrderId live moved,
    fun _ => sequenceView_transitionOrder moved,
    fun _ => by rw [transitionOrder_frame moved]⟩

theorem close (intentId : String) (s : OrderState) (at_ : Instant) (brokerOrderId : Option String)
    (pnl : Option Int) (releasedAt : Instant) (reason : String) (evidence : Option String)
    (terminal : s.isTerminal = true) (onlySettled : pnl ≠ none → s = .settled)
    (moved : db.transitionOrder intentId s at_ brokerOrderId pnl = .ok db') :
    ChangeWithin t db (db'.releaseForIntent intentId releasedAt reason evidence) :=
  ⟨.close intentId s at_ brokerOrderId pnl releasedAt reason evidence terminal onlySettled moved,
    fun _ => (sequenceView_transitionOrder moved :),
    fun _ => by rw [transitionOrder_frame moved]; rfl⟩

theorem advance {intentId : String} {s : OrderState} {at_ : Instant}
    {brokerOrderId : Option String} {pnl : Option Int} (releasedAt : Instant) (reason : String)
    (evidence : Option String) (onlySettled : pnl ≠ none → s = .settled)
    (moved : db.transitionOrder intentId s at_ brokerOrderId pnl = .ok db') :
    ChangesWithin t db (db'.releaseIfTerminal s intentId releasedAt reason evidence) := by
  unfold releaseIfTerminal
  split
  · rename_i terminal
    exact (close intentId s at_ brokerOrderId pnl releasedAt reason evidence terminal
      onlySettled moved).changes
  · rename_i live
    rw [Bool.not_eq_true] at live
    have noPnl : pnl = none := by
      by_contra given
      rw [onlySettled given] at live
      cases live
    subst noPnl
    exact (move intentId s at_ brokerOrderId live moved).changes

theorem claim (message : OutboxRow) (claimedAt : Instant)
    (found : db.message message.messageId = some message) (pending : message.state = .pending)
    (moved : (db.updateOutbox (fun m => m.messageId == message.messageId && m.state == .pending)
      (fun m => m.claim claimedAt) (OutboxRow.claim_keys claimedAt)).transitionOrder
        message.intentId .dispatching claimedAt none none = .ok db') : ChangeWithin t db db' :=
  ⟨.claim message claimedAt found pending moved,
    fun _ => (sequenceView_transitionOrder moved :),
    fun _ => by rw [transitionOrder_frame moved]; rfl⟩

theorem message {p : OutboxRow → Bool} {f : OutboxRow → OutboxRow} {keys : OutboxRow.SameKeys f}
    (same : ∀ m, (f m).SameCommand m) (attempts : ∀ m, (f m).attemptCount = m.attemptCount)
    (done : ∀ m, (f m).state.isDone = true) : ChangeWithin t db (db.updateOutbox p f keys) :=
  ⟨.message same attempts done, fun _ => rfl, fun _ => rfl⟩

theorem note {orderId : String} {f : OrderRow → OrderRow} {keys : OrderRow.SameKeys f}
    (same : ∀ o, (f o).SameFacts o)
    (sequenced : (∀ o, (f o).lastExternalSequence = o.lastExternalSequence) ∨
      t.inbox = true ∧ ∃ e ∈ db.brokerOrderEvents.rows, e.orderId = some orderId)
    (evidenced : (∀ o, (f o).resolutionEvidenceId = o.resolutionEvidenceId) ∨
      ∃ id, (db.evidence id).isSome ∧ ∀ o, (f o).resolutionEvidenceId = some id) :
    ChangeWithin t db (db.updateOrders (fun o => o.orderId == orderId) f keys) := by
  refine ⟨.note same (sequenced.imp id And.right) evidenced, fun quiet => ?_, fun _ => rfl⟩
  rcases sequenced with kept | ⟨loud, -⟩
  · exact sequenceView_updateOrders kept
  · rw [quiet] at loud
    cases loud

theorem inbox {attempts : Bool} {brokerOrderEvents : Table EventRow}
    (grows : ∀ e ∈ db.brokerOrderEvents.rows,
      ∃ e' ∈ brokerOrderEvents.rows, e'.event = e.event ∧ e'.orderId = e.orderId) :
    ChangeWithin ⟨true, attempts⟩ db { db with brokerOrderEvents } :=
  ⟨.inbox grows, nofun, fun _ => rfl⟩

theorem evidence {reconciliationEvidence : Table EvidenceRow} (row : EvidenceRow)
    (inserted : db.reconciliationEvidence.insert row = some reconciliationEvidence) :
    ChangeWithin t db { db with reconciliationEvidence } :=
  ⟨.evidence row inserted, fun _ => rfl, fun _ => rfl⟩

theorem attempts {inbox : Bool} (reconciliationAttempts : Table AttemptRow) :
    ChangeWithin ⟨inbox, true⟩ db { db with reconciliationAttempts } :=
  ⟨.attempts _, fun _ => rfl, nofun⟩

theorem processed (processedOrderEvents : Table ProcessedEventRow) :
    ChangeWithin t db { db with processedOrderEvents } :=
  ⟨.processed _, fun _ => rfl, fun _ => rfl⟩

theorem settleDigit (product symbol currency : String) (pnlMinor : Int)
    (orderId settlementId : String) (occurredAt : Instant)
    (settled : ∃ o, db.orderById orderId = some o ∧ o.state = .settled)
    (applied : db.applyDigitRuntimeSettlement product symbol currency pnlMinor orderId
      settlementId occurredAt = .ok db') : ChangeWithin t db db' := by
  obtain ⟨_, rfl⟩ := applyDigitRuntimeSettlement_frame applied
  exact ⟨.settleDigit _ _ _ _ _ _ _ settled applied, fun _ => rfl, fun _ => rfl⟩

theorem digitRow (row : DigitRiskRuntime) (same : row.lastOrderId = none ∨
      ∃ old, db.digitRiskRuntime = some old ∧ row.lastOrderId = old.lastOrderId) :
    ChangeWithin t db { db with digitRiskRuntime := some row } :=
  ⟨.digitRow row same, fun _ => rfl, fun _ => rfl⟩

end ChangeWithin

theorem Changes.invariant (holds : Database → Prop)
    (keeps : ∀ db db' : Database, holds db → Change db db' → holds db')
    (start : holds db) (chain : Changes db db') : holds db' := by
  induction chain with
  | refl => exact start
  | tail _ change ih => exact keeps _ _ ih change

end TradingLab

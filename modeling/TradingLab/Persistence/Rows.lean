import TradingLab.Persistence.Decomposition

/-!
# What a change does to a row

The changes of the database seen from one message and from one order: rows are never removed, a
message is claimed at most from PENDING, and an order follows `ALLOWED_TRANSITIONS`.
-/
namespace TradingLab

open Relational
open Database
open Relational.Table

theorem rel_of_eq {ρ : Type} {r : ρ → ρ → Prop} (refl : ∀ a, r a a) {a b : Option ρ}
    (same : b = a) : Option.Rel r a b := by
  subst same
  cases b with
  | none => exact .none
  | some row => exact .some (refl row)

/-! ### Orders -/

structure OrderStep (db : Database) (o o' : OrderRow) : Prop where
  orderId : o'.orderId = o.orderId
  intentId : o'.intentId = o.intentId
  broker : o'.broker = o.broker
  accountId : o'.accountId = o.accountId
  state : o'.state = o.state ∨ o'.state ∈ allowedTransitions o.state
  sequenced : o'.lastExternalSequence = o.lastExternalSequence ∨
    ∃ e ∈ db.brokerOrderEvents.rows, e.orderId = some o.orderId
  evidenced : o'.resolutionEvidenceId = o.resolutionEvidenceId ∨
    ∃ id, (db.evidence id).isSome ∧ o'.resolutionEvidenceId = some id

namespace OrderStep

variable {db : Database}

theorem refl (o : OrderRow) : OrderStep db o o :=
  ⟨rfl, rfl, rfl, rfl, .inl rfl, .inl rfl, .inl rfl⟩

theorem state_eq {o o' : OrderRow} (step : OrderStep db o o') (ended : o.state.isTerminal = true) :
    o'.state = o.state := by
  rcases step.state with same | allowed
  · exact same
  · have none : allowedTransitions o.state = [] := by
      cases state : o.state <;> rw [state] at ended <;> first | rfl | cases ended
    rw [none] at allowed
    cases allowed

end OrderStep

section Orders
variable {db db' : Database} {orderId : String} {o : OrderRow}

theorem orderStep_transitionOrder {intentId : String} {s : OrderState} {at_ : Instant}
    {brokerOrderId : Option String} {pnl : Option Int}
    (h : db.transitionOrder intentId s at_ brokerOrderId pnl = .ok db') (base : Database)
    (i : String) : Option.Rel (OrderStep base) (db.order i) (db'.order i) := by
  obtain ⟨row, found, ⟨-, rfl⟩ | ⟨-, allowed, rfl⟩⟩ := transitionOrder_eq_ok h
  · exact rel_of_eq OrderStep.refl rfl
  · rw [order_updateOrders_intent]
    split
    · rename_i here
      rw [here, found]
      exact .some ⟨rfl, rfl, rfl, rfl, .inr allowed, .inl rfl, .inl rfl⟩
    · exact rel_of_eq OrderStep.refl rfl

theorem order_change (change : Change db db') (i : String) :
    Option.Rel (OrderStep db) (db.order i) (db'.order i) := by
  cases change with
  | move _ _ _ _ _ moved => exact orderStep_transitionOrder moved db i
  | claim _ _ _ _ moved =>
    -- The claim of the message changes no order.
    exact orderStep_transitionOrder moved db i
  | close _ _ _ _ _ _ _ _ _ _ moved => exact orderStep_transitionOrder moved db i
  | @note orderId f keys same sequenced evidenced =>
    rw [order_updateOrders]
    cases db.order i with
    | none => exact .none
    | some o =>
      refine .some ?_
      unfold Table.change
      split
      · rename_i named
        rw [beq_iff_eq] at named
        subst named
        have facts := same o
        refine ⟨facts.orderId, facts.intentId, facts.broker, facts.accountId, .inl facts.state,
          sequenced.imp (fun all => all o) id, evidenced.imp (fun all => all o) ?_⟩
        rintro ⟨id, present, all⟩
        exact ⟨id, present, all o⟩
      · exact .refl o
  | settleDigit _ _ _ _ _ _ _ _ applied =>
    obtain ⟨row, rfl⟩ := applyDigitRuntimeSettlement_frame applied
    exact rel_of_eq OrderStep.refl rfl
  | message | inbox | evidence | attempts | processed | digitRow =>
    exact rel_of_eq OrderStep.refl rfl

theorem orderById_change (change : Change db db') (found : db.orderById orderId = some o) :
    ∃ o', db'.orderById orderId = some o' ∧ OrderStep db o o' := by
  have step := order_change change o.intentId
  rw [order_of_orderById found] at step
  generalize after : db'.order o.intentId = next at step
  cases step with
  | @some _ o' step =>
    refine ⟨o', ?_, step⟩
    rw [← (mem_of_lookup found).2, ← step.orderId]
    exact orderById_of_order after

theorem orderById_creates (created : Creates db db')
    (found : db.orderById orderId = some o) : db'.orderById orderId = some o := by
  obtain ⟨_, _, _, _, _, _, _, persisted⟩ := created
  obtain ⟨-, -, -, inserted, -⟩ := persist_inserts persisted
  obtain ⟨member, named⟩ := orderById_eq_some_iff.mp found
  apply orderById_eq_some_iff.mpr
  refine ⟨?_, named⟩
  rw [(insert_eq_some_iff.mp inserted).2]
  exact List.mem_append_left _ member

end Orders

/-! ### Which rows there are -/

section Keys
variable {db db' : Database}

theorem tradeIntents_change (change : Change db db') : db'.tradeIntents = db.tradeIntents := by
  cases change with
  | move _ _ _ _ _ moved => rw [transitionOrder_frame moved]
  | claim _ _ _ _ moved =>
    rw [transitionOrder_frame moved]
    rfl
  | close _ _ _ _ _ _ _ _ _ _ moved =>
    rw [transitionOrder_frame moved]
    rfl
  | settleDigit _ _ _ _ _ _ _ _ applied =>
    obtain ⟨row, rfl⟩ := applyDigitRuntimeSettlement_frame applied
    rfl
  | message | note | inbox | evidence | attempts | processed | digitRow => rfl

/-- The intents that have an order, in the sequence of the rows. -/
def Database.orderedIntents (db : Database) : List String :=
  db.orders.rows.map OrderRow.intentId

theorem orderedIntents_updateOrders (p : OrderRow → Bool) {f : OrderRow → OrderRow}
    (keys : OrderRow.SameKeys f) :
    (db.updateOrders p f keys).orderedIntents = db.orderedIntents := by
  simp only [orderedIntents, updateOrders, rows_update, List.map_map]
  apply List.map_congr_left
  intro o _
  exact column_change (fun o => (keys o).2) o

theorem orderedIntents_transitionOrder {intentId : String} {s : OrderState} {at_ : Instant}
    {brokerOrderId : Option String} {pnl : Option Int}
    (h : db.transitionOrder intentId s at_ brokerOrderId pnl = .ok db') :
    db'.orderedIntents = db.orderedIntents := by
  obtain ⟨row, -, ⟨-, rfl⟩ | ⟨-, -, rfl⟩⟩ := transitionOrder_eq_ok h
  · rfl
  · exact orderedIntents_updateOrders _ (OrderRow.transition_keys s at_ brokerOrderId pnl)

theorem orderedIntents_change (change : Change db db') :
    db'.orderedIntents = db.orderedIntents := by
  cases change with
  | move _ _ _ _ _ moved => exact orderedIntents_transitionOrder moved
  | claim _ _ _ _ moved =>
    have same := orderedIntents_transitionOrder moved
    exact same
  | close _ _ _ _ _ _ _ _ _ _ moved =>
    have same := orderedIntents_transitionOrder moved
    exact same
  | note => exact orderedIntents_updateOrders _ _
  | settleDigit _ _ _ _ _ _ _ _ applied =>
    obtain ⟨row, rfl⟩ := applyDigitRuntimeSettlement_frame applied
    rfl
  | message | inbox | evidence | attempts | processed | digitRow => rfl

theorem rows_changes (changes : Changes db db') :
    db'.tradeIntents = db.tradeIntents ∧ db'.orderedIntents = db.orderedIntents := by
  induction changes with
  | refl => exact ⟨rfl, rfl⟩
  | tail _ change ih =>
    exact ⟨(tradeIntents_change change).trans ih.1, (orderedIntents_change change).trans ih.2⟩

end Keys

section Records
variable {db db' : Database} {id : String}

theorem events_change (change : Change db db') {e : EventRow}
    (member : e ∈ db.brokerOrderEvents.rows) :
    ∃ e' ∈ db'.brokerOrderEvents.rows, e'.event = e.event ∧ e'.orderId = e.orderId := by
  cases change with
  | inbox grows => exact grows e member
  | move _ _ _ _ _ moved =>
    rw [transitionOrder_frame moved]
    exact ⟨e, member, rfl, rfl⟩
  | claim _ _ _ _ moved =>
    rw [transitionOrder_frame moved]
    exact ⟨e, member, rfl, rfl⟩
  | close _ _ _ _ _ _ _ _ _ _ moved =>
    rw [transitionOrder_frame moved]
    exact ⟨e, member, rfl, rfl⟩
  | settleDigit _ _ _ _ _ _ _ _ applied =>
    obtain ⟨row, rfl⟩ := applyDigitRuntimeSettlement_frame applied
    exact ⟨e, member, rfl, rfl⟩
  | note | message | evidence | attempts | processed | digitRow => exact ⟨e, member, rfl, rfl⟩

theorem brokerEvent_writerStep (op : WriterOp) (known : db.brokerEvent id ≠ none) :
    (writerStep db op).brokerEvent id ≠ none := by
  refine Machine.transact_cases (fun db : Database => db.brokerEvent id ≠ none) known ?_
  intro _ next committed
  rcases op.creates_or_changes committed with created | changes
  · obtain ⟨_, _, _, _, _, _, _, persisted⟩ := created
    obtain ⟨-, -, -, -, frame⟩ := persist_inserts persisted
    rw [frame]
    exact known
  · apply Changes.invariant (fun db : Database => db.brokerEvent id ≠ none) _ known changes
    intro before after known change
    obtain ⟨e, found⟩ := Option.ne_none_iff_exists'.mp known
    obtain ⟨member, named⟩ := mem_of_lookup found
    obtain ⟨e', member', same, -⟩ := events_change change member
    intro missing
    apply lookup_eq_none_iff.mp missing e' member'
    rw [← named, EventRow.eventId, EventRow.eventId, same]

theorem evidence_change (change : Change db db')
    (present : (db.evidence id).isSome = true) : (db'.evidence id).isSome = true := by
  cases change with
  | evidence row inserted =>
    have lookup := lookup_insert inserted unique_evidenceRow_evidenceId id
    unfold Database.evidence at present ⊢
    rw [lookup]
    split
    · rfl
    · exact present
  | move _ _ _ _ _ moved =>
    rw [transitionOrder_frame moved]
    exact present
  | claim _ _ _ _ moved =>
    rw [transitionOrder_frame moved]
    exact present
  | close _ _ _ _ _ _ _ _ _ _ moved =>
    rw [transitionOrder_frame moved]
    exact present
  | settleDigit _ _ _ _ _ _ _ _ applied =>
    obtain ⟨row, rfl⟩ := applyDigitRuntimeSettlement_frame applied
    exact present
  | note | message | inbox | attempts | processed | digitRow => exact present

end Records

/-! ### Messages -/

inductive MessageStep (db : Database) : OutboxRow → OutboxRow → Prop
  | same (m : OutboxRow) : MessageStep db m m
  | claimed {m : OutboxRow} {o : OrderRow} (claimedAt : Instant) (pending : m.state = .pending)
      (ordered : db.order m.intentId = some o)
      (waiting : o.state = .outboxed ∨ o.state = .dispatching) :
      MessageStep db m (m.claim claimedAt)
  | done {m m' : OutboxRow} (same : m'.SameCommand m) (attempts : m'.attemptCount = m.attemptCount)
      (left : m'.state.isDone = true) : MessageStep db m m'

namespace MessageStep

theorem sameCommand {db : Database} {m m' : OutboxRow} (step : MessageStep db m m') :
    m'.SameCommand m := by
  cases step with
  | same | claimed => exact ⟨rfl, rfl, rfl, rfl⟩
  | done same => exact same

end MessageStep

section Messages
variable {db db' : Database} {f : OutboxRow → OutboxRow} {messageId : String} {m' m : OutboxRow}

theorem message_updateOutbox (p : OutboxRow → Bool)
    (keys : OutboxRow.SameKeys f) (messageId : String) :
    (db.updateOutbox p f keys).message messageId =
      (db.message messageId).map (Table.change p f) :=
  lookup_update (OutboxRow.keeps keys) (fun m => (keys m).1) messageId

theorem outbox_updateOutbox (p : OutboxRow → Bool)
    (keys : OutboxRow.SameKeys f) (intentId : String) :
    (db.updateOutbox p f keys).outbox intentId = (db.outbox intentId).map (Table.change p f) :=
  lookup_update (OutboxRow.keeps keys) (fun m => (keys m).2) intentId

theorem waiting_of_dispatching {intentId : String} {at_ : Instant}
    (h : db.transitionOrder intentId .dispatching at_ none none = .ok db') :
    ∃ o, db.order intentId = some o ∧ (o.state = .outboxed ∨ o.state = .dispatching) := by
  obtain ⟨o, found, ⟨same, -⟩ | ⟨-, allowed, -⟩⟩ := transitionOrder_eq_ok h
  · exact ⟨o, found, .inr same⟩
  · refine ⟨o, found, .inl ?_⟩
    cases state : o.state <;> rw [state] at allowed <;> first | rfl | simp
      [allowedTransitions] at allowed

theorem message_change (change : Change db db') (messageId : String) :
    Option.Rel (MessageStep db) (db.message messageId) (db'.message messageId) := by
  cases change with
  | move _ _ _ _ _ moved =>
    rw [transitionOrder_frame moved]
    exact rel_of_eq .same rfl
  | close _ _ _ _ _ _ _ _ _ _ moved =>
    rw [transitionOrder_frame moved]
    exact rel_of_eq .same rfl
  | claim message claimedAt found pending moved =>
    obtain ⟨o, ordered, waiting⟩ := waiting_of_dispatching moved
    have lookup : db'.message messageId = (db.message messageId).map (Table.change
        (fun m => m.messageId == message.messageId && m.state == .pending)
        fun m => m.claim claimedAt) := by
      rw [transitionOrder_frame moved]
      exact message_updateOutbox _ (OutboxRow.claim_keys claimedAt) messageId
    rw [lookup]
    cases here : db.message messageId with
    | none => exact .none
    | some m =>
      refine .some ?_
      unfold Table.change
      split
      · rename_i chosen
        simp only [Bool.and_eq_true, beq_iff_eq] at chosen
        have : m = message := by
          rw [← (mem_of_lookup here).2, chosen.1, found] at here
          exact (Option.some.inj here).symm
        subst this
        exact .claimed claimedAt pending ordered waiting
      · exact .same m
  | @message p f keys same attempts done =>
    rw [message_updateOutbox]
    cases db.message messageId with
    | none => exact .none
    | some m =>
      refine .some ?_
      unfold Table.change
      split
      · exact .done (same m) (attempts m) (done m)
      · exact .same m
  | settleDigit _ _ _ _ _ _ _ _ applied =>
    obtain ⟨row, rfl⟩ := applyDigitRuntimeSettlement_frame applied
    exact rel_of_eq .same rfl
  | note | inbox | evidence | attempts | processed | digitRow => exact rel_of_eq .same rfl

theorem message_sameCommand (changes : Changes db db') (found : db'.message messageId = some m') :
    ∃ m, db.message messageId = some m ∧ m'.messageId = m.messageId ∧ m'.intentId = m.intentId := by
  induction changes generalizing m' with
  | refl => exact ⟨m', found, rfl, rfl⟩
  | @tail middle _ _ change ih =>
    have step := message_change change messageId
    rw [found] at step
    generalize between : middle.message messageId = before at step
    cases step with
    | some step =>
      obtain ⟨m, there, sameId, sameIntent⟩ := ih between
      exact ⟨m, there, step.sameCommand.messageId.trans sameId,
        step.sameCommand.intentId.trans sameIntent⟩

theorem message_of_pending (changes : Changes db db')
    (found : db'.message messageId = some m) (pending : m.state = .pending) :
    db.message messageId = some m := by
  induction changes with
  | refl => exact found
  | @tail middle _ _ change ih =>
    have step := message_change change messageId
    rw [found] at step
    generalize between : middle.message messageId = before at step
    cases step with
    | some step =>
      cases step with
      | same => exact ih between
      | claimed => cases pending
      | done _ _ left =>
        rw [pending] at left
        cases left

theorem message_unique {id id' : String} (found : db.message id = some m)
    (found' : db.message id' = some m') (same : m.intentId = m'.intentId) : m = m' :=
  eq_of_mem (mem_of_lookup found).1 (mem_of_lookup found').1
    fun apart => apart.2 same

end Messages

end TradingLab

import TradingLab.Persistence.Decomposition

/-!
# The effect of an event

`apply_normalized_broker_event` changes nothing but the inbox, or moves exactly one order.
-/
namespace TradingLab

open Relational
open Database
open OrderRow

/-! ### Transitions, row by row -/

def OrderState.CanReach (s target : OrderState) : Prop :=
  s = target ∨ target ∈ allowedTransitions s

instance (s target : OrderState) : Decidable (s.CanReach target) :=
  inferInstanceAs (Decidable (_ ∨ _))

variable (o : OrderRow) (s : OrderState)

/-- The order after an accepted move; nothing is written when it is there already. -/
def OrderRow.reach (at_ : Instant) (brokerOrderId : Option String) (pnl : Option Int) : OrderRow :=
  if o.state = s then o else o.transition s at_ brokerOrderId pnl

theorem OrderRow.reach_keys (at_ : Instant) (brokerOrderId : Option String) (pnl : Option Int) :
    (o.reach s at_ brokerOrderId pnl).orderId = o.orderId ∧
      (o.reach s at_ brokerOrderId pnl).intentId = o.intentId := by
  unfold reach
  split <;> exact ⟨rfl, rfl⟩

@[simp] theorem OrderRow.reach_state (at_ : Instant) (brokerOrderId : Option String)
    (pnl : Option Int) : (o.reach s at_ brokerOrderId pnl).state = s := by
  unfold reach
  split
  · assumption
  · rfl

namespace Database

variable {db db' : Database} {intentId : String} {s : OrderState} {at_ : Instant}
  {brokerOrderId : Option String} {pnl : Option Int} {row : OrderRow}

theorem order_of_transitionOrder
    (h : db.transitionOrder intentId s at_ brokerOrderId pnl = .ok db') (j : String) :
    db'.order j = if j = intentId then (db.order j).map fun o => o.reach s at_ brokerOrderId pnl
      else db.order j := by
  obtain ⟨row, found, ⟨same, rfl⟩ | ⟨differs, -, rfl⟩⟩ := transitionOrder_eq_ok h
  · split
    · rename_i here
      rw [here, found, Option.map_some, reach, if_pos same]
    · rfl
  · rw [order_updateOrders_intent]
    split
    · rename_i here
      rw [here, found, Option.map_some, Option.map_some, reach, if_neg differs]
    · rfl

theorem transitionOrder_cases (found : db.order intentId = some row) :
    (row.state.CanReach s ∧ ∃ db', db.transitionOrder intentId s at_ brokerOrderId pnl = .ok db') ∨
      (¬ row.state.CanReach s ∧ db.transitionOrder intentId s at_ brokerOrderId pnl =
        .error (.invalidOrderTransition row.state s)) := by
  unfold transitionOrder OrderState.CanReach
  rw [found]
  simp only
  split
  · rename_i same
    exact .inl ⟨.inl same, db, rfl⟩
  · rename_i differs
    split
    · rename_i allowed
      exact .inl ⟨.inr allowed, _, rfl⟩
    · rename_i refused
      exact .inr ⟨fun can => can.elim differs refused, rfl⟩

theorem transitionOrder_of_canReach (at_ : Instant)
    (brokerOrderId : Option String) (pnl : Option Int)
    (found : db.order intentId = some row) (can : row.state.CanReach s) :
    ∃ db', db.transitionOrder intentId s at_ brokerOrderId pnl = .ok db' := by
  rcases transitionOrder_cases found with ⟨-, moved⟩ | ⟨cannot, -⟩
  · exact moved
  · exact absurd can cannot

theorem order_updateOrders_id {orderId : String}
    (found : db.order intentId = some row) (named : row.orderId = orderId)
    {f : OrderRow → OrderRow} (keys : OrderRow.SameKeys f) (j : String) :
    (db.updateOrders (fun o => o.orderId == orderId) f keys).order j =
      if j = intentId then some (f row) else db.order j := by
  rw [order_updateOrders]
  split
  · rename_i here
    rw [here, found, Option.map_some, Table.change_of_true]
    simpa using named
  · rename_i elsewhere
    cases other : db.order j with
    | none => rfl
    | some o =>
      rw [Option.map_some, Table.change_of_false]
      rw [beq_eq_false_iff_ne]
      intro same
      have here : db.orderById orderId = some row := named ▸ orderById_of_order found
      have there : db.orderById o.orderId = some o := orderById_of_order other
      rw [same, here] at there
      cases there
      exact elsewhere ((order_eq_some_iff.mp other).2.symm.trans (order_eq_some_iff.mp found).2)

theorem releaseIfTerminal_frame (db : Database) (target : OrderState) (intentId : String)
    (releasedAt : Instant) (reason : String) (evidence : Option String) :
    db.releaseIfTerminal target intentId releasedAt reason evidence = { db with
      riskReservations :=
        (db.releaseIfTerminal target intentId releasedAt reason evidence).riskReservations } := by
  unfold releaseIfTerminal
  split <;> rfl

theorem reconcileOutboxIf_frame (db : Database) (ambiguous : Bool) (intentId stateReason : String)
    (at_ : Instant) :
    db.reconcileOutboxIf ambiguous intentId stateReason at_ = { db with
      outboxMessages :=
        (db.reconcileOutboxIf ambiguous intentId stateReason at_).outboxMessages } := by
  unfold reconcileOutboxIf
  split <;> rfl

theorem outboxMessages_reconcileOutboxIf (same : db'.outboxMessages = db.outboxMessages)
    (ambiguous : Bool) (intentId stateReason : String) (at_ : Instant) :
    (db'.reconcileOutboxIf ambiguous intentId stateReason at_).outboxMessages =
      (db.reconcileOutboxIf ambiguous intentId stateReason at_).outboxMessages := by
  unfold reconcileOutboxIf
  split
  · simp only [reconcileOutbox, updateOutbox, same]
  · exact same

end Database

/-! ### Through RECONCILING to the target -/

def OrderRow.resolve (ambiguous : Bool) (at₁ : Instant) (target : OrderState) (at₂ : Instant)
    (brokerOrderId : Option String) (pnl : Option Int) : OrderRow :=
  (if ambiguous then o.reach .reconciling at₁ none none else o).reach target at₂ brokerOrderId pnl

theorem OrderRow.resolve_keys (ambiguous : Bool) (at₁ : Instant) (target : OrderState)
    (at₂ : Instant) (brokerOrderId : Option String) (pnl : Option Int) :
    (o.resolve ambiguous at₁ target at₂ brokerOrderId pnl).orderId = o.orderId ∧
      (o.resolve ambiguous at₁ target at₂ brokerOrderId pnl).intentId = o.intentId := by
  unfold resolve
  have outer := (if ambiguous then o.reach .reconciling at₁ none none else o).reach_keys target at₂
    brokerOrderId pnl
  have inner := o.reach_keys .reconciling at₁ none none
  cases ambiguous with
  | true => exact ⟨outer.1.trans inner.1, outer.2.trans inner.2⟩
  | false => exact outer

def CanResolve (ambiguous : Bool) (target : OrderState) : Prop :=
  if ambiguous then s.CanReach .reconciling ∧ OrderState.reconciling.CanReach target
  else s.CanReach target

instance (s : OrderState) (ambiguous : Bool) (target : OrderState) :
    Decidable (CanResolve s ambiguous target) := by
  unfold CanResolve
  infer_instance

namespace Database

variable {db entered moved : Database} {row : OrderRow} {ambiguous : Bool} {target : OrderState}
  {at₁ at₂ : Instant} {brokerOrderId : Option String} {pnl : Option Int}

theorem order_of_resolve (found : db.order row.intentId = some row)
    (enters : db.enterReconciling row ambiguous at₁ = .ok entered)
    (moves : entered.transitionUnless (if ambiguous then .reconciling else row.state) row.intentId
      target at₂ brokerOrderId pnl = .ok moved) (j : String) :
    moved.order j = if j = row.intentId then
      some (row.resolve ambiguous at₁ target at₂ brokerOrderId pnl) else db.order j := by
  cases ambiguous with
  | true =>
    have enters : db.transitionOrder row.intentId .reconciling at₁ none none = .ok entered := enters
    obtain ⟨o, here, state, -⟩ := order_transitionOrder found enters
    have moves := transitionOrder_of_transitionUnless here state moves
    rw [order_of_transitionOrder moves, order_of_transitionOrder enters]
    split
    · rename_i same
      rw [same, found]
      rfl
    · rfl
  | false =>
    cases enters
    have moves := transitionOrder_of_transitionUnless found rfl moves
    rw [order_of_transitionOrder moves]
    split
    · rename_i same
      rw [same, found]
      rfl
    · rfl

theorem transitionUnless_frame {current : OrderState} {intentId : String} {at_ : Instant}
    (moves : db.transitionUnless current intentId target at_ brokerOrderId pnl = .ok moved) :
    moved = { db with orders := moved.orders } := by
  unfold transitionUnless at moves
  split at moves
  · cases moves
    rfl
  · exact transitionOrder_frame moves

theorem frame_of_resolve (enters : db.enterReconciling row ambiguous at₁ = .ok entered)
    (moves : entered.transitionUnless (if ambiguous then .reconciling else row.state) row.intentId
      target at₂ brokerOrderId pnl = .ok moved) : moved = { db with orders := moved.orders } := by
  have second := transitionUnless_frame moves
  have first : entered = { db with orders := entered.orders } := by
    unfold enterReconciling at enters
    split at enters
    · exact transitionOrder_frame enters
    · cases enters
      rfl
  rw [second, first]

theorem resolve_of_canResolve (at₁ at₂ : Instant) (brokerOrderId : Option String) (pnl : Option Int)
    (found : db.order row.intentId = some row) (can : CanResolve row.state ambiguous target) :
    ∃ entered moved, db.enterReconciling row ambiguous at₁ = .ok entered ∧
      entered.transitionUnless (if ambiguous then .reconciling else row.state) row.intentId
        target at₂ brokerOrderId pnl = .ok moved := by
  have reaches : ∀ {db : Database} {o : OrderRow}, db.order row.intentId = some o →
      o.state.CanReach target → ∃ moved,
        db.transitionUnless o.state row.intentId target at₂ brokerOrderId pnl = .ok moved := by
    intro db o here can
    unfold transitionUnless
    split
    · exact ⟨db, rfl⟩
    · exact transitionOrder_of_canReach at₂ brokerOrderId pnl here can
  cases ambiguous with
  | true =>
    obtain ⟨entered, enters⟩ := transitionOrder_of_canReach at₁ none none found can.1
    obtain ⟨o, here, state, -⟩ := order_transitionOrder found enters
    obtain ⟨moved, moves⟩ := reaches here (by rw [state]; exact can.2)
    exact ⟨entered, moved, enters, by rw [state] at moves; exact moves⟩
  | false =>
    obtain ⟨moved, moves⟩ := reaches found can
    exact ⟨db, moved, rfl, moves⟩

end Database

/-! ### `applyInSequence` -/

theorem canResolve_of_isAmbiguous {s target : OrderState} {status : ExternalOrderStatus}
    (ambiguous : s.isAmbiguous = true) (named : orderStateForExternalStatus status = some target) :
    CanResolve s s.isAmbiguous target := by
  rw [CanResolve, if_pos ambiguous]
  constructor
  · cases s <;> first | (cases ambiguous; done) | decide
  · cases status <;> cases named <;> decide

def appliedStatus (row : OrderRow) (event : BrokerOrderEvent) : BrokerEventApplyStatus :=
  if hasSequenceGap row event then .appliedWithGap else .applied

def appliedReason (row : OrderRow) (event : BrokerOrderEvent) : Option String :=
  if hasSequenceGap row event then some "ORDER_EVENT_SEQUENCE_GAP" else none

def OrderRow.afterEvent (row : OrderRow) (event : BrokerOrderEvent) (target : OrderState)
    (receivedAt : Instant) : OrderRow :=
  (row.resolve row.state.isAmbiguous event.observedAt target event.occurredAt
    (some event.brokerOrderId) event.resultMinor).noteEvent event row.state.isAmbiguous receivedAt

@[simp] theorem OrderRow.afterEvent_state (row : OrderRow) (event : BrokerOrderEvent)
    (target : OrderState) (receivedAt : Instant) :
    (row.afterEvent event target receivedAt).state = target :=
  reach_state _ target event.occurredAt (some event.brokerOrderId) event.resultMinor

/-- The database after an event in sequence, up to the digit settlement. -/
structure EventMoved (db moved : Database) (event : BrokerOrderEvent) (row : OrderRow)
    (target : OrderState) (receivedAt : Instant) : Prop where
  order : ∀ j, moved.order j =
    if j = row.intentId then some (row.afterEvent event target receivedAt) else db.order j
  outbox : moved.outboxMessages = (db.reconcileOutboxIf row.state.isAmbiguous row.intentId
    ("RECONCILED_EVENT_" ++ event.externalStatus.value) receivedAt).outboxMessages
  recorded : db.brokerOrderEvents.insert ⟨event, some row.orderId, appliedStatus row event,
    appliedReason row event, 0, none, receivedAt⟩ = some moved.brokerOrderEvents
  intents : moved.tradeIntents = db.tradeIntents
  evidence : moved.reconciliationEvidence = db.reconciliationEvidence
  attempts : moved.reconciliationAttempts = db.reconciliationAttempts
  digit : moved.digitRiskRuntime = db.digitRiskRuntime

section Events
variable {db db' : Database} {event : BrokerOrderEvent} {row : OrderRow} {target : OrderState}
  {result : BrokerEventApplyResult} {ti : IntentRow} {receivedAt : Instant}

theorem insert_of_fresh (fresh : db.brokerEvent event.eventId = none)
    {e : EventRow} (same : e.event = event) :
    ∃ events, db.brokerOrderEvents.insert e = some events := by
  have free : ∀ r ∈ db.brokerOrderEvents.rows, Distinct r e := by
    intro r member clash
    refine Table.lookup_eq_none_iff.mp fresh r member (clash.trans ?_)
    rw [EventRow.eventId, same]
  exact ⟨_, dif_pos free⟩

theorem applyInSequence_of_canResolve (receivedAt : Instant)
    (found : db.order row.intentId = some row) (fresh : db.brokerEvent event.eventId = none)
    (can : CanResolve row.state row.state.isAmbiguous target) :
    ∃ moved, EventMoved db moved event row target receivedAt ∧
      db.applyInSequence event row target receivedAt =
        (moved.settleDigitEvent event row.orderId target).map fun next =>
          (⟨appliedStatus row event, some target, appliedReason row event⟩, next) := by
  obtain ⟨events, recorded⟩ := insert_of_fresh fresh
    (e := ⟨event, some row.orderId, appliedStatus row event, appliedReason row event, 0, none,
      receivedAt⟩) rfl
  have found' : ({ db with brokerOrderEvents := events } : Database).order row.intentId =
    some row := found
  obtain ⟨entered, reached, enters, moves⟩ := resolve_of_canResolve event.observedAt
    event.occurredAt (some event.brokerOrderId) event.resultMinor found' can
  have inserts : db.insertBrokerOrderEvent event (some row.orderId) (appliedStatus row event)
      (appliedReason row event) receivedAt = .ok { db with brokerOrderEvents := events } := by
    rw [insertBrokerOrderEvent, recorded]
    rfl
  unfold appliedStatus appliedReason at inserts
  have frame := frame_of_resolve enters moves
  have order := order_of_resolve found' enters moves
  refine ⟨((reached.updateOrders (fun o => o.orderId == row.orderId)
      (fun o => o.noteEvent event row.state.isAmbiguous receivedAt)
      (noteEvent_keys event row.state.isAmbiguous receivedAt)).reconcileOutboxIf
        row.state.isAmbiguous row.intentId ("RECONCILED_EVENT_" ++ event.externalStatus.value)
        receivedAt).releaseIfTerminal target row.intentId event.occurredAt
        ("BROKER_EVENT_" ++ target.value) (some event.eventId), ?_, ?_⟩
  · rw [releaseIfTerminal_frame, reconcileOutboxIf_frame]
    have here := (order row.intentId).trans (if_pos rfl)
    constructor
    case order =>
      intro j
      refine (order_updateOrders_id here (row.resolve_keys _ _ _ _ _ _).1
        (noteEvent_keys event row.state.isAmbiguous receivedAt) j).trans ?_
      split
      · rfl
      · rename_i elsewhere
        rw [order j, if_neg elsewhere]
        rfl
    case outbox =>
      refine outboxMessages_reconcileOutboxIf ?_ _ _ _ _
      rw [frame]
      rfl
    case recorded =>
      rw [recorded, frame]
      rfl
    all_goals
      rw [frame]
      rfl
  · simp only [applyInSequence, inserts, Except.ok_bind, enters, moves,
      finishEvent]
    generalize settleDigitEvent _ event row.orderId target = settled
    cases settled <;> rfl

theorem terminalBrokerEventResult_status
    (h : terminalBrokerEventResult row event target = some result) :
    result.status = .lateIgnored ∨ result.status = .conflict := by
  unfold terminalBrokerEventResult at h
  repeat' split at h
  all_goals cases h
  · exact .inr rfl
  · exact .inl rfl
  · exact .inl rfl
  · exact .inr rfl

theorem classifyEvent_status (h : db.classifyEvent event row ti = .ok (.inl result)) :
    result.status = .lateIgnored ∨ result.status = .conflict := by
  unfold classifyEvent at h
  split at h
  · cases h
    exact .inr rfl
  split at h
  · cases h
    exact .inr rfl
  split at h
  · cases h
  split at h
  · rename_i terminal
    cases h
    exact terminalBrokerEventResult_status terminal
  split at h <;> cases h
  exact .inl rfl

def InboxOnly (db db' : Database) : Prop :=
  db' = { db with brokerOrderEvents := db'.brokerOrderEvents }

theorem applyInSequence_refused (found : db.order row.intentId = some row)
    (named : orderStateForExternalStatus event.externalStatus = some target)
    (cannot : ¬ CanResolve row.state row.state.isAmbiguous target)
    (h : db.applyInSequence event row target receivedAt = .ok (result, db')) :
    ∃ recorded, db.insertBrokerOrderEvent event (some row.orderId) (appliedStatus row event)
        (appliedReason row event) receivedAt = .ok recorded ∧
      db' = recorded.updateEvent event.eventId (fun e => { e with
          processingResult := .conflict
          reasonCode := some "BROKER_EVENT_STATE_CONFLICT" })
        (fun _ => rfl) ∧
      result = ⟨.conflict, some row.state, some "BROKER_EVENT_STATE_CONFLICT"⟩ := by
  have certain : row.state.isAmbiguous = false := by
    by_contra ambiguous
    rw [Bool.not_eq_false] at ambiguous
    exact cannot (canResolve_of_isAmbiguous ambiguous named)
  have stuck : ¬ row.state.CanReach target := by
    simpa [CanResolve, certain] using cannot
  simp only [applyInSequence, Except.bind_ok_iff] at h
  obtain ⟨recorded, inserts, entered, enters, h⟩ := h
  obtain ⟨-, -, frame⟩ := insertBrokerOrderEvent_spec inserts
  simp only [certain, Database.enterReconciling, Bool.false_eq_true, if_false] at enters h
  cases enters
  have found' : recorded.order row.intentId = some row := by
    rw [frame]
    exact found
  have refused : recorded.transitionUnless row.state row.intentId target event.occurredAt
      (some event.brokerOrderId) event.resultMinor =
      .error (.invalidOrderTransition row.state target) := by
    rw [Database.transitionUnless, if_neg fun same => stuck (.inl same)]
    rcases transitionOrder_cases found' with ⟨can, -⟩ | ⟨-, refused⟩
    · exact absurd can stuck
    · exact refused
  rw [refused] at h
  cases h
  exact ⟨recorded, inserts, rfl, rfl⟩

theorem settleDigitEvent_frame {orderId : String}
    (h : db.settleDigitEvent event orderId target = .ok db') :
    ∃ row, db' = { db with digitRiskRuntime := row } := by
  unfold settleDigitEvent at h
  split at h
  · split at h
    · exact applyDigitRuntimeSettlement_frame h
    · cases h
      exact ⟨_, rfl⟩
  · cases h
    exact ⟨_, rfl⟩

theorem EventMoved.inserts {moved : Database} (effect : EventMoved db moved event row target
    receivedAt) : db.insertBrokerOrderEvent event (some row.orderId) (appliedStatus row event)
      (appliedReason row event) receivedAt =
      .ok { db with brokerOrderEvents := moved.brokerOrderEvents } := by
  rw [insertBrokerOrderEvent, effect.recorded]
  rfl

inductive EventPath (db : Database) (event : BrokerOrderEvent) (receivedAt : Instant) :
    BrokerEventApplyResult → Database → Prop
  | replayed {recorded : EventRow} {result : BrokerEventApplyResult} {db' : Database}
      (answer : db.replayEvent recorded event = (result, db')) :
      EventPath db event receivedAt result db'
  | recorded {orderId : Option String} {result : BrokerEventApplyResult} {db' : Database}
      (reason : result = ⟨.conflict, none, some "BROKER_EVENT_CLIENT_REFERENCE_MISMATCH"⟩ ∨
        ∃ row ti, db.orderById event.clientOrderRef = some row ∧
          db.classifyEvent event row ti = .ok (.inl result))
      (inserts : db.insertBrokerOrderEvent event orderId result.status result.reasonCode
        receivedAt = .ok db') : EventPath db event receivedAt result db'
  | refused {row : OrderRow} {noted : Database}
      (inserts : db.insertBrokerOrderEvent event (some row.orderId) (appliedStatus row event)
        (appliedReason row event) receivedAt = .ok noted) :
      EventPath db event receivedAt
        ⟨.conflict, some row.state, some "BROKER_EVENT_STATE_CONFLICT"⟩
        (noted.updateEvent event.eventId (fun e => { e with
          processingResult := .conflict
          reasonCode := some "BROKER_EVENT_STATE_CONFLICT" }) fun _ => rfl)
  | applied {row : OrderRow} {ti : IntentRow} {target : OrderState} {moved db' : Database}
      (fresh : db.brokerEvent event.eventId = none)
      (byId : db.orderById event.clientOrderRef = some row)
      (intent : db.intent row.intentId = some ti)
      (classified : db.classifyEvent event row ti = .ok (.inr target))
      (can : CanResolve row.state row.state.isAmbiguous target)
      (effect : EventMoved db moved event row target receivedAt)
      (settled : moved.settleDigitEvent event row.orderId target = .ok db') :
      EventPath db event receivedAt
        ⟨appliedStatus row event, some target, appliedReason row event⟩ db'

theorem applyNormalizedBrokerEvent_path
    (h : applyNormalizedBrokerEvent event receivedAt db = .ok (result, db')) :
    EventPath db event receivedAt result db' := by
  unfold applyNormalizedBrokerEvent at h
  split at h
  · exact .replayed (Except.ok.inj h)
  rename_i fresh
  split at h
  · obtain ⟨inserts, rfl⟩ := recordOnly_eq_ok.mp h
    exact .recorded (.inl rfl) inserts
  rename_i row ti joined
  obtain ⟨byId, intent⟩ := orderWithIntent_spec joined
  have found := order_of_orderById byId
  simp only [Except.bind_ok_iff] at h
  obtain ⟨verdict, classified, h⟩ := h
  split at h
  · obtain ⟨inserts, rfl⟩ := recordOnly_eq_ok.mp h
    exact .recorded (.inr ⟨row, ti, byId, classified⟩) inserts
  rename_i target
  by_cases can : CanResolve row.state row.state.isAmbiguous target
  · obtain ⟨moved, effect, applied⟩ := applyInSequence_of_canResolve receivedAt found fresh can
    rw [applied] at h
    cases settled : moved.settleDigitEvent event row.orderId target with
    | error e =>
      rw [settled] at h
      cases h
    | ok next =>
      rw [settled] at h
      cases h
      exact .applied fresh byId intent classified can effect settled
  · obtain ⟨noted, inserts, rfl, rfl⟩ :=
      applyInSequence_refused found (classifyEvent_target classified).1 can h
    exact .refused inserts

/-- **What an event does**: nothing but record itself, or move its order to the state it
    names and settle the digit row. -/
theorem applyNormalizedBrokerEvent_cases
    (h : applyNormalizedBrokerEvent event receivedAt db = .ok (result, db')) :
    (InboxOnly db db' ∧
      (result.status = .duplicate ∨ result.status = .lateIgnored ∨ result.status = .conflict)) ∨
    ∃ row ti target moved, db.brokerEvent event.eventId = none ∧
      db.orderById event.clientOrderRef = some row ∧ db.intent row.intentId = some ti ∧
      db.classifyEvent event row ti = .ok (.inr target) ∧
      CanResolve row.state row.state.isAmbiguous target ∧
      EventMoved db moved event row target receivedAt ∧
      moved.settleDigitEvent event row.orderId target = .ok db' ∧
      result = ⟨appliedStatus row event, some target, appliedReason row event⟩ := by
  cases applyNormalizedBrokerEvent_path h with
  | replayed answer =>
    unfold replayEvent at answer
    split at answer <;> cases answer
    · exact .inl ⟨rfl, .inl rfl⟩
    · exact .inl ⟨rfl, .inr (.inr rfl)⟩
  | recorded reason inserts =>
    refine .inl ⟨(insertBrokerOrderEvent_spec inserts).2.2, .inr ?_⟩
    rcases reason with rfl | ⟨row, ti, -, classified⟩
    · exact .inr rfl
    · exact classifyEvent_status classified
  | refused inserts =>
    refine .inl ⟨?_, .inr (.inr rfl)⟩
    rw [(insertBrokerOrderEvent_spec inserts).2.2]
    rfl
  | applied fresh byId intent classified can effect settled =>
    exact .inr ⟨_, _, _, _, fresh, byId, intent, classified, can, effect, settled, rfl⟩

theorem applyNormalizedBrokerEvent_of_answer {answer : BrokerEventApplyResult}
    (receivedAt : Instant) (fresh : db.brokerEvent event.eventId = none)
    (byId : db.orderById event.clientOrderRef = some row)
    (intent : db.intent row.intentId = some ti)
    (classified : db.classifyEvent event row ti = .ok (.inl answer)) :
    ∃ events, db.brokerOrderEvents.insert ⟨event, some row.orderId, answer.status,
        answer.reasonCode, 0, none, receivedAt⟩ = some events ∧
      applyNormalizedBrokerEvent event receivedAt db =
        .ok (answer, { db with brokerOrderEvents := events }) := by
  obtain ⟨events, recorded⟩ := insert_of_fresh fresh
    (e := ⟨event, some row.orderId, answer.status, answer.reasonCode, 0, none, receivedAt⟩) rfl
  have joined : db.orderWithIntent event.clientOrderRef = some (row, ti) := by
    simp only [orderWithIntent, byId, intent, Option.map_some]
  refine ⟨events, recorded, ?_⟩
  simp only [applyNormalizedBrokerEvent, fresh, joined, classified, Except.ok_bind,
    recordOnly, insertBrokerOrderEvent, recorded]
  rfl

theorem applyNormalizedBrokerEvent_of_target (receivedAt : Instant)
    (fresh : db.brokerEvent event.eventId = none)
    (byId : db.orderById event.clientOrderRef = some row)
    (intent : db.intent row.intentId = some ti)
    (classified : db.classifyEvent event row ti = .ok (.inr target))
    (can : CanResolve row.state row.state.isAmbiguous target) :
    ∃ moved, EventMoved db moved event row target receivedAt ∧
      applyNormalizedBrokerEvent event receivedAt db =
        (moved.settleDigitEvent event row.orderId target).map fun next =>
          (⟨appliedStatus row event, some target, appliedReason row event⟩, next) := by
  obtain ⟨moved, effect, applied⟩ := applyInSequence_of_canResolve receivedAt
    (order_of_orderById byId) fresh can
  have joined : db.orderWithIntent event.clientOrderRef = some (row, ti) := by
    simp only [orderWithIntent, byId, intent, Option.map_some]
  refine ⟨moved, effect, ?_⟩
  simp only [applyNormalizedBrokerEvent, fresh, joined, classified, Except.ok_bind, applied]

theorem applyNormalizedBrokerEvent_of_duplicate {recorded : EventRow}
    (receivedAt : Instant) (found : db.brokerEvent event.eventId = some recorded)
    (same : recorded.event = event) :
    applyNormalizedBrokerEvent event receivedAt db =
      .ok (⟨.duplicate, db.orderStateById recorded.orderId, none⟩, db) := by
  simp only [applyNormalizedBrokerEvent, found, replayEvent, same, if_true]

end Events

@[irreducible] def settleDigitRow (product symbol : String) (pnlMinor : Int)
    (orderId settlementId : String)
    (occurredAt : Instant) (row : Option DigitRiskRuntime) : Option DigitRiskRuntime :=
  if isDigitProduct product then
    row.map fun runtime => runtime.settle symbol pnlMinor orderId settlementId occurredAt
  else row

theorem applyDigitRuntimeSettlement_of_configured {db : Database}
    {product currency orderId : String}
    (configured : isDigitProduct product = true → ∃ runtime, db.digitRiskRuntime = some runtime ∧
      runtime.currency = currency ∧ runtime.lastOrderId ≠ some orderId)
    (symbol : String) (pnlMinor : Int) (settlementId : String) (occurredAt : Instant) :
    db.applyDigitRuntimeSettlement product symbol currency pnlMinor orderId settlementId
      occurredAt = .ok { db with
        digitRiskRuntime := settleDigitRow product symbol pnlMinor orderId settlementId occurredAt
          db.digitRiskRuntime } := by
  unfold applyDigitRuntimeSettlement settleDigitRow
  by_cases digit : isDigitProduct product = true
  · obtain ⟨runtime, present, sameCurrency, unseen⟩ := configured digit
    simp only [digit, if_true, present, sameCurrency, if_neg unseen, Option.map_some]
  · rw [if_neg digit, if_neg digit]

theorem firstMismatch_eq_none {checks : List (Bool × String)} :
    firstMismatch checks = none ↔ ∀ check ∈ checks, check.1 = true := by
  induction checks with
  | nil => simp [firstMismatch]
  | cons check rest ih =>
    obtain ⟨same, reason⟩ := check
    cases same <;> simp [firstMismatch, ih]

theorem brokerEventMatchingConflict_eq_none {row : OrderRow} {ti : IntentRow}
    {event : BrokerOrderEvent} :
    brokerEventMatchingConflict row ti event = none ↔
      (event.broker = row.broker ∧ event.accountId = row.accountId ∧
        event.correlationId = row.correlationId) ∧
      (event.product = ti.product ∧ event.symbol = ti.symbol ∧ event.direction = ti.direction ∧
        event.amount.minorUnits = ti.amount.minorUnits ∧
        event.amount.currency = ti.amount.currency) ∧
      (∀ id ∈ row.brokerOrderId, id = event.brokerOrderId) ∧
      ∀ currency ∈ event.resultCurrency, currency = ti.amount.currency := by
  simp only [brokerEventMatchingConflict, firstMismatch_eq_none]
  cases row.brokerOrderId <;> cases event.resultCurrency <;> simp [and_assoc]

end TradingLab

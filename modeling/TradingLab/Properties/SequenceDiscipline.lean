import TradingLab.Properties.Delivery

/-!
# The sequence numbers of the event inbox

Of what the inbox applies it keeps the greatest number on the order and records whether one was
skipped. The other operations are interleaved freely: they do not touch what the statement is about
(`WriterOp.sequenceView_eq`).
-/
namespace TradingLab

open Relational
open Database
open EventRow Relational.Table

def BrokerEventApplyStatus.isApplied (status : BrokerEventApplyStatus) : Bool :=
  status == .applied || status == .appliedWithGap

namespace Database

/-- The events of an order that are recorded APPLIED or APPLIED_WITH_GAP. -/
def appliedEvents (db : Database) (orderId : String) : List EventRow :=
  db.brokerOrderEvents.rows.filter fun e =>
    e.orderId == some orderId && e.processingResult.isApplied

def appliedSequences (db : Database) (orderId : String) : List Int :=
  (db.appliedEvents orderId).filterMap fun e => e.event.externalSequence

structure Disciplined (db : Database) : Prop where
  latest : ∀ o ∈ db.orders.rows, o.lastExternalSequence = (db.appliedSequences o.orderId).max?
  distinct : ∀ orderId, (db.appliedSequences orderId).Nodup
  owned : ∀ e ∈ db.brokerOrderEvents.rows, e.processingResult.isApplied = true →
    ∃ o ∈ db.orders.rows, e.orderId = some o.orderId

/-- No sequence number of the first database has fallen in the second. -/
def SequencesRise (db db' : Database) : Prop :=
  ∀ o ∈ db.orders.rows, ∃ o' ∈ db'.orders.rows, o'.orderId = o.orderId ∧
    ∀ n, o.lastExternalSequence = some n → ∃ n', o'.lastExternalSequence = some n' ∧ n ≤ n'

/-- No event has been recorded, and no order has a sequence number. -/
def Unsequenced (db : Database) : Prop :=
  db.brokerOrderEvents.rows = [] ∧ ∀ o ∈ db.orders.rows, o.lastExternalSequence = none

end Database

/-- The successor of the greatest sequence number so far; the first is 1. -/
def nextSequence : Option Int → Int
  | none => 1
  | some previous => previous + 1

/-- What a call that commits records about the sequence of the order. -/
def GapRecorded (db db' : Database) (event : BrokerOrderEvent) (result : BrokerEventApplyResult) :
    Prop :=
  ∃ row recorded, db.orderById event.clientOrderRef = some row ∧
    db'.brokerEvent event.eventId = some recorded ∧ recorded.event = event ∧
    recorded.orderId = some row.orderId ∧ recorded.processingResult = result.status ∧
    (recorded.processingResult = .appliedWithGap ↔ ∃ n, event.externalSequence = some n ∧
      n ≠ nextSequence (db.appliedSequences row.orderId).max?)

def SameExposure (db db' : Database) : Prop :=
  db'.orders = db.orders ∧ db'.riskReservations = db.riskReservations ∧
    db'.outboxMessages = db.outboxMessages ∧ db'.digitRiskRuntime = db.digitRiskRuntime

/-! ### What the inbox marks as applied -/

def EventRow.mark (e : EventRow) : Option (Option String × Option Int) :=
  if e.processingResult.isApplied then some (e.orderId, e.event.externalSequence) else none

def Database.marks (db : Database) : List (Option String × Option Int) :=
  db.brokerOrderEvents.rows.filterMap mark

def sequencesOf (marks : List (Option String × Option Int)) (orderId : String) : List Int :=
  (marks.filter fun m => m.1 == some orderId).filterMap Prod.snd

theorem sequencesOf_append (marks more : List (Option String × Option Int)) (orderId : String) :
    sequencesOf (marks ++ more) orderId = sequencesOf marks orderId ++ sequencesOf more
      orderId := by
  simp only [sequencesOf, List.filter_append, List.filterMap_append]

namespace Database

variable {db db' : Database}

theorem appliedSequences_eq (db : Database) (orderId : String) :
    db.appliedSequences orderId = sequencesOf db.marks orderId := by
  unfold appliedSequences appliedEvents marks sequencesOf
  induction db.brokerOrderEvents.rows with
  | nil => rfl
  | cons e rest ih =>
    cases applied : e.processingResult.isApplied <;>
      cases own : e.orderId == some orderId <;>
      simp [mark, applied, own, List.filterMap_cons, ih]

theorem mem_marks {m : Option String × Option Int} :
    m ∈ db.marks ↔ ∃ e ∈ db.brokerOrderEvents.rows, e.processingResult.isApplied = true ∧
      (e.orderId, e.event.externalSequence) = m := by
  simp only [marks, List.mem_filterMap, mark, Option.ite_none_right_eq_some,
    Option.some.injEq]

theorem Disciplined.of_marks (disciplined : db.Disciplined) (marks : db'.marks = db.marks)
    (orders : db'.sequenceView.2 = db.sequenceView.2) : db'.Disciplined := by
  have sequences : ∀ orderId, db'.appliedSequences orderId = db.appliedSequences orderId := by
    intro orderId
    rw [appliedSequences_eq, appliedSequences_eq, marks]
  have pair : ∀ {o : OrderRow}, o ∈ db'.orders.rows → ∃ o' ∈ db.orders.rows,
      o'.orderId = o.orderId ∧ o'.lastExternalSequence = o.lastExternalSequence := by
    intro o member
    have viewed : (o.orderId, o.lastExternalSequence) ∈ db'.sequenceView.2 :=
      List.mem_map_of_mem member
    rw [orders] at viewed
    obtain ⟨o', member', same⟩ := List.mem_map.mp viewed
    exact ⟨o', member', Prod.mk.inj same⟩
  constructor
  case latest =>
    intro o member
    obtain ⟨o', member', id, number⟩ := pair member
    rw [sequences, ← id, ← number]
    exact disciplined.latest o' member'
  case distinct =>
    intro orderId
    rw [sequences]
    exact disciplined.distinct orderId
  case owned =>
    intro e member applied
    have marked := mem_marks.mpr ⟨e, member, applied, rfl⟩
    rw [marks] at marked
    obtain ⟨e', member', applied', same⟩ := mem_marks.mp marked
    obtain ⟨o, here, named⟩ := disciplined.owned e' member' applied'
    have viewed : (o.orderId, o.lastExternalSequence) ∈ db.sequenceView.2 :=
      List.mem_map_of_mem here
    rw [← orders] at viewed
    obtain ⟨o', here', same'⟩ := List.mem_map.mp viewed
    exact ⟨o', here', by rw [← (Prod.mk.inj same).1, named, (Prod.mk.inj same').1]⟩

theorem SequencesRise.of_view (orders : db'.sequenceView.2 = db.sequenceView.2) :
    db.SequencesRise db' := by
  intro o member
  have viewed : (o.orderId, o.lastExternalSequence) ∈ db.sequenceView.2 :=
    List.mem_map_of_mem member
  rw [← orders] at viewed
  obtain ⟨o', member', same⟩ := List.mem_map.mp viewed
  obtain ⟨id, number⟩ := Prod.mk.inj same
  exact ⟨o', member', id, fun n here => ⟨n, number.trans here, Int.le_refl n⟩⟩

end Database

/-! ### An event that is not applied -/

section Unapplied
variable {db db' : Database} {event : BrokerOrderEvent} {orderId reasonCode : Option String}
  {status : BrokerEventApplyStatus} {createdAt receivedAt : Instant} {f : EventRow → EventRow}
  {result : BrokerEventApplyResult}

theorem marks_insertBrokerOrderEvent
    (h : db.insertBrokerOrderEvent event orderId status reasonCode createdAt = .ok db') :
    db'.marks = db.marks ++
      if status.isApplied then [(orderId, event.externalSequence)] else [] := by
  simp only [insertBrokerOrderEvent, Except.bind_ok_iff, orIntegrityError_eq_ok] at h
  obtain ⟨events, inserted, h⟩ := h
  cases h
  simp only [Database.marks, (insert_eq_some_iff.mp inserted).2, List.filterMap_append,
    List.filterMap_cons, List.filterMap_nil, mark]
  cases status.isApplied <;> rfl

theorem marks_updateEvent {eventId : String} {same : ∀ e, (f e).event = e.event}
    (kept : ∀ e ∈ db.brokerOrderEvents.rows, e.eventId = eventId → (f e).mark = e.mark) :
    (db.updateEvent eventId f same).marks = db.marks := by
  simp only [Database.marks, updateEvent, rows_update, List.filterMap_map]
  refine List.filterMap_congr fun e member => ?_
  by_cases named : e.eventId = eventId
  · rw [Function.comp_apply, change_of_true (by simpa using named), kept e member named]
  · rw [Function.comp_apply, change_of_false (by simpa using named)]

theorem marks_refused {same : ∀ e, (f e).event = e.event}
    (conflict : ∀ e, (f e).processingResult = .conflict)
    (h : db.insertBrokerOrderEvent event orderId status reasonCode createdAt = .ok db') :
    (db'.updateEvent event.eventId f same).marks = db.marks := by
  simp only [insertBrokerOrderEvent, Except.bind_ok_iff, orIntegrityError_eq_ok] at h
  obtain ⟨events, inserted, h⟩ := h
  cases h
  obtain ⟨free, rows⟩ := insert_eq_some_iff.mp inserted
  simp only [Database.marks, updateEvent, rows_update, rows, List.map_append,
    List.filterMap_append, List.filterMap_map]
  have own : mark (change (fun e => e.eventId == event.eventId) f
      ⟨event, orderId, status, reasonCode, 0, none, createdAt⟩) = none := by
    rw [change_of_true (by simp [EventRow.eventId]), mark, conflict]
    rfl
  have others : ∀ e ∈ db.brokerOrderEvents.rows,
      (mark ∘ change (fun e => e.eventId == event.eventId) f) e = e.mark := by
    intro e member
    have differs : e.eventId ≠ event.eventId := free e member
    rw [Function.comp_apply, change_of_false (by simpa using differs)]
  rw [List.filterMap_congr others]
  simp [own]

theorem isApplied_appliedStatus (row : OrderRow) (event : BrokerOrderEvent) :
    (appliedStatus row event).isApplied = true := by
  unfold appliedStatus
  split <;> rfl

/-- **An event that is answered without being applied marks nothing.** -/
theorem marks_of_unapplied (idle : result.status.isApplied = false)
    (h : applyNormalizedBrokerEvent event receivedAt db = .ok (result, db')) :
    db'.marks = db.marks := by
  cases applyNormalizedBrokerEvent_path h with
  | replayed answer =>
    unfold replayEvent at answer
    split at answer <;> cases answer
    · rfl
    · exact marks_updateEvent fun _ _ _ => rfl
  | recorded reason inserts =>
    rw [marks_insertBrokerOrderEvent inserts, idle]
    exact List.append_nil _
  | refused inserts => exact marks_refused (fun _ => rfl) inserts
  | applied =>
    rw [isApplied_appliedStatus] at idle
    cases idle

end Unapplied

/-! ### An event in sequence -/

variable {n : Int}

theorem BrokerOrderEvent.externalSequence_pos (e : BrokerOrderEvent)
    (given : e.externalSequence = some n) : 0 < n := by
  have valid := e.valid
  simp only [BrokerOrderEventFields.postInit, Except.bind_ok_iff, check_eq_ok] at valid
  obtain ⟨-, -, -, -, -, positive, -⟩ := valid
  exact positive n given

theorem max?_concat {numbers : List Int} (above : ∀ m ∈ numbers, m ≤ n) :
    (numbers ++ [n]).max? = some n := by
  refine List.max?_eq_some_iff.mpr ⟨List.mem_append_right _ (List.mem_singleton_self n), ?_⟩
  intro m member
  rcases List.mem_append.mp member with old | new
  · exact above m old
  · rw [List.mem_singleton.mp new]

section Applied
variable {db db' : Database} {event : BrokerOrderEvent} {row : OrderRow} {n : Int}
  {target : OrderState}

theorem not_mem_appliedSequences (given : event.externalSequence = some n)
    (fresh : db.sequenceReused row.orderId event = false) :
    n ∉ db.appliedSequences row.orderId := by
  intro member
  obtain ⟨e, applied, number⟩ := List.mem_filterMap.mp member
  obtain ⟨recorded, named⟩ := List.mem_filter.mp applied
  rw [sequenceReused, given] at fresh
  have unused := List.any_eq_false.mp fresh e recorded
  simp only [Bool.and_eq_true] at named
  exact unused (by simp [named.1, number])

theorem appliedSequences_lt
    (latest : row.lastExternalSequence = (db.appliedSequences row.orderId).max?)
    (given : event.externalSequence = some n) (fresh : db.sequenceReused row.orderId event = false)
    (onTime : isLate row event target = false) :
    ∀ m ∈ db.appliedSequences row.orderId, m < n := by
  intro m member
  have differs : m ≠ n := fun same => not_mem_appliedSequences given fresh (same ▸ member)
  cases greatest : (db.appliedSequences row.orderId).max? with
  | none =>
    rw [List.max?_eq_none_iff] at greatest
    rw [greatest] at member
    cases member
  | some previous =>
    have below := (List.max?_eq_some_iff.mp greatest).2 m member
    rw [greatest] at latest
    simp only [isLate, given, latest, Bool.or_eq_false_iff, decide_eq_false_iff_not] at onTime
    omega

/-- **A gap is a number that is not the successor of the greatest one applied.** -/
theorem hasSequenceGap_iff
    (latest : row.lastExternalSequence = (db.appliedSequences row.orderId).max?)
    (fresh : db.sequenceReused row.orderId event = false)
    (onTime : isLate row event target = false) :
    hasSequenceGap row event = true ↔ ∃ n, event.externalSequence = some n ∧
      n ≠ nextSequence (db.appliedSequences row.orderId).max? := by
  cases given : event.externalSequence with
  | none => simp [hasSequenceGap, given]
  | some n =>
    have above := appliedSequences_lt latest given fresh onTime
    have positive := event.externalSequence_pos given
    simp only [Option.some.injEq, exists_eq_left']
    cases greatest : (db.appliedSequences row.orderId).max? with
    | none =>
      rw [greatest] at latest
      simp only [hasSequenceGap, given, latest, nextSequence, decide_eq_true_eq]
      omega
    | some previous =>
      have after := above previous (List.max?_mem greatest)
      rw [greatest] at latest
      simp only [hasSequenceGap, given, latest, nextSequence, decide_eq_true_eq]
      omega

theorem appliedSequences_applied
    (marks : db'.marks = db.marks ++ [(some row.orderId, event.externalSequence)])
    (orderId : String) :
    db'.appliedSequences orderId = db.appliedSequences orderId ++
      if row.orderId = orderId then event.externalSequence.toList else [] := by
  rw [appliedSequences_eq, marks, sequencesOf_append, ← appliedSequences_eq]
  congr 1
  by_cases own : row.orderId = orderId
  · cases given : event.externalSequence <;> simp [sequencesOf, own]
  · simp [sequencesOf, own]

structure AppliesInSequence (db db' : Database) (event : BrokerOrderEvent) (row : OrderRow)
    (target : OrderState) (receivedAt : Instant) : Prop where
  found : db.orderById event.clientOrderRef = some row
  fresh : db.sequenceReused row.orderId event = false
  onTime : isLate row event target = false
  order : ∀ j, db'.order j =
    if j = row.intentId then some (row.afterEvent event target receivedAt) else db.order j
  recorded : db'.brokerEvent event.eventId = some ⟨event, some row.orderId,
    appliedStatus row event, appliedReason row event, 0, none, receivedAt⟩
  marks : db'.marks = db.marks ++ [(some row.orderId, event.externalSequence)]

theorem applyNormalizedBrokerEvent_sequence {receivedAt : Instant} {result : BrokerEventApplyResult}
    (h : applyNormalizedBrokerEvent event receivedAt db = .ok (result, db')) :
    (result.status.isApplied = false ∧ InboxOnly db db') ∨
    ∃ row target, AppliesInSequence db db' event row target receivedAt ∧
      result.status = appliedStatus row event := by
  rcases applyNormalizedBrokerEvent_cases h with
    ⟨inbox, status⟩ | ⟨row, ti, target, moved, -, byId, -, classified, -, effect, settles, rfl⟩
  · refine .inl ⟨?_, inbox⟩
    rcases status with status | status | status <;> rw [status] <;> rfl
  · obtain ⟨-, -, fresh, -, onTime⟩ := classifyEvent_target classified
    obtain ⟨_, rfl⟩ := settleDigitEvent_frame settles
    refine .inr ⟨row, target, ?_, rfl⟩
    constructor
    case found => exact byId
    case fresh => exact fresh
    case onTime => exact onTime
    case order => exact effect.order
    case recorded => exact brokerEvent_insert_self effect.recorded
    case marks =>
      have marks := marks_insertBrokerOrderEvent effect.inserts
      rw [isApplied_appliedStatus, if_pos rfl] at marks
      exact marks

namespace AppliesInSequence

variable {target : OrderState} {receivedAt : Instant}
  (applies : AppliesInSequence db db' event row target receivedAt)
include applies

theorem row_mem : row ∈ db.orders.rows :=
  (orderById_eq_some_iff.mp applies.found).1

theorem mem_orders {o' : OrderRow} (member : o' ∈ db'.orders.rows) :
    o' = row.afterEvent event target receivedAt ∨
      o' ∈ db.orders.rows ∧ o'.orderId ≠ row.orderId := by
  have here := order_eq_some_iff.mpr ⟨member, rfl⟩
  rw [applies.order] at here
  split at here
  · exact .inl (Option.some.inj here).symm
  · rename_i elsewhere
    obtain ⟨member', -⟩ := order_eq_some_iff.mp here
    refine .inr ⟨member', fun same => elsewhere ?_⟩
    have one := orderById_eq_some_iff.mpr ⟨member', same⟩
    rw [orderById_eq_some_iff.mpr ⟨applies.row_mem, rfl⟩] at one
    rw [Option.some.inj one]

theorem afterEvent_mem : row.afterEvent event target receivedAt ∈ db'.orders.rows :=
  (order_eq_some_iff.mp ((applies.order row.intentId).trans (if_pos rfl))).1

theorem stays_mem {o : OrderRow} (member : o ∈ db.orders.rows) (other : o ≠ row) :
    o ∈ db'.orders.rows := by
  have elsewhere : o.intentId ≠ row.intentId := by
    intro same
    have one := order_eq_some_iff.mpr ⟨member, same⟩
    rw [order_eq_some_iff.mpr ⟨applies.row_mem, rfl⟩] at one
    exact other (Option.some.inj one).symm
  have here := applies.order o.intentId
  rw [if_neg elsewhere, order_eq_some_iff.mpr ⟨member, rfl⟩] at here
  exact (order_eq_some_iff.mp here).1

theorem disciplined (disciplined : db.Disciplined) : db'.Disciplined := by
  have latest := disciplined.latest row applies.row_mem
  have sequences := appliedSequences_applied applies.marks
  obtain ⟨orderId, -⟩ := row.afterEvent_identity event target receivedAt
  constructor
  case latest =>
    intro o' member
    rcases applies.mem_orders member with rfl | ⟨stays, other⟩
    · rw [row.afterEvent_lastExternalSequence, orderId, sequences, if_pos rfl]
      cases given : event.externalSequence with
      | none =>
        simp only [Option.none_or, Option.toList_none, List.append_nil]
        exact latest
      | some n =>
        have above := appliedSequences_lt latest given applies.fresh applies.onTime
        exact (max?_concat fun m member => (above m member).le).symm
    · rw [sequences, if_neg (Ne.symm other), List.append_nil]
      exact disciplined.latest o' stays
  case distinct =>
    intro id
    rw [sequences]
    split
    · rename_i own
      cases given : event.externalSequence with
      | none =>
        simp only [Option.toList_none, List.append_nil]
        exact disciplined.distinct id
      | some n =>
        have new := not_mem_appliedSequences given applies.fresh
        rw [own] at new
        exact List.Nodup.append (disciplined.distinct id) (List.nodup_singleton n)
          (List.disjoint_singleton.mpr new)
    · rw [List.append_nil]
      exact disciplined.distinct id
  case owned =>
    intro e member applied
    have marked := mem_marks.mpr ⟨e, member, applied, rfl⟩
    rw [applies.marks] at marked
    rcases List.mem_append.mp marked with old | new
    · obtain ⟨e', member', applied', same⟩ := mem_marks.mp old
      obtain ⟨o, here, named⟩ := disciplined.owned e' member' applied'
      rw [← (Prod.mk.inj same).1, named]
      by_cases moved : o = row
      · exact ⟨_, applies.afterEvent_mem, by rw [orderId, moved]⟩
      · exact ⟨o, applies.stays_mem here moved, rfl⟩
    · refine ⟨_, applies.afterEvent_mem, ?_⟩
      rw [(Prod.mk.inj (List.mem_singleton.mp new)).1, orderId]

theorem sequencesRise (disciplined : db.Disciplined) : db.SequencesRise db' := by
  intro o member
  by_cases moved : o = row
  · subst moved
    refine ⟨_, applies.afterEvent_mem, (o.afterEvent_identity event target receivedAt).1, ?_⟩
    intro n here
    rw [o.afterEvent_lastExternalSequence, here]
    cases given : event.externalSequence with
    | none => exact ⟨n, rfl, Int.le_refl n⟩
    | some new =>
      have latest := disciplined.latest o member
      have above := appliedSequences_lt latest given applies.fresh applies.onTime
      rw [here] at latest
      exact ⟨new, rfl, (above n (List.max?_mem latest.symm)).le⟩
  · exact ⟨o, applies.stays_mem member moved, rfl, fun n here => ⟨n, here, Int.le_refl n⟩⟩

theorem gapRecorded (disciplined : db.Disciplined) {result : BrokerEventApplyResult}
    (answer : result.status = appliedStatus row event) : GapRecorded db db' event result := by
  refine ⟨row, _, applies.found, applies.recorded, rfl, rfl, answer.symm, ?_⟩
  rw [← hasSequenceGap_iff (disciplined.latest row applies.row_mem) applies.fresh applies.onTime]
  simp only [appliedStatus]
  split <;> simp_all

end AppliesInSequence

end Applied

/-! ### Every operation of the writer -/

section Writer
variable {db db' : Database}

section

variable (disciplined : db.Disciplined)
include disciplined

theorem Database.Disciplined.event {event : BrokerOrderEvent}
    {receivedAt : Instant} {result : BrokerEventApplyResult}
    (h : applyNormalizedBrokerEvent event receivedAt db = .ok (result, db')) :
    db'.Disciplined ∧ db.SequencesRise db' := by
  rcases applyNormalizedBrokerEvent_sequence h with ⟨idle, inbox⟩ | ⟨row, target, applies, -⟩
  · have orders : db'.sequenceView.2 = db.sequenceView.2 := by
      rw [inbox]
      rfl
    exact ⟨disciplined.of_marks (marks_of_unapplied idle h) orders, .of_view orders⟩
  · exact ⟨applies.disciplined disciplined, applies.sequencesRise disciplined⟩

theorem Database.Disciplined.creates (created : Creates db db') :
    db'.Disciplined ∧ db.SequencesRise db' := by
  obtain ⟨orderId, unused, view⟩ := sequenceView_creates created
  have events : db'.brokerOrderEvents = db.brokerOrderEvents := congrArg Prod.fst view
  have orders : db'.sequenceView.2 = db.sequenceView.2 ++ [(orderId, none)] :=
    congrArg Prod.snd view
  have sequences : ∀ id, db'.appliedSequences id = db.appliedSequences id := by
    intro id
    rw [appliedSequences, appliedEvents, events]
    rfl
  have keeps : ∀ o ∈ db.orders.rows, ∃ o' ∈ db'.orders.rows,
      (o'.orderId, o'.lastExternalSequence) = (o.orderId, o.lastExternalSequence) := by
    intro o member
    have viewed : (o.orderId, o.lastExternalSequence) ∈ db'.sequenceView.2 := by
      rw [orders]
      exact List.mem_append_left _ (List.mem_map_of_mem member)
    exact List.mem_map.mp viewed
  refine ⟨⟨?latest, ?distinct, ?owned⟩, ?rise⟩
  case latest =>
    intro o' member
    have viewed : (o'.orderId, o'.lastExternalSequence) ∈ db'.sequenceView.2 :=
      List.mem_map_of_mem member
    rw [orders] at viewed
    rw [sequences]
    rcases List.mem_append.mp viewed with old | new
    · obtain ⟨o, member', same⟩ := List.mem_map.mp old
      obtain ⟨id, number⟩ := Prod.mk.inj same
      rw [← id, ← number]
      exact disciplined.latest o member'
    · obtain ⟨id, number⟩ := Prod.mk.inj (List.mem_singleton.mp new)
      rw [id, number]
      -- An applied event would have an owner, but the id was unused.
      have noneApplied : db.appliedEvents orderId = [] := by
        refine List.filter_eq_nil_iff.mpr fun e recorded applied => ?_
        simp only [Bool.and_eq_true, beq_iff_eq] at applied
        obtain ⟨o, member', owner⟩ := disciplined.owned e recorded applied.2
        rw [applied.1] at owner
        exact unused o member' (Option.some.inj owner).symm
      rw [appliedSequences, noneApplied]
      rfl
  case distinct =>
    intro id
    rw [sequences]
    exact disciplined.distinct id
  case owned =>
    intro e member applied
    rw [events] at member
    obtain ⟨o, here, named⟩ := disciplined.owned e member applied
    obtain ⟨o', here', same⟩ := keeps o here
    exact ⟨o', here', by rw [named, (Prod.mk.inj same).1]⟩
  case rise =>
    intro o member
    obtain ⟨o', member', same⟩ := keeps o member
    obtain ⟨id, number⟩ := Prod.mk.inj same
    exact ⟨o', member', id, fun n here => ⟨n, number.trans here, Int.le_refl n⟩⟩

theorem Database.Disciplined.committed {op : WriterOp}
    (h : op.body db = .ok ((), db')) : db'.Disciplined ∧ db.SequencesRise db' := by
  cases new : op.newCommand with
  | some command =>
    cases op <;> first
      | exact disciplined.creates ⟨_, _, _, _, _, _, _, h⟩
      | cases new
  | none =>
    cases given : op.brokerOrderEvent with
    | some _ =>
      cases op <;> first
        | (obtain ⟨_, h⟩ := Operation.silent_eq_ok h
           exact disciplined.event h)
        | cases given
    | none =>
      have view := op.sequenceView_eq new given h
      have events : db'.brokerOrderEvents = db.brokerOrderEvents := congrArg Prod.fst view
      have marks : db'.marks = db.marks := by rw [Database.marks, events]; rfl
      exact ⟨disciplined.of_marks marks (congrArg Prod.snd view), .of_view (congrArg Prod.snd view)⟩

theorem Database.Disciplined.writerStep (op : WriterOp) :
    (TradingLab.writerStep db op).Disciplined ∧
      db.SequencesRise (TradingLab.writerStep db op) :=
  Machine.transact_cases (fun next => next.Disciplined ∧ db.SequencesRise next)
    ⟨disciplined, .of_view rfl⟩ fun _ _ committed => disciplined.committed committed

end

theorem Database.SequencesRise.trans {first second third : Database}
    (left : first.SequencesRise second) (right : second.SequencesRise third) :
    first.SequencesRise third := by
  intro o member
  obtain ⟨o', member', id, rises⟩ := left o member
  obtain ⟨o'', member'', id', rises'⟩ := right o' member'
  refine ⟨o'', member'', id'.trans id, fun n here => ?_⟩
  obtain ⟨n', here', le⟩ := rises n here
  obtain ⟨n'', here'', le'⟩ := rises' n' here'
  exact ⟨n'', here'', le.trans le'⟩

theorem Database.unsequenced_empty : Database.empty.Unsequenced :=
  ⟨rfl, fun _ member => absurd member List.not_mem_nil⟩

theorem Database.Unsequenced.disciplined (unsequenced : db.Unsequenced) : db.Disciplined := by
  obtain ⟨empty, unnumbered⟩ := unsequenced
  have sequences : ∀ orderId, db.appliedSequences orderId = [] := by
    intro orderId
    rw [Database.appliedSequences, Database.appliedEvents, empty]
    rfl
  constructor
  case latest =>
    intro o member
    rw [sequences, unnumbered o member]
    rfl
  case distinct =>
    intro orderId
    rw [sequences]
    exact List.nodup_nil
  case owned =>
    intro e member
    rw [empty] at member
    cases member

end Writer

/-- **The sequence numbers of the inbox**, for any run of the writer, cut in two, from any database
    without recorded events. -/
theorem sequence_discipline {start : Database} (unsequenced : start.Unsequenced)
    (before after : List WriterOp) :
    (Machine.run writerStep start before).Disciplined ∧
      (Machine.run writerStep start before).SequencesRise
        (Machine.run writerStep start (before ++ after)) ∧
      ∀ event receivedAt result db',
        applyNormalizedBrokerEvent event receivedAt (Machine.run writerStep start before) =
            .ok (result, db') →
          (result.status = .applied ∨ result.status = .appliedWithGap →
            GapRecorded (Machine.run writerStep start before) db' event result) ∧
          (result.status = .duplicate ∨ result.status = .lateIgnored ∨
              result.status = .conflict →
            SameExposure (Machine.run writerStep start before) db') := by
  have keeps : ∀ (db : Database) op, db.Disciplined → (writerStep db op).Disciplined :=
    fun _ op disciplined => (disciplined.writerStep op).1
  have disciplined := Machine.run_invariant Database.Disciplined keeps unsequenced.disciplined
    before
  refine ⟨disciplined, ?_, ?_⟩
  · rw [Machine.run_append]
    exact Machine.run_rel Database.Disciplined Database.SequencesRise (fun _ => .of_view rfl)
      Database.SequencesRise.trans keeps (fun _ op disciplined => (disciplined.writerStep op).2)
      disciplined after
  · intro event receivedAt result db' h
    rcases applyNormalizedBrokerEvent_sequence h with ⟨idle, inbox⟩ | ⟨row, target, applies, answer⟩
    · refine ⟨fun applied => ?_, fun _ => ?_⟩
      · rcases applied with status | status <;> rw [status] at idle <;> cases idle
      · rw [inbox]
        exact ⟨rfl, rfl, rfl, rfl⟩
    · refine ⟨fun _ => applies.gapRecorded disciplined answer, fun idle => ?_⟩
      have applied := isApplied_appliedStatus row event
      rw [← answer] at applied
      rcases idle with status | status | status <;> rw [status] at applied <;> cases applied

def Sample.shuffledOps : List WriterOp :=
  digitOps ++ deliveryOps shuffled

/-- The settlement is recorded with a gap, and its number stays on the order when the earlier
    events arrive. -/
theorem settlement_skips_to_three : Database.empty.Unsequenced ∧
    (Machine.run writerStep Database.empty Sample.shuffledOps).Disciplined ∧
    ((Machine.run writerStep Database.empty Sample.shuffledOps).brokerEvent "event-3").map
      EventRow.processingResult = some .appliedWithGap ∧
    ((Machine.run writerStep Database.empty Sample.shuffledOps).orderById "order-1").map
      OrderRow.lastExternalSequence = some (some 3) :=
  ⟨unsequenced_empty, (sequence_discipline unsequenced_empty _ []).1,
    by decide, by decide⟩

end TradingLab

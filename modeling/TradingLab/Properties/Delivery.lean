import TradingLab.Properties.Exposure
import TradingLab.Properties.References

/-!
# Settlement does not depend on the order of delivery

The inbox absorbs repetitions, sequence numbers make an overtaken event late, and an order that has
settled ignores what comes after. So the order settles once, with the result of its one SETTLED
event.
-/
namespace TradingLab

open Relational
open Database

/-! ### The row that an event leaves -/

namespace OrderRow

variable (row : OrderRow) (event : BrokerOrderEvent) (target : OrderState) (receivedAt : Instant)

theorem afterEvent_identity :
    (row.afterEvent event target receivedAt).orderId = row.orderId ∧
      (row.afterEvent event target receivedAt).intentId = row.intentId ∧
      (row.afterEvent event target receivedAt).broker = row.broker ∧
      (row.afterEvent event target receivedAt).accountId = row.accountId ∧
      (row.afterEvent event target receivedAt).correlationId = row.correlationId := by
  simp only [afterEvent, resolve, reach, noteEvent]
  repeat' split
  all_goals exact ⟨rfl, rfl, rfl, rfl, rfl⟩

theorem afterEvent_brokerOrderId :
    (row.afterEvent event target receivedAt).brokerOrderId = row.brokerOrderId ∨
      (row.afterEvent event target receivedAt).brokerOrderId = some event.brokerOrderId := by
  simp only [afterEvent, resolve, reach, noteEvent, transition]
  repeat' split
  all_goals cases row.brokerOrderId <;> simp

theorem afterEvent_lastExternalSequence :
    (row.afterEvent event target receivedAt).lastExternalSequence =
      event.externalSequence.or row.lastExternalSequence := by
  simp only [afterEvent, resolve, reach, noteEvent, transition]
  repeat' split
  all_goals rfl

theorem afterEvent_realizedPnlMinor (open_ : row.state ≠ .settled) {result : Int}
    (given : event.resultMinor = some result) :
    (row.afterEvent event .settled receivedAt).realizedPnlMinor = some result := by
  simp only [afterEvent, resolve, reach, noteEvent, transition, given]
  repeat' split
  all_goals simp_all

end OrderRow

variable {db db' : Database} {recorded : EventRow} {row : OrderRow} {event : BrokerOrderEvent}

theorem brokerEvent_insert
    (inserted : db.brokerOrderEvents.insert recorded = some db'.brokerOrderEvents) (id : String) :
    db'.brokerEvent id = if recorded.eventId = id then some recorded else db.brokerEvent id :=
  Table.lookup_insert inserted unique_eventRow_eventId id

theorem brokerEvent_insert_self
    (inserted : db.brokerOrderEvents.insert recorded = some db'.brokerOrderEvents) :
    db'.brokerEvent recorded.eventId = some recorded := by
  rw [brokerEvent_insert inserted, if_pos rfl]

theorem settleDigitEvent_of_agrees {moved : Database} (reachable : Reachable db) {ti : IntentRow}
    {result : Int} (found : db.orderById row.orderId = some row) (open_ : row.state ≠ .settled)
    (agrees : brokerEventMatchingConflict row ti event = none)
    (status : event.externalStatus = .settled) (given : event.resultMinor = some result)
    (configured : isDigitProduct ti.product = true →
      ∃ runtime, db.digitRiskRuntime = some runtime ∧ runtime.currency = ti.amount.currency)
    (same : moved.digitRiskRuntime = db.digitRiskRuntime) :
    moved.settleDigitEvent event row.orderId .settled = .ok { moved with
      digitRiskRuntime := settleDigitRow ti.product event.symbol result row.orderId event.eventId
        event.occurredAt db.digitRiskRuntime } := by
  obtain ⟨-, ⟨product, -⟩, -, currency⟩ := brokerEventMatchingConflict_eq_none.mp agrees
  obtain ⟨_, resultCurrency, -, paid⟩ := event.result_of_settled status
  simp only [settleDigitEvent, given, paid, if_true]
  rw [currency resultCurrency paid, product, ← same]
  apply applyDigitRuntimeSettlement_of_configured
  intro digit
  obtain ⟨runtime, present, sameCurrency⟩ := configured digit
  exact ⟨runtime, same.trans present, sameCurrency, reachable.lastOrderId_ne found open_ present⟩

/-! ### A stream of events -/

/-- The broker has, or may have, the order, and its result is not known. -/
def OrderState.awaitsResult (s : OrderState) : Bool :=
  s == .accepted || s == .opened || s == .unknown || s == .settlementUnknown

theorem live_of_awaitsResult {s : OrderState} (awaits : s.awaitsResult = true) :
    s.isTerminal = false := by
  cases s <;> first | rfl | cases awaits

/-- Lifecycle events of one order at one broker contract, with their own identifiers and
    sequence numbers, of which the last one settles the order. -/
structure SettlingStream (o : OrderRow) (ti : IntentRow) (events : List BrokerOrderEvent)
    (settlement : BrokerOrderEvent) (result : Int) : Prop where
  reference : ∀ e ∈ events, e.clientOrderRef = o.orderId
  agrees : ∀ e ∈ events, brokerEventMatchingConflict o ti e = none
  contract : ∀ e ∈ events, e.brokerOrderId = settlement.brokerOrderId
  ids : (events.map fun e => e.eventId).Nodup
  numbered : ∀ e ∈ events, e.externalSequence ≠ none
  sequences : (events.map fun e => e.externalSequence).Nodup
  settles : settlement ∈ events
  status : settlement.externalStatus = .settled
  result : settlement.resultMinor = some result
  last : ∀ e ∈ events, ∀ q ∈ e.externalSequence, ∀ top ∈ settlement.externalSequence, q ≤ top
  once : ∀ e ∈ events, e.externalStatus = .settled → e = settlement
  notRejected : ∀ e ∈ events, e.externalStatus ≠ .rejected

namespace SettlingStream

variable {o : OrderRow} {ti : IntentRow} {events : List BrokerOrderEvent}
  {settlement e e' : BrokerOrderEvent} {result : Int}
  (stream : SettlingStream o ti events settlement result) (member : e ∈ events)

include stream member

theorem eq_of_eventId (member' : e' ∈ events) (same : e.eventId = e'.eventId) : e = e' :=
  List.inj_on_of_nodup_map stream.ids member member' same

theorem eq_of_externalSequence (member' : e' ∈ events)
    (same : e.externalSequence = e'.externalSequence) : e = e' :=
  List.inj_on_of_nodup_map stream.sequences member member' same

theorem target : ∃ s, orderStateForExternalStatus e.externalStatus = some s ∧
      (e = settlement ∧ s = .settled ∨ e ≠ settlement ∧ s ≠ .settled ∧ s.awaitsResult = true) := by
  have known := e.externalStatus_ne_externalUnknown
  have allowed := stream.notRejected e member
  by_cases here : e = settlement
  · exact ⟨.settled, by rw [here, stream.status]; rfl, .inl ⟨here, rfl⟩⟩
  · have open_ : e.externalStatus ≠ .settled := fun settled => here (stream.once e member settled)
    cases status : e.externalStatus with
    | accepted => exact ⟨.accepted, rfl, .inr ⟨here, by decide, rfl⟩⟩
    | opened => exact ⟨.opened, rfl, .inr ⟨here, by decide, rfl⟩⟩
    | settlementUnknown => exact ⟨.settlementUnknown, rfl, .inr ⟨here, by decide, rfl⟩⟩
    | settled => exact absurd status open_
    | rejected => exact absurd status allowed
    | externalUnknown => exact absurd status known

end SettlingStream

def afterChecks (row : OrderRow) (event : BrokerOrderEvent) (target : OrderState) :
    Except DbError (BrokerEventApplyResult ⊕ OrderState) :=
  match terminalBrokerEventResult row event target with
  | some result => .ok (.inl result)
  | none =>
    if isLate row event target then
      .ok (.inl ⟨.lateIgnored, some row.state, some "BROKER_EVENT_LATE"⟩)
    else .ok (.inr target)

theorem writerStep_event {receivedAt : Instant} {result : BrokerEventApplyResult}
    (committed : applyNormalizedBrokerEvent event receivedAt db = .ok (result, db')) :
    writerStep db (.applyNormalizedBrokerEvent event receivedAt) = db' :=
  Operation.transact_silent_of_ok committed

theorem canResolve_of_awaitsResult {target : OrderState} (awaits : row.state.awaitsResult = true)
    (named : orderStateForExternalStatus event.externalStatus = some target)
    (notRejected : event.externalStatus ≠ .rejected) (onTime : isLate row event target = false) :
    CanResolve row.state row.state.isAmbiguous target := by
  cases ambiguous : row.state.isAmbiguous with
  | true =>
    rw [← ambiguous]
    exact canResolve_of_isAmbiguous ambiguous named
  | false =>
    have certain : row.state = .accepted ∨ row.state = .opened := by
      cases state : row.state <;>
        simp [state, OrderState.awaitsResult, OrderState.isAmbiguous] at awaits ambiguous ⊢
    have targets : target = .accepted ∨ target = .opened ∨ target = .settled ∨
        target = .settlementUnknown := by
      cases status : event.externalStatus <;> rw [status] at named notRejected <;>
        simp [orderStateForExternalStatus] at named notRejected <;> simp [← named]
    rw [CanResolve, if_neg Bool.false_ne_true]
    -- Only the way back from OPEN to ACCEPTED is closed, and that is late.
    rcases certain with state | state <;> rw [state] <;>
      rcases targets with rfl | rfl | rfl | rfl <;> first | decide | simp [isLate, state] at onTime

theorem terminalBrokerEventResult_of_settled (settled : row.state = .settled)
    (event : BrokerOrderEvent) (target : OrderState) :
    ∃ reply, terminalBrokerEventResult row event target = some reply := by
  simp only [terminalBrokerEventResult, settled]
  repeat' split
  all_goals first | exact ⟨_, rfl⟩ | contradiction

def deliveryOps (deliveries : List (BrokerOrderEvent × Instant)) : List WriterOp :=
  deliveries.map fun d => .applyNormalizedBrokerEvent d.1 d.2

@[simp] theorem deliveryOps_cons (d : BrokerOrderEvent × Instant)
    (rest : List (BrokerOrderEvent × Instant)) :
    deliveryOps (d :: rest) = .applyNormalizedBrokerEvent d.1 d.2 :: deliveryOps rest :=
  rfl

/-! ### Where the deliveries have got to -/

def settledDigit (o : OrderRow) (ti : IntentRow) (settlement : BrokerOrderEvent) (result : Int)
    (before : Option DigitRiskRuntime) : Option DigitRiskRuntime :=
  settleDigitRow ti.product settlement.symbol result o.orderId settlement.eventId
    settlement.occurredAt before

/-- Before the settlement is recorded the order awaits its result and the digit row is
    as it was `before`. From then on the order is SETTLED with the result, and the digit
    row has taken one settlement. -/
structure Progress (o : OrderRow) (ti : IntentRow) (events : List BrokerOrderEvent)
    (settlement : BrokerOrderEvent) (result : Int) (before : Option DigitRiskRuntime)
    (db : Database) (row : OrderRow) : Prop where
  reachable : Reachable db
  order : db.orderById o.orderId = some row
  intentId : row.intentId = o.intentId
  intent : db.intent o.intentId = some ti
  scope : row.broker = o.broker ∧ row.accountId = o.accountId ∧ row.correlationId = o.correlationId
  contract : row.brokerOrderId = o.brokerOrderId ∨ row.brokerOrderId = some settlement.brokerOrderId
  sequence : ∀ q ∈ row.lastExternalSequence, ∃ e ∈ events, e.externalSequence = some q
  recorded : ∀ e ∈ events, ∀ r, db.brokerEvent e.eventId = some r → r.event = e
  own : ∀ r ∈ db.brokerOrderEvents.rows, r.orderId = some o.orderId → r.event ∈ events
  awaiting : db.brokerEvent settlement.eventId = none →
    row.state.awaitsResult = true ∧ db.digitRiskRuntime = before
  settled : db.brokerEvent settlement.eventId ≠ none →
    row.state = .settled ∧ row.realizedPnlMinor = some result ∧
      db.digitRiskRuntime = settledDigit o ti settlement result before

namespace Progress

variable {o row : OrderRow} {ti : IntentRow} {events : List BrokerOrderEvent}
  {settlement e : BrokerOrderEvent} {result : Int} {before : Option DigitRiskRuntime}
  {db db' moved : Database} {r : EventRow}
  (progress : Progress o ti events settlement result before db row)
  (stream : SettlingStream o ti events settlement result) (member : e ∈ events)
  {receivedAt : Instant}

section Order
include progress

theorem orderId : row.orderId = o.orderId :=
  (orderById_eq_some_iff.mp progress.order).2

theorem joined :
    db.intent row.intentId = some ti := by
  rw [progress.intentId]
  exact progress.intent

theorem own_insert (member : e ∈ events) (same : r.event = e)
    (inserted : db.brokerOrderEvents.insert r = some db'.brokerOrderEvents) :
    ∀ r' ∈ db'.brokerOrderEvents.rows, r'.orderId = some o.orderId → r'.event ∈ events := by
  intro r' stored named
  rw [(Table.insert_eq_some_iff.mp inserted).2] at stored
  simp only [List.mem_append, List.mem_singleton] at stored
  rcases stored with old | rfl
  · exact progress.own r' old named
  · rwa [same]

include stream

theorem settlement_not_late :
    isLate row settlement .settled = false := by
  simp only [isLate, Bool.or_eq_false_iff]
  constructor
  · split
    · rename_i top previous numbered seen
      -- The number that the order has seen belongs to the stream.
      obtain ⟨e, member, number⟩ := progress.sequence previous seen
      have below := stream.last e member previous number top numbered
      simp only [decide_eq_false_iff_not]
      omega
    · rfl
  · cases row.state <;> rfl

end Order

section Events
include stream member

theorem settlement_insert (other : e ≠ settlement) (same : r.event = e)
    (inserted : db.brokerOrderEvents.insert r = some db'.brokerOrderEvents) :
    db'.brokerEvent settlement.eventId = db.brokerEvent settlement.eventId := by
  rw [brokerEvent_insert inserted, if_neg]
  intro sameId
  apply other
  apply stream.eq_of_eventId member stream.settles
  rw [← sameId, EventRow.eventId, same]

include progress

theorem referenced :
    db.orderById e.clientOrderRef = some row := by
  rw [stream.reference e member]
  exact progress.order

theorem agrees :
    brokerEventMatchingConflict row ti e = none := by
  obtain ⟨scope, intent, contract, currency⟩ :=
    brokerEventMatchingConflict_eq_none.mp (stream.agrees e member)
  apply brokerEventMatchingConflict_eq_none.mpr
  obtain ⟨broker, account, correlation⟩ := progress.scope
  refine ⟨by rwa [broker, account, correlation], intent, ?_, currency⟩
  intro id known
  rcases progress.contract with same | taken
  · exact contract id (same ▸ known)
  · -- The order has taken the contract of an event of this stream.
    rw [taken] at known
    cases known
    exact (stream.contract e member).symm

theorem sequence_free
    (fresh : db.brokerEvent e.eventId = none) : db.sequenceReused row.orderId e = false := by
  unfold sequenceReused
  split
  · rfl
  · rename_i q numbered
    rw [List.any_eq_false]
    intro r stored reused
    simp only [Bool.and_eq_true, beq_iff_eq] at reused
    have mine := progress.own r stored (by rw [reused.1, progress.orderId])
    have same : r.event = e := by
      apply stream.eq_of_externalSequence mine member
      rw [reused.2, numbered]
    exact Table.lookup_eq_none_iff.mp fresh r stored (by rw [EventRow.eventId, same])

theorem recorded_insert
    (same : r.event = e) (inserted : db.brokerOrderEvents.insert r = some db'.brokerOrderEvents) :
    ∀ e' ∈ events, ∀ r', db'.brokerEvent e'.eventId = some r' → r'.event = e' := by
  intro e' member' r' found
  rw [brokerEvent_insert inserted] at found
  split at found
  · rename_i sameId
    cases found
    rw [same]
    apply stream.eq_of_eventId member member'
    rw [← sameId, EventRow.eventId, same]
  · exact progress.recorded e' member' r' found

/-! #### One delivery -/

theorem answer (other : e ≠ settlement) (same : r.event = e) {stored : Table EventRow}
    (inserted : db.brokerOrderEvents.insert r = some stored)
    (reached : Reachable { db with brokerOrderEvents := stored }) :
    Progress o ti events settlement result before { db with brokerOrderEvents := stored }
      row where
  reachable := reached
  order := progress.order
  intentId := progress.intentId
  intent := progress.intent
  scope := progress.scope
  contract := progress.contract
  sequence := progress.sequence
  recorded := progress.recorded_insert stream member same inserted
  own := progress.own_insert member same inserted
  awaiting missing := by
    rw [settlement_insert stream member other same inserted] at missing
    exact progress.awaiting missing
  settled present := by
    rw [settlement_insert stream member other same inserted] at present
    exact progress.settled present

variable {target : OrderState} {receivedAt : Instant}

theorem applied (missing : db.brokerEvent settlement.eventId = none)
    (effect : EventMoved db moved e row target receivedAt) {digit : Option DigitRiskRuntime}
    (outcome : e = settlement ∧ target = .settled ∧
        digit = settledDigit o ti settlement result before ∨
      e ≠ settlement ∧ target.awaitsResult = true ∧ digit = db.digitRiskRuntime)
    (reached : Reachable { moved with digitRiskRuntime := digit }) :
    Progress o ti events settlement result before { moved with digitRiskRuntime := digit }
      (row.afterEvent e target receivedAt) := by
  obtain ⟨sameId, sameIntent, broker, account, correlation⟩ :=
    row.afterEvent_identity e target receivedAt
  have here : moved.order row.intentId = some (row.afterEvent e target receivedAt) := by
    rw [effect.order, if_pos rfl]
  obtain ⟨awaits, digitBefore⟩ := progress.awaiting missing
  constructor
  case reachable => exact reached
  case order =>
    rw [← progress.orderId, ← sameId]
    exact orderById_of_order here
  case intentId => rw [sameIntent, progress.intentId]
  case intent =>
    show moved.tradeIntents.lookup _ _ = _
    rw [effect.intents]
    exact progress.intent
  case scope =>
    rw [broker, account, correlation]
    exact progress.scope
  case contract =>
    rcases row.afterEvent_brokerOrderId e target receivedAt with same | taken
    · rw [same]
      exact progress.contract
    · exact .inr (by rw [taken, stream.contract e member])
  case sequence =>
    intro q seen
    rw [row.afterEvent_lastExternalSequence] at seen
    cases number : e.externalSequence with
    | none => exact absurd number (stream.numbered e member)
    | some q' =>
      rw [number] at seen
      cases seen
      exact ⟨e, member, number⟩
  case recorded => exact progress.recorded_insert stream member rfl effect.recorded
  case own => exact progress.own_insert member rfl effect.recorded
  case awaiting =>
    intro still
    rcases outcome with ⟨rfl, -, -⟩ | ⟨other, awaits', rfl⟩
    · -- The settlement has just been recorded.
      have present := brokerEvent_insert_self effect.recorded
      have impossible := present.symm.trans still
      cases impossible
    · exact ⟨by rw [row.afterEvent_state]; exact awaits', digitBefore⟩
  case settled =>
    intro present
    rcases outcome with ⟨rfl, rfl, digitAfter⟩ | ⟨other, -, -⟩
    · have live : row.state ≠ .settled := by
        intro ended
        rw [ended] at awaits
        cases awaits
      have pnl := row.afterEvent_realizedPnlMinor e receivedAt live stream.result
      exact ⟨row.afterEvent_state e .settled receivedAt, pnl, digitAfter⟩
    · exact absurd (settlement_insert stream member other rfl effect.recorded |>.trans missing)
        present

end Events

variable {target : OrderState}
  (configured : isDigitProduct ti.product = true → ∃ runtime, before = some runtime ∧ runtime.currency = ti.amount.currency)

section Delivery
include progress stream

include configured in
theorem settleDigitEvent_settlement (missing : db.brokerEvent settlement.eventId = none)
    (same : moved.digitRiskRuntime = db.digitRiskRuntime) :
    moved.settleDigitEvent settlement row.orderId .settled =
      .ok { moved with digitRiskRuntime := settledDigit o ti settlement result before } := by
  obtain ⟨awaits, digitBefore⟩ := progress.awaiting missing
  have live : row.state ≠ .settled := by
    intro ended
    rw [ended] at awaits
    cases awaits
  have found : db.orderById row.orderId = some row := progress.orderId ▸ progress.order
  rw [settleDigitEvent_of_agrees progress.reachable found live
    (progress.agrees stream stream.settles) stream.status stream.result
    (by rwa [digitBefore]) same, settledDigit, progress.orderId, digitBefore]

def Delivered (o : OrderRow) (ti : IntentRow) (events : List BrokerOrderEvent)
    (settlement : BrokerOrderEvent) (result : Int) (before : Option DigitRiskRuntime)
    (e : BrokerOrderEvent) (db : Database) : Prop :=
  (∃ row, Progress o ti events settlement result before db row) ∧ db.brokerEvent e.eventId ≠ none

include member in
theorem deliver_answer (fresh : db.brokerEvent e.eventId = none) (other : e ≠ settlement)
    {reply : BrokerEventApplyResult} (classified : db.classifyEvent e row ti = .ok (.inl reply)) :
    Delivered o ti events settlement result before e
      (writerStep db (.applyNormalizedBrokerEvent e receivedAt)) := by
  have reached := progress.reachable.step (.applyNormalizedBrokerEvent e receivedAt)
  obtain ⟨stored, inserted, committed⟩ := applyNormalizedBrokerEvent_of_answer receivedAt fresh
    (progress.referenced stream member) progress.joined classified
  rw [writerStep_event committed] at reached ⊢
  refine ⟨⟨row, progress.answer stream member other rfl inserted reached⟩, ?_⟩
  generalize after : ({ db with brokerOrderEvents := stored } : Database) = next
  have kept : stored = next.brokerOrderEvents := by rw [← after]
  rw [kept] at inserted
  exact Option.ne_none_iff_exists'.mpr ⟨_, brokerEvent_insert_self inserted⟩

include configured member

theorem deliver_target (fresh : db.brokerEvent e.eventId = none)
    (missing : db.brokerEvent settlement.eventId = none)
    (kind : e = settlement ∧ target = .settled ∨ e ≠ settlement ∧ target.awaitsResult = true)
    (can : CanResolve row.state row.state.isAmbiguous target)
    (classified : db.classifyEvent e row ti = .ok (.inr target)) :
    Delivered o ti events settlement result before e
      (writerStep db (.applyNormalizedBrokerEvent e receivedAt)) := by
  have reached := progress.reachable.step (.applyNormalizedBrokerEvent e receivedAt)
  obtain ⟨moved, effect, committed⟩ := applyNormalizedBrokerEvent_of_target receivedAt fresh
    (progress.referenced stream member) progress.joined classified can
  -- Only the settlement touches the digit row.
  obtain ⟨digit, settles, outcome⟩ : ∃ digit,
      moved.settleDigitEvent e row.orderId target = .ok { moved with digitRiskRuntime := digit } ∧
      (e = settlement ∧ target = .settled ∧ digit = settledDigit o ti settlement result before ∨
        e ≠ settlement ∧ target.awaitsResult = true ∧ digit = db.digitRiskRuntime) := by
    rcases kind with ⟨rfl, rfl⟩ | ⟨other, awaits⟩
    · exact ⟨_, progress.settleDigitEvent_settlement stream configured missing effect.digit,
        .inl ⟨rfl, rfl, rfl⟩⟩
    · refine ⟨db.digitRiskRuntime, ?_, .inr ⟨other, awaits, rfl⟩⟩
      have open_ : e.externalStatus ≠ .settled := fun settled =>
        other (stream.once e member settled)
      rw [settleDigitEvent, (e.result_none open_).1, ← effect.digit]
  rw [settles] at committed
  rw [writerStep_event committed] at reached ⊢
  refine ⟨⟨_, progress.applied stream member missing effect outcome reached⟩, ?_⟩
  exact Option.ne_none_iff_exists'.mpr ⟨_, brokerEvent_insert_self effect.recorded⟩

theorem deliver (receivedAt : Instant) :
    Delivered o ti events settlement result before e
      (writerStep db (.applyNormalizedBrokerEvent e receivedAt)) := by
  cases fresh : db.brokerEvent e.eventId with
  | some r =>
    -- A redelivery changes nothing.
    have same := progress.recorded e member r fresh
    rw [writerStep_event (applyNormalizedBrokerEvent_of_duplicate receivedAt fresh same)]
    exact ⟨⟨row, progress⟩, by simp [fresh]⟩
  | none =>
    obtain ⟨target, named, kind⟩ := stream.target member
    have classified : db.classifyEvent e row ti = afterChecks row e target := by
      simp only [classifyEvent, progress.agrees stream member,
        progress.sequence_free stream member fresh, named, afterChecks]
      rfl
    by_cases missing : db.brokerEvent settlement.eventId = none
    · obtain ⟨awaits, -⟩ := progress.awaiting missing
      have live : terminalBrokerEventResult row e target = none := by
        rw [terminalBrokerEventResult, live_of_awaitsResult awaits, if_neg Bool.false_ne_true]
      simp only [afterChecks, live] at classified
      by_cases late : isLate row e target = true
      · rw [if_pos late] at classified
        apply progress.deliver_answer stream member fresh _ classified
        rintro rfl
        rcases kind with ⟨-, rfl⟩ | ⟨other, -⟩
        · rw [progress.settlement_not_late stream] at late
          cases late
        · exact other rfl
      · rw [if_neg late] at classified
        apply progress.deliver_target stream member configured fresh missing _ _ classified
        · exact kind.imp id fun other => ⟨other.1, other.2.2⟩
        · rw [Bool.not_eq_true] at late
          exact canResolve_of_awaitsResult awaits named (stream.notRejected e member) late
    · -- The order has settled, and has an answer for every event.
      obtain ⟨settled, -, -⟩ := progress.settled missing
      obtain ⟨reply, answered⟩ := terminalBrokerEventResult_of_settled settled e target
      simp only [afterChecks, answered] at classified
      apply progress.deliver_answer stream member fresh _ classified
      rintro rfl
      exact missing fresh

end Delivery

include stream configured in
theorem run {deliveries : List (BrokerOrderEvent × Instant)}
    (members : ∀ d ∈ deliveries, d.1 ∈ events)
    (progress : Progress o ti events settlement result before db row) :
    (∃ row', Progress o ti events settlement result before
        (Machine.run writerStep db (deliveryOps deliveries)) row') ∧
      ∀ d ∈ deliveries,
        (Machine.run writerStep db (deliveryOps deliveries)).brokerEvent d.1.eventId ≠ none := by
  induction deliveries generalizing db row with
  | nil => exact ⟨⟨row, progress⟩, by simp⟩
  | cons first rest ih =>
    simp only [List.forall_mem_cons] at members
    obtain ⟨⟨row', progress'⟩, present⟩ :=
      progress.deliver stream members.1 configured first.2
    obtain ⟨final, others⟩ := ih members.2 progress'
    simp only [deliveryOps_cons, Machine.run_cons, List.forall_mem_cons]
    refine ⟨final, ?_, others⟩
    -- Later deliveries do not take the first one out of the inbox.
    exact Machine.run_invariant (fun db : Database => db.brokerEvent first.1.eventId ≠ none)
      (fun _ op known => brokerEvent_writerStep op known) present (deliveryOps rest)

end Progress

/-- **Settlement does not depend on the order of delivery.** However often and in whatever order the
    events of a stream are delivered, the order settles once, with the result. -/
theorem settlement_independent_of_delivery {db : Database} (reachable : Reachable db)
    {o : OrderRow} {ti : IntentRow} (found : db.orderById o.orderId = some o)
    (intent : db.intent o.intentId = some ti)
    (awaits : o.state = .accepted ∨ o.state = .opened ∨ o.state = .unknown ∨
      o.state = .settlementUnknown)
    (silent : ∀ e ∈ db.brokerOrderEvents.rows, e.orderId ≠ some o.orderId)
    (configured : isDigitProduct ti.product = true →
      ∃ runtime, db.digitRiskRuntime = some runtime ∧ runtime.currency = ti.amount.currency)
    {events : List BrokerOrderEvent} {settlement : BrokerOrderEvent} {result : Int}
    (stream : SettlingStream o ti events settlement result)
    (fresh : ∀ e ∈ events, db.brokerEvent e.eventId = none)
    {deliveries : List (BrokerOrderEvent × Instant)} (members : ∀ d ∈ deliveries, d.1 ∈ events)
    (all : ∀ e ∈ events, ∃ d ∈ deliveries, d.1 = e) :
    ∃ o' r, (Machine.run writerStep db (deliveryOps deliveries)).orderById o.orderId = some o' ∧
      (Machine.run writerStep db (deliveryOps deliveries)).reservation o.intentId = some r ∧
      o'.state = .settled ∧ o'.realizedPnlMinor = some result ∧ o'.pnlApplicationCount = 1 ∧
      r.state = .released ∧ r.releaseCount = 1 ∧
      (Machine.run writerStep db (deliveryOps deliveries)).digitRiskRuntime =
        settledDigit o ti settlement result db.digitRiskRuntime := by
  have noSequence : o.lastExternalSequence = none := by
    by_contra numbered
    obtain ⟨e, member, named⟩ := reachable.sequenced o.intentId o
      (order_of_orderById found) numbered
    exact silent e member named
  have start : Progress o ti events settlement result db.digitRiskRuntime db o := by
    constructor
    case reachable => exact reachable
    case order => exact found
    case intentId => rfl
    case intent => exact intent
    case scope => exact ⟨rfl, rfl, rfl⟩
    case contract => exact .inl rfl
    case sequence =>
      rw [noSequence]
      simp
    case recorded =>
      intro e member r here
      rw [fresh e member] at here
      cases here
    case own =>
      intro r member named
      exact absurd named (silent r member)
    case awaiting =>
      intro _
      refine ⟨?_, rfl⟩
      rcases awaits with state | state | state | state <;> rw [state] <;> rfl
    case settled =>
      intro present
      exact absurd (fresh settlement stream.settles) present
  obtain ⟨⟨row, progress⟩, delivered⟩ := Progress.run stream configured members start
  -- The settlement has been delivered, so it is in the inbox.
  obtain ⟨d, member, same⟩ := all settlement stream.settles
  obtain ⟨settled, pnl, digit⟩ := progress.settled (same ▸ delivered d member)
  have order := order_of_orderById progress.order
  rw [progress.intentId] at order
  have exposure := progress.reachable.exposure_of_settled order settled pnl
  simp only [Database.exposure, order, Option.bind_some, Option.map_eq_some_iff] at exposure
  obtain ⟨r, reserved, facts⟩ := exposure
  simp only [Exposure.of, Exposure.mk.injEq] at facts
  obtain ⟨-, -, appliedOnce, released, releasedOnce⟩ := facts
  exact ⟨row, r, progress.order, reserved, settled, pnl, appliedOnce, released, releasedOnce, digit⟩

namespace Sample

def digitPolicy : DigitRuntimePolicy :=
  ⟨"policy-1", "USD", true, 3, 3, ⟨"60", .finite 60⟩⟩

def digitRequest : OrderRequest :=
  ⟨{ request.toOrderRequestFields with product := "DIGITEVEN", durationUnit := "t" }, by decide⟩

def digitCommand : OrderCommand :=
  ⟨{ command.toOrderCommandFields with product := "DIGITEVEN", durationUnit := "t" }, by decide⟩

def digitOps : List WriterOp :=
  [.configureDigitRiskRuntime digitPolicy false 0,
    .persistIntentReservationOutbox digitRequest digitCommand "intent-1" "reservation-1" "order-1"
      0 {},
    .claimNextMessage 1 none none,
    .recordDispatchResult digitCommand "ACCEPTED" (some "contract-1") none 2]

def digitEventFields (eventId : String) (sequence : Int) (status : ExternalOrderStatus)
    (resultMinor : Option Int) : BrokerOrderEventFields :=
  hashed { eventFields eventId (some sequence) status resultMinor with product := "DIGITEVEN" }

def digitAccepted : BrokerOrderEvent :=
  ⟨digitEventFields "event-1" 1 .accepted none, by decide⟩

def digitOpened : BrokerOrderEvent :=
  ⟨digitEventFields "event-2" 2 .opened none, by decide⟩

def digitSettled : BrokerOrderEvent :=
  ⟨digitEventFields "event-3" 3 .settled (some (-100)), by decide⟩

def shuffled : List (BrokerOrderEvent × Instant) :=
  [(digitSettled, 20), (digitOpened, 21), (digitSettled, 22), (digitAccepted, 23)]

def otherOps : List WriterOp :=
  [.persistIntentReservationOutbox
      ⟨{ request.toOrderRequestFields with accountId := "CR200", correlationId := "corr-2" },
        by decide⟩
      ⟨{ command.toOrderCommandFields with
          messageId := "message-2", correlationId := "corr-2", intentId := "intent-2"
          orderId := "order-2", accountId := "CR200" }, by decide⟩
      "intent-2" "reservation-2" "order-2" 0 {},
    .claimNextMessage 1 none none]

/-- The other order is accepted by an event with the identifier of `settledEvent`. -/
def otherAccepted : BrokerOrderEvent :=
  ⟨hashed { eventFields "event-1" (some 1) .accepted none with
    accountId := "CR200", clientOrderRef := "order-2", correlationId := "corr-2" }, by decide⟩

end Sample

theorem shuffled_sample_settles :
    ∃ o' r, (Machine.run writerStep (Machine.run writerStep Database.empty Sample.digitOps)
        (deliveryOps Sample.shuffled)).orderById "order-1" = some o' ∧
      (Machine.run writerStep (Machine.run writerStep Database.empty Sample.digitOps)
        (deliveryOps Sample.shuffled)).reservation "intent-1" = some r ∧
      o'.state = .settled ∧ o'.realizedPnlMinor = some (-100) ∧ r.state = .released := by
  obtain ⟨o, ti, found, intent, named, state, stream⟩ : ∃ o ti,
      (Machine.run writerStep Database.empty Sample.digitOps).orderById "order-1" = some o ∧
      (Machine.run writerStep Database.empty Sample.digitOps).intent "intent-1" = some ti ∧
      (o.orderId = "order-1" ∧ o.intentId = "intent-1" ∧ ti.amount.currency = "USD") ∧
      o.state = .accepted ∧
      SettlingStream o ti [Sample.digitAccepted, Sample.digitOpened, Sample.digitSettled]
        Sample.digitSettled (-100) := by
    refine ⟨_, _, rfl, rfl, ⟨rfl, rfl, rfl⟩, rfl, ?_⟩
    constructor <;> decide
  obtain ⟨orderId, intentId, currency⟩ := named
  have members : ∀ d ∈ Sample.shuffled,
      d.1 ∈ [Sample.digitAccepted, Sample.digitOpened, Sample.digitSettled] := by decide
  obtain ⟨o', r, found', reserved, settled, pnl, -, released, -, -⟩ :=
    settlement_independent_of_delivery ⟨Sample.digitOps, rfl⟩ (orderId ▸ found) (intentId ▸ intent)
      (.inl state) (by rw [orderId]; decide) (fun _ => ⟨_, rfl, currency.symm⟩) stream (by decide)
      members (by decide)
  exact ⟨o', r, orderId ▸ found', intentId ▸ reserved, settled, pnl, released⟩

/-- The broker has used the identifier of the settlement for an event of another order.
    The settlement is then a conflict in the inbox, and the order never settles. -/
theorem recorded_identifier_blocks_settlement :
    ∃ db o ti, Reachable db ∧ db.orderById "order-1" = some o ∧ o.state = .accepted ∧
      db.intent o.intentId = some ti ∧
      (∀ e ∈ db.brokerOrderEvents.rows, e.orderId ≠ some o.orderId) ∧
      isDigitProduct ti.product = false ∧
      SettlingStream o ti [Sample.settledEvent] Sample.settledEvent 90 ∧
      ((Machine.run writerStep db (deliveryOps [(Sample.settledEvent, 20)])).orderById
        "order-1").map OrderRow.state = some .accepted := by
  refine ⟨Machine.run writerStep Database.empty (Sample.otherOps ++
    [.applyNormalizedBrokerEvent Sample.otherAccepted 5] ++ Sample.acceptOps), _, _, ⟨_, rfl⟩, rfl,
    rfl, rfl, by decide, by decide, ?_, by decide⟩
  constructor <;> decide

end TradingLab

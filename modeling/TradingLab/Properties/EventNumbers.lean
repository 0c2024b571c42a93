import TradingLab.Properties.SequenceDiscipline
import TradingLab.Workers.DerivContracts

/-!
# The numbers of the events of a contract

The Core refuses a number that it has seen or passed. The counter of the worker lives in the
tracking entry of the contract, which is lost in a restart and after a settlement; the entry that a
later message brings counts from 1 again.
-/
namespace TradingLab

open Machine (Always Guarded)
open DerivLiveOrderSession (onProposalOpenContractMessage contractOf Reports)
open Database

/-! ### What the inbox records -/

namespace Database

def recordedNumbers (db : Database) : List Int :=
  db.brokerOrderEvents.rows.filterMap fun e => e.event.externalSequence

variable {db db' : Database} {event : BrokerOrderEvent} {orderId : Option String}

theorem recordedNumbers_updateEvent {eventId : String} {f : EventRow → EventRow}
    {same : ∀ e, (f e).event = e.event} :
    (db.updateEvent eventId f same).recordedNumbers = db.recordedNumbers := by
  simp only [recordedNumbers, updateEvent, Relational.Table.rows_update, List.filterMap_map]
  refine List.filterMap_congr fun e _ => ?_
  rw [Function.comp_apply, Relational.Table.column_change same e]

theorem recordedNumbers_insert {status : BrokerEventApplyStatus}
    {reasonCode : Option String} {createdAt : Instant}
    (h : db.insertBrokerOrderEvent event orderId status reasonCode createdAt = .ok db') :
    db'.recordedNumbers = db.recordedNumbers ++ event.externalSequence.toList := by
  simp only [insertBrokerOrderEvent, Except.bind_ok_iff, orIntegrityError_eq_ok] at h
  obtain ⟨events, inserted, h⟩ := h
  cases h
  simp only [recordedNumbers, (Relational.Table.insert_eq_some_iff.mp inserted).2,
    List.filterMap_append]
  cases given : event.externalSequence <;> simp [given]

end Database

/-- **An event adds its number to the inbox, or nothing.** -/
theorem recordedNumbers_applyNormalizedBrokerEvent {db db' : Database} {event : BrokerOrderEvent}
    {receivedAt : Instant} {result : BrokerEventApplyResult}
    (h : applyNormalizedBrokerEvent event receivedAt db = .ok (result, db')) :
    db'.recordedNumbers = db.recordedNumbers ∨
      db'.recordedNumbers = db.recordedNumbers ++ event.externalSequence.toList := by
  cases applyNormalizedBrokerEvent_path h with
  | replayed answer =>
    -- An event id that is known is counted, not recorded again.
    left
    unfold replayEvent at answer
    split at answer <;> cases answer
    · rfl
    · exact recordedNumbers_updateEvent
  | recorded reason inserts => exact .inr (recordedNumbers_insert inserts)
  | refused inserts =>
    right
    rw [recordedNumbers_updateEvent, recordedNumbers_insert inserts]
  | applied fresh byId intent classified can effect settled =>
    obtain ⟨_, rfl⟩ := settleDigitEvent_frame settled
    have numbers := recordedNumbers_insert effect.inserts
    exact .inr numbers

theorem recordedNumbers_writerStep {db : Database} {op : WriterOp}
    (other : op.brokerOrderEvent = none) :
    (writerStep db op).recordedNumbers = db.recordedNumbers := by
  refine Machine.transact_cases (fun next : Database => next.recordedNumbers = db.recordedNumbers)
    rfl ?_
  intro _ db' committed
  have events : db'.brokerOrderEvents = db.brokerOrderEvents := by
    cases new : op.newCommand with
    | none => exact congrArg Prod.fst (op.sequenceView_eq new other committed)
    | some command =>
      cases op <;> first
        | (have created : Creates db db' := ⟨_, _, _, _, _, _, _, committed⟩
           obtain ⟨_, _, view⟩ := sequenceView_creates created
           exact congrArg Prod.fst view)
        | cases new
  rw [Database.recordedNumbers, events]
  rfl

/-! ### Why a number is refused -/

def numberRefusals : List String :=
  ["BROKER_EVENT_SEQUENCE_CONFLICT", "BROKER_EVENT_LATE"]

/-- A SETTLED event is refused for its number while its order is not terminal. -/
def refusedForNumber (db : Database) (event : BrokerOrderEvent)
    (result : BrokerEventApplyResult) : Bool :=
  event.externalStatus == .settled &&
    ((db.orderById event.clientOrderRef).any fun o => !o.state.isTerminal) &&
    result.reasonCode.any numberRefusals.contains

section Refusal
variable {db db' : Database} {event : BrokerOrderEvent} {row : OrderRow} {ti : IntentRow}
  {reason : String}

theorem firstMismatch_mem {checks : List (Bool × String)}
    (found : firstMismatch checks = some reason) : reason ∈ checks.map Prod.snd := by
  induction checks with
  | nil => cases found
  | cons check rest ih =>
    obtain ⟨same, own⟩ := check
    unfold firstMismatch at found
    split at found
    · exact List.mem_cons_of_mem _ (ih found)
    · cases found
      exact List.mem_cons_self

theorem brokerEventMatchingConflict_not_number
    (found : brokerEventMatchingConflict row ti event = some reason) :
    reason ∉ numberRefusals := by
  have member := firstMismatch_mem found
  simp only [List.map_cons, List.map_nil, List.mem_cons, List.not_mem_nil, or_false] at member
  rcases member with rfl | rfl | rfl | rfl | rfl | rfl | rfl | rfl | rfl | rfl <;> decide

theorem sequenceReused_of_above
    (above : ∀ m ∈ db.recordedNumbers, ∀ n, event.externalSequence = some n → m < n)
    (orderId : String) : db.sequenceReused orderId event = false := by
  unfold sequenceReused
  cases given : event.externalSequence with
  | none => rfl
  | some n =>
    refine List.any_eq_false.mpr fun e member reused => ?_
    simp only [Bool.and_eq_true, beq_iff_eq] at reused
    have recorded : n ∈ db.recordedNumbers := List.mem_filterMap.mpr ⟨e, member, reused.2⟩
    exact absurd (above n recorded n given) (lt_irrefl n)

theorem isLate_of_above (disciplined : db.Disciplined) (member : row ∈ db.orders.rows)
    (above : ∀ m ∈ db.recordedNumbers, ∀ n, event.externalSequence = some n → m < n) :
    isLate row event .settled = false := by
  have latest := disciplined.latest row member
  have notAccepted : (OrderState.settled == .accepted) = false := rfl
  cases given : event.externalSequence with
  | none => simp [isLate, given, notAccepted]
  | some n =>
    cases last : row.lastExternalSequence with
    | none => simp [isLate, given, last, notAccepted]
    | some previous =>
      rw [last] at latest
      obtain ⟨e, applied, number⟩ := List.mem_filterMap.mp (List.max?_mem latest.symm)
      have recorded : previous ∈ db.recordedNumbers :=
        List.mem_filterMap.mpr ⟨e, (List.mem_filter.mp applied).1, number⟩
      have less := above previous recorded n given
      simp only [isLate, given, last, notAccepted, Bool.and_false, Bool.or_false,
        decide_eq_false_iff_not]
      omega

/-- **A number above all those recorded is not refused.** -/
theorem refusedForNumber_of_above (disciplined : db.Disciplined) {receivedAt : Instant}
    {result : BrokerEventApplyResult}
    (above : ∀ m ∈ db.recordedNumbers, ∀ n, event.externalSequence = some n → m < n)
    (h : applyNormalizedBrokerEvent event receivedAt db = .ok (result, db')) :
    refusedForNumber db event result = false := by
  by_contra refused
  simp only [refusedForNumber, Bool.not_eq_false, Bool.and_eq_true, beq_iff_eq,
    Option.any_eq_true, Bool.not_eq_true', List.contains_iff_mem] at refused
  obtain ⟨⟨settled, row, byId, live⟩, reason, given, number⟩ := refused
  cases applyNormalizedBrokerEvent_path h with
  | replayed answer =>
    unfold replayEvent at answer
    split at answer <;> cases answer <;> cases given
    exact absurd number (by decide)
  | recorded answer inserts =>
    rcases answer with rfl | ⟨row', ti, byId', classified⟩
    · cases given
      exact absurd number (by decide)
    rw [byId] at byId'
    cases byId'
    have member := (orderById_eq_some_iff.mp byId).1
    -- The order is open and the number is new: only a mismatch can still be in the way.
    have onTime := isLate_of_above disciplined member above
    unfold classifyEvent at classified
    cases mismatched : brokerEventMatchingConflict row ti event with
    | some mismatch =>
      rw [mismatched] at classified
      cases classified
      cases given
      exact brokerEventMatchingConflict_not_number mismatched number
    | none =>
      simp [mismatched, sequenceReused_of_above above, settled, orderStateForExternalStatus,
        terminalBrokerEventResult, live, onTime] at classified
  | refused inserts =>
    cases given
    exact absurd number (by decide)
  | applied =>
    unfold appliedReason at given
    split at given <;> cases given
    exact absurd number (by decide)

end Refusal

/-! ### The worker and the Core -/

/-- The worker's session and the Core's database, with the numbers emitted so far. -/
structure ContractFeed where
  session : DerivLiveOrderSession
  db : Database
  emitted : List Int
  refused : Bool

inductive ContractStep
  | message (raw : Fields) (now : Instant) (eventId : String)
  /-- The worker starts again: what it tracked and what it had queued is gone. -/
  | restart
  | forward (receivedAt : Instant)
  | core (op : WriterOp)

namespace ContractFeed

def start (session : DerivLiveOrderSession) (db : Database) : ContractFeed :=
  ⟨session, db, [], false⟩

def deliver (feed : ContractFeed) (event : BrokerOrderEvent) (receivedAt : Instant) :
    ContractFeed :=
  match applyNormalizedBrokerEvent event receivedAt feed.db with
  | .error _ => feed
  | .ok (result, db) =>
    { feed with
      db := db
      refused := feed.refused || refusedForNumber feed.db event result }

def step (feed : ContractFeed) : ContractStep → ContractFeed
  | .message raw now eventId =>
    match onProposalOpenContractMessage raw now eventId feed.session with
    | (.ok (some event), session) =>
      { feed with
        session := session
        emitted := feed.emitted ++ event.externalSequence.toList }
    | (_, session) => { feed with session := session }
  | .restart =>
    { feed with
      session := .started feed.session.accountId feed.session.events.capacity }
  | .forward receivedAt =>
    let moved := { feed with session := feed.session.nextQueuedEvent.2 }
    match feed.session.nextQueuedEvent.1 with
    | none => moved
    | some event => moved.deliver event receivedAt
  | .core op => { feed with db := writerStep feed.db op }

/-- The steps of one contract: every message is about it, and no other event reaches the Core. -/
def About (contractId : String) : ContractStep → Prop
  | .message raw _ _ => ∀ poc id, contractOf raw = some (poc, id) → id = contractId
  | .core op => op.brokerOrderEvent = none
  | _ => True

structure Numbered (feed : ContractFeed) : Prop where
  rising : feed.emitted.Pairwise (· < ·)
  accepted : feed.refused = false

/-- A message that emits an event continues an entry whose counter has reached every number
    emitted so far. -/
def CountsOn (feed : ContractFeed) : ContractStep → Prop
  | .message raw now eventId => ∀ poc contractId tracked event session,
      contractOf raw = some (poc, contractId) →
      feed.session.Continues raw poc contractId now tracked →
      onProposalOpenContractMessage raw now eventId feed.session = (.ok (some event), session) →
      ∀ n ∈ feed.emitted, n ≤ tracked.sequenceCounter
  | _ => True

/-! ### The invariant -/

def queuedNumbers (session : DerivLiveOrderSession) : List Int :=
  session.events.items.filterMap fun event => event.externalSequence

/-- The numbers that have reached the inbox, and then those that are on their way. -/
def travelled (feed : ContractFeed) : List Int :=
  feed.db.recordedNumbers ++ queuedNumbers feed.session

structure InStep (feed : ContractFeed) : Prop where
  numbered : feed.Numbered
  disciplined : feed.db.Disciplined
  travelled : feed.travelled.Sublist feed.emitted

variable {feed : ContractFeed} {raw poc : Fields} {contractId eventId : String}
  {tracked : TrackedDerivOrder} {event : BrokerOrderEvent}

theorem InStep.start {session : DerivLiveOrderSession} {db : Database}
    (empty : session.events.items = []) (unsequenced : db.Unsequenced) :
    (start session db).InStep := by
  refine ⟨⟨List.Pairwise.nil, rfl⟩, unsequenced.disciplined, ?_⟩
  have none : (ContractFeed.start session db).travelled = [] := by
    simp [ContractFeed.travelled, ContractFeed.start, queuedNumbers, Database.recordedNumbers,
      empty, unsequenced.1]
  rw [none]
  exact List.nil_sublist _

theorem emitted_step {now : Instant} {session : DerivLiveOrderSession}
    (ends : onProposalOpenContractMessage raw now eventId feed.session =
      (.ok (some event), session))
    (reports : Reports poc contractId tracked event feed.session session) :
    (feed.step (.message raw now eventId)).emitted =
      feed.emitted ++ [((tracked.sequenceCounter + 1 : Nat) : Int)] := by
  simp only [step, ends, reports.sequence, Option.toList_some]

theorem travelled_message {now : Instant} {session : DerivLiveOrderSession}
    (ends : onProposalOpenContractMessage raw now eventId feed.session =
      (.ok (some event), session))
    (reports : Reports poc contractId tracked event feed.session session) :
    (feed.step (.message raw now eventId)).travelled = feed.travelled ∨
      (feed.step (.message raw now eventId)).travelled =
        feed.travelled ++ [((tracked.sequenceCounter + 1 : Nat) : Int)] := by
  simp only [travelled, step, ends, queuedNumbers, reports.queued]
  rcases feed.session.events.items_put event with dropped | queued
  · rw [dropped]
    exact .inl rfl
  · rw [queued, List.filterMap_append, ← List.append_assoc]
    exact .inr (by simp [reports.sequence])

theorem pairwise_concat_iff {numbers : List Int} {n : Int} :
    (numbers ++ [n]).Pairwise (· < ·) ↔ numbers.Pairwise (· < ·) ∧ ∀ m ∈ numbers, m < n := by
  simp [List.pairwise_append]

theorem InStep.message (inStep : feed.InStep) {now : Instant}
    (counts : feed.CountsOn (.message raw now eventId)) :
    (feed.step (.message raw now eventId)).InStep := by
  rcases feed.session.onProposalOpenContractMessage_cases raw now eventId with
    ⟨ends, -⟩ | ⟨error, after, raises, events⟩ |
    ⟨poc, id, tracked, event, after, named, continues, ends, reports⟩
  · have same : feed.step (.message raw now eventId) = feed := by simp only [step, ends]
    rw [same]
    exact inStep
  · -- A message that raises leaves the queue alone.
    have same : feed.step (.message raw now eventId) = { feed with session := after } := by
      simp only [step, raises]
    rw [same]
    refine ⟨⟨inStep.numbered.rising, inStep.numbered.accepted⟩, inStep.disciplined, ?_⟩
    have numbers : queuedNumbers after = queuedNumbers feed.session := by
      rw [queuedNumbers, events]
      rfl
    rw [ContractFeed.travelled, numbers]
    exact inStep.travelled
  · have reached := counts poc id tracked event after named continues ends
    have emitted := emitted_step ends reports
    refine ⟨⟨?_, ?_⟩, ?_, ?_⟩
    · rw [emitted, pairwise_concat_iff]
      refine ⟨inStep.numbered.rising, fun m member => ?_⟩
      have := reached m member
      omega
    · simpa only [step, ends] using inStep.numbered.accepted
    · simpa only [step, ends] using inStep.disciplined
    · rw [emitted]
      rcases travelled_message ends reports with same | more
      · rw [same]
        exact inStep.travelled.trans (List.sublist_append_left _ _)
      · rw [more]
        exact inStep.travelled.append (List.Sublist.refl _)

theorem InStep.deliver {receivedAt : Instant}
    (numbered : feed.Numbered) (disciplined : feed.db.Disciplined)
    (travelled : (feed.db.recordedNumbers ++ (event.externalSequence.toList ++
      queuedNumbers feed.session)).Sublist feed.emitted) :
    (feed.deliver event receivedAt).InStep := by
  -- Without the number of the event the rest is still in order.
  have shorter : feed.travelled.Sublist feed.emitted :=
    ((List.Sublist.refl _).append (List.sublist_append_right _ _)).trans travelled
  unfold ContractFeed.deliver
  split
  · exact ⟨numbered, disciplined, shorter⟩
  · rename_i result db applied
    have above : ∀ m ∈ feed.db.recordedNumbers, ∀ n, event.externalSequence = some n → m < n := by
      intro m member n given
      have rising := numbered.rising.sublist travelled
      refine (List.pairwise_append.mp rising).2.2 m member n (List.mem_append_left _ ?_)
      exact Option.mem_toList.mpr given
    refine ⟨⟨numbered.rising, ?_⟩, (disciplined.event applied).1, ?_⟩
    · rw [Bool.or_eq_false_iff]
      exact ⟨numbered.accepted, refusedForNumber_of_above disciplined above applied⟩
    · rcases recordedNumbers_applyNormalizedBrokerEvent applied with same | more
      · rw [ContractFeed.travelled, same]
        exact shorter
      · rw [ContractFeed.travelled, more, List.append_assoc]
        exact travelled

theorem InStep.forward (inStep : feed.InStep) (receivedAt : Instant) :
    (feed.step (.forward receivedAt)).InStep := by
  have moved := feed.session.events.take_items
  have numbers : queuedNumbers feed.session =
      (feed.session.nextQueuedEvent.1.bind fun event => event.externalSequence).toList ++
        queuedNumbers feed.session.nextQueuedEvent.2 := by
    simp only [queuedNumbers, DerivLiveOrderSession.nextQueuedEvent]
    rw [← moved, List.filterMap_append]
    congr 1
    cases feed.session.events.take.1 with
    | none => rfl
    | some event => cases given : event.externalSequence <;> simp [given]
  have travelled := inStep.travelled
  rw [ContractFeed.travelled, numbers] at travelled
  simp only [step]
  cases taken : feed.session.nextQueuedEvent.1 with
  | none =>
    rw [taken] at travelled
    exact ⟨⟨inStep.numbered.rising, inStep.numbered.accepted⟩, inStep.disciplined, travelled⟩
  | some event =>
    rw [taken] at travelled
    exact InStep.deliver ⟨inStep.numbered.rising, inStep.numbered.accepted⟩ inStep.disciplined
      travelled

theorem InStep.step (inStep : feed.InStep) {step : ContractStep}
    (about : About contractId step) (counts : feed.CountsOn step) : (feed.step step).InStep := by
  cases step with
  | message raw now eventId => exact inStep.message counts
  | restart =>
    refine ⟨⟨inStep.numbered.rising, inStep.numbered.accepted⟩, inStep.disciplined, ?_⟩
    have recorded : (List.Sublist feed.db.recordedNumbers feed.travelled) :=
      List.sublist_append_left _ _
    have gone : (feed.step .restart).travelled = feed.db.recordedNumbers := List.append_nil _
    rw [gone]
    exact recorded.trans inStep.travelled
  | forward receivedAt => exact inStep.forward receivedAt
  | core op =>
    refine ⟨⟨inStep.numbered.rising, inStep.numbered.accepted⟩,
      (inStep.disciplined.writerStep op).1, ?_⟩
    have same : (feed.step (.core op)).travelled = feed.travelled := by
      simp only [ContractFeed.travelled, ContractFeed.step, recordedNumbers_writerStep about]
    rw [same]
    exact inStep.travelled

theorem countsOn_of_numbered {step : ContractStep} (numbered : (feed.step step).Numbered) :
    feed.CountsOn step := by
  cases step with
  | restart => trivial
  | forward _ => trivial
  | core _ => trivial
  | message raw now eventId =>
    intro poc contractId tracked event session named continues ends n member
    rcases feed.session.onProposalOpenContractMessage_cases raw now eventId with
      ⟨ends', -⟩ | ⟨error, after, ends', -⟩ |
      ⟨poc', id', tracked', event', after, named', continues', ends', reports⟩
    · rw [ends] at ends'
      cases ends'
    · rw [ends] at ends'
      cases ends'
    · rw [ends] at ends'
      cases ends'
      rw [named] at named'
      cases named'
      cases continues.unique continues'
      have rising := numbered.rising
      rw [emitted_step ends reports, pairwise_concat_iff] at rising
      have := rising.2 n member
      omega

end ContractFeed

namespace Sample

def contractMessage (settled : Bool) : Fields :=
  [("msg_type", .str "proposal_open_contract"),
    ("proposal_open_contract", .obj
      [("contract_id", .str "contract-1"), ("status", .str (if settled then "won" else "open")),
        ("is_sold", .int (if settled then 1 else 0)), ("underlying", .str "R_100"),
        ("contract_type", .str "DIGITEVEN"), ("buy_price", .int 1), ("currency", .str "USD"),
        ("profit", .int 1), ("exit_tick", .str "100.24")]),
    ("passthrough", .obj
      [("order_id", .str "order-1"), ("correlation_id", .str "corr-1")])]

def restartedSteps : List ContractStep :=
  digitOps.map .core ++
    [.message (contractMessage false) 10 "event-1", .forward 11, .restart,
      .message (contractMessage true) 20 "event-2", .forward 21]

def restartedFeed : ContractFeed :=
  Machine.run ContractFeed.step (.start (.started "CR100" 128) Database.empty) restartedSteps

theorem restartedSteps_about : ∀ step ∈ restartedSteps,
    ContractFeed.About "contract-1" step := by
  intro step member
  have about : ∀ settled poc id, contractOf (contractMessage settled) = some (poc, id) →
      id = "contract-1" := by
    intro settled poc id named
    cases settled <;> exact (Prod.mk.inj (Option.some.inj named)).2.symm
  simp only [restartedSteps, digitOps, List.map_cons, List.map_nil, List.cons_append,
    List.nil_append, List.mem_cons, List.not_mem_nil, or_false] at member
  rcases member with rfl | rfl | rfl | rfl | rfl | rfl | rfl | rfl | rfl
  case inr.inr.inr.inr.inl => exact about false
  case inr.inr.inr.inr.inr.inr.inr.inl => exact about true
  all_goals first | rfl | trivial

end Sample

end TradingLab

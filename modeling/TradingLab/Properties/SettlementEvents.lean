import TradingLab.Workers.DerivContracts

/-!
# The events of settled contracts

A session puts the event of a settled contract into its queue and then stops tracking the contract.
The queue is bounded, and an event that finds it full is dropped without a word.
-/
namespace TradingLab

open Machine (Always Guarded)
open DerivLiveOrderSession (onProposalOpenContractMessage contractOf isSettled Reports)

/-- A session, with what has been emitted, returned and settled so far. -/
structure EventFeed where
  session : DerivLiveOrderSession
  emitted : List BrokerOrderEvent
  returned : List BrokerOrderEvent
  /-- The contracts whose settled message was processed without raising. -/
  settled : List String

inductive FeedStep
  | message (raw : Fields) (now : Instant) (eventId : String)
  | nextQueuedEvent

def settledContract (raw : Fields) : Option String :=
  match contractOf raw with
  | none => none
  | some (poc, contractId) =>
    match isSettled poc with
    | .ok true => some contractId
    | _ => none

theorem settledContract_eq_some_iff {raw : Fields} {contractId : String} :
    settledContract raw = some contractId ↔
      ∃ poc, contractOf raw = some (poc, contractId) ∧ isSettled poc = .ok true := by
  unfold settledContract
  cases contractOf raw with
  | none => simp
  | some pair =>
    obtain ⟨poc, id⟩ := pair
    match settles : isSettled poc with
    | .ok true => simp [settles]
    | .ok false => simp [settles]
    | .error _ => simp [settles]

namespace EventFeed

def start (session : DerivLiveOrderSession) : EventFeed where
  session := session
  emitted := session.events.items
  returned := []
  settled := []

def step (feed : EventFeed) : FeedStep → EventFeed
  | .message raw now eventId =>
    match onProposalOpenContractMessage raw now eventId feed.session with
    | (.error _, session) => { feed with session := session }
    | (.ok event, session) =>
      { feed with
        session := session
        emitted := feed.emitted ++ event.toList
        settled := feed.settled ++ (settledContract raw).toList }
  | .nextQueuedEvent =>
    { feed with
      session := feed.session.nextQueuedEvent.2
      returned := feed.returned ++ feed.session.nextQueuedEvent.1.toList }

/-- What has left the queue, and then what is still in it. -/
def accepted (feed : EventFeed) : List BrokerOrderEvent :=
  feed.returned ++ feed.session.events.items

/-- The settlement of the contract has been returned or waits in the queue. -/
def Announced (feed : EventFeed) (contractId : String) : Prop :=
  ∃ event ∈ feed.accepted, event.brokerOrderId = contractId ∧ event.externalStatus = .settled

def Tracks (feed : EventFeed) (contractId : String) : Prop :=
  (findEntry feed.session.tracked contractId).isSome

structure NothingLost (feed : EventFeed) : Prop where
  settled : ∀ contractId ∈ feed.settled, feed.Announced contractId ∨ feed.Tracks contractId
  inOrder : feed.accepted.Sublist feed.emitted

/-- A message that settles a contract without raising comes about a contract that the session
    tracks, or can track from the message, and finds room in the queue; unless the settlement of
    the contract was announced before. -/
def TakesSettlement (feed : EventFeed) : FeedStep → Prop
  | .message raw now eventId =>
    ∀ poc contractId, contractOf raw = some (poc, contractId) → isSettled poc = .ok true →
      ∀ answer session, onProposalOpenContractMessage raw now eventId feed.session =
          (.ok answer, session) →
        feed.Announced contractId ∨
          (∃ tracked, feed.session.Continues raw poc contractId now tracked) ∧
            feed.session.events.isFull = false
  | .nextQueuedEvent => True

/-! ### One step -/

variable {feed : EventFeed} {raw : Fields} {now : Instant} {eventId : String}

section Message
variable {session : DerivLiveOrderSession}

theorem step_raised {error : DerivException}
    (raises : onProposalOpenContractMessage raw now eventId feed.session =
      (.error error, session)) :
    feed.step (.message raw now eventId) = { feed with session := session } := by
  simp only [step, raises]

theorem step_answered {answer : Option BrokerOrderEvent}
    (ends : onProposalOpenContractMessage raw now eventId feed.session = (.ok answer, session)) :
    feed.step (.message raw now eventId) =
      { feed with
        session := session
        emitted := feed.emitted ++ answer.toList
        settled := feed.settled ++ (settledContract raw).toList } := by
  simp only [step, ends]

end Message

theorem accepted_nextQueuedEvent (feed : EventFeed) :
    (feed.step .nextQueuedEvent).accepted = feed.accepted := by
  have moved := feed.session.events.take_items
  simp only [accepted, step, DerivLiveOrderSession.nextQueuedEvent, List.append_assoc, moved]

theorem mem_accepted_step {event : BrokerOrderEvent} (member : event ∈ feed.accepted)
    (step : FeedStep) : event ∈ (feed.step step).accepted := by
  cases step with
  | nextQueuedEvent =>
    rw [accepted_nextQueuedEvent]
    exact member
  | message raw now eventId =>
    rcases feed.session.onProposalOpenContractMessage_cases raw now eventId with
      ⟨ends, -⟩ | ⟨error, after, raises, events⟩ | ⟨poc, id, tracked, new, after, -, -, ends,
        reports⟩
    · rw [step_answered ends]
      exact member
    · rw [step_raised raises, accepted, events]
      exact member
    · rw [step_answered ends, accepted, reports.queued]
      rcases List.mem_append.mp member with earlier | waiting
      · exact List.mem_append_left _ earlier
      · exact List.mem_append_right _ (Machine.BoundedQueue.mem_put_of_mem waiting)

theorem Announced.step {contractId : String} (announced : feed.Announced contractId)
    (step : FeedStep) : (feed.step step).Announced contractId := by
  obtain ⟨event, member, about⟩ := announced
  exact ⟨event, mem_accepted_step member step, about⟩

/-- **Events leave the queue once and in the order of emission.** -/
theorem inOrder_step (inOrder : feed.accepted.Sublist feed.emitted) (step : FeedStep) :
    (feed.step step).accepted.Sublist (feed.step step).emitted := by
  cases step with
  | nextQueuedEvent =>
    rw [accepted_nextQueuedEvent]
    exact inOrder
  | message raw now eventId =>
    rcases feed.session.onProposalOpenContractMessage_cases raw now eventId with
      ⟨ends, -⟩ | ⟨error, after, raises, events⟩ | ⟨poc, id, tracked, new, after, -, -, ends,
        reports⟩
    · rw [step_answered ends]
      simpa [accepted] using inOrder
    · rw [step_raised raises, accepted, events]
      exact inOrder
    · rw [step_answered ends, accepted, reports.queued]
      -- The new event is the last one emitted, and the last one queued if there is room.
      rcases feed.session.events.items_put new with dropped | queued
      · rw [dropped]
        exact inOrder.trans (List.sublist_append_left _ _)
      · rw [queued, ← List.append_assoc]
        exact inOrder.append (List.Sublist.refl _)

structure AllAnnounced (feed : EventFeed) : Prop where
  settled : ∀ contractId ∈ feed.settled, feed.Announced contractId
  inOrder : feed.accepted.Sublist feed.emitted

theorem AllAnnounced.nothingLost (all : feed.AllAnnounced) : feed.NothingLost :=
  ⟨fun contractId member => .inl (all.settled contractId member), all.inOrder⟩

theorem AllAnnounced.step (all : feed.AllAnnounced) {step : FeedStep}
    (takes : feed.TakesSettlement step) : (feed.step step).AllAnnounced := by
  refine ⟨?_, inOrder_step all.inOrder step⟩
  cases step with
  | nextQueuedEvent => exact fun contractId member => (all.settled contractId member).step _
  | message raw now eventId =>
    intro contractId member
    -- Either the contract was settled before, or this message settles it.
    cases ends : onProposalOpenContractMessage raw now eventId feed.session with
    | mk outcome session =>
      cases outcome with
      | error error =>
        rw [step_raised ends] at member
        exact (all.settled contractId member).step _
      | ok answer =>
        rw [step_answered ends] at member
        rcases List.mem_append.mp member with earlier | new
        · exact (all.settled contractId earlier).step _
        obtain ⟨poc, named, settles⟩ := settledContract_eq_some_iff.mp (Option.mem_toList.mp new)
        rcases takes poc contractId named settles answer session ends with
          announced | ⟨⟨tracked, continues⟩, room⟩
        · exact announced.step _
        rcases feed.session.onProposalOpenContractMessage_cases raw now eventId with
          ⟨-, untracked⟩ | ⟨error, after, raises, -⟩ |
          ⟨poc', id', tracked', event, after, named', -, ends', reports⟩
        · exact absurd continues (untracked poc contractId named tracked)
        · rw [ends] at raises
          cases raises
        · rw [ends] at ends'
          cases ends'
          rw [named] at named'
          cases named'
          refine ⟨event, ?_, reports.contract, reports.status.mpr settles⟩
          rw [step_answered ends, accepted, reports.queued,
            Machine.BoundedQueue.items_put_of_room room]
          simp

theorem takesSettlement_of_nothingLost {step : FeedStep}
    (kept : (feed.step step).NothingLost) : feed.TakesSettlement step := by
  cases step with
  | nextQueuedEvent => trivial
  | message raw now eventId =>
    intro poc contractId named settles answer session ends
    have settled : contractId ∈ (feed.step (.message raw now eventId)).settled := by
      rw [step_answered ends]
      exact List.mem_append_right _
        (Option.mem_toList.mpr (settledContract_eq_some_iff.mpr ⟨poc, named, settles⟩))
    have accounted := kept.settled contractId settled
    rw [step_answered ends] at accounted
    rcases feed.session.onProposalOpenContractMessage_cases raw now eventId with
      ⟨ignores, untracked⟩ | ⟨error, after, raises, -⟩ |
      ⟨poc', id', tracked, event, after, named', continues, ends', reports⟩
    · -- The contract is unknown, so nothing has changed.
      rw [ends] at ignores
      cases ignores
      rcases accounted with announced | tracks
      · exact .inl announced
      · obtain ⟨tracked, found⟩ := Option.isSome_iff_exists.mp tracks
        exact absurd (.inl found) (untracked poc contractId named tracked)
    · rw [ends] at raises
      cases raises
    · rw [ends] at ends'
      cases ends'
      rw [named] at named'
      cases named'
      cases full : feed.session.events.isFull with
      | false => exact .inr ⟨⟨tracked, continues⟩, rfl⟩
      | true =>
        -- The event was dropped and the contract is no longer tracked.
        rcases accounted with ⟨announcement, member, about⟩ | tracks
        · refine .inl ⟨announcement, ?_, about⟩
          rwa [accepted, reports.queued, Machine.BoundedQueue.put_of_full full] at member
        · rw [Tracks, reports.untracked settles] at tracks
          cases tracks

theorem allAnnounced_start (session : DerivLiveOrderSession) : (start session).AllAnnounced :=
  ⟨fun _ member => absurd member List.not_mem_nil, List.Sublist.refl _⟩

end EventFeed

/-- **Settlements are not lost, if the queue has room for them**, and the events leave the queue at
    most once and in the order of emission. -/
theorem settlement_events_kept_iff (session : DerivLiveOrderSession) (steps : List FeedStep) :
    Always EventFeed.step EventFeed.NothingLost (EventFeed.start session) steps ↔
      Guarded EventFeed.step EventFeed.TakesSettlement (EventFeed.start session) steps := by
  have any : ∀ step ∈ steps, (fun _ : FeedStep => True) step := fun _ _ => trivial
  exact Machine.always_iff_guarded (fun _ all => all.nothingLost)
    (fun _ _ all _ takes => all.step takes)
    (fun _ _ _ _ kept => EventFeed.takesSettlement_of_nothingLost kept)
    (EventFeed.allAnnounced_start session) any

/-! ### Two settlements and a queue for one -/

namespace Sample

def settledMessage (contractId : Int) (orderId : String) : Fields :=
  [("msg_type", .str "proposal_open_contract"),
    ("proposal_open_contract", .obj
      [("contract_id", .int contractId), ("status", .str "won"), ("is_sold", .int 1),
        ("underlying", .str "R_100"), ("contract_type", .str "CALL"), ("buy_price", .int 1),
        ("currency", .str "USD"), ("profit", .int 1)]),
    ("passthrough", .obj
      [("order_id", .str orderId), ("correlation_id", .str ("correlation-" ++ orderId))])]

def twoSettlements : List FeedStep :=
  [.message (settledMessage 11 "order-1") 1700000000000000 "event-1",
    .message (settledMessage 12 "order-2") 1700000001000000 "event-2"]

def crowdedFeed : EventFeed :=
  Machine.run EventFeed.step (.start (.started "VRTC1" 1)) twoSettlements

end Sample

/-- The second settlement is processed without raising while the first one fills the queue: its
    event is neither returned nor queued, and the contract is not tracked any more. -/
theorem second_settlement_lost : ¬ Sample.crowdedFeed.NothingLost ∧
    Sample.crowdedFeed.settled = ["11", "12"] ∧
    Sample.crowdedFeed.emitted.map (·.brokerOrderId) = ["11", "12"] ∧
    Sample.crowdedFeed.accepted.map (·.brokerOrderId) = ["11"] := by
  have settled : Sample.crowdedFeed.settled = ["11", "12"] := by decide
  have accepted : Sample.crowdedFeed.accepted.map (·.brokerOrderId) = ["11"] := by decide
  have untracked : (findEntry Sample.crowdedFeed.session.tracked "12").isSome = false := by
    decide
  refine ⟨fun kept => ?_, settled, by decide, accepted⟩
  rcases kept.settled "12" (by rw [settled]; decide) with ⟨event, member, about, -⟩ | tracks
  · have here : "12" ∈ Sample.crowdedFeed.accepted.map (·.brokerOrderId) :=
      List.mem_map.mpr ⟨event, member, about⟩
    rw [accepted] at here
    exact absurd here (by decide)
  · rw [EventFeed.Tracks, untracked] at tracks
    cases tracks

end TradingLab

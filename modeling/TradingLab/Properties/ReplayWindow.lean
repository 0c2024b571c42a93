import TradingLab.Core.ReplayGuard
import TradingLab.Relational.Recency

/-!
# The window of the replay guard

A message counts each time the guard lets it pass: as a new one, or as a repetition. The cache read
backwards is the window of the latest messages that have passed (`Tracks`), so what `observe`
answers is decided by that window.
-/
namespace TradingLab

open Machine Relational
open Relational.Dict

structure Watched where
  guard : MessageReplayGuard
  passed : List Envelope

namespace Watched

def observe (watched : Watched) (envelope : Envelope) : Watched :=
  match MessageReplayGuard.observe envelope watched.guard with
  | (.ok _, later) => ⟨later, watched.passed ++ [envelope]⟩
  | (.error _, later) => ⟨later, watched.passed⟩

def messages (watched : Watched) : List String :=
  watched.passed.map fun envelope => envelope.messageId

theorem capacity_observe (watched : Watched) (envelope : Envelope) :
    (watched.observe envelope).guard.capacity = watched.guard.capacity := by
  unfold observe MessageReplayGuard.observe
  cases encodeEnvelope envelope.toEnvelopeFields with
  | error error => rfl
  | ok digest =>
    cases watched.guard.digests.get? envelope.messageId with
    | none => rfl
    | some previous =>
      by_cases same : previous = digest <;> simp [same]

def last (watched : Watched) (messageId : String) : Option Envelope :=
  watched.passed.reverse.find? fun envelope => envelope.messageId == messageId

end Watched

def Envelope.content (envelope : Envelope) : Except ProtocolError JsonText :=
  encodeEnvelope envelope.toEnvelopeFields

/-- The cache is the window of the messages that have passed, each with its last content. -/
structure Tracks (watched : Watched) : Prop where
  window : watched.guard.digests.keys.reverse = recent watched.guard.capacity watched.messages
  content : ∀ entry ∈ watched.guard.digests,
    (watched.last entry.1).map Envelope.content = some (.ok entry.2)

namespace Tracks

variable {watched : Watched} {envelope : Envelope} {digest : JsonText}

theorem start (capacity : Nat) : Tracks ⟨⟨capacity, []⟩, []⟩ where
  window := List.take_nil.symm
  content _ member := nomatch member

theorem length_le (tracks : Tracks watched) :
    watched.guard.digests.length ≤ watched.guard.capacity := by
  have length := congrArg List.length tracks.window
  rw [List.length_reverse, recent, List.length_take, keys, List.length_map] at length
  omega

theorem mem_window (tracks : Tracks watched) {messageId : String} :
    messageId ∈ recent watched.guard.capacity watched.messages ↔
      messageId ∈ watched.guard.digests.keys := by
  rw [← tracks.window, List.mem_reverse]

theorem last_append (guard later : MessageReplayGuard) (passed : List Envelope)
    (messageId : String) :
    Watched.last ⟨later, passed ++ [envelope]⟩ messageId =
      if envelope.messageId = messageId then some envelope
      else Watched.last ⟨guard, passed⟩ messageId := by
  by_cases same : envelope.messageId = messageId <;> simp [Watched.last, same]

theorem recent_append (capacity : Nat) (passed : List Envelope) :
    recent capacity ((passed ++ [envelope]).map fun e => e.messageId) =
      (touch (recency (passed.map fun e => e.messageId)) envelope.messageId).take capacity := by
  rw [recent, List.map_append, List.map_singleton, recency_append_singleton]

section

variable (tracks : Tracks watched)
include tracks

theorem store (read : envelope.content = .ok digest)
    (absent : watched.guard.digests.get? envelope.messageId = none) :
    Tracks ⟨{ watched.guard with digests := watched.guard.store envelope.messageId digest },
      watched.passed ++ [envelope]⟩ := by
  obtain ⟨⟨capacity, digests⟩, passed⟩ := watched
  have fits := tracks.length_le
  have outside : envelope.messageId ∉ recent capacity (passed.map fun e => e.messageId) :=
    fun inside => get?_eq_none_iff.mp absent (tracks.mem_window.mp inside)
  simp only [MessageReplayGuard.store, put_of_absent absent, List.length_append,
    List.length_singleton] at fits ⊢
  constructor
  · simp only [Watched.messages, recent_append]
    rw [take_touch_of_notMem outside]
    have window : (recency (passed.map fun e => e.messageId)).take capacity =
      (keys digests).reverse := tracks.window.symm
    have length : (keys digests).length = digests.length := List.length_map _
    rw [window]
    by_cases full : digests.length + 1 > capacity
    · have dropped : (envelope.messageId :: (keys digests).reverse).take capacity =
          (envelope.messageId :: (keys digests).reverse).dropLast := by
        rw [List.dropLast_eq_take, List.length_cons, List.length_reverse, length]
        congr 1
        omega
      rw [if_pos full, dropped, keys, List.map_tail, List.map_append, ← List.dropLast_reverse,
        List.reverse_append]
      rfl
    · rw [if_neg full, List.take_of_length_le (by
        rw [List.length_cons, List.length_reverse, length]; omega), keys, List.map_append,
        List.reverse_append]
      rfl
  · intro entry member
    have present : entry ∈ digests ++ [(envelope.messageId, digest)] := by
      simp only at member
      split at member
      · exact List.mem_of_mem_tail member
      · exact member
    rw [last_append ⟨capacity, digests⟩]
    rcases List.mem_append.mp present with old | new
    · have different : envelope.messageId ≠ entry.1 := by
        intro same
        apply get?_eq_none_iff.mp absent
        rw [same]
        exact List.mem_map_of_mem old
      rw [if_neg different]
      exact tracks.content entry old
    · rw [List.mem_singleton.mp new, if_pos rfl, Option.map_some, read]

theorem moveToEnd (read : envelope.content = .ok digest)
    (found : watched.guard.digests.get? envelope.messageId = some digest) :
    Tracks ⟨{ watched.guard with
      digests := watched.guard.digests.moveToEnd envelope.messageId },
      watched.passed ++ [envelope]⟩ := by
  obtain ⟨⟨capacity, digests⟩, passed⟩ := watched
  have inside : envelope.messageId ∈ recent capacity (passed.map fun e => e.messageId) :=
    tracks.mem_window.mpr (List.mem_map_of_mem (mem_of_get? found))
  simp only [moveToEnd_of_get? found] at inside ⊢
  constructor
  · simp only [Watched.messages, recent_append]
    have window : (recency (passed.map fun e => e.messageId)).take capacity =
      (keys digests).reverse := tracks.window.symm
    rw [take_touch_of_mem (nodup_recency _) inside, window, touch, List.filter_reverse,
      ← keys_erase, keys, List.map_append, List.reverse_append]
    rfl
  · intro entry member
    rw [last_append ⟨capacity, digests⟩]
    rcases List.mem_append.mp member with old | new
    · obtain ⟨stored, other⟩ := List.mem_filter.mp old
      rw [if_neg (Ne.symm (bne_iff_ne.mp other))]
      exact tracks.content entry stored
    · rw [List.mem_singleton.mp new, if_pos rfl, Option.map_some, read]

theorem observe (envelope : Envelope) :
    Tracks (watched.observe envelope) := by
  unfold Watched.observe MessageReplayGuard.observe
  cases read : encodeEnvelope envelope.toEnvelopeFields with
  | error error => exact tracks
  | ok digest =>
    cases found : watched.guard.digests.get? envelope.messageId with
    | none => exact tracks.store read found
    | some previous =>
      by_cases same : previous = digest
      · subst same
        simp only [ne_eq, not_true, if_false]
        exact tracks.moveToEnd read found
      · simp only [ne_eq, same, not_false_eq_true, if_true]
        exact tracks

theorem observe_of_mem
    (inside : envelope.messageId ∈ recent watched.guard.capacity watched.messages) :
    ∃ last, watched.last envelope.messageId = some last ∧
      (envelope.content = last.content →
        ∃ later, MessageReplayGuard.observe envelope watched.guard = (.ok false, later)) ∧
      ∀ text, envelope.content = .ok text → last.content ≠ .ok text →
        MessageReplayGuard.observe envelope watched.guard =
          (.error MessageReplayGuard.conflict, watched.guard) := by
  obtain ⟨previous, found⟩ : ∃ previous,
      watched.guard.digests.get? envelope.messageId = some previous := by
    cases found : watched.guard.digests.get? envelope.messageId with
    | none => exact absurd (tracks.mem_window.mp inside) (get?_eq_none_iff.mp found)
    | some previous => exact ⟨previous, rfl⟩
  obtain ⟨last, isLast, content⟩ :=
    Option.map_eq_some_iff.mp (tracks.content _ (mem_of_get? found))
  refine ⟨last, isLast, ?_, ?_⟩
  · intro identical
    have read : encodeEnvelope envelope.toEnvelopeFields = .ok previous := identical.trans content
    rw [MessageReplayGuard.observe, read]
    simp only [found, ne_eq, not_true, if_false]
    exact ⟨_, rfl⟩
  · intro text read other
    have different : previous ≠ text := by
      rintro rfl
      exact other content
    rw [MessageReplayGuard.observe, show encodeEnvelope envelope.toEnvelopeFields = .ok text
      from read]
    simp only [found, ne_eq, different, not_false_eq_true, if_true]

theorem notMem_of_new {later : MessageReplayGuard}
    (new : MessageReplayGuard.observe envelope watched.guard = (.ok true, later)) :
    envelope.messageId ∉ recent watched.guard.capacity watched.messages := by
  rw [tracks.mem_window, ← get?_eq_none_iff]
  unfold MessageReplayGuard.observe at new
  cases read : encodeEnvelope envelope.toEnvelopeFields with
  | error error => simp [read] at new
  | ok digest =>
    cases found : watched.guard.digests.get? envelope.messageId with
    | none => rfl
    | some previous =>
      by_cases same : previous = digest <;> simp [read, found, same] at new

end

end Tracks

/-- An envelope is reported new only when its message is not among the `capacity` latest messages
    that have passed; one of that window is a repetition, or is refused without a change. -/
theorem replay_window (capacity : Int) (guard : MessageReplayGuard)
    (made : MessageReplayGuard.make capacity = .ok guard) (envelopes : List Envelope)
    (envelope : Envelope) :
    let watched := run Watched.observe ⟨guard, []⟩ envelopes
    (watched.guard.digests.length : Int) ≤ capacity ∧
      (∀ later, MessageReplayGuard.observe envelope watched.guard = (.ok true, later) →
        envelope.messageId ∉ recent capacity.toNat watched.messages) ∧
      (envelope.messageId ∈ recent capacity.toNat watched.messages →
        ∃ last, watched.last envelope.messageId = some last ∧
          (envelope.content = last.content →
            ∃ later, MessageReplayGuard.observe envelope watched.guard = (.ok false, later)) ∧
          ∀ text, envelope.content = .ok text → last.content ≠ .ok text →
            MessageReplayGuard.observe envelope watched.guard =
              (.error MessageReplayGuard.conflict, watched.guard)) := by
  have tracked : Tracks (run Watched.observe ⟨guard, []⟩ envelopes) ∧
      ((run Watched.observe ⟨guard, []⟩ envelopes).guard.capacity : Int) = capacity := by
    unfold MessageReplayGuard.make at made
    split at made
    · cases made
    · cases made
      refine run_invariant (fun watched => Tracks watched ∧ (watched.guard.capacity : Int) =
        capacity)
        ?_ ⟨.start _, by simp only; omega⟩ envelopes
      intro watched next ⟨tracks, same⟩
      exact ⟨tracks.observe next, by rw [Watched.capacity_observe, same]⟩
  intro watched
  obtain ⟨tracks, same⟩ := tracked
  have natural : capacity.toNat = watched.guard.capacity := by
    rw [← same]
    exact Int.toNat_natCast _
  rw [natural]
  exact ⟨by rw [← same]; exact_mod_cast tracks.length_le, fun later => tracks.notMem_of_new,
    tracks.observe_of_mem⟩

def ping (messageId : String) (named : isBlank messageId = false) (createdAt : Instant) :
    Envelope where
  protocolVersion := 1
  messageId := messageId
  correlationId := "c"
  causationId := none
  source := .simulatedWorker
  target := .core
  messageType := .ping
  createdAtUtc := createdAt
  deadlineAt := none
  payload := []
  accepted := by
    have correlated : isBlank "c" = false := by decide
    simp [EnvelopeFields.postInit, check, named, correlated]

def conflictingPings : List Envelope :=
  [ping "a" (by decide) 0, ping "b" (by decide) 0, ping "a" (by decide) 1, ping "c" (by decide) 0]

/-- The refused repetition does not refresh the message `a`, so `c` pushes it out of a guard of
    two: `a` is then reported new, although it is one of the two messages observed last. -/
theorem refused_message_forgotten :
    MessageReplayGuard.make 2 = .ok ⟨2, []⟩ ∧
      (MessageReplayGuard.observe (ping "a" (by decide) 0)
        (run Watched.observe ⟨⟨2, []⟩, []⟩ conflictingPings).guard).1.toOption = some true ∧
      "a" ∈ recent 2 (conflictingPings.map fun envelope => envelope.messageId) := by
  decide

theorem repeated_ping_recognised :
    ∃ later, MessageReplayGuard.observe (ping "a" (by decide) 0)
      (run Watched.observe ⟨⟨2, []⟩, []⟩ [ping "a" (by decide) 0, ping "b" (by decide) 0]).guard =
        (.ok false, later) := by
  obtain ⟨last, isLast, recognised, -⟩ := (replay_window 2 ⟨2, []⟩ rfl
    [ping "a" (by decide) 0, ping "b" (by decide) 0] (ping "a" (by decide) 0)).2.2 (by decide)
  have known : last = ping "a" (by decide) 0 := (Option.some.inj isLast).symm
  exact recognised (by rw [known])

end TradingLab

import TradingLab.Machine.Window
import TradingLab.Market.Ticks

/-!
# The statistics of the digit window

The counts that `push_tick` keeps up to date are those of the window that the ring holds.
-/
namespace TradingLab

open Machine

namespace TickRingBuffer

structure TickPush where
  quote : Decimal
  epoch : Int
  clock : ℚ

structure TickPush.Valid (push : TickPush) : Prop where
  finite : push.quote.isFinite = true
  positive : push.quote.isPositive = true
  epoch : 0 < push.epoch
  clock : 0 ≤ push.clock

def pushTicks (buffer : TickRingBuffer) :
    List TickPush → Except String (List DigitTick × TickRingBuffer)
  | [] => .ok ([], buffer)
  | push :: rest => do
    let (tick, next) ← buffer.pushTick push.quote push.epoch push.clock
    let (ticks, last) ← next.pushTicks rest
    .ok (tick :: ticks, last)

theorem bump_eq (counts : Nat → Int) (digit : Nat) (amount : Int) (d : Nat) :
    bump counts digit amount d = counts d + if digit = d then amount else 0 := by
  unfold bump
  by_cases same : d = digit
  · simp [same]
  · simp [same, Ne.symm same]

theorem bumpPair_eq (counts : Nat → Nat → Int) (first second : Nat) (amount : Int) (a b : Nat) :
    bumpPair counts first second amount a b =
      counts a b + if (first, second) = (a, b) then amount else 0 := by
  unfold bumpPair
  by_cases same : a = first
  · subst same
    rw [if_pos rfl, bump_eq]
    simp
  · rw [if_neg same, if_neg (by simp [Ne.symm same]), Int.add_zero]

theorem count_singleton_int {α : Type} [BEq α] [LawfulBEq α] [DecidableEq α] (item other : α) :
    (([item].count other : Nat) : Int) = if item = other then 1 else 0 := by
  rw [List.count_singleton]
  by_cases same : item = other
  · simp [same]
  · simp [same]

/-! ### What the buffer keeps -/

/-- The buffer holds the window, and its counts are those of the window. -/
structure Exact (buffer : TickRingBuffer) (window : List DigitTick) : Prop where
  slots : buffer.ticks.length = buffer.capacity
  ring : RingHolds buffer.ticks buffer.start window
  size : buffer.size = window.length
  frequency : ∀ digit, buffer.frequencyCounts digit =
    ((window.map (·.lastDigit)).count digit : Nat)
  transition : ∀ a b, buffer.transitionCounts a b =
    ((adjacent (window.map (·.lastDigit))).count (a, b) : Nat)

variable {buffer : TickRingBuffer} {window rest : List DigitTick} {digits : List Nat}
  {first : DigitTick}

theorem exact_empty {capacity : Nat} (positive : 0 < capacity) : Exact (empty capacity) [] where
  slots := List.length_replicate
  ring := ⟨by simpa [empty] using positive, Nat.zero_le _, by simp⟩
  size := rfl
  frequency := fun _ => rfl
  transition := fun _ _ => rfl

theorem Exact.slotDigit (exact : Exact buffer window) {i : Nat} (bound : i < window.length) :
    buffer.slotDigit (buffer.start + i) = (window.map (·.lastDigit))[i]? := by
  rw [TickRingBuffer.slotDigit, ← exact.slots, exact.ring.held i bound, List.getElem?_map]
  rfl

theorem Exact.previous (exact : Exact buffer window) :
    buffer.previous =
      if window.length = buffer.capacity ∧ buffer.capacity ≤ 1 then none
      else (window.map (·.lastDigit)).getLast? := by
  unfold TickRingBuffer.previous
  rw [exact.size]
  rcases Nat.eq_zero_or_pos window.length with none | some
  · rw [if_pos none, List.length_eq_zero_iff.mp none]
    simp
  · rw [if_neg (by omega), List.getLast?_eq_getElem?, List.length_map, Nat.add_sub_assoc some,
      exact.slotDigit (by omega)]

theorem store_transition
    (counted : ∀ a b, buffer.transitionCounts a b = ((adjacent digits).count (a, b) : Nat))
    (index : Nat) (tick : DigitTick) (a b : Nat) :
    (buffer.store index digits.getLast? tick).transitionCounts a b =
      ((adjacent (digits ++ [tick.lastDigit])).count (a, b) : Nat) := by
  rw [adjacent_concat]
  cases last : digits.getLast? with
  | none => simpa [store] using counted a b
  | some before =>
    simp only [store, bumpPair_eq, counted, List.count_append, Nat.cast_add]
    exact congrArg _ (count_singleton_int _ _).symm

theorem store_frequency
    (counted : ∀ d, buffer.frequencyCounts d = (digits.count d : Nat)) (index : Nat)
    (previous : Option Nat) (tick : DigitTick) (d : Nat) :
    (buffer.store index previous tick).frequencyCounts d =
      ((digits ++ [tick.lastDigit]).count d : Nat) := by
  simp only [store, bump_eq, counted, List.count_append, Nat.cast_add, count_singleton_int]

theorem Exact.insert_of_room (exact : Exact buffer window)
    (room : window.length ≠ buffer.capacity) (tick : DigitTick) :
    Exact (buffer.insert tick) (window ++ [tick]) := by
  have less : window.length < buffer.ticks.length := by
    have := exact.ring.fits
    have := exact.slots
    omega
  have before : buffer.previous = (window.map (·.lastDigit)).getLast? := by
    rw [exact.previous, if_neg fun both => room both.1]
  unfold TickRingBuffer.insert
  rw [if_neg (by rw [exact.size]; exact room), before]
  constructor
  case slots => simpa [store] using exact.slots
  case ring =>
    have ring := exact.ring.put less tick
    rw [exact.slots, ← exact.size] at ring
    exact ring
  case size => simp [store, exact.size]
  case frequency =>
    intro digit
    rw [List.map_append]
    exact store_frequency (by exact exact.frequency) _ _ _ _
  case transition =>
    intro a b
    rw [List.map_append]
    exact store_transition (by exact exact.transition) _ _ _ _

theorem Exact.evict
    (exact : Exact buffer (first :: rest)) (full : (first :: rest).length = buffer.capacity) :
    buffer.evict.ticks = buffer.ticks ∧ buffer.evict.capacity = buffer.capacity ∧
      buffer.evict.size = buffer.size ∧
      buffer.evict.start = (buffer.start + 1) % buffer.capacity ∧
      (∀ digit, buffer.evict.frequencyCounts digit =
        ((rest.map (·.lastDigit)).count digit : Nat)) ∧
      ∀ a b, buffer.evict.transitionCounts a b =
        ((adjacent (rest.map (·.lastDigit))).count (a, b) : Nat) := by
  have oldest : buffer.slotDigit buffer.start = some first.lastDigit := by
    simpa using exact.slotDigit (i := 0) (by simp)
  have frequency := exact.frequency
  have transition := exact.transition
  simp only [List.map_cons, adjacent_cons, List.count_append, List.count_cons, Nat.cast_add,
    List.head?_map] at frequency transition
  simp only [TickRingBuffer.evict, oldest]
  refine ⟨trivial, trivial, trivial, trivial, fun digit => ?_, fun a b => ?_⟩
  · rw [bump_eq, frequency]
    by_cases same : first.lastDigit = digit <;> simp [same]
  · -- the pair that leaves is the oldest digit with its successor, if there is one
    unfold evictTransition
    cases rest with
    | nil =>
      rw [if_neg (by simp at full; omega), transition]
      simp
    | cons second rest =>
      have successor : buffer.slotDigit (buffer.start + 1) = some second.lastDigit := by
        simpa using exact.slotDigit (i := 1) (by simp)
      rw [if_pos (by simp at full; omega), successor]
      simp only [bumpPair_eq, transition, List.head?_cons, Option.map_some, Option.toList_some,
        count_singleton_int]
      split <;> omega

theorem Exact.insert_of_full
    (exact : Exact buffer (first :: rest)) (full : (first :: rest).length = buffer.capacity)
    (tick : DigitTick) : Exact (buffer.insert tick) (rest ++ [tick]) := by
  obtain ⟨ticks, capacity, size, start, frequency, transition⟩ := exact.evict full
  have before : buffer.previous = (rest.map (·.lastDigit)).getLast? := by
    rw [exact.previous]
    cases rest with
    | nil => rw [if_pos ⟨full, by simp at full; omega⟩]; rfl
    | cons second rest => rw [if_neg fun both => by simp at full both; omega]; simp
  unfold TickRingBuffer.insert
  rw [if_pos (by rw [exact.size]; exact full), before]
  constructor
  case slots => simpa [store, ticks, capacity] using exact.slots
  case ring =>
    have ring := exact.ring.replace (full.trans exact.slots.symm) tick
    rw [exact.slots, ← start] at ring
    simpa [store, ticks] using ring
  case size => simp [store, size, exact.size]
  case frequency =>
    intro digit
    rw [List.map_append]
    exact store_frequency frequency _ _ _ _
  case transition =>
    intro a b
    rw [List.map_append]
    exact store_transition transition _ _ _ _

theorem Exact.insert (exact : Exact buffer window) (positive : 0 < buffer.capacity)
    (tick : DigitTick) : Exact (buffer.insert tick) (slide buffer.capacity window tick) := by
  by_cases full : window.length = buffer.capacity
  · cases window with
    | nil =>
      simp only [List.length_nil] at full
      omega
    | cons first rest =>
      rw [slide_of_full full]
      exact exact.insert_of_full full tick
  · rw [slide_of_room full]
    exact exact.insert_of_room full tick

theorem capacity_insert (buffer : TickRingBuffer) (tick : DigitTick) :
    (buffer.insert tick).capacity = buffer.capacity := by
  have evicted : buffer.evict.capacity = buffer.capacity := by
    unfold TickRingBuffer.evict
    split <;> rfl
  unfold TickRingBuffer.insert
  split
  · exact evicted
  · rfl

theorem pushTick_of_valid (buffer : TickRingBuffer) {push : TickPush} (valid : push.Valid) :
    ∃ tick, buffer.pushTick push.quote push.epoch push.clock = .ok (tick, buffer.insert tick) ∧
      tick.quoteDecimal = push.quote ∧ tick.epoch = push.epoch ∧
      push.quote.lastDigit = some tick.lastDigit := by
  obtain ⟨digit, here⟩ : ∃ digit, push.quote.lastDigit = some digit := by
    have finite := valid.finite
    cases number : push.quote with
    | finite negative coefficient exponent => exact ⟨_, rfl⟩
    | infinite negative => simp [number, Decimal.isFinite] at finite
    | nan => simp [number, Decimal.isFinite] at finite
  refine ⟨⟨push.epoch, push.quote, digit, push.clock⟩, ?_, rfl, rfl, here⟩
  unfold pushTick
  rw [if_neg (by simp [valid.finite, valid.positive]), if_neg (not_le.mpr valid.epoch), here]
  simp only [if_neg (not_lt.mpr valid.clock)]

theorem Exact.pushTicks {pushes : List TickPush} (valid : ∀ push ∈ pushes, push.Valid) :
    ∀ {buffer : TickRingBuffer} {earlier : List DigitTick}, 0 < buffer.capacity →
      Exact buffer (earlier.rtake buffer.capacity) →
      ∃ ticks last, buffer.pushTicks pushes = .ok (ticks, last) ∧
        ticks.map (fun tick => (tick.quoteDecimal, tick.epoch, some tick.lastDigit)) =
          pushes.map (fun push => (push.quote, push.epoch, push.quote.lastDigit)) ∧
        Exact last ((earlier ++ ticks).rtake buffer.capacity) := by
  induction pushes with
  | nil =>
    intro buffer earlier _ exact
    exact ⟨[], buffer, rfl, rfl, by simpa using exact⟩
  | cons push rest ih =>
    intro buffer earlier positive exact
    obtain ⟨tick, pushed, quote, epoch, digit⟩ :=
      buffer.pushTick_of_valid (valid push List.mem_cons_self)
    have capacity := buffer.capacity_insert tick
    have slid := exact.insert positive tick
    rw [← rtake_concat positive, ← capacity] at slid
    obtain ⟨ticks, last, pushedRest, same, held⟩ :=
      ih (fun other member => valid other (List.mem_cons_of_mem _ member))
        (by rw [capacity]; exact positive) slid
    refine ⟨tick :: ticks, last, ?_, ?_, ?_⟩
    · simp only [TickRingBuffer.pushTicks, pushed, Except.ok_bind, pushedRest]
    · simp only [List.map_cons, same, quote, epoch, digit]
    · rw [capacity, List.append_assoc] at held
      exact held

theorem map_range_getD (digits : List Nat) (first : Nat) :
    (List.range' first (digits.length - first)).map (fun offset => digits[offset]?.getD 0) =
      digits.drop first := by
  apply List.ext_getElem?
  intro i
  rw [List.getElem?_map, List.getElem?_drop]
  by_cases bound : i < digits.length - first
  · rw [List.getElem?_range' bound]
    have inside : first + i < digits.length := by omega
    simp [List.getElem?_eq_getElem inside]
  · rw [List.getElem?_eq_none (by simpa using bound), List.getElem?_eq_none (by omega)]
    rfl

theorem Exact.getDigitHistory (exact : Exact buffer window) (limit : Nat) :
    buffer.getDigitHistory limit = .ok ((window.map (·.lastDigit)).rtake limit) := by
  have digit : ∀ offset ∈ List.range' (buffer.size - min limit buffer.size)
      (buffer.size - (buffer.size - min limit buffer.size)),
      buffer.historyDigit offset = .ok ((window.map (·.lastDigit))[offset]?.getD 0) := by
    intro offset member
    have bound : offset < window.length := by
      rw [List.mem_range'_1, exact.size] at member
      omega
    rw [historyDigit, exact.slotDigit bound, List.getElem?_eq_getElem (by simpa using bound)]
    rfl
  have places := map_range_getD (window.map (·.lastDigit))
    (buffer.size - min limit buffer.size)
  rw [List.length_map, ← exact.size] at places
  simp only [TickRingBuffer.getDigitHistory, Int.toNat_natCast]
  rw [if_neg (by omega), Except.mapM_of_forall digit, places, List.rtake, List.length_map,
    ← exact.size]
  congr 2
  omega

/-- After any valid pushes, the counts are those of the last ticks, as many as fit, and the
    history is the last of their digits. -/
theorem window_statistics_exact (capacity : Nat) (positive : 0 < capacity)
    (pushes : List TickPush) (valid : ∀ push ∈ pushes, push.Valid) :
    ∃ ticks buffer, (empty capacity).pushTicks pushes = .ok (ticks, buffer) ∧
      ticks.map (fun tick => (tick.quoteDecimal, tick.epoch, some tick.lastDigit)) =
        pushes.map (fun push => (push.quote, push.epoch, push.quote.lastDigit)) ∧
      let digits := (ticks.map (·.lastDigit)).rtake (min capacity pushes.length)
      (∀ digit, buffer.frequencyCounts digit = (digits.count digit : Nat)) ∧
      (∀ a b, buffer.transitionCounts a b = ((adjacent digits).count (a, b) : Nat)) ∧
      buffer.size = min capacity pushes.length ∧
      ∀ limit : Nat, buffer.getDigitHistory limit = .ok (digits.rtake (min limit buffer.size)) := by
  have initial : Exact (empty capacity) (([] : List DigitTick).rtake capacity) := by
    rw [List.rtake_nil]
    exact exact_empty positive
  obtain ⟨ticks, buffer, pushed, same, exact⟩ := Exact.pushTicks valid positive initial
  rw [List.nil_append] at exact
  change Exact buffer (ticks.rtake capacity) at exact
  have length : ticks.length = pushes.length := by
    simpa using congrArg List.length same
  have window : (ticks.map (·.lastDigit)).rtake (min capacity pushes.length) =
      (ticks.rtake capacity).map (·.lastDigit) := by
    have all := rtake_min (ticks.map (·.lastDigit)) capacity
    rw [List.length_map, length] at all
    rw [all, List.rtake, List.rtake, List.map_drop, List.length_map]
  have size : buffer.size = min capacity pushes.length := by
    rw [exact.size, length_rtake, length]
  refine ⟨ticks, buffer, pushed, same, ?_⟩
  simp only [window]
  refine ⟨exact.frequency, exact.transition, size, fun limit => ?_⟩
  have all := rtake_min ((ticks.rtake capacity).map (·.lastDigit)) limit
  rw [List.length_map, ← exact.size] at all
  rw [all]
  exact exact.getDigitHistory limit

def samplePushes : List TickPush :=
  [⟨.finite false 123 (-2), 1, 0⟩, ⟨.finite false 124 (-2), 2, 1⟩, ⟨.finite false 124 (-2), 3, 2⟩]

theorem window_statistics_sample :
    (0 < 2 ∧ ∀ push ∈ samplePushes, push.Valid) ∧
      ∃ ticks buffer, (empty 2).pushTicks samplePushes = .ok (ticks, buffer) ∧
        buffer.size = 2 ∧ ticks.map (·.epoch) = [1, 2, 3] := by
  have valid : ∀ push ∈ samplePushes, push.Valid := by
    intro push member
    simp only [samplePushes, List.mem_cons, List.not_mem_nil, or_false] at member
    rcases member with rfl | rfl | rfl <;> exact ⟨rfl, rfl, by decide, by decide⟩
  obtain ⟨ticks, buffer, pushed, same, _, _, size, _⟩ :=
    window_statistics_exact 2 (by decide) samplePushes valid
  refine ⟨⟨by decide, valid⟩, ticks, buffer, pushed, size, ?_⟩
  have epochs := congrArg (List.map fun entry => entry.2.1) same
  rwa [List.map_map] at epochs

end TickRingBuffer

end TradingLab

import Mathlib.Data.List.DropRight
import Mathlib.Data.Nat.ModEq

/-!
# Windows over a stream

The window of a stream are its last items, at most as many as the capacity. A ring is a fixed row
of slots that holds a window from some slot on, wrapping around at the end.
-/
namespace Machine

variable {α β : Type} {capacity : Nat}

/-- The window after one more item. -/
def slide (capacity : Nat) (window : List α) (item : α) : List α :=
  if window.length = capacity then window.tail ++ [item] else window ++ [item]

theorem slide_of_full {first item : α} {rest : List α} (full : (first :: rest).length = capacity) :
    slide capacity (first :: rest) item = rest ++ [item] := by
  rw [slide, if_pos full, List.tail_cons]

theorem slide_of_room {window : List α} {item : α}
    (room : window.length ≠ capacity) : slide capacity window item = window ++ [item] := by
  rw [slide, if_neg room]

variable (items : List α)

theorem length_rtake (capacity : Nat) :
    (items.rtake capacity).length = min capacity items.length := by
  rw [List.rtake, List.length_drop]
  omega

theorem rtake_min (limit : Nat) : items.rtake (min limit items.length) = items.rtake limit := by
  rw [List.rtake, List.rtake]
  congr 1
  omega

/-- The last items of a longer stream are the old ones after a slide. -/
theorem rtake_concat (positive : 0 < capacity) (items : List α) (item : α) :
    (items ++ [item]).rtake capacity = slide capacity (items.rtake capacity) item := by
  obtain ⟨less, rfl⟩ : ∃ less, capacity = less + 1 := ⟨capacity - 1, by omega⟩
  rw [List.rtake_concat_succ, slide, length_rtake]
  split
  · rename_i full
    congr 1
    rw [List.rtake, List.rtake, List.tail_drop]
    congr 1
    omega
  · congr 1
    rw [List.rtake, List.rtake]
    congr 1
    omega

def adjacent : List (α × α) := items.zip items.tail

theorem adjacent_cons (first : α) (rest : List α) :
    adjacent (first :: rest) = (rest.head?.map (first, ·)).toList ++ adjacent rest := by
  cases rest with
  | nil => rfl
  | cons second rest => rfl

theorem adjacent_concat (item : α) :
    adjacent (items ++ [item]) = adjacent items ++ (items.getLast?.map (·, item)).toList := by
  induction items with
  | nil => rfl
  | cons first rest ih =>
    rw [List.cons_append, adjacent_cons, adjacent_cons, ih, List.append_assoc]
    cases rest with
    | nil => rfl
    | cons second rest => rfl

/-! ### Rings -/

/-- Two places of a ring that are less than a turn apart are different slots. -/
theorem turn_inj {size start i j : Nat} (iBound : i < size) (jBound : j < size)
    (same : (start + i) % size = (start + j) % size) : i = j :=
  Nat.ModEq.eq_of_lt_of_lt (Nat.ModEq.add_left_cancel' start same) iBound jBound

/-- The slots hold the window from `start` on. -/
structure RingHolds (slots : List (Option α)) (start : Nat) (window : List α) : Prop where
  started : start < slots.length
  fits : window.length ≤ slots.length
  held : ∀ i < window.length, slots[(start + i) % slots.length]? = some window[i]?

namespace RingHolds

variable {slots : List (Option α)} {start : Nat} {window rest : List α} {first : α}

theorem put_slot (ring : RingHolds slots start window) (item : α) :
    (slots.set ((start + window.length) % slots.length) (some item))[
      (start + window.length) % slots.length]? = some (some item) := by
  have positive : 0 < slots.length := by have := ring.started; omega
  rw [List.getElem?_set_self (Nat.mod_lt _ positive)]

theorem put (ring : RingHolds slots start window) (room : window.length < slots.length) (item : α) :
    RingHolds (slots.set ((start + window.length) % slots.length) (some item)) start
      (window ++ [item]) := by
  constructor
  · simpa using ring.started
  · rw [List.length_append, List.length_set]
    exact room
  · intro i bound
    simp only [List.length_append, List.length_cons, List.length_nil, List.length_set] at bound ⊢
    rcases Nat.lt_succ_iff_lt_or_eq.mp bound with old | rfl
    · have apart : (start + window.length) % slots.length ≠ (start + i) % slots.length := by
        intro same
        have := turn_inj room (by omega) same
        omega
      rw [List.getElem?_set_ne apart, ring.held i old, List.getElem?_append_left old]
    · rw [ring.put_slot, List.getElem?_concat_length]

theorem replace (ring : RingHolds slots start (first :: rest))
    (full : (first :: rest).length = slots.length) (item : α) :
    RingHolds (slots.set start (some item)) ((start + 1) % slots.length) (rest ++ [item]) := by
  have size : slots.length = rest.length + 1 := by simpa using full.symm
  have turned : ∀ i, ((start + 1) % slots.length + i) % slots.length =
      (start + (i + 1)) % slots.length := by
    intro i
    rw [Nat.mod_add_mod]
    congr 1
    omega
  constructor
  · rw [List.length_set]
    exact Nat.mod_lt _ (by omega)
  · simp [size]
  · intro i bound
    simp only [List.length_append, List.length_cons, List.length_nil, List.length_set] at bound ⊢
    rw [turned]
    rcases Nat.lt_succ_iff_lt_or_eq.mp bound with old | rfl
    · have apart : start ≠ (start + (i + 1)) % slots.length := by
        intro same
        have home : (start + 0) % slots.length = (start + (i + 1)) % slots.length := by
          rw [Nat.add_zero, Nat.mod_eq_of_lt ring.started]
          exact same
        have := turn_inj (by omega) (by omega) home
        omega
      rw [List.getElem?_set_ne apart, ring.held (i + 1) (by simpa using old),
        List.getElem?_cons_succ, List.getElem?_append_left old]
    · -- one whole turn leads back to the slot of the oldest item
      have home : (start + (rest.length + 1)) % slots.length = start := by
        rw [← size, Nat.add_mod_right, Nat.mod_eq_of_lt ring.started]
      rw [home, List.getElem?_set_self ring.started, List.getElem?_concat_length]

end RingHolds

end Machine

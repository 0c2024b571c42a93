import Mathlib.Data.List.Basic

/-!
# Bounded queues

A queue hands out its items in the order in which they were put. It may have a bound: an
item that is put into a full queue is lost. A capacity that is not positive is no bound.
-/
namespace Machine

structure BoundedQueue (α : Type) where
  capacity : Int
  items : List α
deriving DecidableEq

namespace BoundedQueue

variable {α : Type} {queue : BoundedQueue α} {item other : α}

def empty (capacity : Int) : BoundedQueue α := ⟨capacity, []⟩

def isFull (queue : BoundedQueue α) : Bool :=
  decide (0 < queue.capacity ∧ queue.capacity ≤ queue.items.length)

def put (queue : BoundedQueue α) (item : α) : BoundedQueue α :=
  if queue.isFull then queue else { queue with items := queue.items ++ [item] }

def take (queue : BoundedQueue α) : Option α × BoundedQueue α :=
  match queue.items with
  | [] => (none, queue)
  | item :: rest => (some item, { queue with items := rest })

theorem put_of_full (full : queue.isFull = true) : queue.put item = queue := by
  rw [put, if_pos full]

theorem items_put_of_room (room : queue.isFull = false) :
    (queue.put item).items = queue.items ++ [item] := by
  rw [put, if_neg (by simp [room])]

theorem items_put (queue : BoundedQueue α) (item : α) :
    (queue.put item).items = queue.items ∨ (queue.put item).items = queue.items ++ [item] := by
  cases full : queue.isFull with
  | true => exact .inl (by rw [put_of_full full])
  | false => exact .inr (items_put_of_room full)

theorem mem_put_of_mem (member : other ∈ queue.items) : other ∈ (queue.put item).items := by
  rcases queue.items_put item with same | more
  · rw [same]
    exact member
  · rw [more]
    exact List.mem_append_left _ member

/-- What has been taken, and then what is still there: a take moves one item over. -/
theorem take_items (queue : BoundedQueue α) :
    queue.take.1.toList ++ queue.take.2.items = queue.items := by
  unfold take
  split <;> rename_i here <;> simp [here]

end BoundedQueue

end Machine

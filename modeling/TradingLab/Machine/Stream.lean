import TradingLab.Machine.Program

/-!
# Streams in pieces

A connection delivers a stream in pieces whose boundaries mean nothing: what a reader gets is
decided by the contents of the stream and by how it ends.
-/
namespace Machine

abbrev Piece (β : Type) : Type := { piece : List β // piece ≠ [] }

inductive Arrival (β : Type)
  | data (piece : Piece β)
  | timedOut
  | failed

/-- What is still to arrive; after the last arrival the peer has closed the connection. -/
abbrev Connection (β : Type) : Type := List (Arrival β)

inductive Hangup
  | closed
  | timedOut
  | failed
deriving DecidableEq

/-- The answer to a reader that has asked for `size` elements. -/
inductive Received (β : Type) (size : Nat)
  | data (chunk : List β) (nonempty : chunk ≠ []) (fits : chunk.length ≤ size)
  | ended (ending : Hangup)

namespace Connection

variable {β : Type} (pieces : List (Piece β))

/-- A connection on which these pieces arrive and that is closed then. -/
def closing : Connection β :=
  pieces.map .data

/-- Ask for at most `size` elements. What does not fit of a piece stays for the next call. -/
def recv (size : Nat) (positive : 0 < size) :
    Connection β → Received β size × Connection β
  | [] => (.ended .closed, [])
  | .timedOut :: rest => (.ended .timedOut, rest)
  | .failed :: rest => (.ended .failed, rest)
  | .data piece :: rest =>
    if longer : size < piece.1.length then
      (.data (piece.1.take size)
          (List.ne_nil_of_length_pos (by rw [List.length_take]; omega))
          (List.length_take_le _ _),
        .data ⟨piece.1.drop size, List.ne_nil_of_length_pos (by rw [List.length_drop]; omega)⟩
          :: rest)
    else (.data piece.1 piece.2 (Nat.le_of_not_lt longer), rest)

def contents : Connection β → List β
  | .data piece :: rest => piece.1 ++ contents rest
  | _ => []

def ending : Connection β → Hangup
  | [] => .closed
  | .timedOut :: _ => .timedOut
  | .failed :: _ => .failed
  | .data _ :: rest => ending rest

@[simp] theorem contents_closing :
    contents (closing pieces) = (pieces.map Subtype.val).flatten := by
  induction pieces with
  | nil => rfl
  | cons piece pieces ih =>
    have unfolded : contents (closing (piece :: pieces)) = piece.1 ++ contents (closing pieces) :=
      rfl
    rw [unfolded, ih, List.map_cons, List.flatten_cons]

@[simp] theorem ending_closing : ending (closing pieces) = .closed := by
  induction pieces with
  | nil => rfl
  | cons piece pieces ih => exact ih

theorem eq_nil {connection : Connection β} (empty : connection.contents = [])
    (closed : connection.ending = .closed) : connection = [] := by
  match connection with
  | [] => rfl
  | .timedOut :: _ => cases closed
  | .failed :: _ => cases closed
  | .data piece :: rest => exact absurd (List.append_eq_nil_iff.mp empty).1 piece.2

section Recv
variable {size : Nat} {positive : 0 < size} {connection later : Connection β}

theorem recv_data {chunk : List β} {nonempty : chunk ≠ []} {fits : chunk.length ≤ size}
    (received : connection.recv size positive = (.data chunk nonempty fits, later)) :
    connection.contents = chunk ++ later.contents ∧ later.ending = connection.ending := by
  match connection with
  | [] => cases received
  | .timedOut :: _ => cases received
  | .failed :: _ => cases received
  | .data piece :: rest =>
    simp only [recv] at received
    split at received
    · cases received
      refine ⟨?_, rfl⟩
      simp only [contents]
      rw [← List.append_assoc, List.take_append_drop]
    · cases received
      exact ⟨rfl, rfl⟩

theorem recv_ended {how : Hangup} (received : connection.recv size positive = (.ended how, later)) :
    connection.contents = [] ∧ connection.ending = how := by
  match connection with
  | [] | .timedOut :: _ | .failed :: _ =>
    cases received
    exact ⟨rfl, rfl⟩
  | .data piece :: rest =>
    simp only [recv] at received
    split at received <;> cases received

end Recv

end Connection

end Machine

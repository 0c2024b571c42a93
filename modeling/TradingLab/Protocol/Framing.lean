import Mathlib.Algebra.Ring.Nat
import TradingLab.Domain.ProtocolErrors
import TradingLab.Domain.Text
import TradingLab.Machine.Stream

/-!
# Frames

`packages/protocol/framing.py`: a frame is its payload behind a header of four bytes, the length
of the payload in network order. `receive_frame` reads one frame off a connection.
-/
namespace TradingLab

open Machine

structure ProtocolError where
  code : ProtocolErrorCode
  message : String
deriving DecidableEq, Repr

/-- `MAX_FRAME_SIZE`. -/
def maxFrameSizeDefault : Nat := 64 * 1024

/-- `_HEADER.size`. -/
def headerSize : Nat := 4

/-- `_HEADER.pack`, which raises `struct.error` for a length of more than four bytes. -/
def packHeader (size : Nat) : Option Bytes :=
  if size < 2 ^ 32 then
    some [UInt8.ofNat (size / 2 ^ 24), UInt8.ofNat (size / 2 ^ 16), UInt8.ofNat (size / 2 ^ 8),
      UInt8.ofNat size]
  else none

/-- `_HEADER.unpack`. -/
def unpackHeader (header : Bytes) : Nat :=
  header.foldl (fun size byte => size * 256 + byte.toNat) 0

variable {size : Nat} {header : Bytes}

theorem length_packHeader (packed : packHeader size = some header) :
    header.length = headerSize := by
  unfold packHeader at packed
  split at packed
  · cases packed
    rfl
  · cases packed

theorem unpackHeader_packHeader
    (packed : packHeader size = some header) : unpackHeader header = size := by
  unfold packHeader at packed
  split at packed
  · cases packed
    simp only [unpackHeader, List.foldl_cons, List.foldl_nil, UInt8.toNat_ofNat']
    omega
  · cases packed

theorem packHeader_unpackHeader (four : header.length = headerSize) :
    packHeader (unpackHeader header) = some header := by
  match header, four with
  | [a, b, c, d], _ =>
    have boundA := a.toNat_lt
    have boundB := b.toNat_lt
    have boundC := c.toNat_lt
    have boundD := d.toNat_lt
    have size : unpackHeader [a, b, c, d] =
        a.toNat * 2 ^ 24 + b.toNat * 2 ^ 16 + c.toNat * 2 ^ 8 + d.toNat := by
      simp only [unpackHeader, List.foldl_cons, List.foldl_nil]
      omega
    rw [packHeader, size, if_pos (by omega)]
    congr 1
    have byte (x : UInt8) (n : Nat) (same : n % 2 ^ 8 = x.toNat) : UInt8.ofNat n = x := by
      rw [← UInt8.toNat_inj, UInt8.toNat_ofNat', same]
    rw [byte a _ (by omega), byte b _ (by omega), byte c _ (by omega), byte d _ (by omega)]

inductive FramingError
  | protocol (error : ProtocolError)
  /-- `struct.error`. -/
  | struct
deriving DecidableEq, Repr

def framePayload (maxFrameSize : Nat) (payload : Bytes) : Except FramingError Bytes :=
  if payload.length = 0 then .error (.protocol ⟨.ipcInvalidFrame, "empty frames are forbidden"⟩)
  else if payload.length > maxFrameSize then
    .error (.protocol ⟨.ipcFrameTooLarge, "frame exceeds configured maximum"⟩)
  else
    match packHeader payload.length with
    | some header => .ok (header ++ payload)
    | none => .error .struct

theorem framePayload_ok_iff {maxFrameSize : Nat} {payload frame : Bytes} :
    framePayload maxFrameSize payload = .ok frame ↔
      0 < payload.length ∧ payload.length ≤ maxFrameSize ∧
        ∃ header, packHeader payload.length = some header ∧ frame = header ++ payload := by
  unfold framePayload
  by_cases none : payload.length = 0
  · simp [none]
  by_cases long : payload.length > maxFrameSize
  · have notFit : ¬ payload.length ≤ maxFrameSize := by omega
    simp [none, long, notFit]
  rw [if_neg none, if_neg long]
  cases packHeader payload.length with
  | none => simp
  | some header =>
    have lengths : 0 < payload.length ∧ payload.length ≤ maxFrameSize := by omega
    simp [lengths, eq_comm]

/-- The exception of `_receive_exact` on a connection that has ended. -/
def interrupted (header : Bool) (chunks : List Bytes) : Hangup → ProtocolError
  | .timedOut => ⟨.ipcFrameTruncated, "frame timed out before completion"⟩
  | .failed => ⟨.ipcConnectionLost, "connection failed while receiving frame"⟩
  | .closed =>
    ⟨if header && chunks.isEmpty then .ipcConnectionLost else .ipcFrameTruncated,
      "connection closed before frame completion"⟩

/-- The loop of `_receive_exact`. -/
def receiveRemaining (header : Bool) (remaining : Nat) (chunks : List Bytes) :
    Program ProtocolError (Connection UInt8) Bytes := fun connection =>
  if more : 0 < remaining then
    match connection.recv remaining more with
    | (.data chunk _ _, later) =>
      receiveRemaining header (remaining - chunk.length) (chunks ++ [chunk]) later
    | (.ended how, later) => (.error (interrupted header chunks how), later)
  else (.ok chunks.flatten, connection)
termination_by remaining
decreasing_by
  have := List.length_pos_iff.mpr ‹chunk ≠ []›
  omega

def receiveExact (size : Nat) (header : Bool := false) :
    Program ProtocolError (Connection UInt8) Bytes :=
  receiveRemaining header size []

def receiveFrame (maxFrameSize : Nat := maxFrameSizeDefault) :
    Program ProtocolError (Connection UInt8) Bytes := do
  let header ← receiveExact headerSize true
  let announcedSize := unpackHeader header
  if announcedSize = 0 then
    Program.raise ⟨.ipcInvalidFrame, "empty frames are forbidden"⟩
  else if announcedSize > maxFrameSize then
    Program.raise ⟨.ipcFrameTooLarge, "announced frame exceeds configured maximum"⟩
  else receiveExact announcedSize

/-! ### What is read off a stream -/

section Receive
variable (header : Bool)

theorem receiveRemaining_enough (remaining : Nat) (chunks : List Bytes)
    (connection : Connection UInt8) (enough : remaining ≤ connection.contents.length) :
    ∃ later, receiveRemaining header remaining chunks connection =
        (.ok (chunks.flatten ++ connection.contents.take remaining), later) ∧
      later.contents = connection.contents.drop remaining ∧
      later.ending = connection.ending := by
  -- The loop ends because every chunk has a byte; so the induction is on what remains.
  induction remaining using Nat.strongRecOn generalizing chunks connection with
  | ind remaining ih =>
  rw [receiveRemaining]
  split
  · rename_i more
    split
    · rename_i chunk nonempty fits later received
      obtain ⟨contents, ending⟩ := Connection.recv_data received
      have positive := List.length_pos_iff.mpr nonempty
      rw [contents, List.length_append] at enough
      obtain ⟨left, ran, rest, closes⟩ := ih (remaining - chunk.length) (by omega)
        (chunks ++ [chunk]) later (by omega)
      refine ⟨left, ?_, ?_, closes.trans ending⟩
      · rw [ran, contents, List.take_append, List.take_of_length_le fits, List.flatten_append,
          List.flatten_singleton, List.append_assoc]
      · rw [rest, contents, List.drop_append, List.drop_of_length_le fits, List.nil_append]
    · rename_i how later received
      rw [(Connection.recv_ended received).1, List.length_nil] at enough
      omega
  · rename_i done
    have none : remaining = 0 := by omega
    refine ⟨connection, ?_, ?_, rfl⟩
    · rw [none, List.take_zero, List.append_nil]
    · rw [none, List.drop_zero]

theorem receiveRemaining_short (remaining : Nat) (chunks : List Bytes)
    (connection : Connection UInt8) (filled : ∀ chunk ∈ chunks, chunk ≠ [])
    (short : connection.contents.length < remaining) :
    ∃ later received, receiveRemaining header remaining chunks connection =
        (.error (interrupted header received connection.ending), later) ∧
      (received = [] ↔ chunks = [] ∧ connection.contents = []) := by
  induction remaining using Nat.strongRecOn generalizing chunks connection with
  | ind remaining ih =>
  rw [receiveRemaining, dif_pos (by omega)]
  split
  · rename_i chunk nonempty fits later received
    obtain ⟨contents, ending⟩ := Connection.recv_data received
    have positive := List.length_pos_iff.mpr nonempty
    rw [contents, List.length_append] at short
    have filled' : ∀ other ∈ chunks ++ [chunk], other ≠ [] := by
      intro other member
      rcases List.mem_append.mp member with old | new
      · exact filled other old
      · rw [List.mem_singleton.mp new]
        exact nonempty
    obtain ⟨left, all, ran, empty⟩ := ih (remaining - chunk.length) (by omega)
      (chunks ++ [chunk]) later filled' (by omega)
    refine ⟨left, all, ?_, ?_⟩
    · rw [ran, ending]
    · simp [empty, contents, nonempty]
  · rename_i how later received
    obtain ⟨contents, ending⟩ := Connection.recv_ended received
    exact ⟨later, chunks, by rw [ending], by simp [contents]⟩

variable {size : Nat} {connection : Connection UInt8}

theorem receiveExact_enough (enough : size ≤ connection.contents.length) :
    ∃ later, receiveExact size header connection = (.ok (connection.contents.take size), later) ∧
      later.contents = connection.contents.drop size ∧ later.ending = connection.ending :=
  receiveRemaining_enough header size [] connection enough

theorem receiveExact_short (short : connection.contents.length < size) :
    ∃ later received, receiveExact size header connection =
        (.error (interrupted header received connection.ending), later) ∧
      (received = [] ↔ connection.contents = []) := by
  obtain ⟨later, received, ran, empty⟩ :=
    receiveRemaining_short header size [] connection (by simp) short
  exact ⟨later, received, ran, by simpa using empty⟩

end Receive

end TradingLab

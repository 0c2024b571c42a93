import Mathlib.Data.List.Forall2
import TradingLab.Protocol.Framing

/-!
# Framing loses nothing

Repeated calls of `receive_frame` give back the payloads of the frames that the stream starts with.
What a call reads is decided by the contents of the connection alone, so the chunks disappear after
`receiveFrame_cases`.
-/
namespace TradingLab

open Machine
open Machine.Connection

/-- What `calls` calls of `receive_frame` return, up to the first that raises. -/
def receiveFrames (maxFrameSize : Nat) : Nat → Connection UInt8 →
    List Bytes × Option ProtocolError × Connection UInt8
  | 0, connection => ([], none, connection)
  | calls + 1, connection =>
    match receiveFrame maxFrameSize connection with
    | (.error error, later) => ([], some error, later)
    | (.ok payload, later) =>
      let (payloads, raised, left) := receiveFrames maxFrameSize calls later
      (payload :: payloads, raised, left)

def Framed (maxFrameSize : Nat) (payloads frames : List Bytes) : Prop :=
  List.Forall₂ (fun payload frame => framePayload maxFrameSize payload = .ok frame) payloads frames

def announced (stream : Bytes) : Option Nat :=
  if stream.length < headerSize then none else some (unpackHeader (stream.take headerSize))

/-- A stream that ends inside a frame: inside its header, or inside a body whose length is
    admissible. -/
def InsideFrame (maxFrameSize : Nat) (stream : Bytes) : Prop :=
  stream ≠ [] ∧ (announced stream = none ∨ ∃ size, announced stream = some size ∧
    0 < size ∧ size ≤ maxFrameSize ∧ stream.length < headerSize + size)

/-- The exception of a call that finds `rest` on the connection and leaves it as `left`. -/
structure Failure (maxFrameSize : Nat) (rest : Bytes) (error : ProtocolError)
    (left : Connection UInt8) : Prop where
  lost : error.code = .ipcConnectionLost ↔ rest = []
  truncated : error.code = .ipcFrameTruncated ↔ InsideFrame maxFrameSize rest
  invalid : error.code = .ipcInvalidFrame ↔ announced rest = some 0
  tooLarge : error.code = .ipcFrameTooLarge ↔ ∃ size, announced rest = some size ∧
    maxFrameSize < size
  /-- The body of a frame that is too large has not been read. -/
  unread : error.code = .ipcFrameTooLarge → left.contents = rest.drop headerSize

/-! ### One call -/

section Call
variable {maxFrameSize : Nat} {connection : Connection UInt8}

theorem receiveFrame_noHeader (closed : connection.ending = .closed)
    (short : connection.contents.length < headerSize) :
    ∃ error later, receiveFrame maxFrameSize connection = (.error error, later) ∧
      Failure maxFrameSize connection.contents error later := by
  obtain ⟨later, received, ran, empty⟩ := receiveExact_short true short
  refine ⟨_, later, Program.bind_of_error ran, ?_⟩
  have unannounced : announced connection.contents = none := if_pos short
  by_cases boundary : connection.contents = []
  · rw [closed, interrupted, empty.mpr boundary]
    constructor <;> simp [boundary, InsideFrame, announced, headerSize]
  · have some : received ≠ [] := fun none => boundary (empty.mp none)
    rw [closed, interrupted]
    constructor <;> simp [boundary, some, InsideFrame, unannounced]

theorem receiveFrame_header (maxFrameSize : Nat) (long : headerSize ≤ connection.contents.length) :
    ∃ later, later.contents = connection.contents.drop headerSize ∧
      later.ending = connection.ending ∧
      receiveFrame maxFrameSize connection =
        (if unpackHeader (connection.contents.take headerSize) = 0 then
          Program.raise ⟨.ipcInvalidFrame, "empty frames are forbidden"⟩
        else if unpackHeader (connection.contents.take headerSize) > maxFrameSize then
          Program.raise ⟨.ipcFrameTooLarge, "announced frame exceeds configured maximum"⟩
        else receiveExact (unpackHeader (connection.contents.take headerSize))) later := by
  obtain ⟨later, ran, rest, ending⟩ := receiveExact_enough true long
  exact ⟨later, rest, ending, Program.bind_of_ok ran⟩

/-- A call returns the payload of the frame that the stream starts with, or it raises. -/
theorem receiveFrame_cases (maxFrameSize : Nat) (closed : connection.ending = .closed) :
    (∃ payload frame later, framePayload maxFrameSize payload = .ok frame ∧
      connection.contents = frame ++ later.contents ∧ later.ending = .closed ∧
      receiveFrame maxFrameSize connection = (.ok payload, later)) ∨
    (∃ error later, receiveFrame maxFrameSize connection = (.error error, later) ∧
      Failure maxFrameSize connection.contents error later) := by
  by_cases short : connection.contents.length < headerSize
  · exact .inr (receiveFrame_noHeader closed short)
  have long : headerSize ≤ connection.contents.length := Nat.le_of_not_lt short
  obtain ⟨body, contents, ending, ran⟩ := receiveFrame_header maxFrameSize long
  have nonempty : connection.contents ≠ [] := by
    intro none
    rw [none] at long
    cases long
  generalize announces : unpackHeader (connection.contents.take headerSize) = size at ran
  have isAnnounced : announced connection.contents = some size := by
    rw [announced, if_neg short, announces]
  by_cases zero : size = 0
  · rw [if_pos zero] at ran
    refine .inr ⟨_, body, ran, ?_⟩
    constructor <;> simp [nonempty, InsideFrame, isAnnounced, zero]
  by_cases above : size > maxFrameSize
  · rw [if_neg zero, if_pos above] at ran
    refine .inr ⟨_, body, ran, ?_⟩
    have inadmissible : ¬ size ≤ maxFrameSize := Nat.not_le.mpr above
    constructor <;> simp [nonempty, InsideFrame, isAnnounced, zero, above, inadmissible, contents]
  rw [if_neg zero, if_neg above] at ran
  have split := List.take_append_drop headerSize connection.contents
  by_cases complete : size ≤ body.contents.length
  · obtain ⟨later, read, rest, closes⟩ := receiveExact_enough false complete
    have length : (body.contents.take size).length = size := List.length_take_of_le complete
    refine .inl ⟨body.contents.take size, connection.contents.take headerSize ++
      body.contents.take size, later, ?_, ?_, ?_, ran.trans read⟩
    · rw [framePayload_ok_iff, length]
      refine ⟨by omega, by omega, connection.contents.take headerSize, ?_, rfl⟩
      rw [← announces]
      exact packHeader_unpackHeader (List.length_take_of_le long)
    · rw [rest, List.append_assoc, List.take_append_drop, contents, split]
    · rw [closes, ending, closed]
  · have cut : body.contents.length < size := Nat.lt_of_not_le complete
    obtain ⟨later, received, read, -⟩ := receiveExact_short false cut
    rw [ending, closed] at read
    refine .inr ⟨_, later, ran.trans read, ?_⟩
    rw [contents, List.length_drop] at cut
    have inside : InsideFrame maxFrameSize connection.contents :=
      ⟨nonempty, .inr ⟨size, isAnnounced, by omega, by omega, by omega⟩⟩
    constructor <;> simp [interrupted, nonempty, inside, isAnnounced, zero]
    omega

theorem receiveFrame_frame {payload frame rest : Bytes}
    (framed : framePayload maxFrameSize payload = .ok frame)
    (contents : connection.contents = frame ++ rest) :
    ∃ later, receiveFrame maxFrameSize connection = (.ok payload, later) ∧
      later.contents = rest ∧ later.ending = connection.ending := by
  obtain ⟨positive, fits, header, packed, rfl⟩ := framePayload_ok_iff.mp framed
  have four := length_packHeader packed
  rw [List.append_assoc] at contents
  have long : headerSize ≤ connection.contents.length := by
    rw [contents, List.length_append, four]
    omega
  obtain ⟨body, bodyContents, ending, ran⟩ :=
    receiveFrame_header maxFrameSize long
  have isHeader : connection.contents.take headerSize = header := by
    rw [contents, ← four, List.take_left]
  have isBody : body.contents = payload ++ rest := by
    rw [bodyContents, contents, ← four, List.drop_left]
  rw [isHeader, unpackHeader_packHeader packed, if_neg (by omega), if_neg (by omega)] at ran
  have enough : payload.length ≤ body.contents.length := by
    rw [isBody, List.length_append]
    omega
  obtain ⟨later, read, left, closes⟩ := receiveExact_enough false enough
  rw [isBody, List.take_left] at read
  rw [isBody, List.drop_left] at left
  exact ⟨later, ran.trans read, left, closes.trans ending⟩

end Call

/-! ### Call after call -/

variable {maxFrameSize : Nat} {payloads : List Bytes} {connection : Connection UInt8}

theorem exists_framed (small : maxFrameSize < 2 ^ 32)
    (admissible : ∀ payload ∈ payloads, 1 ≤ payload.length ∧ payload.length ≤ maxFrameSize) :
    ∃ frames, Framed maxFrameSize payloads frames := by
  induction payloads with
  | nil => exact ⟨[], .nil⟩
  | cons payload payloads ih =>
    obtain ⟨frames, framed⟩ := ih fun other member => admissible other (.tail _ member)
    obtain ⟨positive, fits⟩ := admissible payload (.head _)
    obtain ⟨header, packed⟩ : ∃ header, packHeader payload.length = some header :=
      ⟨_, if_pos (by omega)⟩
    exact ⟨(header ++ payload) :: frames,
      .cons (framePayload_ok_iff.mpr ⟨positive, fits, header, packed, rfl⟩) framed⟩

theorem receiveFrames_succ {calls : Nat} {later left : Connection UInt8}
    {payload : Bytes} {raised : Option ProtocolError}
    (first : receiveFrame maxFrameSize connection = (.ok payload, later))
    (rest : receiveFrames maxFrameSize calls later = (payloads, raised, left)) :
    receiveFrames maxFrameSize (calls + 1) connection = (payload :: payloads, raised, left) := by
  rw [receiveFrames, first]
  simp only [rest]

theorem receiveFrames_framed {frames : List Bytes}
    (framed : Framed maxFrameSize payloads frames) {rest : Bytes}
    (contents : connection.contents = frames.flatten ++ rest) :
    ∃ later, receiveFrames maxFrameSize payloads.length connection = (payloads, none, later) ∧
      later.contents = rest ∧ later.ending = connection.ending := by
  induction framed generalizing connection with
  | nil => exact ⟨connection, rfl, contents, rfl⟩
  | cons first _ ih =>
    rw [List.flatten_cons, List.append_assoc] at contents
    obtain ⟨middle, ran, remaining, ending⟩ := receiveFrame_frame first contents
    obtain ⟨later, received, left, closes⟩ := ih remaining
    exact ⟨later, receiveFrames_succ ran received, left, closes.trans ending⟩

/-- What repeated calls read off any stream: the payloads of the frames it starts with, and
    then an exception that describes the rest. -/
theorem receiveFrames_stream (maxFrameSize : Nat) (connection : Connection UInt8)
    (closed : connection.ending = .closed) :
    ∃ payloads frames rest error left, Framed maxFrameSize payloads frames ∧
      connection.contents = frames.flatten ++ rest ∧
      Failure maxFrameSize rest error left ∧
      (∀ calls ≤ payloads.length, ∃ later,
        receiveFrames maxFrameSize calls connection = (payloads.take calls, none, later)) ∧
      ∀ calls, payloads.length < calls →
        receiveFrames maxFrameSize calls connection = (payloads, some error, left) := by
  -- Every frame takes bytes off the stream, so the induction is on its length.
  generalize bound : connection.contents.length = n
  induction n using Nat.strongRecOn generalizing connection with
  | ind n ih =>
  rcases receiveFrame_cases maxFrameSize closed with
    ⟨payload, frame, later, framed, contents, closes, ran⟩ | ⟨error, later, ran, failure⟩
  · have shorter : later.contents.length < n := by
      obtain ⟨positive, -, header, -, rfl⟩ := framePayload_ok_iff.mp framed
      rw [← bound, contents, List.length_append, List.length_append]
      omega
    obtain ⟨payloads, frames, rest, error, left, allFramed, restContents, failure, returned,
      raised⟩ := ih _ shorter later closes rfl
    refine ⟨payload :: payloads, frame :: frames, rest, error, left, .cons framed allFramed, ?_,
      failure, ?_, ?_⟩
    · rw [contents, restContents, List.flatten_cons, List.append_assoc]
    · intro calls few
      cases calls with
      | zero => exact ⟨connection, rfl⟩
      | succ calls =>
        obtain ⟨last, received⟩ := returned calls (Nat.le_of_succ_le_succ few)
        exact ⟨last, receiveFrames_succ ran received⟩
    · intro calls many
      cases calls with
      | zero => cases many
      | succ calls =>
        exact receiveFrames_succ ran (raised calls (Nat.lt_of_succ_lt_succ many))
  · refine ⟨[], [], connection.contents, error, later, .nil, rfl, failure, ?_, ?_⟩
    · intro calls none
      obtain rfl : calls = 0 := Nat.le_zero.mp none
      exact ⟨connection, rfl⟩
    · intro calls one
      cases calls with
      | zero => cases one
      | succ calls => rw [receiveFrames, ran]

/-- Framed payloads come back whole and in order from every way of cutting their frames into chunks;
    the call after them says how the stream ends. -/
theorem framing_lossless (maxFrameSize : Nat) :
    (∀ payloads : List Bytes,
      (∀ payload ∈ payloads, 1 ≤ payload.length ∧ payload.length ≤ maxFrameSize) →
      (maxFrameSize < 2 ^ 32 → ∃ frames, Framed maxFrameSize payloads frames) ∧
      ∀ (frames : List Bytes) (chunks : List (Piece UInt8)),
        Framed maxFrameSize payloads frames →
        (chunks.map Subtype.val).flatten = frames.flatten →
        receiveFrames maxFrameSize payloads.length (Connection.closing chunks) =
          (payloads, none, [])) ∧
    ∀ chunks : List (Piece UInt8),
      ∃ payloads frames rest error left, Framed maxFrameSize payloads frames ∧
        (chunks.map Subtype.val).flatten = frames.flatten ++ rest ∧
        Failure maxFrameSize rest error left ∧
        (∀ calls ≤ payloads.length, ∃ later,
          receiveFrames maxFrameSize calls (Connection.closing chunks) =
            (payloads.take calls, none, later)) ∧
        ∀ calls, payloads.length < calls →
          receiveFrames maxFrameSize calls (Connection.closing chunks) =
            (payloads, some error, left) := by
  constructor
  · intro payloads admissible
    refine ⟨fun small => exists_framed small admissible, ?_⟩
    intro frames chunks framed split
    have contents : (closing chunks).contents = frames.flatten ++ [] := by
      rw [contents_closing, split, List.append_nil]
    obtain ⟨later, received, nothing, ending⟩ := receiveFrames_framed framed contents
    rw [ending_closing] at ending
    rw [received, eq_nil nothing ending]
  · intro chunks
    have whole := receiveFrames_stream maxFrameSize (closing chunks)
      (ending_closing chunks)
    rwa [contents_closing] at whole

theorem two_frames_received :
    receiveFrames 16 2 (Connection.closing [⟨[0, 0], by decide⟩, ⟨[0, 2, 7, 8, 0, 0, 0, 3, 1],
      by decide⟩, ⟨[2, 3], by decide⟩]) = ([[7, 8], [1, 2, 3]], none, []) :=
  ((framing_lossless 16).1 [[7, 8], [1, 2, 3]] (by decide)).2
    [[0, 0, 0, 2, 7, 8], [0, 0, 0, 3, 1, 2, 3]] _ (.cons (by decide) (.cons (by decide) .nil))
    (by decide)

end TradingLab

import TradingLab.Protocol.Envelope

/-!
# The replay guard

`MessageReplayGuard` of `apps/core/worker_client.py`. A digest is represented by the text that it
is the digest of.
-/
namespace TradingLab

open Machine Relational

structure MessageReplayGuard where
  capacity : Nat
  /-- `_digests`, the oldest entry first. -/
  digests : Dict String JsonText
deriving DecidableEq

namespace MessageReplayGuard

/-- `MessageReplayGuard(capacity)`. -/
def make (capacity : Int := 1024) : Except String MessageReplayGuard :=
  if capacity ≤ 0 then .error "replay capacity must be positive" else .ok ⟨capacity.toNat, []⟩

def conflict : ProtocolError :=
  ⟨.ipcMessageReplayConflict, "message_id was replayed with conflicting content"⟩

/-- The entries with a new one, and without the oldest one when there are too many. -/
def store (guard : MessageReplayGuard) (messageId : String) (digest : JsonText) :
    Dict String JsonText :=
  let stored := guard.digests.put messageId digest
  if stored.length > guard.capacity then stored.tail else stored

def observe (envelope : Envelope) : Program ProtocolError MessageReplayGuard Bool := fun guard =>
  match encodeEnvelope envelope.toEnvelopeFields with
  | .error error => (.error error, guard)
  | .ok digest =>
    match guard.digests.get? envelope.messageId with
    | some previous =>
      if previous ≠ digest then (.error conflict, guard)
      else (.ok false, { guard with digests := guard.digests.moveToEnd envelope.messageId })
    | none => (.ok true, { guard with digests := guard.store envelope.messageId digest })

end MessageReplayGuard

end TradingLab

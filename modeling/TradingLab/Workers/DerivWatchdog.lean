import TradingLab.Numeric.MachineNumber
import TradingLab.Workers.DerivTransport

/-!
# The watchdog of the Deriv connection

`_record_received_frame`, `_watchdog_iteration` and `_send_watchdog_ping`. Times are readings of the
monotonic clock in seconds, and the arithmetic on them rounds.
-/
namespace TradingLab

open Numeric (Rounding)

def heartbeatPingIdleSeconds : ℚ := 15

def heartbeatPongTimeoutSeconds : ℚ := 10

def heartbeatRxStallSeconds : ℚ := 30

def suspendGapSeconds : ℚ := 10

def monotonicGapExceeds (arithmetic : Rounding) (now previous maxGapSeconds : ℚ) :
    Except String Bool :=
  if maxGapSeconds ≤ 0 then .error "suspension gap threshold must be positive"
  else .ok (decide (maxGapSeconds < arithmetic.sub now previous))

/-- The part of the client that the watchdog works on. -/
structure Heartbeat where
  lastRxMonotonic : ℚ
  pendingPingDeadline : Option ℚ
  lastWatchdogTick : ℚ
  failureRecorded : Bool
  pingsSentTotal : Nat
  suspendDetectionsTotal : Nat
  heartbeatKillsTotal : Nat
  lastKillReason : Option String
deriving DecidableEq

/-- The request that the watchdog sends. -/
def pingRequest : DerivRequest := ⟨.ping, [("ping", .int 1)]⟩

inductive PingSend
  | notConnected
  /-- `send` raises. -/
  | failed
  | sent
deriving DecidableEq, Repr

inductive WatchdogAct
  | idle
  | pinged
  | killed (reason : String)
deriving DecidableEq, Repr

namespace Heartbeat

def reconnect (heartbeat : Heartbeat) (now : ℚ) : Heartbeat :=
  { heartbeat with
    lastRxMonotonic := now
    pendingPingDeadline := none
    lastWatchdogTick := now
    failureRecorded := false }

def recordReceivedFrame (heartbeat : Heartbeat) (now : ℚ) : Heartbeat :=
  { heartbeat with lastRxMonotonic := now, pendingPingDeadline := none }

/-- `_kill_connection` on a live connection: the failure is recorded once. -/
def killConnection (heartbeat : Heartbeat) (reason : String) : WatchdogAct × Heartbeat :=
  (.killed reason,
    if heartbeat.failureRecorded then heartbeat
    else
      { heartbeat with
        heartbeatKillsTotal := heartbeat.heartbeatKillsTotal + 1
        lastKillReason := some reason
        failureRecorded := true })

def sendWatchdogPing (arithmetic : Rounding) (heartbeat : Heartbeat) (now : ℚ) (send : PingSend) :
    WatchdogAct × Heartbeat :=
  let deadline := arithmetic.add now heartbeatPongTimeoutSeconds
  match send with
  | .notConnected => heartbeat.killConnection "ping_send_failed"
  | .failed =>
    { heartbeat with pendingPingDeadline := some deadline }.killConnection "ping_send_failed"
  | .sent =>
    (.pinged,
      { heartbeat with
        pendingPingDeadline := some deadline
        pingsSentTotal := heartbeat.pingsSentTotal + 1 })

/-- `_watchdog_iteration(now)` while the reader is not stopped. -/
def watchdogIteration (arithmetic : Rounding) (heartbeat : Heartbeat) (observed : ℚ)
    (send : PingSend) : WatchdogAct × Heartbeat :=
  if heartbeat.failureRecorded then (.idle, heartbeat)
  else
    let lastTick := heartbeat.lastWatchdogTick
    let lastRx := heartbeat.lastRxMonotonic
    let deadline := heartbeat.pendingPingDeadline
    let heartbeat := { heartbeat with lastWatchdogTick := observed }
    if monotonicGapExceeds arithmetic observed lastTick suspendGapSeconds = .ok true then
      { heartbeat with
        suspendDetectionsTotal := heartbeat.suspendDetectionsTotal + 1 }.killConnection
          "system_suspend_detected"
    else if heartbeatRxStallSeconds < arithmetic.sub observed lastRx then
      heartbeat.killConnection "rx_stall"
    else if deadline.any fun deadline => decide (deadline < observed) then
      heartbeat.killConnection "pong_timeout"
    else if heartbeatPingIdleSeconds < arithmetic.sub observed lastRx ∧ deadline = none then
      heartbeat.sendWatchdogPing arithmetic observed send
    else (.idle, heartbeat)

end Heartbeat

end TradingLab

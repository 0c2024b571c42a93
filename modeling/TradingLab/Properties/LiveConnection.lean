import Mathlib.Tactic.Linarith
import TradingLab.Workers.DerivWatchdog

/-!
# A live connection is not killed

The watchdog kills a connection that has been silent for too long, and one whose clock has jumped
since the last round; `reconnect` counts as a round for that. The invariant relates the deadline of
the ping to the latest frame: the ping was sent more than 15 seconds after it.
-/
namespace TradingLab

open Machine (Always Guarded)
open Numeric (Rounding)

/-- The connection is killed at a time, when the latest frame was received at another. -/
structure Kill where
  time : ℚ
  latestFrame : ℚ
deriving DecidableEq

/-- The watchdog at work on a connection, with the history that the bound speaks of. -/
structure WatchedConnection where
  heartbeat : Heartbeat
  reconnectedAt : ℚ
  time : ℚ
  lastIteration : Option ℚ
  /-- When the latest frame was received, or the connection opened. -/
  latestFrame : ℚ
  kills : List Kill
  /-- The pings sent since the latest frame. -/
  outstanding : Nat
deriving DecidableEq

inductive WatchdogStep
  | iteration (now : ℚ) (send : PingSend)
  | frame (now : ℚ)

def WatchdogStep.now : WatchdogStep → ℚ
  | .iteration now _ => now
  | .frame now => now

namespace WatchedConnection

def reconnected (heartbeat : Heartbeat) (now : ℚ) : WatchedConnection where
  heartbeat := heartbeat.reconnect now
  reconnectedAt := now
  time := now
  lastIteration := none
  latestFrame := now
  kills := []
  outstanding := 0

def step (arithmetic : Rounding) (watched : WatchedConnection) :
    WatchdogStep → WatchedConnection
  | .iteration now send =>
    let (act, heartbeat) := watched.heartbeat.watchdogIteration arithmetic now send
    { watched with
      heartbeat := heartbeat
      time := now
      lastIteration := some now
      kills := match act with
        | .killed _ => watched.kills ++ [⟨now, watched.latestFrame⟩]
        | _ => watched.kills
      outstanding := match act with
        | .pinged => watched.outstanding + 1
        | _ => watched.outstanding }
  | .frame now =>
    { watched with
      heartbeat := watched.heartbeat.recordReceivedFrame now
      time := now
      latestFrame := now
      outstanding := 0 }

/-- The clock does not go back, its readings are numbers of the format, and pings are sent. -/
structure KeepsTime (arithmetic : Rounding) (watched : WatchedConnection) (step : WatchdogStep) :
    Prop where
  forward : watched.time ≤ step.now
  number : arithmetic.IsNumber step.now
  sent : ∀ now send, step = .iteration now send → send = .sent

/-- A round comes at most `suspendGapSeconds` after the one before it, if there was one. -/
def Spaced (watched : WatchedConnection) : WatchdogStep → Prop
  | .iteration now _ =>
    ∀ previous, watched.lastIteration = some previous → now - previous ≤ suspendGapSeconds
  | .frame _ => True

def SpacedFromReconnect (watched : WatchedConnection) : WatchdogStep → Prop
  | .iteration now _ =>
    now - watched.lastIteration.getD watched.reconnectedAt ≤ suspendGapSeconds
  | .frame _ => True

/-- Every kill came late enough, and at most one ping is outstanding. -/
structure LiveKept (watched : WatchedConnection) : Prop where
  late : ∀ kill ∈ watched.kills,
    kill.latestFrame + (heartbeatPingIdleSeconds + heartbeatPongTimeoutSeconds) < kill.time
  single : watched.outstanding ≤ 1

/-! ### The invariant -/

/-- What a pending deadline says: the ping was sent more than 15 seconds after the latest frame
    and has not been answered. -/
def PingSince (arithmetic : Rounding) (watched : WatchedConnection) (deadline : ℚ) : Prop :=
  ∃ pinged, watched.latestFrame + heartbeatPingIdleSeconds < pinged ∧
    deadline = arithmetic.add pinged heartbeatPongTimeoutSeconds

structure Watches (arithmetic : Rounding) (watched : WatchedConnection) : Prop where
  kept : watched.LiveKept
  lastRx : watched.heartbeat.lastRxMonotonic = watched.latestFrame
  lastTick : watched.heartbeat.failureRecorded = false →
    watched.heartbeat.lastWatchdogTick = watched.lastIteration.getD watched.reconnectedAt
  unpinged : watched.heartbeat.pendingPingDeadline = none → watched.outstanding = 0
  pinged : ∀ deadline, watched.heartbeat.pendingPingDeadline = some deadline →
    PingSince arithmetic watched deadline

variable {arithmetic : Rounding} {watched : WatchedConnection}

theorem Watches.reconnected (heartbeat : Heartbeat) (now : ℚ) :
    (reconnected heartbeat now).Watches arithmetic where
  kept := ⟨fun _ member => absurd member List.not_mem_nil, Nat.zero_le 1⟩
  lastRx := rfl
  lastTick := fun _ => rfl
  unpinged := fun _ => rfl
  pinged := fun _ absurd => (nomatch absurd)

theorem Watches.frame (watches : watched.Watches arithmetic) (now : ℚ) :
    (watched.step arithmetic (.frame now)).Watches arithmetic where
  kept := ⟨watches.kept.late, Nat.zero_le 1⟩
  lastRx := rfl
  lastTick := watches.lastTick
  unpinged := fun _ => rfl
  pinged := fun _ absurd => (nomatch absurd)

theorem isNumber_constant {n : ℤ} (small : |n| ≤ 2 ^ 53) : arithmetic.IsNumber (n : ℚ) :=
  Rounding.isNumber_whole small

theorem monotonicGapExceeds_of_le {now previous : ℚ} (near : now - previous ≤ suspendGapSeconds) :
    monotonicGapExceeds arithmetic now previous suspendGapSeconds = .ok false := by
  have number : arithmetic.round suspendGapSeconds = suspendGapSeconds :=
    isNumber_constant (n := 10) (by norm_num)
  have rounded := arithmetic.monotone near
  rw [number] at rounded
  have positive : ¬ suspendGapSeconds ≤ 0 := by norm_num [suspendGapSeconds]
  rw [monotonicGapExceeds, if_neg positive, Rounding.sub]
  exact congrArg Except.ok (decide_eq_false (not_lt.mpr rounded))

end WatchedConnection

/-! ### One round -/

section Round
variable {arithmetic : Rounding} {heartbeat heartbeat' : Heartbeat} {act : WatchdogAct}

def Silent (arithmetic : Rounding) (heartbeat : Heartbeat) (observed : ℚ) : Prop :=
  heartbeatRxStallSeconds < arithmetic.sub observed heartbeat.lastRxMonotonic ∨
    ∃ deadline, heartbeat.pendingPingDeadline = some deadline ∧ deadline < observed

/-- What a round does: nothing more once the connection has failed; else it kills a silent
    connection, pings an idle one, or only notes the time. -/
inductive Round (arithmetic : Rounding) (heartbeat : Heartbeat) (observed : ℚ) :
    WatchdogAct → Heartbeat → Prop
  | finished (failed : heartbeat.failureRecorded = true) :
      Round arithmetic heartbeat observed .idle heartbeat
  | killed (reason : String) (silent : Silent arithmetic heartbeat observed)
      (after : Heartbeat) (failed : after.failureRecorded = true)
      (lastRx : after.lastRxMonotonic = heartbeat.lastRxMonotonic)
      (deadline : after.pendingPingDeadline = heartbeat.pendingPingDeadline) :
      Round arithmetic heartbeat observed (.killed reason) after
  | pinged (idle : heartbeatPingIdleSeconds < arithmetic.sub observed heartbeat.lastRxMonotonic)
      (unpinged : heartbeat.pendingPingDeadline = none) (pings : Nat) :
      Round arithmetic heartbeat observed .pinged
        { heartbeat with
          lastWatchdogTick := observed
          pendingPingDeadline := some (arithmetic.add observed heartbeatPongTimeoutSeconds)
          pingsSentTotal := pings }
  | idle : Round arithmetic heartbeat observed .idle { heartbeat with lastWatchdogTick := observed }

theorem watchdogIteration_round {observed : ℚ} (steady : heartbeat.failureRecorded = false →
      observed - heartbeat.lastWatchdogTick ≤ suspendGapSeconds)
    (round : heartbeat.watchdogIteration arithmetic observed .sent = (act, heartbeat')) :
    Round arithmetic heartbeat observed act heartbeat' := by
  unfold Heartbeat.watchdogIteration at round
  split at round
  · rename_i failed
    cases round
    exact .finished failed
  rename_i alive
  have near := steady (by simpa using alive)
  simp only [WatchedConnection.monotonicGapExceeds_of_le near, Except.ok.injEq,
    Bool.false_eq_true, if_false] at round
  split at round
  · rename_i stalled
    cases round
    exact .killed _ (.inl stalled) _ (by simp [alive]) (by split <;> rfl) (by split <;> rfl)
  split at round
  · rename_i overdue
    obtain ⟨deadline, pending, past⟩ := Option.any_eq_true _ _ |>.mp overdue
    cases round
    exact .killed _ (.inr ⟨deadline, pending, by simpa using past⟩) _ (by simp [alive])
      (by split <;> rfl) (by split <;> rfl)
  split at round
  · rename_i idle
    cases round
    exact .pinged idle.1 idle.2 _
  · cases round
    exact .idle

end Round

namespace WatchedConnection

variable {arithmetic : Rounding} {watched : WatchedConnection} {now : ℚ}

/-- **A silent connection has been silent for more than 25 seconds.** -/
theorem late_of_silent (watches : watched.Watches arithmetic)
    (number : arithmetic.IsNumber now) (silent : Silent arithmetic watched.heartbeat now) :
    watched.latestFrame + (heartbeatPingIdleSeconds + heartbeatPongTimeoutSeconds) < now := by
  rcases silent with stalled | ⟨deadline, pending, past⟩
  · have thirty : arithmetic.IsNumber heartbeatRxStallSeconds :=
      isNumber_constant (n := 30) (by norm_num)
    have exact := Rounding.lt_of_lt_round thirty stalled
    rw [watches.lastRx] at exact
    norm_num [heartbeatPingIdleSeconds, heartbeatPongTimeoutSeconds, heartbeatRxStallSeconds]
      at exact ⊢
    linarith
  · obtain ⟨pinged, idle, rfl⟩ := watches.pinged deadline pending
    have exact := Rounding.lt_of_round_lt number past
    linarith

theorem Watches.iteration (watches : watched.Watches arithmetic) (number : arithmetic.IsNumber now)
    (spaced : watched.SpacedFromReconnect (.iteration now .sent)) :
    (watched.step arithmetic (.iteration now .sent)).Watches arithmetic := by
  cases round : watched.heartbeat.watchdogIteration arithmetic now .sent with
  | mk act heartbeat' =>
  have steady : watched.heartbeat.failureRecorded = false →
      now - watched.heartbeat.lastWatchdogTick ≤ suspendGapSeconds := by
    intro alive
    rw [watches.lastTick alive]
    exact spaced
  simp only [step, round]
  cases watchdogIteration_round steady round with
  | finished failed =>
    exact ⟨⟨watches.kept.late, watches.kept.single⟩, watches.lastRx, fun alive =>
      (nomatch failed.symm.trans alive),
      watches.unpinged, watches.pinged⟩
  | killed reason silent after failed lastRx deadline =>
    refine ⟨⟨?_, watches.kept.single⟩, lastRx.trans watches.lastRx,
      fun alive => (nomatch failed.symm.trans alive), ?_, ?_⟩
    · intro kill member
      rcases List.mem_append.mp member with earlier | new
      · exact watches.kept.late kill earlier
      · rw [List.mem_singleton.mp new]
        exact late_of_silent watches number silent
    · exact fun none => watches.unpinged (deadline.symm.trans none)
    · exact fun due some => watches.pinged due (deadline.symm.trans some)
  | pinged idle unpinged pings =>
    refine ⟨⟨watches.kept.late, ?_⟩, watches.lastRx, fun _ => rfl, fun absurd => (nomatch absurd),
      ?_⟩
    · simp only [watches.unpinged unpinged]
      decide
    · rintro deadline ⟨⟩
      refine ⟨now, ?_, rfl⟩
      have fifteen : arithmetic.IsNumber heartbeatPingIdleSeconds :=
        isNumber_constant (n := 15) (by norm_num)
      have exact := Rounding.lt_of_lt_round fifteen idle
      rw [watches.lastRx] at exact
      simp only
      linarith
  | idle =>
    exact ⟨⟨watches.kept.late, watches.kept.single⟩, watches.lastRx, fun _ => rfl,
      watches.unpinged, watches.pinged⟩

end WatchedConnection

/-- **The watchdog never kills a live connection**, however the arithmetic on the clock rounds; and
    at most one ping is outstanding. -/
theorem live_connection_kept (arithmetic : Rounding) (heartbeat : Heartbeat) (start : ℚ)
    {steps : List WatchdogStep}
    (timed : Guarded (WatchedConnection.step arithmetic) (WatchedConnection.KeepsTime arithmetic)
      (.reconnected heartbeat start) steps)
    (spaced : Guarded (WatchedConnection.step arithmetic) WatchedConnection.SpacedFromReconnect
      (.reconnected heartbeat start) steps) :
    Always (WatchedConnection.step arithmetic) WatchedConnection.LiveKept
      (.reconnected heartbeat start) steps := by
  have keeps : ∀ watched step, WatchedConnection.Watches arithmetic watched →
      watched.KeepsTime arithmetic step ∧ watched.SpacedFromReconnect step →
      (watched.step arithmetic step).Watches arithmetic := by
    rintro watched step watches ⟨keepsTime, spaced⟩
    cases step with
    | frame now => exact watches.frame now
    | iteration now send =>
      cases keepsTime.sent now send rfl
      exact watches.iteration keepsTime.number spaced
  exact Machine.guarded_always
    (fun _ (watches : WatchedConnection.Watches arithmetic _) => watches.kept) keeps
    (.reconnected heartbeat start) (timed.and spaced)

/-! ### A silent connection, and a first round that is late -/

namespace Sample

def newHeartbeat : Heartbeat where
  lastRxMonotonic := 0
  pendingPingDeadline := none
  lastWatchdogTick := 0
  failureRecorded := false
  pingsSentTotal := 0
  suspendDetectionsTotal := 0
  heartbeatKillsTotal := 0
  lastKillReason := none

def silentConnection : List WatchdogStep :=
  [.frame 1, .iteration 9 .sent, .iteration 17 .sent, .iteration 27 .sent, .iteration 28 .sent]

def lateFirstRound : List WatchdogStep := [.frame 10, .iteration 11 .sent]

theorem keepsTime_exact {watched : WatchedConnection} {step : WatchdogStep}
    (forward : watched.time ≤ step.now)
    (sent : ∀ now send, step = .iteration now send → send = .sent) :
    watched.KeepsTime .exact step :=
  ⟨forward, rfl, sent⟩

theorem sent_frame (at_ : ℚ) : ∀ now send, WatchdogStep.frame at_ = .iteration now send →
    send = .sent :=
  fun _ _ absurd => (nomatch absurd)

theorem sent_iteration (at_ : ℚ) : ∀ now send,
    WatchdogStep.iteration at_ .sent = .iteration now send → send = .sent := by
  rintro now send ⟨⟩
  rfl

end Sample

theorem silent_connection_killed_late :
    Always (WatchedConnection.step .exact) WatchedConnection.LiveKept
      (.reconnected Sample.newHeartbeat 0) Sample.silentConnection ∧
    (Machine.run (WatchedConnection.step .exact) (.reconnected Sample.newHeartbeat 0)
      Sample.silentConnection).kills = [⟨28, 1⟩] := by
  refine ⟨live_connection_kept .exact Sample.newHeartbeat 0 ?_ ?_, by decide +kernel⟩
  · exact ⟨Sample.keepsTime_exact (by decide) (Sample.sent_frame _),
      Sample.keepsTime_exact (by decide) (Sample.sent_iteration _),
      Sample.keepsTime_exact (by decide) (Sample.sent_iteration _),
      Sample.keepsTime_exact (by decide) (Sample.sent_iteration _),
      Sample.keepsTime_exact (by decide) (Sample.sent_iteration _), trivial⟩
  · refine ⟨trivial, ?_, ?_, ?_, ?_, trivial⟩ <;>
      · unfold WatchedConnection.SpacedFromReconnect
        decide +kernel

/-- One round only, so no two rounds are far apart; but it comes 11 seconds after the reconnect,
    which counts as a jump of the clock, and the connection is killed one second after a frame. -/
theorem late_first_round_kills :
    Guarded (WatchedConnection.step .exact) (WatchedConnection.KeepsTime .exact)
      (.reconnected Sample.newHeartbeat 0) Sample.lateFirstRound ∧
    Guarded (WatchedConnection.step .exact) WatchedConnection.Spaced
      (.reconnected Sample.newHeartbeat 0) Sample.lateFirstRound ∧
    ¬ (Machine.run (WatchedConnection.step .exact) (.reconnected Sample.newHeartbeat 0)
      Sample.lateFirstRound).LiveKept ∧
    (Machine.run (WatchedConnection.step .exact) (.reconnected Sample.newHeartbeat 0)
      Sample.lateFirstRound).kills = [⟨11, 10⟩] := by
  have kills : (Machine.run (WatchedConnection.step .exact)
      (.reconnected Sample.newHeartbeat 0) Sample.lateFirstRound).kills = [⟨11, 10⟩] := by
    decide +kernel
  refine ⟨?_, ?_, fun kept => ?_, kills⟩
  · exact ⟨Sample.keepsTime_exact (by decide) (Sample.sent_frame _),
      Sample.keepsTime_exact (by decide) (Sample.sent_iteration _), trivial⟩
  · exact ⟨trivial, fun _ absurd => (nomatch absurd), trivial⟩
  · have late := kept.late ⟨11, 10⟩ (by rw [kills]; exact List.mem_singleton_self _)
    norm_num [heartbeatPingIdleSeconds, heartbeatPongTimeoutSeconds] at late

end TradingLab

import TradingLab.Core.LeaderLease

/-!
# The standby loop of the IQ Option worker

`WorkerProcess` reconciles, asks for the leader lease and then looks at it once a second. The store's
answers and the clock readings are inputs of an iteration; the clock does not go back during one. An
exception ends the loop; the iteration it ends is not completed.
-/
namespace TradingLab

/-- The states that `_run` and its loop give the worker once it is connected. -/
inductive WorkerState
  | reconciling
  | ready
  | readOnly
deriving DecidableEq, Repr

/-- What one call of `acquire` meets: its clock reading, the token and the monotonic expiry that
    the store answers, and the clock when it returns. -/
structure Acquisition where
  asked : ℚ
  answer : Option (Nat × ℚ)
  returned : ℚ
  ordered : asked ≤ returned

/-- One iteration of `_standby_or_leader_loop`: the clock at its `is_leader`, the store's answer to
    a renewal with the clock after it, or an acquisition and the result of the reconciliation that
    follows it. -/
structure Iteration where
  checked : ℚ
  renewed : Bool
  renewedAt : ℚ
  acquisition : Acquisition
  tradingAllowed : Bool
  ordered : checked ≤ acquisition.asked

structure WorkerLoop where
  state : WorkerState
  lease : Option LeaseState := none
  lastChange : Option ℚ := none
  /-- History: whether `is_leader` held at some point of the last completed iteration. -/
  led : Option Bool := none
  /-- History: what the last reconciliation since the leadership began said of trading; the one of
      the start counts for the lease that is taken right after it. -/
  reconciled : Option Bool := none

namespace WorkerLoop

variable (ttl minBetween : ℚ)

/-- Its answer, and the worker after it. -/
def acquire (worker : WorkerLoop) (acquisition : Acquisition) : Bool × WorkerLoop :=
  if isLeader worker.lease acquisition.asked then (true, worker)
  else if worker.lastChange.any fun change => decide (acquisition.asked - change < minBetween) then
    (false, worker)
  else
    match acquisition.answer with
    | none => (false, worker)
    | some (token, expiryMonotonic) =>
      (decide (0 < expiryMonotonic),
        { worker with
          lease := some { fencingToken := token, expiresAt := acquisition.asked + ttl }
          lastChange := some acquisition.asked
          reconciled := none })

/-- The end of `_run` before the loop. -/
def start (tradingAllowed : Bool) (acquisition : Acquisition) : WorkerLoop :=
  let worker : WorkerLoop := { state := .readOnly }
  if tradingAllowed then
    let acquired := worker.acquire ttl minBetween acquisition
    if acquired.1 then { acquired.2 with state := .ready, reconciled := some true } else acquired.2
  else worker

/-- `is_leader` held while the worker asked for the lease, or when it got it. -/
def ledMeanwhile (worker : WorkerLoop) (acquisition : Acquisition) : Bool :=
  isLeader worker.lease acquisition.asked ||
    isLeader (worker.acquire ttl minBetween acquisition).2.lease acquisition.returned

def iterate (worker : WorkerLoop) (iteration : Iteration) : WorkerLoop :=
  if isLeader worker.lease iteration.checked then
    if iteration.renewed then
      { worker with
        lease := worker.lease.map fun lease =>
          { lease with expiresAt := iteration.renewedAt + ttl }
        led := some true }
    else { worker with state := .readOnly, lease := none, led := some true }
  else
    let acquired := worker.acquire ttl minBetween iteration.acquisition
    let led := some (worker.ledMeanwhile ttl minBetween iteration.acquisition)
    if acquired.1 then
      { acquired.2 with
        state := if iteration.tradingAllowed then .ready else .reconciling
        led := led
        reconciled := some iteration.tradingAllowed }
    else { acquired.2 with led := led }

end WorkerLoop

end TradingLab

import Mathlib.Algebra.Order.Field.Rat
import TradingLab.Machine.Window

/-!
# Circuit breakers

`CircuitBreaker` counts failures in a bounded window of events. It opens at the threshold and is
half open at the first look after the recovery timeout; then one call may probe, and its outcome
closes or opens the breaker. Clock readings and durations are exact numbers of seconds.
-/
namespace TradingLab

inductive CircuitState
  | closed
  | opened
  | halfOpen
deriving DecidableEq, Repr

inductive WindowMode
  | count
  | time
deriving DecidableEq, Repr

/-- The parameters that `__init__` accepts. -/
structure CircuitConfig where
  failureThreshold : Nat := 5
  recoveryTimeout : ℚ := 30
  windowSize : Nat := 20
  windowSeconds : ℚ := 60
  windowMode : WindowMode := .count
  minimumSamples : Nat := 1
  threshold : 1 ≤ failureThreshold ∧ failureThreshold ≤ 10000
  samples : 1 ≤ minimumSamples ∧ minimumSamples ≤ windowSize ∧ windowSize ≤ 100000
  durations : 0 < recoveryTimeout ∧ 0 < windowSeconds

structure CircuitBreaker where
  state : CircuitState := .closed
  openedAt : Option ℚ := none
  halfOpenProbeActive : Bool := false
  events : List (ℚ × Bool) := []
deriving DecidableEq

namespace CircuitBreaker

variable (config : CircuitConfig) (now : ℚ) (breaker : CircuitBreaker)

/-- `_open`. -/
def trip : CircuitBreaker :=
  { breaker with state := .opened, openedAt := some now, halfOpenProbeActive := false }

def advanceOpenState : CircuitBreaker :=
  if breaker.state = .opened ∧
      breaker.openedAt.any (fun opened => decide (config.recoveryTimeout ≤ now - opened)) then
    { breaker with state := .halfOpen, halfOpenProbeActive := false }
  else breaker

def prune : CircuitBreaker :=
  match config.windowMode with
  | .time =>
    { breaker with
      events := breaker.events.dropWhile fun event =>
        decide (event.1 < now - config.windowSeconds) }
  | .count => breaker

/-- `_events.append`; a full deque loses its first event. -/
def append (success : Bool) : CircuitBreaker :=
  { breaker with events := Machine.slide config.windowSize breaker.events (now, success) }

def failures : Nat :=
  breaker.events.countP fun event => !event.2

def canExecute : Bool × CircuitBreaker :=
  let breaker := (breaker.prune config now).advanceOpenState config now
  if breaker.state = .closed then (true, breaker)
  else if breaker.state = .halfOpen ∧ breaker.halfOpenProbeActive = false then
    (true, { breaker with halfOpenProbeActive := true })
  else (false, breaker)

def recordSuccess : CircuitBreaker :=
  let breaker := if breaker.state = .halfOpen then {} else breaker
  (breaker.append config now true).prune config now

def recordFailure : CircuitBreaker :=
  if breaker.state = .halfOpen then breaker.trip now
  else
    let breaker := (breaker.append config now false).prune config now
    if config.minimumSamples ≤ breaker.events.length ∧
        config.failureThreshold ≤ breaker.failures then breaker.trip now
    else breaker

end CircuitBreaker

inductive BreakerCall
  | canExecute
  | recordSuccess
  | recordFailure
  | readState
deriving DecidableEq

namespace CircuitBreaker

def step (config : CircuitConfig) (breaker : CircuitBreaker) (call : BreakerCall × ℚ) :
    CircuitBreaker :=
  match call.1 with
  | .canExecute => (breaker.canExecute config call.2).2
  | .recordSuccess => breaker.recordSuccess config call.2
  | .recordFailure => breaker.recordFailure config call.2
  | .readState => breaker.advanceOpenState config call.2

end CircuitBreaker

end TradingLab

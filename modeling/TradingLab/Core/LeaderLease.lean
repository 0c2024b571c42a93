import Mathlib.Algebra.Order.Field.Rat

/-!
# Leader leases

`LeaderLease` keeps one Redis key as a lease that expires. `acquire` counts the local expiry from a
clock reading before its store calls, `renew` from one after its call. A step is one store call, one
start or one end of a method. Every clock shows one global time; an instance is in one call at a time.
-/
namespace TradingLab

/-- The fields of `LeaseState` that decide who leads. -/
structure LeaseState where
  fencingToken : Nat
  expiresAt : ℚ
deriving DecidableEq

def isLeader (lease : Option LeaseState) (now : ℚ) : Bool :=
  lease.any fun state => decide (now < state.expiresAt)

/-- The value of the key: the text `__lease_claim__`, here with its writer, or a lease. -/
inductive LeaseValue
  | claim (writer : Nat)
  | lease (owner token : Nat)
deriving DecidableEq

/-- `ttl_seconds` and `min_time_between_leader_changes_seconds` of each instance. -/
structure LeaseConfig where
  ttl : Nat → ℚ
  minBetween : Nat → ℚ
  positive : ∀ member, 0 < ttl member

inductive LeasePhase
  | idle
  /-- `acquire`, with the clock reading it began with, before `SET NX`. -/
  | claiming (since : ℚ)
  | counting (since : ℚ)
  | writing (since : ℚ) (token : Nat)
  | written (since : ℚ) (token : Nat)
  | renewing (token : Nat)
  /-- The store has extended the key, at this moment, or refused. -/
  | renewed (token : Nat) (extended : Option ℚ)
  | releasing (token : Nat)
  | released
deriving DecidableEq

structure LeaseMember where
  lease : Option LeaseState := none
  lastChange : Option ℚ := none
  phase : LeasePhase := .idle

/-- The global time, the key with its expiry, the counter of tokens and the instances. -/
structure LeaseSystem where
  now : ℚ := 0
  key : Option (LeaseValue × ℚ) := none
  counter : Nat := 0
  members : Nat → LeaseMember := fun _ => {}

inductive LeaseEvent
  | tick (later : ℚ)
  | acquire (member : Nat)
  | renew (member : Nat)
  | release (member : Nat)
  | store (member : Nat)
  | finish (member : Nat)
deriving DecidableEq

namespace LeaseSystem

variable (config : LeaseConfig) (s : LeaseSystem)

def stored : Option LeaseValue :=
  s.key.bind fun entry => if s.now < entry.2 then some entry.1 else none

def put (i : Nat) (member : LeaseMember) : LeaseSystem :=
  { s with members := fun j => if j = i then member else s.members j }

def leads (i : Nat) : Bool :=
  isLeader (s.members i).lease s.now

def acquire (i : Nat) : LeaseSystem :=
  let member := s.members i
  if s.leads i then s
  else if member.lastChange.any fun change => decide (s.now - change < config.minBetween i) then s
  else s.put i { member with phase := .claiming s.now }

def store (i : Nat) : LeaseSystem :=
  let member := s.members i
  match member.phase with
  | .claiming since =>
    if s.stored = none then
      { s with key := some (.claim i, s.now + config.ttl i) }.put i
        { member with phase := .counting since }
    else s.put i { member with phase := .idle }
  | .counting since =>
    { s with counter := s.counter + 1 }.put i
      { member with phase := .writing since (s.counter + 1) }
  | .writing since token =>
    { s with key := some (.lease i token, s.now + config.ttl i) }.put i
      { member with phase := .written since token }
  | .renewing token =>
    if s.stored = some (.lease i token) then
      { s with key := some (.lease i token, s.now + config.ttl i) }.put i
        { member with phase := .renewed token (some s.now) }
    else s.put i { member with phase := .renewed token none }
  | .releasing token =>
    if s.stored = some (.lease i token) then
      { s with key := none }.put i { member with phase := .released }
    else s.put i { member with phase := .released }
  | _ => s

def finish (i : Nat) : LeaseSystem :=
  let member := s.members i
  match member.phase with
  | .written since token =>
    s.put i
      { lease := some { fencingToken := token, expiresAt := since + config.ttl i }
        lastChange := some since }
  | .renewed token (some _) =>
    s.put i
      { member with
        lease := some { fencingToken := token, expiresAt := s.now + config.ttl i }
        phase := .idle }
  | .renewed _ none => s.put i { member with lease := none, phase := .idle }
  | .released => s.put i { member with lease := none, phase := .idle }
  | _ => s

/-- `renew` and `release` do nothing without a lease. -/
def step : LeaseEvent → LeaseSystem
  | .tick later => { s with now := max s.now later }
  | .acquire i => if (s.members i).phase = .idle then s.acquire config i else s
  | .renew i =>
    match (s.members i).phase, (s.members i).lease with
    | .idle, some lease => s.put i { s.members i with phase := .renewing lease.fencingToken }
    | _, _ => s
  | .release i =>
    match (s.members i).phase, (s.members i).lease with
    | .idle, some lease => s.put i { s.members i with phase := .releasing lease.fencingToken }
    | _, _ => s
  | .store i => s.store config i
  | .finish i => s.finish config i

end LeaseSystem

end TradingLab

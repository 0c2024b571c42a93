import TradingLab.Machine.Run
import TradingLab.Workers.StandbyLoop

/-!
# Readiness and leadership of the worker

Only a refused renewal takes `READY` from the worker. A lease that expires between two iterations
sends the loop to `acquire` instead, and where that answers `False` the state stays as it was.
-/
namespace TradingLab

namespace WorkerLoop

variable (ttl minBetween : ℚ) {worker : WorkerLoop} {iteration : Iteration}

/-- A ready worker led in the last iteration, and the last reconciliation of its leadership allowed
    trading. -/
def ReadyLeading (worker : WorkerLoop) : Prop :=
  worker.state = .ready → worker.led ≠ some false ∧ worker.reconciled = some true

/-- An iteration that finds no lease gets one that is still alive, unless it stays without
    trading. -/
def Regains (worker : WorkerLoop) (iteration : Iteration) : Prop :=
  isLeader worker.lease iteration.checked = false →
    if (worker.acquire ttl minBetween iteration.acquisition).1 then
      iteration.tradingAllowed = true →
        worker.ledMeanwhile ttl minBetween iteration.acquisition = true
    else worker.state ≠ .ready

variable {ttl minBetween}

theorem isLeader_of_le {lease : Option LeaseState} {now later : ℚ} (order : now ≤ later)
    (leads : isLeader lease later = true) : isLeader lease now = true := by
  simp only [isLeader, Option.any_eq_true, decide_eq_true_eq] at leads ⊢
  obtain ⟨state, is, live⟩ := leads
  exact ⟨state, is, order.trans_lt live⟩

theorem acquire_frame (worker : WorkerLoop) (acquisition : Acquisition) :
    (worker.acquire ttl minBetween acquisition).2.state = worker.state ∧
      (worker.acquire ttl minBetween acquisition).2.led = worker.led := by
  unfold acquire
  split
  · exact ⟨rfl, rfl⟩
  · split
    · exact ⟨rfl, rfl⟩
    · split <;> exact ⟨rfl, rfl⟩

theorem acquire_cases {acquisition : Acquisition}
    (follower : isLeader worker.lease acquisition.asked = false) :
    worker.acquire ttl minBetween acquisition = (false, worker) ∨
      (worker.acquire ttl minBetween acquisition).2.reconciled = none := by
  unfold acquire
  rw [follower, if_neg Bool.false_ne_true]
  split
  · exact .inl rfl
  · split
    · exact .inl rfl
    · exact .inr rfl

theorem iterate_of_follower (follower : isLeader worker.lease iteration.checked = false) :
    worker.iterate ttl minBetween iteration =
      if (worker.acquire ttl minBetween iteration.acquisition).1 then
        { (worker.acquire ttl minBetween iteration.acquisition).2 with
          state := if iteration.tradingAllowed then .ready else .reconciling
          led := some (worker.ledMeanwhile ttl minBetween iteration.acquisition)
          reconciled := some iteration.tradingAllowed }
      else { (worker.acquire ttl minBetween iteration.acquisition).2 with
          led := some (worker.ledMeanwhile ttl minBetween iteration.acquisition) } := by
  rw [iterate, follower, if_neg Bool.false_ne_true]

theorem readyLeading_iterate (good : worker.ReadyLeading)
    (regains : worker.Regains ttl minBetween iteration) :
    (worker.iterate ttl minBetween iteration).ReadyLeading := by
  cases leads : isLeader worker.lease iteration.checked with
  | true =>
    rw [iterate, leads, if_pos rfl]
    split
    · exact fun ready => ⟨by simp, (good ready).2⟩
    · exact fun ready => by cases ready
  | false =>
    have promise := regains leads
    rw [iterate_of_follower leads]
    split at promise
    · rename_i acquired
      rw [if_pos acquired]
      cases allowed : iteration.tradingAllowed with
      | true => exact fun _ => ⟨by simp [promise allowed], rfl⟩
      | false => exact fun ready => by cases ready
    · rename_i refused
      rw [if_neg refused]
      exact fun ready => absurd ((acquire_frame worker _).1.symm.trans ready) promise

theorem regains_of_iterate (good : (worker.iterate ttl minBetween iteration).ReadyLeading) :
    worker.Regains ttl minBetween iteration := by
  intro follower
  have later : ∀ time, iteration.checked ≤ time → isLeader worker.lease time = false := by
    intro time order
    by_contra leading
    rw [isLeader_of_le order (Bool.not_eq_false _ ▸ leading)] at follower
    cases follower
  have asking := later _ iteration.ordered
  have returning := later _ (iteration.ordered.trans iteration.acquisition.ordered)
  rw [iterate_of_follower follower] at good
  split at good
  · rename_i acquired
    rw [if_pos acquired]
    intro allowed
    have led := (good (by simp [allowed])).1
    simpa using led
  · rename_i refused
    rw [if_neg refused]
    intro ready
    rcases acquire_cases asking with same | reconciled
    · have led : worker.ledMeanwhile ttl minBetween iteration.acquisition = false := by
        rw [ledMeanwhile, same, asking, returning]
        rfl
      have still := good (by rw [same]; exact ready)
      exact still.1 (congrArg some led)
    · have still := (good ((acquire_frame worker _).1.trans ready)).2
      rw [reconciled] at still
      cases still

end WorkerLoop

open WorkerLoop

theorem ready_only_leading_iff (ttl minBetween : ℚ) (tradingAllowed : Bool)
    (acquisition : Acquisition) (iterations : List Iteration) :
    Machine.Always (iterate ttl minBetween) ReadyLeading
        (start ttl minBetween tradingAllowed acquisition) iterations ↔
      Machine.Guarded (iterate ttl minBetween) (Regains ttl minBetween)
        (start ttl minBetween tradingAllowed acquisition) iterations := by
  refine Machine.always_iff_guarded (fun (worker : WorkerLoop) (good : worker.ReadyLeading) => good)
    (fun _ _ good (_ : True) regains => readyLeading_iterate good regains)
    (fun _ _ _ _ good => regains_of_iterate good) ?_ fun _ _ => trivial
  -- A worker that starts without the lease is not ready.
  unfold start
  split
  · simp only
    split
    · refine fun _ => ⟨?_, rfl⟩
      rw [(acquire_frame _ acquisition).2]
      exact Option.some_ne_none false ∘ Eq.symm
    · intro ready
      rw [(acquire_frame _ acquisition).1] at ready
      cases ready
  · exact fun ready => by cases ready

namespace LostLease

def first : Acquisition := ⟨0, some (1, 100), 0, le_rfl⟩

/-- A loop that was delayed for fifty seconds finds the lease expired and taken by another
    process. -/
def delayed : Iteration where
  checked := 50
  renewed := false
  renewedAt := 50
  acquisition := ⟨50, none, 50, le_rfl⟩
  tradingAllowed := false
  ordered := le_rfl

theorem outcome : (iterate 45 30 (start 45 30 true first) delayed).state = .ready ∧
    (iterate 45 30 (start 45 30 true first) delayed).led = some false := by
  decide +kernel

/-- The worker stays ready. -/
theorem ready_without_lease :
    ¬ Machine.Always (iterate 45 30) ReadyLeading (start 45 30 true first) [delayed] := by
  intro always
  have last : (iterate 45 30 (start 45 30 true first) delayed).ReadyLeading := always.2
  exact (last outcome.1).1 outcome.2

end LostLease

end TradingLab

import Mathlib.Tactic.Linarith
import TradingLab.Core.CircuitBreaker
import TradingLab.Machine.Run

/-!
# The law of a circuit breaker

A closed breaker opens when its window holds enough failures. The window has `window_size` events
at most, and nothing keeps the threshold from being larger: such a breaker never opens.
-/
namespace TradingLab

open Machine

namespace CircuitBreaker

variable {config : CircuitConfig} {breaker : CircuitBreaker} {now since time : ℚ}
  {call : BreakerCall × ℚ} {count : Nat}

/-! ### One call -/

@[simp] theorem prune_state : (breaker.prune config now).state = breaker.state := by
  unfold prune
  split <;> rfl

@[simp] theorem prune_openedAt : (breaker.prune config now).openedAt = breaker.openedAt := by
  unfold prune
  split <;> rfl

@[simp] theorem prune_probe :
    (breaker.prune config now).halfOpenProbeActive = breaker.halfOpenProbeActive := by
  unfold prune
  split <;> rfl

@[simp] theorem append_state (success : Bool) :
    (breaker.append config now success).state = breaker.state := rfl

@[simp] theorem append_openedAt (success : Bool) :
    (breaker.append config now success).openedAt = breaker.openedAt := rfl

@[simp] theorem advanceOpenState_events :
    (breaker.advanceOpenState config now).events = breaker.events := by
  unfold advanceOpenState
  split <;> rfl

@[simp] theorem canExecute_events :
    (breaker.canExecute config now).2.events = (breaker.prune config now).events := by
  simp only [canExecute]
  split
  · simp
  · split <;> simp

theorem length_prune_le : (breaker.prune config now).events.length ≤ breaker.events.length := by
  unfold prune
  split
  · exact (List.dropWhile_suffix _).length_le
  · exact le_rfl

theorem advanceOpenState_of_ne (other : breaker.state ≠ .opened) :
    breaker.advanceOpenState config now = breaker := by
  rw [advanceOpenState, if_neg fun both => other both.1]

section Cases
variable (config now)

theorem advanceOpenState_cases (breaker : CircuitBreaker) :
    breaker.advanceOpenState config now = breaker ∨
      breaker.state = .opened ∧ breaker.advanceOpenState config now =
        { breaker with state := .halfOpen, halfOpenProbeActive := false } := by
  unfold advanceOpenState
  split
  · rename_i both
    exact .inr ⟨both.1, rfl⟩
  · exact .inl rfl

theorem canExecute_of_closed (closed : breaker.state = .closed) :
    breaker.canExecute config now = (true, breaker.prune config now) := by
  have other : (breaker.prune config now).state ≠ .opened := by simp [closed]
  simp [canExecute, advanceOpenState_of_ne other, closed]

theorem canExecute_of_halfOpen (half : breaker.state = .halfOpen) :
    (breaker.canExecute config now).1 = !breaker.halfOpenProbeActive ∧
      (breaker.canExecute config now).2.state = .halfOpen ∧
      (breaker.canExecute config now).2.halfOpenProbeActive = true := by
  have other : (breaker.prune config now).state ≠ .opened := by simp [half]
  cases active : breaker.halfOpenProbeActive <;>
    simp [canExecute, advanceOpenState_of_ne other, half, active]

theorem canExecute_of_opened (opened : breaker.state = .opened) :
    breaker.canExecute config now = (false, breaker.prune config now) ∨
      (breaker.canExecute config now).1 = true ∧
        (breaker.canExecute config now).2.state = .halfOpen ∧
        (breaker.canExecute config now).2.halfOpenProbeActive = true := by
  rcases advanceOpenState_cases config now (breaker.prune config now) with same | ⟨-, advanced⟩
  · left
    simp [canExecute, same, opened]
  · right
    simp [canExecute, advanced]

theorem recordFailure_cases (other : breaker.state ≠ .halfOpen) :
    breaker.recordFailure config now =
        ((breaker.append config now false).prune config now).trip now ∨
      breaker.recordFailure config now = (breaker.append config now false).prune config now := by
  rw [recordFailure, if_neg other]
  simp only
  split
  · exact .inl rfl
  · exact .inr rfl

end Cases

/-! ### An open breaker -/

def OpenSince (since : ℚ) (breaker : CircuitBreaker) : Prop :=
  breaker.state = .opened ∧ ∃ opened, breaker.openedAt = some opened ∧ since ≤ opened

section

variable (shut : OpenSince since breaker)
include shut

theorem OpenSince.advance (early : now < since + config.recoveryTimeout) :
    breaker.advanceOpenState config now = breaker := by
  obtain ⟨-, opened, at', later⟩ := shut
  rw [advanceOpenState, if_neg]
  simp only [at', Option.any_some, decide_eq_true_eq, not_and, not_le]
  intro _
  linarith

theorem OpenSince.canExecute (early : now < since + config.recoveryTimeout) :
    breaker.canExecute config now = (false, breaker.prune config now) := by
  have pruned : OpenSince since (breaker.prune config now) := by simpa [OpenSince] using shut
  simp [CircuitBreaker.canExecute, pruned.advance early, shut.1]

theorem OpenSince.step (after : since ≤ call.2) (early : call.2 < since + config.recoveryTimeout) :
    OpenSince since (breaker.step config call) := by
  obtain ⟨kind, now⟩ := call
  have other : breaker.state ≠ .halfOpen := by simp [shut.1]
  cases kind with
  | canExecute =>
    rw [CircuitBreaker.step, shut.canExecute early]
    simpa [OpenSince] using shut
  | recordSuccess => simpa [CircuitBreaker.step, recordSuccess, other, OpenSince] using shut
  | recordFailure =>
    rcases recordFailure_cases config now other with tripped | same
    · rw [CircuitBreaker.step, tripped]
      exact ⟨rfl, now, rfl, after⟩
    · rw [CircuitBreaker.step, same]
      simpa [OpenSince] using shut
  | readState =>
    rw [CircuitBreaker.step, shut.advance early]
    exact shut

theorem OpenSince.calls {calls : List (BreakerCall × ℚ)}
    (all : ∀ call ∈ calls, since ≤ call.2 ∧ call.2 < since + config.recoveryTimeout) :
    OpenSince since (run (CircuitBreaker.step config) breaker calls) :=
  guarded_invariant (OpenSince since) (fun _ _ shut inside => shut.step inside.1 inside.2) shut
    (guarded_of_forall all breaker)

end

theorem openSince_of_recordFailure (other : breaker.state ≠ .opened)
    (opened : (breaker.recordFailure config now).state = .opened) :
    OpenSince now (breaker.recordFailure config now) := by
  by_cases half : breaker.state = .halfOpen
  · rw [recordFailure, if_pos half]
    exact ⟨rfl, now, rfl, le_rfl⟩
  · rcases recordFailure_cases config now half with tripped | same
    · rw [tripped]
      exact ⟨rfl, now, rfl, le_rfl⟩
    · rw [same] at opened
      simp [other] at opened

/-! ### A half-open breaker -/

def answers (config : CircuitConfig) (breaker : CircuitBreaker) :
    List (BreakerCall × ℚ) → List Bool
  | [] => []
  | (.canExecute, now) :: rest =>
    (breaker.canExecute config now).1 :: answers config (breaker.canExecute config now).2 rest
  | call :: rest => answers config (breaker.step config call) rest

def Looks (call : BreakerCall × ℚ) : Prop :=
  call.1 = .canExecute ∨ call.1 = .readState

theorem answers_of_halfOpen {calls : List (BreakerCall × ℚ)} (half : breaker.state = .halfOpen)
    (looks : ∀ call ∈ calls, Looks call) :
    (answers config breaker calls).count true =
      if breaker.halfOpenProbeActive then 0 else min 1 (answers config breaker calls).length := by
  induction calls generalizing breaker with
  | nil => simp [answers]
  | cons call rest ih =>
    obtain ⟨kind, now⟩ := call
    have later : ∀ call ∈ rest, Looks call :=
      fun call member => looks call (List.mem_cons_of_mem _ member)
    rcases looks _ List.mem_cons_self with rfl | rfl
    · obtain ⟨answer, half', active⟩ := canExecute_of_halfOpen config now half
      simp only [answers, List.count_cons, ih half' later, active, answer]
      cases breaker.halfOpenProbeActive <;> simp
    · have same : breaker.advanceOpenState config now = breaker :=
        advanceOpenState_of_ne (by simp [half])
      simp only [answers, step, same]
      exact ih half later

theorem step_halfOpen (other : breaker.state ≠ .halfOpen)
    (half : (breaker.step config call).state = .halfOpen) :
    (call.1 = .canExecute ∧ (breaker.canExecute config call.2).1 = true ∧
        (breaker.step config call).halfOpenProbeActive = true) ∨
      call.1 = .readState ∧ (breaker.step config call).halfOpenProbeActive = false := by
  obtain ⟨kind, now⟩ := call
  cases kind with
  | canExecute =>
    cases before : breaker.state with
    | closed => simp [step, canExecute_of_closed config now before, before] at half
    | halfOpen => exact absurd before other
    | opened =>
      rcases canExecute_of_opened config now before with refused | ⟨admitted, -, active⟩
      · simp [step, refused, before] at half
      · exact .inl ⟨rfl, admitted, active⟩
  | readState =>
    rcases advanceOpenState_cases config now breaker with same | ⟨-, advanced⟩
    · rw [step, same] at half
      exact absurd half other
    · refine .inr ⟨rfl, ?_⟩
      rw [step, advanced]
  | recordSuccess => simp [step, recordSuccess, other] at half
  | recordFailure =>
    rcases recordFailure_cases config now other with tripped | same
    · rw [step, tripped] at half
      cases half
    · rw [step, same] at half
      simp [other] at half

theorem answers_of_entering {calls : List (BreakerCall × ℚ)} (other : breaker.state ≠ .halfOpen)
    (half : (breaker.step config call).state = .halfOpen) (looks : ∀ call ∈ calls, Looks call) :
    (answers config breaker (call :: calls)).count true =
      min 1 (answers config breaker (call :: calls)).length := by
  have rest : (answers config _ calls).count true = _ := answers_of_halfOpen half looks
  obtain ⟨kind, now⟩ := call
  rcases step_halfOpen other half with ⟨rfl, admitted, active⟩ | ⟨rfl, free⟩
  · rw [active, if_pos rfl] at rest
    simp only [answers, List.count_cons, admitted]
    simp only [step] at rest
    simp [rest]
  · rw [free] at rest
    exact rest

/-! ### A closed breaker -/

theorem closed_of_step (failing : call.1 ≠ .recordSuccess)
    (closed : (breaker.step config call).state = .closed) : breaker.state = .closed := by
  obtain ⟨kind, now⟩ := call
  cases before : breaker.state with
  | closed => rfl
  | opened =>
    cases kind with
    | canExecute =>
      rcases canExecute_of_opened config now before with refused | ⟨-, half, -⟩
      · simp [step, refused, before] at closed
      · simp [step, half] at closed
    | recordSuccess => exact absurd rfl failing
    | recordFailure =>
      have other : breaker.state ≠ .halfOpen := by simp [before]
      rcases recordFailure_cases config now other with tripped | same
      · rw [step, tripped] at closed
        cases closed
      · simp [step, same, before] at closed
    | readState =>
      rcases advanceOpenState_cases config now breaker with same | ⟨-, advanced⟩
      · simp [step, same, before] at closed
      · simp [step, advanced] at closed
  | halfOpen =>
    cases kind with
    | canExecute => simp [step, canExecute_of_halfOpen config now before] at closed
    | recordSuccess => exact absurd rfl failing
    | recordFailure => simp [step, recordFailure, before, trip] at closed
    | readState =>
      simp [step, advanceOpenState_of_ne (by simp [before] : breaker.state ≠ .opened), before]
        at closed

theorem length_append_le (fits : breaker.events.length ≤ config.windowSize) (success : Bool) :
    ((breaker.append config now success).prune config now).events.length ≤ config.windowSize := by
  have positive := config.samples
  refine length_prune_le.trans ?_
  simp only [append, slide]
  split <;> simp <;> omega

theorem length_events_step (fits : breaker.events.length ≤ config.windowSize) :
    (breaker.step config call).events.length ≤ config.windowSize := by
  obtain ⟨kind, now⟩ := call
  cases kind with
  | canExecute =>
    rw [step, canExecute_events]
    exact length_prune_le.trans fits
  | recordSuccess =>
    refine length_append_le ?_ true
    split
    · exact Nat.zero_le _
    · exact fits
  | recordFailure =>
    by_cases half : breaker.state = .halfOpen
    · simpa [step, recordFailure, half, trip] using fits
    · rcases recordFailure_cases config now half with tripped | same
      · rw [step, tripped]
        exact length_append_le fits false
      · rw [step, same]
        exact length_append_le fits false
  | readState => simpa [step] using fits

/-- The last events are failures, as many as `count` or as the window holds, and none of them is too
    old at a time. -/
structure RecentFailures (config : CircuitConfig) (now : ℚ) (count : Nat)
    (events : List (ℚ × Bool)) : Prop where
  fits : events.length ≤ config.windowSize
  recent : ∃ older recent, events = older ++ recent ∧ recent.length = min config.windowSize count ∧
    ∀ event ∈ recent, event.2 = false ∧
      (config.windowMode = .time → now - config.windowSeconds ≤ event.1)

theorem RecentFailures.prune (failed : RecentFailures config now count breaker.events)
    (early : time ≤ now) : RecentFailures config now count (breaker.prune config time).events := by
  obtain ⟨fits, older, recent, same, length, failing⟩ := failed
  refine ⟨length_prune_le.trans fits, ?_⟩
  unfold CircuitBreaker.prune
  cases mode : config.windowMode <;> rw [mode] at failing
  case count => exact ⟨older, recent, same, length, failing⟩
  case time =>
    have kept : ∀ event ∈ recent, decide (event.1 < time - config.windowSeconds) = false := by
      intro event member
      rw [decide_eq_false_iff_not]
      linarith [(failing event member).2 rfl]
    have young : (recent.dropWhile fun event =>
        decide (event.1 < time - config.windowSeconds)) = recent := by
      cases recent with
      | nil => rfl
      | cons first rest => simp [kept first List.mem_cons_self]
    refine ⟨older.dropWhile fun event => decide (event.1 < time - config.windowSeconds), recent, ?_,
      length, failing⟩
    simp only
    rw [same, List.dropWhile_append]
    split
    · rename_i gone
      rw [young, List.isEmpty_iff.mp gone, List.nil_append]
    · rfl

theorem RecentFailures.slide {events : List (ℚ × Bool)}
    (failed : RecentFailures config now count events)
    (fresh : config.windowMode = .time → now - config.windowSeconds ≤ time) :
    RecentFailures config now (count + 1) (slide config.windowSize events (time, false)) := by
  obtain ⟨fits, older, recent, rfl, length, failing⟩ := failed
  have positive := config.samples
  rw [List.length_append] at fits
  have newest : ∀ events : List (ℚ × Bool), events ⊆ recent →
      ∀ event ∈ events ++ [(time, false)], event.2 = false ∧
        (config.windowMode = .time → now - config.windowSeconds ≤ event.1) := by
    intro events inside event member
    rcases List.mem_append.mp member with earlier | new
    · exact failing event (inside earlier)
    · rw [List.mem_singleton.mp new]
      exact ⟨rfl, fresh⟩
  unfold Machine.slide
  by_cases full : (older ++ recent).length = config.windowSize
  · rw [if_pos full]
    rw [List.length_append] at full
    cases older with
    | nil =>
      -- the window has nothing but failures, and loses the first of them
      refine ⟨by simp; omega, [], recent.tail ++ [(time, false)], rfl, ?_,
        newest _ recent.tail_sublist.subset⟩
      simp at full ⊢
      omega
    | cons first older =>
      refine ⟨by simp at full ⊢; omega, older, recent ++ [(time, false)], by simp, ?_,
        newest _ (List.Subset.refl _)⟩
      simp at full ⊢
      omega
  · rw [if_neg full]
    rw [List.length_append] at full
    refine ⟨by simp; omega, older, recent ++ [(time, false)], by simp, ?_,
      newest _ (List.Subset.refl _)⟩
    simp
    omega

theorem RecentFailures.step (failed : RecentFailures config now count breaker.events)
    (failing : call.1 ≠ .recordSuccess) (early : call.2 ≤ now)
    (fresh : call.1 = .recordFailure → config.windowMode = .time →
      now - config.windowSeconds ≤ call.2) (closed : breaker.state = .closed) :
    RecentFailures config now (if call.1 = .recordFailure then count + 1 else count)
      (breaker.step config call).events := by
  obtain ⟨kind, time⟩ := call
  cases kind with
  | canExecute =>
    rw [CircuitBreaker.step, canExecute_events]
    exact failed.prune early
  | recordSuccess => exact absurd rfl failing
  | recordFailure =>
    have grown : RecentFailures config now (count + 1)
        ((breaker.append config time false).prune config time).events :=
      RecentFailures.prune (failed.slide (fresh rfl)) early
    rcases recordFailure_cases config time (by simp [closed] : breaker.state ≠ .halfOpen) with
      tripped | same
    · rw [CircuitBreaker.step, tripped]
      exact grown
    · rw [CircuitBreaker.step, same]
      exact grown
  | readState => simpa [CircuitBreaker.step] using failed

theorem recentFailures_of_closed {calls : List (BreakerCall × ℚ)}
    (failing : ∀ call ∈ calls, call.1 ≠ .recordSuccess) (early : ∀ call ∈ calls, call.2 ≤ now)
    (fresh : ∀ call ∈ calls, call.1 = .recordFailure → config.windowMode = .time →
      now - config.windowSeconds ≤ call.2) (fits : breaker.events.length ≤ config.windowSize)
    (closed : (run (CircuitBreaker.step config) breaker calls).state = .closed) :
    breaker.state = .closed ∧ RecentFailures config now
      (calls.countP fun call => decide (call.1 = .recordFailure))
      (run (CircuitBreaker.step config) breaker calls).events := by
  induction calls using List.reverseRecOn with
  | nil => exact ⟨closed, fits, breaker.events, [], by simp, by simp, by simp⟩
  | append_singleton calls call ih =>
    have member : call ∈ calls ++ [call] := by simp
    rw [run_append, run_cons, run_nil] at closed ⊢
    have before := closed_of_step (failing call member) closed
    obtain ⟨start, failed⟩ := ih (fun other inside => failing other (List.mem_append_left _ inside))
      (fun other inside => early other (List.mem_append_left _ inside))
      (fun other inside => fresh other (List.mem_append_left _ inside)) before
    refine ⟨start, ?_⟩
    have next := failed.step (failing call member) (early call member) (fresh call member) before
    rw [List.countP_append, List.countP_singleton]
    convert next using 1
    by_cases failure : call.1 = .recordFailure <;> simp [failure]

theorem recordFailure_of_recent (room : config.failureThreshold ≤ config.windowSize)
    (failed : RecentFailures config now count breaker.events) (closed : breaker.state = .closed)
    (enough : config.failureThreshold ≤ count + 1) (sampled : config.minimumSamples ≤ count + 1) :
    (breaker.recordFailure config now).state = .opened := by
  have fresh : config.windowMode = .time → now - config.windowSeconds ≤ now := by
    intro _
    linarith [config.durations.2]
  have grown : RecentFailures config now (count + 1)
      ((breaker.append config now false).prune config now).events :=
    RecentFailures.prune (failed.slide fresh) le_rfl
  obtain ⟨-, older, recent, same, length, failing⟩ := grown
  have samples := config.samples
  have failures : recent.countP (fun event => !event.2) = recent.length := by
    rw [List.countP_eq_length]
    intro event member
    rw [(failing event member).1, Bool.not_false]
  rw [recordFailure, if_neg (by simp [closed])]
  simp only
  rw [if_pos]
  · rfl
  · rw [CircuitBreaker.failures, same, List.length_append, List.countP_append, failures]
    omega

end CircuitBreaker

open CircuitBreaker

def InOrder (calls : List (BreakerCall × ℚ)) : Prop :=
  calls.Pairwise fun a b => a.2 ≤ b.2

def failureCount (calls : List (BreakerCall × ℚ)) : Nat :=
  calls.countP fun call => decide (call.1 = .recordFailure)

structure BreakerLaw (config : CircuitConfig) : Prop where
  /-- Enough failures in a row, with nothing but looks between them, open a closed breaker. -/
  opens : ∀ before calls now, InOrder (before ++ calls ++ [(.recordFailure, now)]) →
    (∀ call ∈ calls, call.1 ≠ .recordSuccess) →
    config.failureThreshold ≤ failureCount calls + 1 →
    config.minimumSamples ≤ failureCount calls + 1 →
    (config.windowMode = .time → ∀ call ∈ calls, call.1 = .recordFailure →
      now - call.2 ≤ config.windowSeconds) →
    (run (step config) {} (before ++ calls)).state = .closed →
      ((run (step config) {} (before ++ calls)).recordFailure config now).state = .opened
  /-- An open breaker admits nothing until the recovery timeout after the failure that opened it. -/
  refuses : ∀ before opening calls now,
    InOrder (before ++ (.recordFailure, opening) :: calls ++ [(.canExecute, now)]) →
    (run (step config) {} before).state ≠ .opened →
    ((run (step config) {} before).recordFailure config opening).state = .opened →
    now < opening + config.recoveryTimeout →
      ((run (step config) {} (before ++ (.recordFailure, opening) :: calls)).canExecute
        config now).1 = false
  /-- From becoming half open to the next outcome exactly one call is admitted, if there is one. -/
  probes : ∀ before call calls, InOrder (before ++ call :: calls) →
    (run (step config) {} before).state ≠ .halfOpen →
    ((run (step config) {} before).step config call).state = .halfOpen →
    (∀ call ∈ calls, Looks call) →
      (answers config (run (step config) {} before) (call :: calls)).count true =
        min 1 (answers config (run (step config) {} before) (call :: calls)).length
  admits : ∀ before now, (run (step config) {} before).state = .closed →
    ((run (step config) {} before).canExecute config now).1 = true

section Law
variable {config : CircuitConfig}

theorem opens_of_room (room : config.failureThreshold ≤ config.windowSize)
    {before calls : List (BreakerCall × ℚ)} {now : ℚ}
    (ordered : InOrder (before ++ calls ++ [(.recordFailure, now)]))
    (failing : ∀ call ∈ calls, call.1 ≠ .recordSuccess)
    (enough : config.failureThreshold ≤ failureCount calls + 1)
    (sampled : config.minimumSamples ≤ failureCount calls + 1)
    (within : config.windowMode = .time → ∀ call ∈ calls, call.1 = .recordFailure →
      now - call.2 ≤ config.windowSeconds)
    (closed : (run (step config) {} (before ++ calls)).state = .closed) :
    ((run (step config) {} (before ++ calls)).recordFailure config now).state = .opened := by
  have early : ∀ call ∈ calls, call.2 ≤ now := fun call member =>
    (List.pairwise_append.mp ordered).2.2 call (List.mem_append_right _ member) _
      (List.mem_singleton_self _)
  have fits : (run (step config) {} before).events.length ≤ config.windowSize :=
    run_invariant (fun breaker : CircuitBreaker => breaker.events.length ≤ config.windowSize)
      (fun _ _ => length_events_step) (Nat.zero_le _) before
  rw [run_append] at closed ⊢
  obtain ⟨-, failed⟩ := recentFailures_of_closed failing early
    (fun call member failure timed => by linarith [within timed call member failure]) fits closed
  exact recordFailure_of_recent room failed closed enough sampled

theorem refuses_until_recovery {before calls : List (BreakerCall × ℚ)} {opening now : ℚ}
    (ordered : InOrder (before ++ (.recordFailure, opening) :: calls ++ [(.canExecute, now)]))
    (other : (run (step config) {} before).state ≠ .opened)
    (opened : ((run (step config) {} before).recordFailure config opening).state = .opened)
    (early : now < opening + config.recoveryTimeout) :
    ((run (step config) {} (before ++ (.recordFailure, opening) :: calls)).canExecute
      config now).1 = false := by
  obtain ⟨inside, -, last⟩ := List.pairwise_append.mp ordered
  have after := (List.pairwise_cons.mp (List.pairwise_append.mp inside).2.1).1
  have shut := openSince_of_recordFailure other opened
  rw [run_append, run_cons]
  have still := shut.calls fun call member => ⟨after call member, lt_of_le_of_lt
    (last call (by simp [member]) _ (List.mem_singleton_self _)) early⟩
  rw [step, still.canExecute early]

theorem closed_of_small (small : config.windowSize < config.failureThreshold)
    (calls : List (BreakerCall × ℚ)) : (run (step config) {} calls).state = .closed := by
  refine (run_invariant (fun breaker : CircuitBreaker => breaker.state = .closed ∧
    breaker.events.length ≤ config.windowSize) ?_ ⟨rfl, Nat.zero_le _⟩ calls).1
  rintro breaker ⟨kind, now⟩ ⟨closed, fits⟩
  refine ⟨?_, length_events_step fits⟩
  cases kind with
  | canExecute => simp [step, canExecute_of_closed config now closed, closed]
  | recordSuccess => simp [step, recordSuccess, closed]
  | recordFailure =>
    have few : ((breaker.append config now false).prune config now).failures ≤ config.windowSize :=
      List.countP_le_length.trans (length_append_le fits false)
    simp only [step, recordFailure, closed, reduceCtorEq, if_false]
    rw [if_neg]
    · simp [closed]
    · omega
  | readState => simp [step, advanceOpenState_of_ne, closed]

theorem breaker_law_iff : BreakerLaw config ↔ config.failureThreshold ≤ config.windowSize := by
  constructor
  · intro law
    by_contra small
    have closed := closed_of_small (not_le.mp small)
    -- as many failures at once as the law asks for
    let many := max config.failureThreshold config.minimumSamples
    let calls : List (BreakerCall × ℚ) := List.replicate many (.recordFailure, 0)
    have count : failureCount calls = many := by simp [calls, failureCount, List.countP_replicate]
    have all : ∀ call ∈ calls, call = (.recordFailure, 0) := fun _ => List.eq_of_mem_replicate
    have ordered : InOrder ([] ++ calls ++ [(.recordFailure, 0)]) := by
      rw [InOrder, List.nil_append, ← List.replicate_succ', List.pairwise_replicate]
      exact .inr le_rfl
    have opened := law.opens [] calls 0 ordered
      (fun call member => by rw [all call member]; decide) (by omega) (by omega)
      (fun _ call member _ => by rw [all call member]; simpa using config.durations.2.le) (closed _)
    have shut := closed (calls ++ [(.recordFailure, 0)])
    rw [run_append, run_cons, run_nil] at shut
    cases shut.symm.trans opened
  · intro room
    exact
      { opens := fun before calls now => opens_of_room room
        refuses := fun before opening calls now => refuses_until_recovery
        probes := fun before call calls _ other half looks => answers_of_entering other half looks
        admits := fun before now closed => by rw [canExecute_of_closed config now closed] }

end Law

namespace SmallWindow

theorem threshold : 1 ≤ 2 ∧ 2 ≤ 10000 := by decide

theorem samples : 1 ≤ 1 ∧ 1 ≤ 1 ∧ 1 ≤ 100000 := by decide

theorem durations : (0 : ℚ) < 30 ∧ (0 : ℚ) < 60 := by norm_num

def config : CircuitConfig :=
  { failureThreshold := 2, windowSize := 1, threshold, samples, durations }

end SmallWindow

/-- As many failures in a row as the threshold leave the breaker closed. -/
theorem small_window_stays_closed :
    SmallWindow.config.failureThreshold = 2 ∧ SmallWindow.config.minimumSamples = 1 ∧
      (run (step SmallWindow.config) {} [(.recordFailure, 0), (.recordFailure, 0)]).state =
        .closed := by
  decide

end TradingLab

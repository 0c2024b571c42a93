import TradingLab.Properties.BreakerLaw
import TradingLab.Properties.BrokerSubmission

/-!
# The probe of the submit breaker

A half-open breaker lets one call through, and `can_execute` books that probe in the middle of
`is_trading_allowed`. The booking ends only when a submission reports an outcome, so a look for
display, an unknown order still pending, a key already taken or a call that raises keeps it.
-/
namespace TradingLab

namespace CircuitBreaker

variable {config : CircuitConfig} {now : ℚ} {breaker : CircuitBreaker}

def Probing (breaker : CircuitBreaker) : Prop :=
  breaker.state = .halfOpen ∧ breaker.halfOpenProbeActive = true

def Dated (breaker : CircuitBreaker) : Prop :=
  breaker.state = .opened → breaker.openedAt ≠ none

def Recovered (config : CircuitConfig) (now : ℚ) (breaker : CircuitBreaker) : Prop :=
  ∀ opened, breaker.openedAt = some opened → config.recoveryTimeout ≤ now - opened

theorem not_probing_fresh : ¬ ({} : CircuitBreaker).Probing := fun probing => by cases probing.1

theorem dated_fresh : ({} : CircuitBreaker).Dated := fun opened => by cases opened

theorem Dated.canExecute (dated : breaker.Dated) : (breaker.canExecute config now).2.Dated := by
  intro still
  cases before : breaker.state with
  | closed =>
    rw [canExecute_of_closed config now before, prune_state, before] at still
    cases still
  | halfOpen =>
    rw [(canExecute_of_halfOpen config now before).2.1] at still
    cases still
  | opened =>
    rcases canExecute_of_opened config now before with refused | ⟨-, half, -⟩
    · rw [refused, prune_openedAt]
      exact dated before
    · rw [half] at still
      cases still

theorem not_probing_recordSuccess : ¬ (breaker.recordSuccess config now).Probing := by
  intro probing
  have state := probing.1
  simp only [recordSuccess, prune_state, append_state] at state
  split at state
  · cases state
  · contradiction

theorem not_probing_recordFailure : ¬ (breaker.recordFailure config now).Probing := by
  intro probing
  have state := probing.1
  by_cases half : breaker.state = .halfOpen
  · rw [recordFailure, if_pos half] at state
    cases state
  · rcases recordFailure_cases config now half with opened | counted
    · rw [opened] at state
      cases state
    · rw [counted, prune_state, append_state] at state
      exact half state

theorem Dated.recordSuccess (dated : breaker.Dated) : (breaker.recordSuccess config now).Dated := by
  intro opened
  simp only [CircuitBreaker.recordSuccess, prune_state, append_state, prune_openedAt,
    append_openedAt] at opened ⊢
  split at opened
  · cases opened
  · rename_i other
    rw [if_neg other]
    exact dated opened

theorem Dated.recordFailure (dated : breaker.Dated) : (breaker.recordFailure config now).Dated := by
  by_cases half : breaker.state = .halfOpen
  · rw [CircuitBreaker.recordFailure, if_pos half]
    exact fun _ => Option.some_ne_none now
  · rcases recordFailure_cases config now half with opened | counted
    · rw [opened]
      exact fun _ => Option.some_ne_none now
    · rw [counted]
      simpa [Dated] using dated

theorem canExecute_of_recovered (free : ¬ breaker.Probing) (dated : breaker.Dated)
    (recovered : breaker.Recovered config now) : (breaker.canExecute config now).1 = true := by
  cases before : breaker.state with
  | closed => rw [canExecute_of_closed config now before]
  | halfOpen =>
    rw [(canExecute_of_halfOpen config now before).1]
    cases active : breaker.halfOpenProbeActive with
    | false => rfl
    | true => exact absurd ⟨before, active⟩ free
  | opened =>
    obtain ⟨since, stamped⟩ := Option.ne_none_iff_exists'.mp (dated before)
    have late := recovered since stamped
    simp [canExecute, advanceOpenState, before, stamped, late]

end CircuitBreaker

namespace Foundation

open CircuitBreaker

namespace Coordinator

variable {coordinator : Coordinator} {breaker : CircuitBreaker} {outcome : AdapterOutcome}

theorem isTradingAllowed_breaker (holds : CircuitBreaker → Prop) (same : holds breaker)
    (looked : ∀ config now, coordinator.submitBreaker = some config →
      holds (breaker.canExecute config now).2) (checks : Checks) (store : Store) :
    holds (coordinator.isTradingAllowed checks breaker store).2 := by
  simp only [isTradingAllowed, admits]
  split
  · exact same
  · cases built : coordinator.submitBreaker with
    | none => exact same
    | some config => exact looked config _ built

theorem record_breaker (holds : CircuitBreaker → Prop) (same : holds breaker)
    (succeeded : ∀ config now, holds (breaker.recordSuccess config now))
    (failed : ∀ config now, holds (breaker.recordFailure config now)) (outcome : AdapterOutcome)
    (now : ℚ) : holds (coordinator.record outcome now breaker) := by
  unfold record
  split
  · exact succeeded _ _
  · exact failed _ _
  · exact same

theorem record_of_raised (unreported : outcome.state = none) {now : ℚ} :
    coordinator.record outcome now breaker = breaker := by
  cases outcome with
  | raised => simp [record]
  | result state => cases unreported
  | failed code => cases unreported

theorem not_probing_record (reported : outcome.state ≠ none)
    (unused : coordinator.submitBreaker = none → ¬ breaker.Probing) (now : ℚ) :
    ¬ (coordinator.record outcome now breaker).Probing := by
  cases built : coordinator.submitBreaker with
  | none =>
    simp only [record, built]
    exact unused built
  | some config =>
    simp only [record, built]
    cases outcome with
    | result state => exact not_probing_recordSuccess
    | failed code => exact not_probing_recordFailure
    | raised => exact absurd rfl reported

end Coordinator

/-! ### Whole runs -/

namespace Node

variable (coordinator : Coordinator) {node : Node}

/-- While no adapter call is in progress the probe is free, and so the breaker admits a submission
    once its recovery timeout has passed. -/
def ProbeFree (node : Node) : Prop :=
  node.submissions = [] → ¬ node.breaker.Probing ∧
    ∀ config now, coordinator.submitBreaker = some config →
      node.breaker.Recovered config now → (node.breaker.canExecute config now).1 = true

/-- A step that books the probe, or drops the call that holds it, leaves an adapter call in
    progress; a crash forgets the breaker. -/
def KeepsProbe (node : Node) : Event → Prop
  | .submit call =>
    node.Asks coordinator call →
      (coordinator.isTradingAllowed call.checks node.breaker node.store).2.Probing →
      node.submissions ≠ [] ∨
        (coordinator.isTradingAllowed call.checks node.breaker node.store).1 = true ∧
          (call.crash = some 0 ∨
            node.store.hasKey (node.dequeued call).dedupeKey = false ∧
              ((node.performed call).1 = .finished ∨ (node.performed call).1 = .crashed))
  | .answer index outcome _ _ =>
    outcome.state = none → node.breaker.Probing → index < node.submissions.length →
      1 < node.submissions.length
  | .tradingAllowed checks =>
    (coordinator.isTradingAllowed checks node.breaker node.store).2.Probing →
      node.submissions ≠ []
  | _ => True

structure Held (node : Node) : Prop where
  free : node.submissions = [] → ¬ node.breaker.Probing
  dated : node.breaker.Dated
  unused : coordinator.submitBreaker = none → ¬ node.breaker.Probing

variable {coordinator}

theorem Held.probeFree (held : node.Held coordinator) : node.ProbeFree coordinator :=
  fun idle => ⟨held.free idle, fun _ _ _ recovered =>
    canExecute_of_recovered (held.free idle) held.dated recovered⟩

theorem held_restart (node : Node) : node.restart.Held coordinator :=
  ⟨fun _ => not_probing_fresh, dated_fresh, fun _ => not_probing_fresh⟩

section

variable (held : node.Held coordinator)
include held

theorem Held.after (performed : Ending × Store) :
    (node.after performed).Held coordinator := by
  simp only [Node.after]
  split
  · exact held_restart _
  · exact ⟨held.free, held.dated, held.unused⟩

theorem Held.look (checks : Checks) {other : Node} (looked : other.breaker =
      (coordinator.isTradingAllowed checks node.breaker node.store).2)
    (booked : other.breaker.Probing → other.submissions ≠ []) : other.Held coordinator := by
  refine ⟨fun idle probing => booked probing idle, ?_, fun none => ?_⟩
  · rw [looked]
    exact Coordinator.isTradingAllowed_breaker Dated held.dated
      (fun _ _ _ => held.dated.canExecute) _ _
  · rw [looked]
    refine Coordinator.isTradingAllowed_breaker (¬ Probing ·) (held.unused none)
      (fun config _ built => ?_) _ _
    rw [none] at built
    cases built

theorem Held.answered {index : Nat} {outcome : AdapterOutcome}
    (now : ℚ) (inside : index < node.submissions.length)
    (keeps : outcome.state = none → node.breaker.Probing → index < node.submissions.length →
      1 < node.submissions.length) :
    { node with
      submissions := node.submissions.eraseIdx index
      breaker := coordinator.record outcome now node.breaker }.Held coordinator := by
  refine ⟨fun idle probing => ?_, Coordinator.record_breaker Dated held.dated
    (fun _ _ => held.dated.recordSuccess) (fun _ _ => held.dated.recordFailure) outcome now,
    fun unbuilt => ?_⟩
  · by_cases reported : outcome.state = none
    · -- The exception leaves the breaker as it was: another call must be in progress.
      rw [Coordinator.record_of_raised reported] at probing
      have others := keeps reported probing inside
      have length : (node.submissions.eraseIdx index).length = 0 := congrArg List.length idle
      rw [List.length_eraseIdx_of_lt inside] at length
      omega
    · exact Coordinator.not_probing_record reported held.unused now probing
  · simp only [Coordinator.record, unbuilt]
    exact held.unused unbuilt

theorem Held.step (event : Event) (keeps : node.KeepsProbe coordinator event) :
    (node.step coordinator event).Held coordinator := by
  cases event with
  | submit call =>
    by_cases reaches : node.Reaches coordinator call
    · -- The adapter call is in progress, whoever booked the probe.
      change (node.submit coordinator call).Held coordinator
      rw [submit_of_reaches reaches]
      exact held.look call.checks rfl fun _ => List.append_ne_nil_of_right_ne_nil _
        (List.cons_ne_nil _ _)
    · refine submit_of_not_reaches reaches (·.Held coordinator)
        (fun _ _ => ⟨held.free, held.dated, held.unused⟩) (fun asks reason => ?_)
        (fun _ _ _ => held_restart _) (fun asks allowed going _ unfinished => ?_)
      · refine held.look call.checks rfl fun probing => ?_
        rcases keeps asks probing with busy | ⟨allowed, crash | ⟨fresh, -⟩⟩
        · exact busy
        · rcases reason with refusal | ⟨going, -⟩
          · rw [allowed] at refusal
            cases refusal
          · exact absurd crash going
        · rcases reason with refusal | ⟨-, taken⟩
          · rw [allowed] at refusal
            cases refusal
          · rw [fresh] at taken
            cases taken
      · simp only [Node.after]
        split
        · exact held_restart _
        · rename_i alive
          refine held.look call.checks rfl fun probing => ?_
          rcases keeps asks probing with busy | ⟨-, crash | ⟨-, finished | crashed⟩⟩
          · exact busy
          · exact absurd crash going
          · exact absurd finished unfinished
          · exact absurd crashed alive
  | answer index outcome now crash =>
    simp only [Node.step, Node.answer]
    cases waiting : node.submissions[index]? with
    | none => exact held
    | some submission =>
      have answered := held.answered now (List.getElem?_eq_some_iff.mp waiting).1 keeps
      cases outcome.state with
      | none => exact answered
      | some state => exact Held.after answered _
  | tradingAllowed checks => exact held.look checks rfl keeps
  | beginReconcile => exact ⟨held.free, held.dated, held.unused⟩
  | endReconcile index remote crash =>
    simp only [Node.step, Node.endReconcile]
    split
    · have ended : { node with snapshots := node.snapshots.eraseIdx index }.Held coordinator :=
        ⟨held.free, held.dated, held.unused⟩
      exact ended.after _
    · exact ⟨held.free, held.dated, held.unused⟩
  | crash => exact held_restart node

end

theorem keepsProbe_of_step (event : Event) (good : (node.step coordinator event).ProbeFree
    coordinator) : node.KeepsProbe coordinator event := by
  cases event with
  | submit call =>
    intro asks probing
    by_contra lost
    rw [not_or, not_not] at lost
    obtain ⟨idle, lost⟩ := lost
    have misses : ¬ node.Reaches coordinator call := fun ⟨_, allowed, _, fresh, finished⟩ =>
      lost ⟨allowed, .inr ⟨fresh, .inl finished⟩⟩
    revert good
    -- Whatever stopped the call, nobody is left to free the probe.
    refine submit_of_not_reaches misses (¬ ProbeFree coordinator ·)
      (fun waits => absurd asks waits) (fun _ _ good => (good idle).1 probing)
      (fun _ allowed crash => absurd ⟨allowed, .inl crash⟩ lost)
      (fun _ allowed _ fresh _ => ?_)
    have alive : (node.performed call).1 ≠ .crashed := fun crashed =>
      lost ⟨allowed, .inr ⟨fresh, .inr crashed⟩⟩
    simp only [Node.after, if_neg alive]
    exact fun good => (good idle).1 probing
  | answer index outcome now crash =>
    intro reported probing inside
    by_contra last
    obtain ⟨submission, waiting⟩ : ∃ submission, node.submissions[index]? = some submission :=
      ⟨_, List.getElem?_eq_getElem inside⟩
    have idle : node.submissions.eraseIdx index = [] := by
      rw [← List.length_eq_zero_iff, List.length_eraseIdx_of_lt inside]
      omega
    simp only [Node.step, Node.answer, waiting, reported] at good
    refine (good idle).1 ?_
    rw [Coordinator.record_of_raised reported]
    exact probing
  | tradingAllowed checks => exact fun probing idle => (good idle).1 probing
  | _ => trivial

end Node

/-- Whatever the store holds at first. -/
theorem probes_free_iff (coordinator : Coordinator) (store : Store) (events : List Event) :
    Machine.Always (Node.step coordinator) (Node.ProbeFree coordinator) { store := store } events ↔
      Machine.Guarded (Node.step coordinator) (Node.KeepsProbe coordinator) { store := store }
        events := by
  refine Machine.always_iff_guarded
    (fun (node : Node) (held : node.Held coordinator) => held.probeFree)
    (fun _ event held (_ : True) keeps => held.step event keeps)
    (fun _ event _ _ good => Node.keepsProbe_of_step event good) ?_ fun _ _ => trivial
  exact ⟨fun _ => not_probing_fresh, dated_fresh, fun _ => not_probing_fresh⟩

namespace DisplayedStatus

theorem threshold : 1 ≤ 1 ∧ 1 ≤ 10000 := by decide

theorem samples : 1 ≤ 1 ∧ 1 ≤ 20 ∧ 20 ≤ 100000 := by decide

theorem durations : (0 : ℚ) < 30 ∧ (0 : ℚ) < 60 := by norm_num

def coordinator : Coordinator where
  accountId := "demo"
  submitBreaker := some
    { failureThreshold := 1
      threshold := threshold
      samples := samples
      durations := durations }

open ReusedId (intent)

/-- The broker refuses the first order, which opens the breaker; after the recovery timeout the
    status is displayed. -/
def events : List Event :=
  [.submit { intent := intent, checks := { now := 0 } },
    .answer 0 (.failed "REJECTED") 1 none,
    .tradingAllowed { now := 40 }]

theorem breaker : (Machine.run (Node.step coordinator) {} events).submissions.length = 0 ∧
    (Machine.run (Node.step coordinator) {} events).breaker.state = .halfOpen ∧
    (Machine.run (Node.step coordinator) {} events).breaker.halfOpenProbeActive = true := by
  decide +kernel

/-- The look books the probe that no submission will ever free. -/
theorem display_keeps_probe :
    ¬ Machine.Always (Node.step coordinator) (Node.ProbeFree coordinator) {} events := by
  intro always
  have last : (Machine.run (Node.step coordinator) {} events).ProbeFree coordinator :=
    always.2.2.2
  obtain ⟨idle, probing⟩ := breaker
  exact (last (List.length_eq_zero_iff.mp idle)).1 probing

end DisplayedStatus

end Foundation

end TradingLab

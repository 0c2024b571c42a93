import TradingLab.Core.MessageBudget

/-!
# Messages in every window

The deque holds the messages of the last sixty seconds before the latest call. A window that ends
elsewhere holds no more messages than the one that ends with the last call inside it.
-/
namespace TradingLab

open Machine SlidingWindowBrokerMessageBudget

structure BudgetRun where
  budget : SlidingWindowBrokerMessageBudget
  granted : List ℚ := []

namespace BudgetRun

def start (budget : SlidingWindowBrokerMessageBudget) : BudgetRun := ⟨budget, []⟩

def answer (run : BudgetRun) (call : BudgetCall) : Except String BrokerMessageBudgetDecision :=
  (run.budget.tryAcquire call).1

def step (run : BudgetRun) (call : BudgetCall) : BudgetRun :=
  { budget := (run.budget.tryAcquire call).2
    granted := match run.answer call with
      | .ok decision => if decision.allowed then
          run.granted ++ List.replicate call.count.toNat call.nowMonotonic else run.granted
      | .error _ => run.granted }

def grantedIn (run : BudgetRun) (time : ℚ) : Nat :=
  run.granted.countP fun message => decide (time - 60 < message ∧ message ≤ time)

def Denied (run : BudgetRun) (call : BudgetCall) : Prop :=
  ∃ decision, run.answer call = .ok decision ∧ decision.allowed = false

def answers (run : BudgetRun) : List BudgetCall → List (Except String BrokerMessageBudgetDecision)
  | [] => []
  | call :: rest => run.answer call :: answers (run.step call) rest

/-! ### The deque -/

theorem dropWhile_eq_filter {items : List ℚ} (sorted : items.Pairwise (· ≤ ·)) (bound : ℚ) :
    (items.dropWhile fun time => decide (time ≤ bound)) =
      items.filter fun time => decide (bound < time) := by
  induction items with
  | nil => rfl
  | cons a rest ih =>
    obtain ⟨first, later⟩ := List.pairwise_cons.mp sorted
    by_cases old : a ≤ bound
    · rw [List.dropWhile_cons_of_pos (by simpa using old), ih later,
        List.filter_cons_of_neg (by simpa using old)]
    · -- nothing behind a time that is kept is older
      rw [List.dropWhile_cons_of_neg (by simpa using old), eq_comm, List.filter_eq_self]
      intro time member
      rw [decide_eq_true_eq]
      rcases List.mem_cons.mp member with rfl | behind
      · linarith
      · linarith [first time behind]

/-- The state after calls up to a time: the deque has the granted messages that some call of the
    past has not discarded. -/
structure Kept (limit : Int) (last : ℚ) (run : BudgetRun) : Prop where
  sorted : run.granted.Pairwise (· ≤ ·)
  past : ∀ message ∈ run.granted, message ≤ last
  held : ∃ since ≤ last, run.budget.timestamps =
    run.granted.filter fun time => decide (since - 60 < time)
  limited : run.budget.limit = limit
  bounded : ∀ time, (run.grantedIn time : Int) ≤ limit

variable {limit : Int} {last : ℚ} {run : BudgetRun} {call : BudgetCall}

theorem Kept.used (kept : Kept limit last run) {now : ℚ} (later : last ≤ now) :
    (run.budget.discardExpired now).timestamps =
        (run.granted.filter fun time => decide (now - 60 < time)) ∧
      (run.budget.discardExpired now).timestamps.length = run.grantedIn now := by
  obtain ⟨since, before, held⟩ := kept.held
  have discarded : (run.budget.discardExpired now).timestamps =
      run.granted.filter fun time => decide (now - 60 < time) := by
    rw [discardExpired, held]
    simp only
    rw [dropWhile_eq_filter (kept.sorted.filter _), List.filter_filter]
    refine List.filter_congr fun time _ => ?_
    rw [Bool.and_eq_left_iff_imp, decide_eq_true_eq, decide_eq_true_eq]
    intro young
    linarith
  refine ⟨discarded, ?_⟩
  rw [discarded, ← List.countP_eq_length_filter, grantedIn]
  refine List.countP_congr fun message member => ?_
  simp only [decide_eq_true_eq]
  exact ⟨fun inside => ⟨inside, (kept.past message member).trans later⟩, And.left⟩

theorem grantedIn_append (time now : ℚ) (count : Nat) (budget : SlidingWindowBrokerMessageBudget) :
    grantedIn ⟨budget, run.granted ++ List.replicate count now⟩ time =
      run.grantedIn time + if time - 60 < now ∧ now ≤ time then count else 0 := by
  simp [grantedIn, List.countP_append, List.countP_replicate]

section

variable (kept : Kept limit last run)
include kept

theorem Kept.grantedIn_le {now time : ℚ} (later : last ≤ now)
    (after : now ≤ time) : run.grantedIn time ≤ run.grantedIn now := by
  refine List.countP_mono_left fun message member inside => ?_
  rw [decide_eq_true_eq] at inside ⊢
  exact ⟨by linarith [inside.1], (kept.past message member).trans later⟩

/-- A call is refused as invalid, granted within its window, or denied because its window is full;
    the last two leave the deque without the old messages. -/
theorem step_cases (later : last ≤ call.nowMonotonic) :
    (∃ message, run.answer call = .error message ∧ run.step call = run) ∨
    (∃ decision, run.answer call = .ok decision ∧ decision.allowed = true ∧ 0 < call.count ∧
      (run.grantedIn call.nowMonotonic : Int) + call.count ≤ limit ∧
      run.step call =
        { budget := { run.budget.discardExpired call.nowMonotonic with
            timestamps := (run.budget.discardExpired call.nowMonotonic).timestamps ++
              List.replicate call.count.toNat call.nowMonotonic }
          granted := run.granted ++ List.replicate call.count.toNat call.nowMonotonic }) ∨
    (∃ decision, run.answer call = .ok decision ∧ decision.allowed = false ∧
      limit < (run.grantedIn call.nowMonotonic : Int) + call.count ∧
      run.step call = { run with budget := run.budget.discardExpired call.nowMonotonic }) := by
  have used := (kept.used later).2
  have limited : (run.budget.discardExpired call.nowMonotonic).limit = limit := kept.limited
  by_cases invalid : call.nowMonotonic < 0 ∨ call.count ≤ 0
  · refine .inl ⟨"broker message budget input is invalid", ?_⟩
    simp [answer, step, tryAcquire, invalid]
  · have positive : 0 < call.count := by
      rw [not_or] at invalid
      omega
    by_cases room : (run.grantedIn call.nowMonotonic : Int) + call.count ≤ limit
    · refine .inr (.inl ?_)
      simp [answer, step, tryAcquire, invalid, used, limited, room, positive]
    · refine .inr (.inr ?_)
      simp [answer, step, tryAcquire, invalid, used, limited, room]
      omega

theorem Kept.step (later : last ≤ call.nowMonotonic) :
    Kept limit call.nowMonotonic (run.step call) := by
  have past : ∀ message ∈ run.granted, message ≤ call.nowMonotonic :=
    fun message member => (kept.past message member).trans later
  rcases step_cases kept later with ⟨_, -, same⟩ | ⟨_, -, -, positive, room, granted⟩ |
    ⟨_, -, -, -, denied⟩
  · obtain ⟨since, before, held⟩ := kept.held
    rw [same]
    exact ⟨kept.sorted, past, ⟨since, before.trans later, held⟩, kept.limited, kept.bounded⟩
  · rw [granted]
    refine ⟨?_, ?_, ⟨call.nowMonotonic, le_rfl, ?_⟩, kept.limited, fun time => ?_⟩
    · rw [List.pairwise_append]
      refine ⟨kept.sorted, List.pairwise_replicate.mpr (.inr le_rfl), fun a earlier b new => ?_⟩
      rw [List.eq_of_mem_replicate new]
      exact past a earlier
    · intro message member
      rcases List.mem_append.mp member with earlier | new
      · exact past message earlier
      · exact (List.eq_of_mem_replicate new).le
    · -- the new messages are not old
      rw [(kept.used later).1, List.filter_append, List.filter_replicate_of_pos]
      rw [decide_eq_true_eq]
      linarith
    · rw [grantedIn_append]
      split
      · rename_i inside
        have fewer := kept.grantedIn_le later inside.2
        push_cast
        omega
      · exact_mod_cast kept.bounded time
  · rw [denied]
    exact ⟨kept.sorted, past, ⟨call.nowMonotonic, le_rfl, (kept.used later).1⟩, kept.limited,
      kept.bounded⟩

theorem Kept.denied (later : last ≤ call.nowMonotonic) (denied : run.Denied call) :
    limit < (run.grantedIn call.nowMonotonic : Int) + call.count ∧
      run.step call = { run with budget := run.budget.discardExpired call.nowMonotonic } := by
  obtain ⟨decision, answered, refused⟩ := denied
  rcases step_cases kept later with ⟨_, raised, -⟩ | ⟨_, granted, allowed, -⟩ |
    ⟨_, -, -, full, discarded⟩
  · rw [raised] at answered
    cases answered
  · rw [granted] at answered
    cases answered
    rw [allowed] at refused
    cases refused
  · exact ⟨full, discarded⟩

/-! ### Runs of calls -/

theorem Kept.calls {calls : List BudgetCall}
    (ordered : calls.Pairwise fun a b => a.nowMonotonic ≤ b.nowMonotonic)
    (later : ∀ call ∈ calls, last ≤ call.nowMonotonic) :
    ∃ last', Kept limit last' (Machine.run BudgetRun.step run calls) ∧
      ∀ time, last ≤ time → (∀ call ∈ calls, call.nowMonotonic ≤ time) → last' ≤ time := by
  induction calls generalizing last run with
  | nil => exact ⟨last, kept, fun _ after _ => after⟩
  | cons call rest ih =>
    obtain ⟨first, ordered⟩ := List.pairwise_cons.mp ordered
    obtain ⟨last', kept', after⟩ := ih (kept.step (later call List.mem_cons_self)) ordered first
    refine ⟨last', kept', fun time _ all => after time (all call List.mem_cons_self) ?_⟩
    exact fun other member => all other (List.mem_cons_of_mem _ member)

end

theorem dropWhile_dropWhile {α : Type} {p q : α → Bool} (weaker : ∀ a, p a = true → q a = true)
    (items : List α) : (items.dropWhile p).dropWhile q = items.dropWhile q := by
  induction items with
  | nil => rfl
  | cons a rest ih =>
    by_cases dropped : p a = true
    · rw [List.dropWhile_cons_of_pos dropped, ih, List.dropWhile_cons_of_pos (weaker a dropped)]
    · rw [List.dropWhile_cons_of_neg dropped]

theorem discardExpired_discardExpired (budget : SlidingWindowBrokerMessageBudget) {early now : ℚ}
    (later : early ≤ now) :
    (budget.discardExpired early).discardExpired now = budget.discardExpired now := by
  simp only [discardExpired]
  rw [dropWhile_dropWhile]
  intro time old
  rw [decide_eq_true_eq] at old ⊢
  linarith

theorem answers_discardExpired (budget : SlidingWindowBrokerMessageBudget) (granted : List ℚ)
    {early : ℚ} {calls : List BudgetCall} (later : ∀ call ∈ calls, early ≤ call.nowMonotonic) :
    answers ⟨budget.discardExpired early, granted⟩ calls = answers ⟨budget, granted⟩ calls := by
  induction calls with
  | nil => rfl
  | cons call rest ih =>
    have again := discardExpired_discardExpired budget (later call List.mem_cons_self)
    by_cases invalid : call.nowMonotonic < 0 ∨ call.count ≤ 0
    · -- a call that raises discards nothing
      simp only [answers, answer, step, tryAcquire, if_pos invalid]
      rw [ih fun other member => later other (List.mem_cons_of_mem _ member)]
    · simp only [answers, answer, step, tryAcquire, if_neg invalid, again]

end BudgetRun

open BudgetRun

structure KeepsWindows (limit : Int) (budget : SlidingWindowBrokerMessageBudget)
    (calls : List BudgetCall) : Prop where
  bounded : ∀ time, ((run step (start budget) calls).grantedIn time : Int) ≤ limit
  /-- A denied call would have exceeded its window. -/
  denied : ∀ before call after, calls = before ++ call :: after →
    (run step (start budget) before).Denied call →
      limit < (run step (start budget) before).grantedIn call.nowMonotonic + call.count
  /-- A denied call consumes nothing. -/
  unspent : ∀ before call after, calls = before ++ call :: after →
    (run step (start budget) before).Denied call →
      (run step (start budget) (before ++ [call])).granted =
          (run step (start budget) before).granted ∧
        answers (run step (start budget) (before ++ [call])) after =
          answers (run step (start budget) before) after

theorem limit_of_make {maxMessagesPerMinute : Int} {pressureRatio : Decimal}
    {budget : SlidingWindowBrokerMessageBudget}
    (made : make maxMessagesPerMinute pressureRatio = .ok budget) :
    0 < maxMessagesPerMinute ∧ budget.limit = maxMessagesPerMinute ∧ budget.timestamps = [] := by
  simp only [make, Except.bind_ok_iff, check_eq_ok] at made
  obtain ⟨_, positive, _, -, made⟩ := made
  split at made
  · cases made
    exact ⟨positive, rfl, rfl⟩
  · cases made

theorem kept_before {limit : Int} {budget : SlidingWindowBrokerMessageBudget}
    (positive : 0 < limit) (limited : budget.limit = limit) (empty : budget.timestamps = [])
    {before : List BudgetCall} {call : BudgetCall} {after : List BudgetCall}
    (ordered : (before ++ call :: after).Pairwise fun a b => a.nowMonotonic ≤ b.nowMonotonic) :
    ∃ last ≤ call.nowMonotonic, Kept limit last (run step (start budget) before) := by
  obtain ⟨orderedBefore, -, across⟩ := List.pairwise_append.mp ordered
  have earlier : ∀ other ∈ before, other.nowMonotonic ≤ call.nowMonotonic :=
    fun other member => across other member call List.mem_cons_self
  obtain ⟨first, below, least⟩ : ∃ first ≤ call.nowMonotonic,
      ∀ other ∈ before, first ≤ other.nowMonotonic := by
    cases before with
    | nil => exact ⟨call.nowMonotonic, le_rfl, fun _ member => nomatch member⟩
    | cons head rest =>
      refine ⟨head.nowMonotonic, earlier head List.mem_cons_self, fun other member => ?_⟩
      rcases List.mem_cons.mp member with rfl | member
      · exact le_rfl
      · exact (List.pairwise_cons.mp orderedBefore).1 other member
  have initial : Kept limit first (start budget) :=
    { sorted := List.Pairwise.nil
      past := fun _ member => nomatch member
      held := ⟨first, le_rfl, empty⟩
      limited := limited
      bounded := fun _ => positive.le }
  obtain ⟨last, kept, bound⟩ := initial.calls orderedBefore least
  exact ⟨last, bound _ below earlier, kept⟩

theorem budget_keeps_windows {maxMessagesPerMinute : Int} {pressureRatio : Decimal}
    {budget : SlidingWindowBrokerMessageBudget}
    (made : make maxMessagesPerMinute pressureRatio = .ok budget) {calls : List BudgetCall}
    (ordered : calls.Pairwise fun a b => a.nowMonotonic ≤ b.nowMonotonic) :
    KeepsWindows maxMessagesPerMinute budget calls := by
  obtain ⟨positive, limited, empty⟩ := limit_of_make made
  refine ⟨?_, ?_, ?_⟩
  · rcases List.eq_nil_or_concat calls with rfl | ⟨before, call, rfl⟩
    · exact fun _ => positive.le
    · rw [List.concat_eq_append] at ordered ⊢
      obtain ⟨last, later, kept⟩ := kept_before positive limited empty ordered
      rw [run_append]
      exact (kept.step later).bounded
  · rintro before call after rfl denied
    obtain ⟨last, later, kept⟩ := kept_before positive limited empty ordered
    exact (kept.denied later denied).1
  · rintro before call after rfl denied
    obtain ⟨last, later, kept⟩ := kept_before positive limited empty ordered
    rw [run_append, run_cons, run_nil, (kept.denied later denied).2]
    refine ⟨rfl, answers_discardExpired _ _ fun other member => ?_⟩
    exact (List.pairwise_cons.mp (List.pairwise_append.mp ordered).2.1).1 other member

theorem full_window_keeps :
    make 2 (.ofInt 1) = .ok ⟨2, 2, []⟩ ∧ KeepsWindows 2 ⟨2, 2, []⟩ [⟨0, 2⟩, ⟨59, 1⟩, ⟨60, 1⟩] := by
  have made : make 2 (.ofInt 1) = .ok ⟨2, 2, []⟩ := by decide +kernel
  exact ⟨made, budget_keeps_windows made (by decide)⟩

end TradingLab

import TradingLab.Core.ConnectionSafety
import TradingLab.Machine.Run

/-!
# Login storms

A restart goes back to the state that was saved last. The state in memory and the one in the file
both back the history (`Backs`): they count the logins of the last fifteen minutes, and their
quarantine outlasts every bar.
-/
namespace TradingLab.ConnectionSafety

open Machine (Always Guarded)

inductive SafetyCall
  | admitHttpLogin (now : ℚ) (saved : Except String Unit)
  | recordFailure (reasonCode : String) (now : ℚ) (saved : Except String Unit)
  | recordSuccess (now : ℚ) (saved : Except String Unit)
  | snapshot (now : ℚ)
  | restart

def inWindow (times : List ℚ) (last : ℚ) : Nat :=
  times.countP fun time => decide (last - 900 < time ∧ time ≤ last)

structure LoginHistory where
  controller : Controller := {}
  clock : ℚ
  admitted : List ℚ := []
  /-- The times, since the latest success, of the denials for the limit and of the failures that
      call for a quarantine. -/
  bars : List ℚ := []

namespace LoginHistory

variable (history : LoginHistory)

def after {α : Type} (now : ℚ) (outcome : Except String α) (done : α → LoginHistory) :
    LoginHistory :=
  match outcome with
  | .ok answer => { done answer with clock := now }
  | .error _ => { history with clock := now }

def step : SafetyCall → LoginHistory
  | .admitHttpLogin now saved =>
    history.after now (history.controller.admitHttpLogin now saved) fun (decision, next) =>
      { history with
        controller := next
        admitted := if decision.allowed then now :: history.admitted else history.admitted
        bars := if decision.allowed = true ∨ now < history.controller.state.quarantineUntilEpoch
          then history.bars else now :: history.bars }
  | .recordFailure reasonCode now saved =>
    history.after now (history.controller.recordFailure reasonCode now saved) fun next =>
      { history with
        controller := next
        bars := if reasonCode ∈ immediateQuarantineReasons then now :: history.bars
          else history.bars }
  | .recordSuccess now saved =>
    history.after now (history.controller.recordSuccess now saved) fun next =>
      { history with controller := next, bars := [] }
  | .snapshot now =>
    history.after now (history.controller.snapshot now) fun (_, next) =>
      { history with controller := next }
  | .restart =>
    history.after history.clock history.controller.restart fun next =>
      { history with controller := next }

def Forward : SafetyCall → Prop
  | .admitHttpLogin now _ | .recordFailure _ now _ | .recordSuccess now _ | .snapshot now =>
    history.clock ≤ now
  | .restart => True

/-- No window has more than three admitted logins, the next call admits none within 900 seconds of
    a bar, and a new process can load the file. -/
def Calm : Prop :=
  (∀ last, inWindow history.admitted last ≤ 3) ∧
    (∀ now saved decision next, history.clock ≤ now →
      history.controller.admitHttpLogin now saved = .ok (decision, next) →
      decision.allowed = true → ∀ bar ∈ history.bars, bar + 900 ≤ now) ∧
    ∃ next, history.controller.restart = .ok next

end LoginHistory

/-! ### What a state backs -/

structure Backs (clock : ℚ) (admitted bars : List ℚ) (state : PersistentState) : Prop where
  valid : (∀ item ∈ state.attemptEpochs, 0 ≤ item) ∧ 0 ≤ state.quarantineUntilEpoch
  counts : ∀ since, clock - 900 ≤ since → (admitted.countP fun time => decide (since < time)) ≤
    state.attemptEpochs.countP fun time => decide (since < time)
  outlasts : ∀ bar ∈ bars, bar + 900 ≤ state.quarantineUntilEpoch ∨ bar + 900 ≤ clock

variable {admitted bars : List ℚ} {state : PersistentState} {clock now : ℚ} {history : LoginHistory}

theorem Backs.later (backs : Backs clock admitted bars state) (later : clock ≤ now) :
    Backs now admitted bars state :=
  ⟨backs.valid, fun since recent => backs.counts since (by linarith),
    fun bar member => (backs.outlasts bar member).imp_right later.trans'⟩

theorem Backs.pruned {controller : Controller} (backs : Backs clock admitted bars controller.state)
    (later : clock ≤ now) : Backs now admitted bars (controller.pruned now) := by
  refine ⟨⟨fun item member => backs.valid.1 item (List.mem_filter.mp member).1, backs.valid.2⟩,
    fun since recent => ?_, (backs.later later).outlasts⟩
  rw [Controller.pruned, List.countP_filter]
  refine (backs.counts since (by linarith)).trans (List.countP_mono_left fun item _ young => ?_)
  have young := of_decide_eq_true young
  simp only [Bool.and_eq_true, decide_eq_true_eq]
  refine ⟨young, ?_⟩
  rw [httpLoginWindowSeconds]
  linarith

theorem quarantine_eq : connectionQuarantineSeconds = 900 := by
  norm_num [connectionQuarantineSeconds]

section

variable (backs : Backs now admitted bars state)
include backs

theorem Backs.bar {quarantine : ℚ} {reason : Option String}
    (grows : state.quarantineUntilEpoch ≤ quarantine)
    (own : now + connectionQuarantineSeconds ≤ quarantine) :
    Backs now admitted (now :: bars) ⟨state.attemptEpochs, quarantine, reason⟩ := by
  refine ⟨⟨backs.valid.1, backs.valid.2.trans grows⟩, backs.counts, fun bar member => ?_⟩
  rcases List.mem_cons.mp member with rfl | old
  · exact .inl (quarantine_eq ▸ own)
  · exact (backs.outlasts bar old).imp_left grows.trans'

theorem Backs.old (ended : state.quarantineUntilEpoch ≤ now) : ∀ bar ∈ bars, bar + 900 ≤ now :=
  fun bar member => (backs.outlasts bar member).elim ended.trans' id

theorem Backs.admit (positive : 0 ≤ now) (ended : state.quarantineUntilEpoch ≤ now) :
    Backs now (now :: admitted) bars
      { state with attemptEpochs := state.attemptEpochs ++ [now], quarantineUntilEpoch := 0 } := by
  refine ⟨⟨fun item member => ?_, le_rfl⟩, fun since recent => ?_,
    fun bar member => .inr (backs.old ended bar member)⟩
  · rcases List.mem_append.mp member with old | new
    · exact backs.valid.1 item old
    · rwa [List.mem_singleton.mp new]
  · rw [List.countP_cons, List.countP_append, List.countP_singleton]
    exact Nat.add_le_add_right (backs.counts since recent) _

theorem Backs.window (room : state.attemptEpochs.length < 3)
    (windows : ∀ last, inWindow admitted last ≤ 3) (last : ℚ) :
    inWindow (now :: admitted) last ≤ 3 := by
  rw [inWindow, List.countP_cons, ← inWindow]
  split
  · rename_i inside
    rw [decide_eq_true_eq] at inside
    -- The others of the window are after `now - 900`, and the state counts those.
    have wider : inWindow admitted last ≤
        admitted.countP fun time => decide (now - 900 < time) := by
      refine List.countP_mono_left fun time _ young => ?_
      rw [decide_eq_true_eq] at young ⊢
      linarith
    have counted := backs.counts (now - 900) le_rfl
    have few : (state.attemptEpochs.countP fun time => decide (now - 900 < time)) ≤
        state.attemptEpochs.length := List.countP_le_length
    omega
  · exact windows last

end

/-! ### Every call -/

structure Kept (history : LoginHistory) : Prop where
  held : Backs history.clock history.admitted history.bars history.controller.state
  saved : ∃ state, load history.controller.file = .ok state ∧
    Backs history.clock history.admitted history.bars state
  windows : ∀ last, inWindow history.admitted last ≤ 3

section

variable (kept : Kept history) (later : history.clock ≤ now)
include kept later

theorem Kept.idle :
    Kept { history with clock := now } := by
  obtain ⟨state, loads, backs⟩ := kept.saved
  exact ⟨kept.held.later later, ⟨state, loads, backs.later later⟩, kept.windows⟩

theorem Kept.prune :
    Kept { history with
      clock := now
      controller := { history.controller with state := history.controller.pruned now } } :=
  ⟨kept.held.pruned later, (kept.idle later).saved, kept.windows⟩

theorem Kept.persist {saved : Except String Unit} {done : Controller → LoginHistory}
    (same : ∀ next, (done next).controller = next)
    (backs : ∀ next, Backs now (done next).admitted (done next).bars state)
    (windows : ∀ next last, inWindow (done next).admitted last ≤ 3) :
    Kept (history.after now (Controller.persist saved state) done) := by
  cases saved with
  | error _ => exact kept.idle later
  | ok _ =>
    have held := backs ⟨some ⟨state, 1⟩, state⟩
    constructor
    case held =>
      simp only [LoginHistory.after, Controller.persist, Except.map, same]
      exact held
    case saved =>
      refine ⟨state, ?_, held⟩
      simp only [LoginHistory.after, Controller.persist, Except.map, same, load]
      exact if_pos ⟨trivial, held.valid⟩
    case windows => exact windows _

end

theorem LoginHistory.after_map {α β : Type} (outcome : Except String α) (f : α → β)
    (done : β → LoginHistory) :
    history.after now (outcome.map f) done = history.after now outcome (done ∘ f) := by
  cases outcome <;> rfl

theorem Kept.step (kept : Kept history) (call : SafetyCall) (forward : history.Forward call) :
    Kept (history.step call) := by
  cases call with
  | admitHttpLogin now saved =>
    have pruned := kept.held.pruned forward
    simp only [LoginHistory.step, Controller.admitHttpLogin]
    split
    · exact kept.idle forward
    rename_i positive
    split
    · -- Denied in quarantine: nothing is saved.
      rename_i running
      have running : now < history.controller.state.quarantineUntilEpoch := running
      simpa [LoginHistory.after, Controller.decision, running] using kept.prune forward
    rename_i ended
    have ended : history.controller.state.quarantineUntilEpoch ≤ now := not_lt.mp ended
    split <;> rw [LoginHistory.after_map]
    · -- The limit is reached: the denial saves a quarantine.
      refine kept.persist forward (fun _ => rfl) (fun _ => ?_) fun _ => kept.windows
      simp only [Function.comp_apply, Controller.decision, Bool.false_eq_true, false_or, if_false,
        not_lt.mpr ended]
      exact pruned.bar (ended.trans (by rw [quarantine_eq]; linarith)) le_rfl
    · rename_i room
      refine kept.persist forward (fun _ => rfl) (fun _ => ?_) fun _ => ?_
      · simp only [Function.comp_apply, Controller.decision, if_true, true_or]
        exact pruned.admit (not_lt.mp positive) ended
      · simp only [Function.comp_apply, Controller.decision, if_true]
        exact pruned.window (not_le.mp room) kept.windows
  | recordFailure reasonCode now saved =>
    have pruned := kept.held.pruned forward
    simp only [LoginHistory.step, Controller.recordFailure]
    split
    · exact kept.idle forward
    refine kept.persist forward (fun _ => rfl) (fun _ => ?_) fun _ => kept.windows
    split
    · exact pruned.bar (le_max_left _ _) (le_max_right _ _)
    · exact ⟨pruned.valid, pruned.counts, pruned.outlasts⟩
  | recordSuccess now saved =>
    have pruned := kept.held.pruned forward
    simp only [LoginHistory.step, Controller.recordSuccess]
    split
    · exact kept.idle forward
    refine kept.persist forward (fun _ => rfl) (fun _ => ?_) fun _ => kept.windows
    exact ⟨⟨pruned.valid.1, le_rfl⟩, pruned.counts, fun _ none => absurd none List.not_mem_nil⟩
  | snapshot now =>
    simp only [LoginHistory.step, Controller.snapshot]
    split
    · exact kept.idle forward
    · exact kept.prune forward
  | restart =>
    -- The new controller has the saved state, which backs the same history.
    obtain ⟨state, loads, backs⟩ := kept.saved
    simp only [LoginHistory.step, Controller.restart, loads]
    exact ⟨backs, ⟨state, loads, backs⟩, kept.windows⟩

theorem Kept.calm (kept : Kept history) : history.Calm := by
  refine ⟨kept.windows, fun now saved decision next later admits allowed => ?_, ?_⟩
  · simp only [Controller.admitHttpLogin] at admits
    split at admits
    · cases admits
    split at admits
    · cases admits
      cases allowed
    · rename_i ended
      exact (kept.held.later later).old (not_lt.mp ended)
  · obtain ⟨state, loads, -⟩ := kept.saved
    exact ⟨_, by rw [Controller.restart, loads]; rfl⟩

/-- **Login storms are prevented**, across restarts and saves that raise, on a profile directory
    that starts without a file and with a clock that does not go back. -/
theorem login_storms_prevented (clock : ℚ) (calls : List SafetyCall)
    (forward : Guarded LoginHistory.step LoginHistory.Forward { clock := clock } calls) :
    Always LoginHistory.step LoginHistory.Calm { clock := clock } calls := by
  refine Machine.guarded_always (fun _ kept => Kept.calm kept)
    (fun _ call kept forward => kept.step call forward) ?_ forward
  have backs : Backs clock [] [] {} := by constructor <;> simp
  exact ⟨backs, ⟨{}, rfl, backs⟩, fun _ => Nat.zero_le _⟩

def sampleCalls : List SafetyCall :=
  [.admitHttpLogin 0 (.ok ()), .admitHttpLogin 1 (.ok ()), .admitHttpLogin 2 (.ok ()),
    .admitHttpLogin 3 (.ok ()), .restart, .admitHttpLogin 902 (.ok ())]

theorem fifth_login_denied :
    (Machine.run LoginHistory.step { clock := 0 } sampleCalls).admitted = [2, 1, 0] ∧
      Always LoginHistory.step LoginHistory.Calm { clock := 0 } sampleCalls := by
  refine ⟨by decide +kernel, login_storms_prevented 0 sampleCalls ?_⟩
  refine ⟨?_, ?_, ?_, ?_, trivial, ?_, trivial⟩ <;> change (_ : ℚ) ≤ _ <;> decide +kernel

end TradingLab.ConnectionSafety

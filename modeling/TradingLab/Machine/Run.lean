import Mathlib.Logic.Basic

/-!
# Runs of a state machine

A machine is a total function `step`; a run feeds it a list of inputs. The rules
below turn what one step preserves into what every run preserves: invariants,
invariants under a guard on the inputs, and relations between the ends of a run.
-/
namespace Machine

variable {σ ι ε α β : Type} {step : σ → ι → σ} {s : σ} {inputs : List ι} {allowed : ι → Prop}
  {guard : σ → ι → Prop} {good inv : σ → Prop} {operation : σ → Except ε (α × σ)}

def run (step : σ → ι → σ) (s : σ) (inputs : List ι) : σ :=
  inputs.foldl step s

@[simp] theorem run_nil (step : σ → ι → σ) (s : σ) : run step s [] = s := rfl

@[simp] theorem run_cons (step : σ → ι → σ) (s : σ) (i : ι) (rest : List ι) :
    run step s (i :: rest) = run step (step s i) rest := rfl

theorem run_append (step : σ → ι → σ) (s : σ) (before after : List ι) :
    run step s (before ++ after) = run step (run step s before) after :=
  List.foldl_append

/-- A property that every step keeps holds at the end of every run. -/
theorem run_invariant (holds : σ → Prop)
    (keeps : ∀ s i, holds s → holds (step s i)) (initial : holds s)
    (inputs : List ι) : holds (run step s inputs) := by
  induction inputs generalizing s with
  | nil => exact initial
  | cons i rest ih => exact ih (keeps s i initial)

/-- A preorder that every step moves along relates the two ends of a run; the
    steps may rely on an invariant. -/
theorem run_rel (holds : σ → Prop) (rel : σ → σ → Prop)
    (refl : ∀ s, rel s s) (trans : ∀ {a b c}, rel a b → rel b c → rel a c)
    (keeps : ∀ s i, holds s → holds (step s i))
    (moves : ∀ s i, holds s → rel s (step s i)) (initial : holds s)
    (inputs : List ι) : rel s (run step s inputs) := by
  induction inputs generalizing s with
  | nil => exact refl s
  | cons i rest ih => exact trans (moves s i initial) (ih (keeps s i initial))

/-- Every step of the run meets the condition at the state it starts from. -/
def Guarded (step : σ → ι → σ) (guard : σ → ι → Prop) : σ → List ι → Prop
  | _, [] => True
  | s, i :: rest => guard s i ∧ Guarded step guard (step s i) rest

theorem guarded_of_forall
    (all : ∀ i ∈ inputs, allowed i) (s : σ) : Guarded step (fun _ i => allowed i) s inputs := by
  induction inputs generalizing s with
  | nil => trivial
  | cons i rest ih =>
    exact ⟨all i List.mem_cons_self, ih (fun j member => all j (List.mem_cons_of_mem _ member)) _⟩

theorem Guarded.and {guard' : σ → ι → Prop}
    (one : Guarded step guard s inputs) (other : Guarded step guard' s inputs) :
    Guarded step (fun s i => guard s i ∧ guard' s i) s inputs := by
  induction inputs generalizing s with
  | nil => trivial
  | cons i rest ih => exact ⟨⟨one.1, other.1⟩, ih one.2 other.2⟩

theorem guarded_append {before after : List ι} :
    Guarded step guard s (before ++ after) ↔
      Guarded step guard s before ∧ Guarded step guard (run step s before) after := by
  induction before generalizing s with
  | nil => simp [Guarded]
  | cons i rest ih => simp [Guarded, ih, and_assoc]

theorem guarded_invariant (holds : σ → Prop)
    (keeps : ∀ s i, holds s → guard s i → holds (step s i)) (initial : holds s)
      (guarded : Guarded step guard s inputs) :
    holds (run step s inputs) := by
  induction inputs generalizing s with
  | nil => exact initial
  | cons i rest ih => exact ih (keeps s i initial guarded.1) guarded.2

theorem guarded_rel (rel : σ → σ → Prop)
    (refl : ∀ s, rel s s) (trans : ∀ {a b c}, rel a b → rel b c → rel a c)
    (moves : ∀ s i, guard s i → rel s (step s i))
    (guarded : Guarded step guard s inputs) : rel s (run step s inputs) := by
  induction inputs generalizing s with
  | nil => exact refl s
  | cons i rest ih => exact trans (moves s i guarded.1) (ih guarded.2)

/-- The property holds in every state along the run, its two ends included. -/
def Always (step : σ → ι → σ) (good : σ → Prop) : σ → List ι → Prop
  | s, [] => good s
  | s, i :: rest => good s ∧ Always step good (step s i) rest

theorem Always.start (always : Always step good s inputs) : good s := by
  cases inputs with
  | nil => exact always
  | cons i rest => exact always.1

/-- What an invariant implies holds all along a guarded run. -/
theorem guarded_always
    (sound : ∀ s, inv s → good s) (keeps : ∀ s i, inv s → guard s i → inv (step s i))
    (initial : inv s) (guarded : Guarded step guard s inputs) :
    Always step good s inputs := by
  induction inputs generalizing s with
  | nil => exact sound s initial
  | cons i rest ih => exact ⟨sound s initial, ih (keeps s i initial guarded.1) guarded.2⟩

/-- If the guard is exactly what an admissible step needs, the admissible runs that stay good are
    the guarded ones. -/
theorem always_iff_guarded_within {admissible : σ → ι → Prop} (sound : ∀ s, inv s → good s)
    (keeps : ∀ s i, inv s → admissible s i → guard s i → inv (step s i))
    (breaks : ∀ s i, inv s → admissible s i → good (step s i) → guard s i)
    (initial : inv s) (all : Guarded step admissible s inputs) :
    Always step good s inputs ↔ Guarded step guard s inputs := by
  constructor
  · intro always
    induction inputs generalizing s with
    | nil => trivial
    | cons i rest ih =>
      have here := breaks s i initial all.1 always.2.start
      exact ⟨here, ih (keeps s i initial all.1 here) all.2 always.2⟩
  · intro guarded
    exact guarded_always sound (fun s i inv both => keeps s i inv both.1 both.2) initial
      (all.and guarded)

theorem always_iff_guarded (sound : ∀ s, inv s → good s)
    (keeps : ∀ s i, inv s → allowed i → guard s i → inv (step s i))
    (breaks : ∀ s i, inv s → allowed i → good (step s i) → guard s i) (initial : inv s)
      (all : ∀ i ∈ inputs, allowed i) :
    Always step good s inputs ↔ Guarded step guard s inputs :=
  always_iff_guarded_within sound keeps breaks initial (guarded_of_forall all s)

/-! ### Transactions

An operation answers a result and the next state, or raises. A transaction that
raises is rolled back: the machine stays where it was. -/

def transact (operation : σ → Except ε (α × σ)) (s : σ) : σ :=
  match operation s with
  | .ok (_, s') => s'
  | .error _ => s

theorem transact_of_ok {s' : σ} {a : α}
    (h : operation s = .ok (a, s')) : transact operation s = s' := by
  simp only [transact, h]

theorem transact_of_error {e : ε} (h : operation s = .error e) : transact operation s = s := by
  simp only [transact, h]

/-- What holds of every committed next state and of the current state holds after
    the transaction. -/
theorem transact_cases (holds : σ → Prop)
    (rolledBack : holds s) (committed : ∀ a s', operation s = .ok (a, s') → holds s') :
    holds (transact operation s) := by
  unfold transact
  split
  · rename_i a s' h
    exact committed a s' h
  · exact rolledBack

end Machine

namespace Except

variable {ε α β : Type} {items : List α}

theorem ok_bind (a : α) (f : α → Except ε β) : (Except.ok a >>= f) = f a := rfl

@[simp] theorem bind_ok_iff {x : Except ε α} {f : α → Except ε β} {b : β} :
    x >>= f = Except.ok b ↔ ∃ a, x = Except.ok a ∧ f a = Except.ok b := by
  rcases x with e | a
  · exact ⟨fun h => (nomatch h), fun ⟨_, h, _⟩ => (nomatch h)⟩
  · exact ⟨fun h => ⟨a, rfl, h⟩, fun ⟨_, h, hf⟩ => by cases h; exact hf⟩

/-- What every turn of a loop keeps holds after the loop. -/
theorem foldlM_invariant {body : β → α → Except ε β} (holds : β → Prop)
    (turn : ∀ b, ∀ a ∈ items, ∀ b', holds b → body b a = .ok b' → holds b') {b b' : β}
    (loop : items.foldlM body b = .ok b') (start : holds b) : holds b' := by
  induction items generalizing b with
  | nil =>
    cases loop
    exact start
  | cons a rest ih =>
    rw [List.foldlM_cons, bind_ok_iff] at loop
    obtain ⟨next, first, loop⟩ := loop
    exact ih (fun b a member => turn b a (List.mem_cons_of_mem _ member)) loop
      (turn b a List.mem_cons_self next start first)

theorem mapM_of_forall {f : α → Except ε β} {g : α → β}
    (all : ∀ item ∈ items, f item = .ok (g item)) : items.mapM f = .ok (items.map g) := by
  induction items with
  | nil => rfl
  | cons item rest ih =>
    rw [List.mapM_cons, all item List.mem_cons_self,
      ih fun other member => all other (List.mem_cons_of_mem _ member)]
    rfl

end Except

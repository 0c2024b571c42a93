import TradingLab.Machine.Run

/-!
# Programs that raise

A program runs on a state and ends with a value or an exception. A program that raises keeps what
it has done so far; `atomic` makes a transaction of it.
-/
namespace Machine

/-- A program over the state `σ` that answers an `α` or raises an `ε`. -/
def Program (ε σ α : Type) : Type :=
  σ → Except ε α × σ

namespace Program

variable {ε σ α β : Type}

/-- One program after another; an exception of the first ends both. -/
def andThen (p : Program ε σ α) (f : α → Program ε σ β) : Program ε σ β := fun s =>
  match p s with
  | (.ok a, s') => f a s'
  | (.error e, s') => (.error e, s')

instance : Monad (Program ε σ) where
  pure a := fun s => (.ok a, s)
  bind := andThen

def raise (e : ε) : Program ε σ α := fun s => (.error e, s)

def get : Program ε σ σ := fun s => (.ok s, s)

def set (s : σ) : Program ε σ Unit := fun _ => (.ok (), s)

def modify (f : σ → σ) : Program ε σ Unit := fun s => (.ok (), f s)

def lift (x : Except ε α) : Program ε σ α := fun s => (x, s)

/-- Run the handler where the program has raised, on the state it has left. -/
def handle (p : Program ε σ α) (handler : ε → Program ε σ α) : Program ε σ α := fun s =>
  match p s with
  | (.ok a, s') => (.ok a, s')
  | (.error e, s') => handler e s'

/-- `BEGIN`, the program, then `COMMIT`; or `ROLLBACK` when it raises. -/
def atomic (p : Program ε σ α) : Program ε σ α := fun s =>
  match p s with
  | (.ok a, s') => (.ok a, s')
  | (.error e, _) => (.error e, s)

/-! ### Running a program -/

section Run
variable {p : Program ε σ α} {f : α → Program ε σ β} {s s' : σ} {a : α} {e : ε} {x : Except ε α}
  {handler : ε → Program ε σ α}

@[simp] theorem pure_run : (pure a : Program ε σ α) s = (.ok a, s) := rfl

@[simp] theorem raise_run : (raise e : Program ε σ α) s = (.error e, s) := rfl

@[simp] theorem get_run : (get : Program ε σ σ) s = (.ok s, s) := rfl

@[simp] theorem set_run : (set s' : Program ε σ Unit) s = (.ok (), s') := rfl

@[simp] theorem modify_run {g : σ → σ} : (modify g : Program ε σ Unit) s = (.ok (), g s) := rfl

@[simp] theorem lift_run : (lift x : Program ε σ α) s = (x, s) := rfl

theorem bind_of_ok (first : p s = (.ok a, s')) : (p >>= f) s = f a s' := by
  have unfolded : (p >>= f) s = andThen p f s := rfl
  rw [unfolded, andThen, first]

theorem bind_of_error (first : p s = (.error e, s')) : (p >>= f) s = (.error e, s') := by
  have unfolded : (p >>= f) s = andThen p f s := rfl
  rw [unfolded, andThen, first]

theorem bind_final (holds : σ → Prop) (raised : ∀ e s', p s = (.error e, s') → holds s')
    (continued : ∀ a s', p s = (.ok a, s') → holds (f a s').2) : holds ((p >>= f) s).2 := by
  cases ran : p s with
  | mk answer s' =>
    cases answer with
    | error e =>
      rw [bind_of_error ran]
      exact raised e s' ran
    | ok a =>
      rw [bind_of_ok ran]
      exact continued a s' ran

theorem bind_pure_final {g : α → β} : ((p >>= fun a => pure (g a)) s).2 = (p s).2 := by
  refine bind_final (· = (p s).2) ?_ ?_ <;> exact fun _ _ ran => (congrArg Prod.snd ran).symm

theorem bind_keeps {γ : Type} (view : σ → γ) (first : ∀ s, view (p s).2 = view s)
    (next : ∀ a s, view (f a s).2 = view s) (s : σ) : view ((p >>= f) s).2 = view s := by
  cases ran : p s with
  | mk answer s' =>
    have kept := first s
    rw [ran] at kept
    cases answer with
    | error e => rw [bind_of_error ran, kept]
    | ok a => rw [bind_of_ok ran, next, kept]

theorem bind_eq_ok {b : β} : (p >>= f) s = (.ok b, s') ↔
    ∃ a middle, p s = (.ok a, middle) ∧ f a middle = (.ok b, s') := by
  cases first : p s with
  | mk answer middle =>
    cases answer with
    | ok a =>
      rw [bind_of_ok first]
      constructor
      · exact fun rest => ⟨a, middle, rfl, rest⟩
      · rintro ⟨a', middle', same, rest⟩
        cases same
        exact rest
    | error e =>
      rw [bind_of_error first]
      constructor
      · intro impossible
        cases impossible
      · rintro ⟨a', middle', same, rest⟩
        cases same

theorem lift_eq_ok :
    (lift x : Program ε σ α) s = (.ok a, s') ↔ x = .ok a ∧ s' = s := by
  rw [lift_run, Prod.mk.injEq]
  exact and_congr_right fun _ => eq_comm

theorem handle_of_ok (ends : p s = (.ok a, s')) :
    handle p handler s = (.ok a, s') := by
  simp only [handle, ends]

theorem handle_of_error (ends : p s = (.error e, s')) :
    handle p handler s = handler e s' := by
  simp only [handle, ends]

theorem handle_bind_of_ok {handler : ε → Program ε σ β} (first : p s = (.ok a, s')) :
    handle (p >>= f) handler s = handle (f a) handler s' := by
  simp only [handle, bind_of_ok first]

theorem atomic_of_error (ends : p s = (.error e, s')) : atomic p s = (.error e, s) := by
  simp only [atomic, ends]

theorem atomic_eq_ok : atomic p s = (.ok a, s') ↔ p s = (.ok a, s') := by
  cases inner : p s with
  | mk answer after => cases answer <;> simp [atomic, inner]

theorem atomic_of_not_ok (refused : ∀ a s', p s ≠ (.ok a, s')) :
    ∃ e, atomic p s = (.error e, s) := by
  cases inner : p s with
  | mk answer after =>
    cases answer with
    | ok a => exact absurd inner (refused a after)
    | error e => exact ⟨e, atomic_of_error inner⟩

end Run

/-! ### What a program keeps -/

/-- The property survives the program, however it ends. -/
def Preserves (P : σ → Prop) (p : Program ε σ α) : Prop :=
  ∀ s, P s → P (p s).2

section Preserves
variable {P : σ → Prop} {p : Program ε σ α} {a : α} {g : σ → σ} {f : α → Program ε σ β}

theorem preserves_pure : Preserves P (pure a : Program ε σ α) := fun _ => id

theorem preserves_raise {e : ε} : Preserves P (raise e : Program ε σ α) := fun _ => id

theorem preserves_get : Preserves P (get : Program ε σ σ) := fun _ => id

theorem preserves_lift {x : Except ε α} : Preserves P (lift x : Program ε σ α) := fun _ => id

theorem preserves_modify (keeps : ∀ s, P s → P (g s)) :
    Preserves P (modify g : Program ε σ Unit) := keeps

theorem preserves_bind (first : Preserves P p)
    (rest : ∀ a, Preserves P (f a)) : Preserves P (p >>= f) := by
  intro s holds
  have middle := first s holds
  cases ran : p s with
  | mk answer s' =>
    rw [ran] at middle
    cases answer with
    | error e => rwa [bind_of_error ran]
    | ok a =>
      rw [bind_of_ok ran]
      exact rest a s' middle

/-- The property survives the program when it raises. -/
def PreservesOnRaise (P : σ → Prop) (p : Program ε σ α) : Prop :=
  ∀ s, P s → ∀ e s', p s = (.error e, s') → P s'

theorem Preserves.onRaise (keeps : Preserves P p) : PreservesOnRaise P p := by
  intro s holds e s' raised
  have after := keeps s holds
  rwa [raised] at after

theorem onRaise_bind (first : Preserves P p)
    (rest : ∀ a, PreservesOnRaise P (f a)) : PreservesOnRaise P (p >>= f) := by
  intro s holds e s' raised
  have middle := first s holds
  cases ran : p s with
  | mk answer after =>
    rw [ran] at middle
    cases answer with
    | error e' =>
      rw [bind_of_error ran] at raised
      cases raised
      exact middle
    | ok a =>
      rw [bind_of_ok ran] at raised
      exact rest a after middle e s' raised

theorem onRaise_modify_pure :
    PreservesOnRaise P (modify g >>= fun _ => (pure a : Program ε σ α)) := by
  intro s _ e s' raised
  cases raised

end Preserves

/-- From a state with `P`, whatever the program returns has `Q` together with the state it
    leaves. -/
def Ensures (P : σ → Prop) (p : Program ε σ α) (Q : α → σ → Prop) : Prop :=
  ∀ s, P s → ∀ a s', p s = (.ok a, s') → Q a s'

section Ensures
variable {P : σ → Prop} {p : Program ε σ α} {Q : α → σ → Prop} {f : α → Program ε σ β}
  {R : β → σ → Prop}

theorem ensures_pure {a : α} (holds : ∀ s, P s → Q a s) :
    Ensures P (pure a : Program ε σ α) Q := by
  intro s pre b s' same
  cases same
  exact holds s pre

theorem ensures_raise {e : ε} : Ensures P (raise e : Program ε σ α) Q := by
  intro s pre a s' same
  cases same

theorem ensures_lift {x : Except ε α} (holds : ∀ a, x = .ok a → ∀ s, P s → Q a s) :
    Ensures P (lift x : Program ε σ α) Q := by
  intro s pre a s' same
  cases same
  exact holds a rfl s pre

theorem ensures_bind (first : Ensures P p Q)
    (rest : ∀ a, Ensures (Q a) (f a) R) : Ensures P (p >>= f) R := by
  intro s pre b s' same
  obtain ⟨a, middle, ran, continued⟩ := bind_eq_ok.mp same
  exact rest a middle (first s pre a middle ran) b s' continued

theorem ensures_weaken {P' : σ → Prop} {Q' : α → σ → Prop} (ensures : Ensures P p Q)
    (pre : ∀ s, P' s → P s) (post : ∀ a s, Q a s → Q' a s) : Ensures P' p Q' := by
  intro s holds a s' same
  exact post a s' (ensures s (pre s holds) a s' same)

theorem ensures_bind_any (rest : ∀ a, Ensures (fun _ => True) (f a) R) : Ensures P (p >>= f) R :=
  ensures_bind (fun _ _ _ _ _ => trivial) rest

end Ensures

end Program

end Machine

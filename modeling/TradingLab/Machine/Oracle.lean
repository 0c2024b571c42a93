import TradingLab.Machine.Program

/-!
# Programs that ask

A program that talks to the outside world asks an oracle, which is also given the number of the
question: over all oracles this is every behaviour of the world. The questions and their answers
are logged.
-/
namespace Machine

/-- Answers the `n`-th question of a run. -/
abbrev Oracle (ι ο : Type) : Type := Nat → ι → ο

/-- A state together with the log of what was asked and answered. -/
structure Logged (ι ο σ : Type) where
  state : σ
  log : List (ι × ο)

namespace Logged

variable {ε ι ο σ α β : Type}

def start (state : σ) : Logged ι ο σ := ⟨state, []⟩

def ask (oracle : Oracle ι ο) (question : ι) : Program ε (Logged ι ο σ) ο := fun w =>
  let answer := oracle w.log.length question
  (.ok answer, { w with log := w.log ++ [(question, answer)] })

def read : Program ε (Logged ι ο σ) σ := fun w => (.ok w.state, w)

def update (f : σ → σ) : Program ε (Logged ι ο σ) Unit := fun w =>
  (.ok (), { w with state := f w.state })

section Run
variable {oracle : Oracle ι ο} {question : ι} {w : Logged ι ο σ}

@[simp] theorem ask_run : (ask oracle question : Program ε (Logged ι ο σ) ο) w =
    (.ok (oracle w.log.length question),
      ⟨w.state, w.log ++ [(question, oracle w.log.length question)]⟩) := rfl

@[simp] theorem read_run : (read : Program ε (Logged ι ο σ) σ) w = (.ok w.state, w) := rfl

@[simp] theorem update_run {f : σ → σ} :
    (update f : Program ε (Logged ι ο σ) Unit) w = (.ok (), ⟨f w.state, w.log⟩) := rfl

end Run

section Ensures
variable {P : Logged ι ο σ → Prop}

theorem ensures_read : Program.Ensures P (read : Program ε (Logged ι ο σ) σ)
    fun state w => w.state = state ∧ P w := by
  intro w pre state w' same
  cases same
  exact ⟨rfl, pre⟩

theorem ensures_ask {oracle : Oracle ι ο} {question : ι} :
    Program.Ensures P (ask oracle question : Program ε (Logged ι ο σ) ο)
      fun answer w => ∃ log, w.log = log ++ [(question, answer)] ∧ P ⟨w.state, log⟩ := by
  intro w pre answer w' same
  cases same
  exact ⟨w.log, rfl, pre⟩

end Ensures

/-- Every question that the program asks has the property. -/
def Asks (Q : ι → Prop) (p : Program ε (Logged ι ο σ) α) : Prop :=
  ∀ w, ∃ later, (p w).2.log = w.log ++ later ∧ ∀ entry ∈ later, Q entry.1

section Asks
variable {Q : ι → Prop}

theorem asks_pure {a : α} : Asks Q (pure a : Program ε (Logged ι ο σ) α) := by
  intro w
  exact ⟨[], by simp, by simp⟩

theorem asks_raise {e : ε} : Asks Q (Program.raise e : Program ε (Logged ι ο σ) α) := by
  intro w
  exact ⟨[], by simp, by simp⟩

theorem asks_read : Asks Q (read : Program ε (Logged ι ο σ) σ) := by
  intro w
  exact ⟨[], by simp, by simp⟩

theorem asks_update {f : σ → σ} : Asks Q (update f : Program ε (Logged ι ο σ) Unit) := by
  intro w
  exact ⟨[], by simp, by simp⟩

theorem asks_ask {oracle : Oracle ι ο} {question : ι} (holds : Q question) :
    Asks Q (ask oracle question : Program ε (Logged ι ο σ) ο) := by
  intro w
  exact ⟨[(question, oracle w.log.length question)], rfl, by simpa using holds⟩

theorem asks_bind {p : Program ε (Logged ι ο σ) α} {f : α → Program ε (Logged ι ο σ) β}
    (first : Asks Q p) (rest : ∀ a, Asks Q (f a)) : Asks Q (p >>= f) := by
  intro w
  obtain ⟨early, log, asked⟩ := first w
  cases run : p w with
  | mk answer middle =>
    rw [run] at log
    cases answer with
    | error e =>
      rw [Program.bind_of_error run]
      exact ⟨early, log, asked⟩
    | ok a =>
      rw [Program.bind_of_ok run]
      obtain ⟨late, log', asked'⟩ := rest a middle
      refine ⟨early ++ late, ?_, ?_⟩
      · rw [log', log, List.append_assoc]
      · intro entry member
        exact (List.mem_append.mp member).elim (asked entry) (asked' entry)

end Asks

end Logged

end Machine

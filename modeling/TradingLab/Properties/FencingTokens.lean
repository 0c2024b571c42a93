import TradingLab.Core.LeaderLease
import TradingLab.Machine.Run

/-!
# Fencing tokens

A token is drawn from the counter of the store, so no schedule gives it to two instances, and
whoever acquires the lease later has a larger one. This holds also where two instances lead at once.
-/
namespace TradingLab

open Machine

/-- The tokens that an instance leads with, or is about to. -/
def LeaseMember.tokens (member : LeaseMember) : List Nat :=
  (member.lease.map (·.fencingToken)).toList ++
    match member.phase with
    | .writing _ token | .written _ token | .renewing token | .renewed token _
    | .releasing token => [token]
    | _ => []

namespace LeaseSystem

variable {config : LeaseConfig} {s t base : LeaseSystem} {i : Nat} {member : LeaseMember}

/-- One instance moves on, with its own tokens or with the next one of the counter. -/
def Draws (s t : LeaseSystem) : Prop :=
  ∃ i, (∀ j, j ≠ i → t.members j = s.members j) ∧
    (t.counter = s.counter ∧ (t.members i).tokens ⊆ (s.members i).tokens ∨
      t.counter = s.counter + 1 ∧
        (t.members i).tokens ⊆ (s.counter + 1) :: (s.members i).tokens)

theorem Draws.refl : Draws s s :=
  ⟨0, fun _ _ => rfl, .inl ⟨rfl, fun _ => id⟩⟩

theorem Draws.put (same : base.members = s.members) (counter : base.counter = s.counter)
    (kept : member.tokens ⊆ (s.members i).tokens) : Draws s (base.put i member) := by
  refine ⟨i, fun j other => ?_, .inl ⟨counter, ?_⟩⟩
  · simp only [LeaseSystem.put, if_neg other, same]
  · simpa only [LeaseSystem.put, if_true] using kept

theorem draws_step (config : LeaseConfig) (s : LeaseSystem) (event : LeaseEvent) :
    Draws s (s.step config event) := by
  cases event with
  | tick later => exact ⟨0, fun _ _ => rfl, .inl ⟨rfl, fun _ => id⟩⟩
  | acquire i =>
    simp only [step, acquire]
    split_ifs
    · exact .refl
    · exact .refl
    · exact .put rfl rfl (by simp [LeaseMember.tokens])
    · exact .refl
  | renew i | release i =>
    simp only [step]
    split
    · rename_i lease idle has
      exact .put rfl rfl (by simp [LeaseMember.tokens, has])
    · exact .refl
  | store i =>
    simp only [step, store]
    split
    · split <;> exact .put rfl rfl (by simp [LeaseMember.tokens])
    · -- The one call that draws a token.
      rename_i since counting
      refine ⟨i, fun j other => if_neg other, .inr ⟨rfl, ?_⟩⟩
      simp [LeaseSystem.put, LeaseMember.tokens, counting]
    · rename_i since token writing
      exact .put rfl rfl (by simp [LeaseMember.tokens, writing])
    · rename_i token renewing
      split <;> exact .put rfl rfl (by simp [LeaseMember.tokens, renewing])
    · split <;> exact .put rfl rfl (by simp [LeaseMember.tokens])
    · exact .refl
  | finish i =>
    simp only [step, finish]
    split
    · rename_i since token written
      exact .put rfl rfl (by simp [LeaseMember.tokens, written])
    · rename_i token moment renewed
      exact .put rfl rfl (by simp [LeaseMember.tokens, renewed])
    · exact .put rfl rfl (by simp [LeaseMember.tokens])
    · exact .put rfl rfl (by simp [LeaseMember.tokens])
    · exact .refl

theorem Draws.counter_le (draws : Draws s t) : s.counter ≤ t.counter := by
  obtain ⟨i, -, ⟨same, -⟩ | ⟨next, -⟩⟩ := draws <;> omega

/-- A token that the instance did not have is the one just drawn. -/
theorem Draws.kept_or_drawn (draws : Draws s t) {j token : Nat}
    (has : token ∈ (t.members j).tokens) :
    token ∈ (s.members j).tokens ∨ token = s.counter + 1 ∧ token = t.counter := by
  obtain ⟨i, others, drawn⟩ := draws
  by_cases here : j = i
  · subst here
    rcases drawn with ⟨-, kept⟩ | ⟨next, new⟩
    · exact .inl (kept has)
    · rw [next, and_self]
      exact (List.mem_cons.mp (new has)).symm
  · exact .inl (others j here ▸ has)

/-- Every token comes from the counter, and has one owner. -/
structure Fenced (s : LeaseSystem) : Prop where
  drawn : ∀ i, ∀ token ∈ (s.members i).tokens, token ≤ s.counter
  owned : ∀ i j token, token ∈ (s.members i).tokens → token ∈ (s.members j).tokens → i = j

theorem Fenced.draws (fenced : s.Fenced) (draws : Draws s t) : t.Fenced where
  drawn j token has := by
    rcases draws.kept_or_drawn has with had | ⟨-, rfl⟩
    · exact (fenced.drawn j token had).trans draws.counter_le
    · exact le_rfl
  owned j k token one two := by
    obtain ⟨i, others, -⟩ := id draws
    have here {l : Nat} (new : token = s.counter + 1) (has : token ∈ (t.members l).tokens) :
        l = i := by
      by_contra other
      have := fenced.drawn l token (others l other ▸ has)
      omega
    rcases draws.kept_or_drawn one with had | ⟨new, -⟩
    · rcases draws.kept_or_drawn two with had' | ⟨new, -⟩
      · exact fenced.owned j k token had had'
      · exact (here new one).trans (here new two).symm
    · exact (here new one).trans (here new two).symm

/-- What an instance has got since is above every token drawn before. -/
def Above (s t : LeaseSystem) : Prop :=
  s.counter ≤ t.counter ∧
    ∀ i, ∀ token ∈ (t.members i).tokens, token ∈ (s.members i).tokens ∨ s.counter < token

theorem above_run (s : LeaseSystem) (events : List LeaseEvent) :
    Above s (run (step config) s events) := by
  refine run_rel (fun _ => True) Above ?_ ?_ (fun _ _ _ => trivial) ?_ trivial events
  · exact fun s => ⟨le_rfl, fun _ _ => .inl⟩
  · rintro a b c ⟨le, first⟩ ⟨le', second⟩
    refine ⟨le.trans le', fun i token has => ?_⟩
    rcases second i token has with had | above
    · exact first i token had
    · exact .inr (le.trans_lt above)
  · intro s event _
    have draws := draws_step config s event
    refine ⟨draws.counter_le, fun i token has => ?_⟩
    exact (draws.kept_or_drawn has).imp_right fun new => by omega

theorem fenced_run (config : LeaseConfig) (events : List LeaseEvent) :
    (run (step config) {} events).Fenced :=
  run_invariant Fenced (fun s event fenced => fenced.draws (draws_step config s event))
    ⟨by simp [LeaseMember.tokens], by simp [LeaseMember.tokens]⟩ events

/-- Any two points of a run: no two instances have one token, and a token that an instance has got
    in between is larger than all that any instance had before. -/
theorem tokens_fence (config : LeaseConfig) (before after : List LeaseEvent) :
    let s := run (step config) {} before
    let t := run (step config) s after
    (∀ i j token, token ∈ (t.members i).tokens → token ∈ (t.members j).tokens → i = j) ∧
      ∀ i, ∀ token ∈ (t.members i).tokens, token ∈ (s.members i).tokens ∨
        ∀ j, ∀ held ∈ (s.members j).tokens, held < token := by
  intro s t
  have fenced : t.Fenced := by
    simpa only [t, s, run_append] using fenced_run config (before ++ after)
  refine ⟨fenced.owned, fun i token has => ?_⟩
  refine ((above_run s after).2 i token has).imp_right fun above j held had => ?_
  exact ((fenced_run config before).drawn j held had).trans_lt above

end LeaseSystem
end TradingLab

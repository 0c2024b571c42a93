import Mathlib.Tactic.Linarith
import TradingLab.Core.LeaderLease
import TradingLab.Machine.Run

/-!
# Mutual exclusion by leases

Three delays break the exclusion: a renewal counts its expiry from a clock reading after the store's
answer; the last `SET` of an acquisition writes over whatever took the key after its claim expired;
and an instance that releases its lease goes on leading until the answer arrives.
-/
namespace TradingLab

namespace LeaseSystem

variable (config : LeaseConfig) (s : LeaseSystem) {i token j a k : Nat} {time : ℚ}
  {base : LeaseSystem} {member : LeaseMember} {phase : LeasePhase}

def LeadsWith (i token : Nat) : Prop :=
  ∃ lease, (s.members i).lease = some lease ∧ s.now < lease.expiresAt ∧
    lease.fencingToken = token

def Exclusive : Prop :=
  ∀ i j, s.leads i = true → s.leads j = true → i = j

/-- A leadership of the later state is one of the earlier state, or has a larger token. -/
def Precedes (later : LeaseSystem) : Prop :=
  ∀ i j a b, s.LeadsWith i a → later.LeadsWith j b → i = j ∧ a = b ∨ a < b

/-- No claim succeeds while a leader's release waits for its answer, a lease is written while its
    claim stands, and a renewal reads the clock at the moment the store extended the key. -/
def Timely : LeaseEvent → Prop
  | .store i =>
    match (s.members i).phase with
    | .claiming _ => ∀ j, (s.members j).phase = .released → s.leads j = false
    | .writing _ _ => s.stored = some (.claim i)
    | _ => True
  | .finish i =>
    match (s.members i).phase with
    | .renewed _ (some moment) => s.now = moment
    | _ => True
  | _ => True

def Holds (i token : Nat) (time : ℚ) : Prop :=
  ∃ expiry, s.key = some (.lease i token, expiry) ∧ time ≤ expiry

def Named (i token : Nat) : Prop :=
  ∃ lease, (s.members i).lease = some lease ∧ lease.fencingToken = token

def PhaseSound (i : Nat) : LeasePhase → Prop
  | .claiming since | .counting since => since ≤ s.now
  | .writing since token => since ≤ s.now ∧ token ≤ s.counter
  | .written since token => since ≤ s.now ∧ token ≤ s.counter ∧
    (s.now < since + config.ttl i → s.Holds i token (since + config.ttl i))
  | .renewing token | .releasing token => s.Named i token
  | .renewed token extended => s.Named i token ∧ ∀ moment, extended = some moment →
    s.now < moment + config.ttl i → s.Holds i token (moment + config.ttl i)
  | .idle | .released => True

/-- What is known of one instance: while it leads, it has the key, or it has given the key back and
    nobody has taken it. -/
structure MemberSound (i : Nat) : Prop where
  bounded : ∀ lease, (s.members i).lease = some lease →
    lease.expiresAt ≤ s.now + config.ttl i ∧ lease.fencingToken ≤ s.counter
  leading : ∀ lease, (s.members i).lease = some lease → s.now < lease.expiresAt →
    s.Holds i lease.fencingToken lease.expiresAt ∨
      (s.members i).phase = .released ∧ s.stored = none
  phase : s.PhaseSound config i (s.members i).phase

structure Sound : Prop where
  member : ∀ i, s.MemberSound config i
  alone : ∀ i j, (s.members i).phase = .released → (s.members j).phase = .released →
    s.leads i = true → s.leads j = true → i = j

variable {config s}

theorem leads_iff : s.leads i = true ↔
    ∃ lease, (s.members i).lease = some lease ∧ s.now < lease.expiresAt := by
  simp [leads, isLeader, Option.any_eq_true]

theorem leadsWith_leads (leads : s.LeadsWith i token) : s.leads i = true := by
  obtain ⟨lease, has, live, -⟩ := leads
  exact leads_iff.mpr ⟨lease, has, live⟩

theorem Holds.stored (holds : s.Holds i token time)
    (live : s.now < time) : s.stored = some (.lease i token) := by
  obtain ⟨expiry, key, covers⟩ := holds
  simp [LeaseSystem.stored, key, live.trans_le covers]

theorem Sound.stored (sound : s.Sound config) (leads : s.LeadsWith i token) :
    s.stored = some (.lease i token) ∨ (s.members i).phase = .released ∧ s.stored = none := by
  obtain ⟨lease, has, live, rfl⟩ := leads
  exact ((sound.member i).leading lease has live).imp_left (·.stored live)

theorem MemberSound.holds (sound : s.MemberSound config i) (kept : (s.members i).phase ≠ .released)
    {lease : LeaseState} (has : (s.members i).lease = some lease) (live : s.now < lease.expiresAt) :
    s.Holds i lease.fencingToken lease.expiresAt :=
  (sound.leading lease has live).resolve_right fun given => kept given.1

theorem Sound.unique (sound : s.Sound config) {b : Nat} (one : s.LeadsWith i a)
    (other : s.LeadsWith j b) : i = j ∧ a = b := by
  have same : i = j := by
    rcases sound.stored one with mine | ⟨given, free⟩ <;>
      rcases sound.stored other with yours | ⟨alsoGiven, alsoFree⟩
    · rw [mine] at yours
      cases yours
      rfl
    · rw [mine] at alsoFree
      cases alsoFree
    · rw [free] at yours
      cases yours
    · exact sound.alone i j given alsoGiven (leadsWith_leads one) (leadsWith_leads other)
  subst same
  obtain ⟨lease, has, -, rfl⟩ := one
  obtain ⟨same, alsoHas, -, rfl⟩ := other
  rw [has] at alsoHas
  cases alsoHas
  exact ⟨rfl, rfl⟩

theorem Sound.exclusive (sound : s.Sound config) : s.Exclusive := by
  intro i j one other
  obtain ⟨lease, has, live⟩ := leads_iff.mp one
  obtain ⟨otherLease, alsoHas, alsoLive⟩ := leads_iff.mp other
  exact (sound.unique ⟨lease, has, live, rfl⟩ ⟨otherLease, alsoHas, alsoLive, rfl⟩).1

/-! ### One step -/

theorem MemberSound.frame {t : LeaseSystem} (sound : s.MemberSound config i)
    (same : t.members i = s.members i) (now : t.now = s.now) (counter : s.counter ≤ t.counter)
    (holds : ∀ token time, s.now < time → s.Holds i token time → t.Holds i token time)
    (free : (s.members i).phase = .released → s.leads i = true → s.stored = none →
      t.stored = none) : t.MemberSound config i := by
  constructor <;> rw [same]
  · rw [now]
    exact fun lease has => ⟨(sound.bounded lease has).1, (sound.bounded lease has).2.trans counter⟩
  · rw [now]
    intro lease has live
    rcases sound.leading lease has live with held | ⟨given, none⟩
    · exact .inl (holds _ _ live held)
    · exact .inr ⟨given, free given (leads_iff.mpr ⟨lease, has, live⟩) none⟩
  · have phase := sound.phase
    cases is : (s.members i).phase <;> rw [is] at phase <;>
      simp only [PhaseSound, Named, same, now] at phase ⊢
    case writing => exact ⟨phase.1, phase.2.trans counter⟩
    case written =>
      exact ⟨phase.1, phase.2.1.trans counter, fun live => holds _ _ live (phase.2.2 live)⟩
    case renewed =>
      exact ⟨phase.1, fun moment same live => holds _ _ live (phase.2 moment same live)⟩
    all_goals exact phase

theorem Sound.put (sound : s.Sound config)
    (members : base.members = s.members) (now : base.now = s.now)
    (counter : s.counter ≤ base.counter)
    (holds : ∀ j token time, j ≠ i → s.now < time → s.Holds j token time → base.Holds j token time)
    (free : ∀ j, j ≠ i → (s.members j).phase = .released → s.leads j = true → s.stored = none →
      base.stored = none) (own : (base.put i member).MemberSound config i)
    (alone : member.phase = .released → (base.put i member).leads i = true →
      ∀ j, j ≠ i → (s.members j).phase = .released → s.leads j = false) :
    (base.put i member).Sound config := by
  have elsewhere : ∀ j, j ≠ i → (base.put i member).members j = s.members j := fun j other => by
    simp [LeaseSystem.put, other, members]
  have here : (base.put i member).members i = member := by simp [LeaseSystem.put]
  have leads : ∀ j, j ≠ i → (base.put i member).leads j = s.leads j := fun j other => by
    rw [LeaseSystem.leads, LeaseSystem.leads, elsewhere j other]
    exact congrArg _ now
  refine ⟨fun j => ?_, fun j k first second leading alsoLeading => ?_⟩
  · by_cases other : j = i
    · rw [other]
      exact own
    · exact (sound.member j).frame (elsewhere j other) now counter
        (fun token time live held => holds j token time other live held) (free j other)
  · by_cases one : j = i <;> by_cases two : k = i
    · rw [one, two]
    · subst one
      rw [here] at first
      rw [elsewhere k two] at second
      rw [leads k two, alone first leading k two second] at alsoLeading
      cases alsoLeading
    · subst two
      rw [here] at second
      rw [elsewhere j one] at first
      rw [leads j one, alone second alsoLeading j one first] at leading
      cases leading
    · rw [elsewhere j one] at first
      rw [elsewhere k two] at second
      rw [leads j one] at leading
      rw [leads k two] at alsoLeading
      exact sound.alone j k first second leading alsoLeading

theorem Sound.put_same (sound : s.Sound config) (own : (s.put i member).MemberSound config i)
    (alone : member.phase = .released → (s.put i member).leads i = false) :
    (s.put i member).Sound config :=
  sound.put rfl rfl le_rfl (fun _ _ _ _ _ held => held) (fun _ _ _ _ none => none) own
    fun given leading => by rw [alone given] at leading; cases leading

theorem MemberSound.call (sound : s.MemberSound config i) (now : base.now = s.now)
    (counter : s.counter ≤ base.counter)
    (leading : ∀ lease, (s.members i).lease = some lease → s.now < lease.expiresAt →
      base.Holds i lease.fencingToken lease.expiresAt ∨ phase = .released ∧ base.stored = none)
    (next : (base.put i { s.members i with phase := phase }).PhaseSound config i phase) :
    (base.put i { s.members i with phase := phase }).MemberSound config i := by
  constructor <;> simp only [LeaseSystem.put, if_true]
  · rw [now]
    exact fun lease has => ⟨(sound.bounded lease has).1, (sound.bounded lease has).2.trans counter⟩
  · exact fun lease has live => leading lease has (now ▸ live)
  · exact next

theorem MemberSound.move (sound : s.MemberSound config i) (before : (s.members i).phase ≠ .released)
    (next : (s.put i { s.members i with phase := phase }).PhaseSound config i phase) :
    (s.put i { s.members i with phase := phase }).MemberSound config i :=
  sound.call rfl le_rfl (fun _ has live => .inl (sound.holds before has live)) next

theorem Sound.tick (sound : s.Sound config) (later : ℚ) :
    { s with now := max s.now later }.Sound config := by
  have onward : s.now ≤ max s.now later := le_max_left _ _
  have emptied : s.stored = none → { s with now := max s.now later }.stored = none := by
    intro none
    simp only [LeaseSystem.stored, Option.bind_eq_none_iff] at none ⊢
    intro entry is
    have expired := none entry is
    rw [ite_eq_right_iff] at expired ⊢
    exact fun live => expired (onward.trans_lt live)
  refine ⟨fun i => ?_, fun i j first second one other => ?_⟩
  · have member := sound.member i
    constructor
    · intro lease has
      obtain ⟨bound, drawn⟩ := member.bounded lease has
      exact ⟨bound.trans (add_le_add_left onward _), drawn⟩
    · intro lease has live
      exact (member.leading lease has (onward.trans_lt live)).imp_right fun ⟨given, free⟩ =>
        ⟨given, emptied free⟩
    · have phase := member.phase
      change PhaseSound config _ i (s.members i).phase
      cases is : (s.members i).phase <;> rw [is] at phase
      case claiming | counting => exact le_trans phase onward
      case writing => exact ⟨phase.1.trans onward, phase.2⟩
      case written =>
        exact ⟨phase.1.trans onward, phase.2.1, fun live => phase.2.2 (onward.trans_lt live)⟩
      case renewed =>
        exact ⟨phase.1, fun moment same live => phase.2 moment same (onward.trans_lt live)⟩
      all_goals exact phase
  · obtain ⟨lease, has, live⟩ := leads_iff.mp one
    obtain ⟨otherLease, alsoHas, alsoLive⟩ := leads_iff.mp other
    exact sound.alone i j first second (leads_iff.mpr ⟨lease, has, onward.trans_lt live⟩)
      (leads_iff.mpr ⟨otherLease, alsoHas, onward.trans_lt alsoLive⟩)

theorem not_holds (taken : ∀ j token, s.stored ≠ some (.lease j token)) (live : s.now < time) :
    ¬ s.Holds j token time :=
  fun held => taken j token (held.stored live)

theorem not_holds_other (mine : s.stored = some (.lease i a)) (differs : j ≠ i)
    (live : s.now < time) : ¬ s.Holds j token time := by
  intro held
  rw [held.stored live] at mine
  cases mine
  exact differs rfl

theorem Sound.store (sound : s.Sound config) (timely : s.Timely (.store i)) :
    (s.store config i).Sound config := by
  have own := sound.member i
  have phase := own.phase
  unfold LeaseSystem.store
  cases is : (s.members i).phase with
  | claiming since =>
    simp only [Timely, is] at timely phase ⊢
    split
    · -- Nobody leads: the key is free, and no leader waits for the answer to its release.
      rename_i free
      have taken : ∀ j token, s.stored ≠ some (.lease j token) := by simp [free]
      refine sound.put rfl rfl le_rfl (fun _ _ _ _ live held => absurd held (not_holds taken live))
        (fun j _ given leading => ?_) (own.call rfl le_rfl (fun lease has live => ?_) phase) nofun
      · rw [timely j given] at leading
        cases leading
      · exact absurd (own.holds (by simp [is]) has live) (not_holds taken live)
    · exact sound.put_same (own.move (by simp [is]) trivial) nofun
  | counting since =>
    simp only [is] at phase ⊢
    refine sound.put rfl rfl (Nat.le_succ _) (fun _ _ _ _ _ held => held) (fun _ _ _ _ free => free)
      (own.call rfl (Nat.le_succ _) (fun lease has live => .inl ?_) ⟨phase, le_rfl⟩) nofun
    exact own.holds (by simp [is]) has live
  | writing since token =>
    simp only [Timely, is] at timely phase ⊢
    have taken : ∀ j token, s.stored ≠ some (.lease j token) := by simp [timely]
    refine sound.put rfl rfl le_rfl (fun _ _ _ _ live held => absurd held (not_holds taken live))
      (fun j _ _ _ free => ?_) (own.call rfl le_rfl (fun lease has live => ?_)
        ⟨phase.1, phase.2, fun _ => ⟨_, rfl, add_le_add_left phase.1 _⟩⟩) nofun
    · rw [timely] at free
      cases free
    · exact absurd (own.holds (by simp [is]) has live) (not_holds taken live)
  | renewing token =>
    simp only [is] at phase ⊢
    split
    · -- The key is this instance's: nobody else relies on it.
      rename_i mine
      refine sound.put rfl rfl le_rfl (fun _ _ _ differs live held =>
        absurd held (not_holds_other mine differs live)) (fun j _ _ _ free => ?_)
        (own.call rfl le_rfl (fun lease has live => .inl ?_) ?_) nofun
      · rw [mine] at free
        cases free
      · have same := (own.holds (by simp [is]) has live).stored live
        rw [mine] at same
        cases same
        exact ⟨_, rfl, (own.bounded lease has).1⟩
      · simp only [LeaseSystem.put, if_true, PhaseSound, Named]
        refine ⟨phase, fun moment same _ => ?_⟩
        cases same
        exact ⟨_, rfl, le_rfl⟩
    · refine sound.put_same (own.move (by simp [is]) ?_) nofun
      simp only [LeaseSystem.put, if_true, PhaseSound, Named]
      exact ⟨phase, nofun⟩
  | releasing token =>
    simp only [is] at phase ⊢
    split
    · rename_i mine
      refine sound.put rfl rfl le_rfl (fun _ _ _ differs live held =>
        absurd held (not_holds_other mine differs live)) (fun _ _ _ _ _ => rfl)
        (own.call rfl le_rfl (fun _ _ _ => .inr ⟨rfl, rfl⟩) trivial) fun _ _ j differs given => ?_
      rw [← Bool.not_eq_true, leads_iff]
      rintro ⟨lease, has, live⟩
      rcases (sound.member j).leading lease has live with held | ⟨-, free⟩
      · exact not_holds_other mine differs live held
      · rw [mine] at free
        cases free
    · -- The lease was lost before: the instance leads no longer.
      rename_i lost
      have idle : ∀ lease, (s.members i).lease = some lease → ¬ s.now < lease.expiresAt := by
        intro lease has live
        obtain ⟨called, alsoHas, rfl⟩ := phase
        rw [has] at alsoHas
        cases alsoHas
        exact lost ((own.holds (by simp [is]) has live).stored live)
      refine sound.put_same (own.call rfl le_rfl
        (fun lease has live => absurd live (idle lease has)) trivial) fun _ => ?_
      rw [← Bool.not_eq_true, leads_iff]
      rintro ⟨lease, has, live⟩
      simp only [LeaseSystem.put, if_true] at has live
      exact idle lease has live
  | idle | written | renewed | released => simpa only [is] using sound

theorem Sound.finish (sound : s.Sound config) (timely : s.Timely (.finish i)) :
    (s.finish config i).Sound config := by
  have own := sound.member i
  have phase := own.phase
  unfold LeaseSystem.finish
  cases is : (s.members i).phase with
  | written since token =>
    simp only [is] at phase ⊢
    refine sound.put_same ⟨?_, ?_, ?_⟩ nofun
    · simp only [LeaseSystem.put, if_true, Option.some.injEq]
      rintro _ rfl
      exact ⟨by linarith [phase.1], phase.2.1⟩
    · simp only [LeaseSystem.put, if_true, Option.some.injEq]
      rintro _ rfl live
      exact .inl (phase.2.2 live)
    · simp [LeaseSystem.put, PhaseSound]
  | renewed token extended =>
    simp only [Timely, is] at timely phase ⊢
    obtain ⟨lease, has, named⟩ := phase.1
    cases extended with
    | none =>
      refine sound.put_same ⟨?_, ?_, ?_⟩ nofun
      all_goals simp [LeaseSystem.put, PhaseSound]
    | some moment =>
      refine sound.put_same ⟨?_, ?_, ?_⟩ nofun
      · simp only [LeaseSystem.put, if_true, Option.some.injEq]
        rintro _ rfl
        exact ⟨le_rfl, named ▸ (own.bounded lease has).2⟩
      · simp only [LeaseSystem.put, if_true, Option.some.injEq]
        rintro _ rfl live
        simp only at timely live ⊢
        rw [timely] at live ⊢
        exact .inl (phase.2 moment rfl (timely ▸ live))
      · simp [LeaseSystem.put, PhaseSound]
  | released =>
    simp only [is]
    refine sound.put_same ⟨?_, ?_, ?_⟩ nofun
    all_goals simp [LeaseSystem.put, PhaseSound]
  | idle | claiming | counting | writing | renewing | releasing => simpa only [is] using sound

theorem Sound.step (sound : s.Sound config) (event : LeaseEvent) (timely : s.Timely event) :
    (s.step config event).Sound config := by
  cases event with
  | tick later => exact sound.tick later
  | acquire i =>
    simp only [LeaseSystem.step, LeaseSystem.acquire]
    split
    · rename_i idle
      split
      · exact sound
      · split
        · exact sound
        · exact sound.put_same ((sound.member i).move (by simp [idle]) le_rfl) fun given => by
            cases given
    · exact sound
  | renew i | release i =>
    simp only [LeaseSystem.step]
    split
    · rename_i lease idle has
      refine sound.put_same ((sound.member i).move (by simp [idle]) ?_) nofun
      exact ⟨lease, by simp [LeaseSystem.put, has], rfl⟩
    · exact sound
  | store i => exact sound.store timely
  | finish i => exact sound.finish timely

theorem sound_start (now : ℚ) (counter : Nat) :
    ({ now := now, counter := counter } : LeaseSystem).Sound config := by
  refine ⟨fun i => ⟨?_, ?_, trivial⟩, ?_⟩ <;> simp

/-! ### Fencing tokens -/

/-- Whoever leads now, or is about to with the key in hand, is the leader `i` with the token `a`,
    or has a larger token. -/
structure Beyond (s : LeaseSystem) (i a : Nat) : Prop where
  drawn : a ≤ s.counter
  leading : ∀ j b, s.LeadsWith j b → i = j ∧ a = b ∨ a < b
  key : ∀ j b, s.stored = some (.lease j b) → i = j ∧ a = b ∨ a < b
  writing : ∀ j since b, (s.members j).phase = .writing since b → s.stored = some (.claim j) → a < b

theorem Sound.beyond (sound : s.Sound config) (leads : s.LeadsWith i a) :
    s.Beyond i a := by
  have kept := sound.stored leads
  constructor
  · obtain ⟨lease, has, -, rfl⟩ := leads
    exact ((sound.member i).bounded lease has).2
  · exact fun j b other => .inl (sound.unique leads other)
  · intro j b taken
    rcases kept with mine | ⟨-, free⟩
    · rw [mine] at taken
      cases taken
      exact .inl ⟨rfl, rfl⟩
    · rw [free] at taken
      cases taken
  · intro j since b _ claimed
    rcases kept with mine | ⟨-, free⟩
    · rw [mine] at claimed
      cases claimed
    · rw [free] at claimed
      cases claimed

section

variable (beyond : s.Beyond i a)
include beyond

theorem Beyond.put (members : base.members = s.members) (now : base.now = s.now)
    (counter : s.counter ≤ base.counter) (key : ∀ j b, base.stored = some (.lease j b) →
      s.stored = some (.lease j b) ∨ (i = j ∧ a = b ∨ a < b))
    (claim : ∀ j, j ≠ k → base.stored = some (.claim j) → s.stored = some (.claim j))
    (leading : ∀ lease, member.lease = some lease → s.now < lease.expiresAt →
      i = k ∧ a = lease.fencingToken ∨ a < lease.fencingToken)
    (writing : ∀ since b, member.phase = .writing since b → a < b) :
    (base.put k member).Beyond i a := by
  refine ⟨beyond.drawn.trans counter, fun j b leads => ?_,
    fun j b taken => (key j b taken).elim (beyond.key j b) id, fun j since b phase claimed => ?_⟩
  · obtain ⟨lease, has, live, rfl⟩ := leads
    have current : s.now < lease.expiresAt := now ▸ live
    by_cases here : j = k
    · subst here
      simp only [LeaseSystem.put, if_true] at has
      exact leading lease has current
    · simp only [LeaseSystem.put, here, if_false, members] at has
      exact beyond.leading j _ ⟨lease, has, current, rfl⟩
  · by_cases here : j = k
    · subst here
      simp only [LeaseSystem.put, if_true] at phase
      exact writing since b phase
    · simp only [LeaseSystem.put, here, if_false, members] at phase
      exact beyond.writing j since b phase (claim j here claimed)

theorem Beyond.move (writing : ∀ since b, phase ≠ .writing since b) :
    (s.put k { s.members k with phase := phase }).Beyond i a :=
  beyond.put rfl rfl le_rfl (fun _ _ same => .inl same) (fun _ _ same => same)
    (fun lease has live => beyond.leading k _ ⟨lease, has, live, rfl⟩)
    fun since b is => absurd is (writing since b)

theorem Beyond.store (timely : s.Timely (.store k)) :
    (s.store config k).Beyond i a := by
  have lives := config.positive k
  have leads : ∀ lease, (s.members k).lease = some lease → s.now < lease.expiresAt →
      i = k ∧ a = lease.fencingToken ∨ a < lease.fencingToken :=
    fun lease has live => beyond.leading k _ ⟨lease, has, live, rfl⟩
  unfold LeaseSystem.store
  cases is : (s.members k).phase with
  | claiming since =>
    simp only [is]
    split
    · refine beyond.put rfl rfl le_rfl (fun j b taken => ?_) (fun j other claimed => ?_) leads
        nofun
      · simp [LeaseSystem.stored, lives] at taken
      · simp [LeaseSystem.stored, lives, Ne.symm other] at claimed
    · exact beyond.move nofun
  | counting since =>
    simp only [is]
    refine beyond.put rfl rfl (Nat.le_succ _) (fun _ _ same => .inl same) (fun _ _ same => same)
      leads fun _ b phase => ?_
    cases phase
    exact Nat.lt_succ_of_le beyond.drawn
  | writing since token =>
    simp only [Timely, is] at timely ⊢
    refine beyond.put rfl rfl le_rfl (fun j b taken => ?_) (fun j other claimed => ?_) leads
      nofun
    · simp only [LeaseSystem.stored, Option.bind_some, lt_add_iff_pos_right, lives, if_true,
        Option.some.injEq, LeaseValue.lease.injEq] at taken
      exact .inr (.inr (taken.2 ▸ beyond.writing k since token is timely))
    · simp [LeaseSystem.stored, lives] at claimed
  | renewing token =>
    simp only [is]
    split
    · rename_i mine
      refine beyond.put rfl rfl le_rfl (fun j b taken => .inl ?_) (fun j other claimed => ?_) leads
        nofun
      · simp only [LeaseSystem.stored, Option.bind_some, lt_add_iff_pos_right, lives,
          if_true] at taken
        rw [mine, taken]
      · simp [LeaseSystem.stored, lives] at claimed
    · exact beyond.move nofun
  | releasing token =>
    simp only [is]
    split
    · exact beyond.put rfl rfl le_rfl nofun nofun leads nofun
    · exact beyond.move nofun
  | idle | written | renewed | released => simpa only [is] using beyond

theorem Beyond.finish (sound : s.Sound config)
    (timely : s.Timely (.finish k)) : (s.finish config k).Beyond i a := by
  have phase := (sound.member k).phase
  have held : ∀ token time, s.Holds k token time → s.now < time → i = k ∧ a = token ∨ a < token :=
    fun token time holds live => beyond.key k token (holds.stored live)
  have drop : ∀ member : LeaseMember, member.lease = none → member.phase = .idle →
      (s.put k member).Beyond i a := fun member none idle =>
    beyond.put rfl rfl le_rfl (fun _ _ same => .inl same) (fun _ _ same => same)
      (fun lease has => by rw [none] at has; cases has) fun _ _ is => by rw [idle] at is; cases is
  unfold LeaseSystem.finish
  cases is : (s.members k).phase with
  | written since token =>
    simp only [is] at phase ⊢
    refine beyond.put rfl rfl le_rfl (fun _ _ same => .inl same) (fun _ _ same => same)
      (fun lease has live => ?_) nofun
    cases has
    exact held token _ (phase.2.2 live) live
  | renewed token extended =>
    simp only [Timely, is] at timely phase ⊢
    cases extended with
    | none => exact drop _ rfl rfl
    | some moment =>
      refine beyond.put rfl rfl le_rfl (fun _ _ same => .inl same) (fun _ _ same => same)
        (fun lease has live => ?_) nofun
      cases has
      simp only at timely live
      rw [timely] at live
      exact held token _ (phase.2 moment rfl (timely ▸ live)) (timely ▸ live)
  | released =>
    simp only [is]
    exact drop _ rfl rfl
  | idle | claiming | counting | writing | renewing | releasing => simpa only [is] using beyond

theorem Beyond.tick (later : ℚ) :
    { s with now := max s.now later }.Beyond i a := by
  have onward : s.now ≤ max s.now later := le_max_left _ _
  have still : ∀ value, { s with now := max s.now later }.stored = some value →
      s.stored = some value := by
    intro value taken
    simp only [LeaseSystem.stored, Option.bind_eq_some_iff] at taken ⊢
    obtain ⟨entry, is, live⟩ := taken
    refine ⟨entry, is, ?_⟩
    split at live
    · rename_i lives
      rw [if_pos (onward.trans_lt lives)]
      exact live
    · cases live
  refine ⟨beyond.drawn, fun j b ⟨lease, has, live, named⟩ => ?_,
    fun j b taken => beyond.key j b (still _ taken),
    fun j since b phase claimed => beyond.writing j since b phase (still _ claimed)⟩
  exact beyond.leading j b ⟨lease, has, onward.trans_lt live, named⟩

theorem Beyond.step (sound : s.Sound config)
    (event : LeaseEvent) (timely : s.Timely event) : (s.step config event).Beyond i a := by
  cases event with
  | tick later => exact beyond.tick later
  | acquire k =>
    simp only [LeaseSystem.step, LeaseSystem.acquire]
    split
    · split
      · exact beyond
      · split
        · exact beyond
        · exact beyond.move nofun
    · exact beyond
  | renew k | release k =>
    simp only [LeaseSystem.step]
    split
    · exact beyond.move nofun
    · exact beyond
  | store k => exact beyond.store timely
  | finish k => exact beyond.finish sound timely

end

end LeaseSystem

open LeaseSystem

namespace SampleLeases

theorem positive : ∀ _ : Nat, (0 : ℚ) < 45 := fun _ => by norm_num

def config : LeaseConfig where
  ttl := fun _ => 45
  minBetween := fun _ => 30
  positive := positive

def taken (i : Nat) : List LeaseEvent :=
  [.acquire i, .store i, .store i, .store i, .finish i]

def lateRenewal : List LeaseEvent :=
  taken 0 ++ [.tick 10, .renew 0, .store 0, .tick 40, .finish 0, .tick 56] ++ taken 1

def lateRelease : List LeaseEvent :=
  taken 0 ++ [.release 0, .store 0] ++ taken 1

def staleClaim : List LeaseEvent :=
  [.acquire 0, .store 0, .tick 50] ++ taken 1 ++
    [.store 0, .store 0, .finish 0, .renew 0, .store 0, .finish 0]

end SampleLeases

end TradingLab

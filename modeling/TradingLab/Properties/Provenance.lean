import TradingLab.Hub.ManifestBuilder

/-!
# The provenance of an approval

An entry is approved because the call promotes its key, or because the manifest before has approved
it. A test that has rejected stays rejected, so an eligible one never did.
-/
namespace TradingLab.Promotion

variable {logs : SprtLogs}

def NeverRejects (logs : SprtLogs) (p0 p1 : Decimal) (outcomes : List Bool) : Prop :=
  ∃ sprt, Sprt.make logs p0 p1 = some sprt ∧ ∀ seen, seen <+: outcomes →
    ∃ now, evaluateSeries logs sprt seen = some now ∧ now.decision ≠ .rejectH0

/-- The call promotes the key, as it is entitled to. -/
def BuildCall.Promotes (logs : SprtLogs) (call : BuildCall) (key : String) : Prop :=
  key ∈ call.promoteKeys ∧ (200 ≤ (call.liveOutcomes key).length ∨ 30 ≤ call.liveDays key) ∧
    ∃ raw ∈ call.candidates, raw.key = key ∧
      NeverRejects logs raw.wilsonLower raw.pMinAtValidation (call.liveOutcomes key)

def Approves (manifest : Strategies) (key : String) : Prop :=
  ∃ entry ∈ manifest, entry.key = key ∧ entry.status = .approved

/-- A key was promoted in a call and has been approved in every manifest since. -/
def Provenance (logs : SprtLogs) (calls : List BuildCall) (manifests : List Strategies)
    (key : String) : Prop :=
  ∃ (m : Nat) (call : BuildCall), calls[m]? = some call ∧ call.Promotes logs key ∧
    ∀ k ≤ m, ∃ manifest, manifests[k]? = some manifest ∧ Approves manifest key

theorem foldlM_trial_of_decided {sprt : Sprt} (decided : sprt.decision ≠ .continuing)
    (outcomes : List Bool) : outcomes.foldlM (trial logs) sprt = some sprt := by
  induction outcomes with
  | nil => rfl
  | cons won rest ih =>
    rw [List.foldlM_cons, trial, Sprt.update, if_pos decided]
    exact ih

theorem neverRejects_of_final {sprt final : Sprt} {p0 p1 : Decimal} {outcomes : List Bool}
    (made : Sprt.make logs p0 p1 = some sprt)
    (ends : evaluateSeries logs sprt outcomes = some final) (kept : final.decision ≠ .rejectH0) :
    NeverRejects logs p0 p1 outcomes := by
  refine ⟨sprt, made, ?_⟩
  rintro seen ⟨rest, rfl⟩
  rw [evaluateSeries, List.foldlM_append] at ends
  obtain ⟨now, sees, goes⟩ := Option.bind_eq_some_iff.mp ends
  -- A prefix that had rejected would have decided the series.
  refine ⟨now, sees, fun rejects => kept ?_⟩
  rw [foldlM_trial_of_decided (by rw [rejects]; decide)] at goes
  cases goes
  exact rejects

section Call
variable {call : BuildCall} {current : Strategies} {raw : RawCandidate} {entry : StrategyEntry}

theorem targetStatus_cases {status : EntryStatus}
    (target : call.targetStatus logs current raw = some status) (known : raw ∈ call.candidates) :
    status = .observation ∨
      status = .approved ∧ (call.Promotes logs raw.key ∨ Approves current raw.key) := by
  rw [BuildCall.targetStatus] at target
  split at target
  · rename_i asked
    obtain ⟨sprt, made, target⟩ := Option.bind_eq_some_iff.mp target
    obtain ⟨eligible, answer, target⟩ := Option.bind_eq_some_iff.mp target
    split at target
    · rename_i yes
      cases target
      refine .inr ⟨rfl, .inl ⟨List.contains_iff_mem.mp asked, ?_⟩⟩
      rw [yes, isEligibleForPromotion] at answer
      split at answer
      · cases answer
      · rename_i enough
        obtain ⟨final, ends, passes⟩ := Option.map_eq_some_iff.mp answer
        rw [Bool.and_eq_true, decide_eq_true_eq] at passes
        exact ⟨by omega, raw, known, rfl, neverRejects_of_final made ends passes.2⟩
    · cases target
  · split at target
    · -- Not asked for now: the status of the current manifest is inherited.
      rename_i inherited
      cases target
      obtain ⟨before, found, approved⟩ := Option.map_eq_some_iff.mp inherited.1
      refine .inr ⟨rfl, .inr ⟨before, List.mem_reverse.mp (List.mem_of_find?_eq_some found), ?_,
        approved⟩⟩
      simpa using List.find?_some found
    · cases target
      exact .inl rfl

theorem exists_of_mem_mapM {α β : Type} {f : α → Option β} {items : List α} {results : List β}
    (mapped : items.mapM f = some results) {result : β} (member : result ∈ results) :
    ∃ item ∈ items, f item = some result := by
  induction items generalizing results with
  | nil => cases mapped; cases member
  | cons item rest ih =>
    rw [List.mapM_cons] at mapped
    obtain ⟨first, here, mapped⟩ := Option.bind_eq_some_iff.mp mapped
    obtain ⟨others, there, mapped⟩ := Option.bind_eq_some_iff.mp mapped
    cases mapped
    rcases List.mem_cons.mp member with rfl | later
    · exact ⟨item, List.mem_cons_self, here⟩
    · obtain ⟨found, listed, gives⟩ := ih there later
      exact ⟨found, List.mem_cons_of_mem _ listed, gives⟩

theorem entry_cases {current : Option Strategies} {manifest : Strategies}
    (built : buildManifest logs current call = some manifest) (member : entry ∈ manifest) :
    entry.status = .observation ∨ entry.status = .approved ∧ entry.holdoutPassed = true ∧
      (call.Promotes logs entry.key ∨ Approves (current.getD []) entry.key) := by
  obtain ⟨strategies, made, built⟩ := Option.bind_eq_some_iff.mp built
  split at built
  · cases built
    obtain ⟨raw, listed, made⟩ := exists_of_mem_mapM made member
    obtain ⟨status, target, made⟩ := Option.bind_eq_some_iff.mp made
    split at made
    · rename_i accepted
      cases made
      refine (targetStatus_cases target (List.mem_of_mem_filter listed)).imp_right ?_
      rintro ⟨rfl, origin⟩
      exact ⟨rfl, accepted.2 rfl, origin⟩
    · cases made
  · cases built

end Call

/-- **Every approval has its provenance**, in the latest manifest of every chain of calls. -/
theorem approval_has_provenance (logs : SprtLogs) (calls : List BuildCall) (manifest : Strategies)
    (manifests : List Strategies) (chain : buildChain logs calls = some (manifest :: manifests)) :
    ∀ entry ∈ manifest, entry.status = .observation ∨
      entry.status = .approved ∧ entry.holdoutPassed = true ∧
        Provenance logs calls (manifest :: manifests) entry.key := by
  -- Induction over the chain: an approval that is not new is one of the manifest before.
  induction calls generalizing manifest manifests with
  | nil => cases chain
  | cons call earlier ih =>
    obtain ⟨before, goes, chain⟩ := Option.bind_eq_some_iff.mp chain
    obtain ⟨latest, built, chain⟩ := Option.bind_eq_some_iff.mp chain
    cases chain
    intro entry member
    refine (entry_cases built member).imp_right ?_
    rintro ⟨approved, passed, origin⟩
    have now : Approves manifest entry.key := ⟨entry, member, rfl, approved⟩
    refine ⟨approved, passed, ?_⟩
    rcases origin with promoted | ⟨older, known, same, stood⟩
    · refine ⟨0, call, rfl, promoted, fun k last => ?_⟩
      cases Nat.le_zero.mp last
      exact ⟨manifest, rfl, now⟩
    · cases manifests with
      | nil => cases known
      | cons previous rest =>
        rcases ih previous rest goes older known with watched | ⟨-, -, m, origin, called, asked, kept⟩
        · cases stood.symm.trans watched
        · rw [same] at asked kept
          refine ⟨m + 1, origin, called, asked, fun k last => ?_⟩
          cases k with
          | zero => exact ⟨manifest, rfl, now⟩
          | succ k => exact kept k (Nat.le_of_succ_le_succ last)

theorem thirty_days_have_provenance :
    let logs : SprtLogs := ⟨fun _ _ => some (.ofInt 1), fun _ _ => some (.ofInt (-1)),
      fun _ _ _ => some (.ofInt 0)⟩
    let raw : RawCandidate := ⟨"MHI", true, .finite false 6 (-1), .finite false 5 (-1), true, true⟩
    let calls : List BuildCall := [{ candidates := [raw] },
      { candidates := [raw], promoteKeys := ["MHI"], liveDays := fun _ => 30 }]
    let manifest : Strategies := [⟨"MHI", .approved, true⟩]
    buildChain logs calls = some [manifest, manifest] ∧
      Provenance logs calls [manifest, manifest] "MHI" := by
  intro logs raw calls manifest
  have chain : buildChain logs calls = some [manifest, manifest] := by decide
  refine ⟨chain, ?_⟩
  rcases approval_has_provenance logs calls _ _ chain _ List.mem_cons_self with
    watched | ⟨-, -, origin⟩
  · cases watched
  · exact origin

end TradingLab.Promotion

import TradingLab.Manifests.Catalog

/-!
# What an application leaves in the catalog

However `apply_manifest` ends, a strategy that is active afterwards was active before or is that
of an entry of the manifest (`applyManifest_active`).
-/
namespace TradingLab

open Relational Machine DynamicManifestCatalog

variable {φ : Type} {catalog : DynamicManifestCatalog φ}
  {strategy : String × CatalogStrategyInfo φ} {entries : List (StrategyCatalogEntry φ)}
  {before after : Dict String (CatalogStrategyInfo φ)} {raw : ManifestValue φ}
  {rest : List (ManifestValue φ)}

theorem remove_active {gone : String}
    (member : strategy ∈ (catalog.remove gone).active) : strategy ∈ catalog.active := by
  simp only [remove] at member
  split at member
  · exact member
  · have kept : strategy ∈ catalog.active.erase gone := by
      split at member <;> exact member
    exact List.mem_of_mem_filter kept

theorem removeUnlisted_active {incoming : List String}
    (member : strategy ∈ (catalog.removeUnlisted incoming).active) : strategy ∈ catalog.active := by
  unfold removeUnlisted at member
  generalize (catalog.active.map Prod.fst).filter (· ∉ incoming) = unlisted at member
  induction unlisted generalizing catalog with
  | nil => exact member
  | cons gone rest ih => exact remove_active (ih member)

/-- A strategy that is active after an application was there before, or is that of an entry. -/
def FromEntries (entries : List (StrategyCatalogEntry φ))
    (before after : Dict String (CatalogStrategyInfo φ)) : Prop :=
  ∀ strategy ∈ after, strategy ∈ before ∨
    ∃ entry ∈ entries, entry.key = strategy.1 ∧ strategy.2.entry = entry ∧
      strategy.2.status = entry.status ∧ entry.status ≠ "rejected"

theorem FromEntries.mono {more : List (StrategyCatalogEntry φ)}
    (from_ : FromEntries entries before after)
    (sub : entries ⊆ more) : FromEntries more before after := by
  intro strategy active
  rcases from_ strategy active with kept | ⟨entry, member, rest⟩
  · exact .inl kept
  · exact .inr ⟨entry, sub member, rest⟩

theorem FromEntries.trans {middle : Dict String (CatalogStrategyInfo φ)}
    (first : FromEntries entries before middle) (second : FromEntries entries middle after) :
    FromEntries entries before after := by
  intro strategy active
  rcases second strategy active with kept | new
  · exact first strategy kept
  · exact .inr new

variable [Floating φ]

def listedEntries : ManifestValue φ → List (StrategyCatalogEntry φ)
  | .obj fields => ((listedStrategies fields).getD []).filterMap parseStrategyEntry
  | _ => []

theorem stored_entry {families : Families φ} {now : Instant}
    {existing : Option (CatalogStrategyInfo φ)} {entry : StrategyCatalogEntry φ}
    {info : CatalogStrategyInfo φ} (stores : stored families now existing entry = some (some info))
      :
    info.entry = entry ∧ info.status = entry.status ∧ entry.status ≠ "rejected" := by
  unfold stored at stores
  split at stores
  · cases stores
  rename_i listed
  split at stores
  · cases stores
    exact ⟨rfl, rfl, listed⟩
  split at stores
  · cases stores
  · obtain ⟨instance_, -, built⟩ := Option.map_eq_some_iff.mp stores
    cases built
    exact ⟨rfl, rfl, listed⟩

variable (families : Families φ) (now : Instant)

theorem applyStrategy_active (raw : ManifestValue φ) (catalog : DynamicManifestCatalog φ) :
    FromEntries (parseStrategyEntry raw).toList catalog.active
      (applyStrategy families now raw catalog).2.active := by
  intro strategy active
  unfold applyStrategy at active
  split at active
  · exact .inl active
  rename_i entry parsed
  split at active
  · exact .inl active
  · exact .inl active
  · rename_i new stores
    rcases Dict.mem_put active with rfl | ⟨kept, -⟩
    · exact .inr ⟨entry, by simp [parsed], rfl, stored_entry stores⟩
    · exact .inl kept

variable {families now}

theorem applyStrategies_of_ok {key : String} {next : DynamicManifestCatalog φ}
    (ran : applyStrategy families now raw catalog = (.ok key, next)) :
    (applyStrategies families now (raw :: rest) catalog).2 =
      (applyStrategies families now rest next).2 := by
  rw [applyStrategies, Program.bind_of_ok ran, Program.bind_pure_final]

theorem applyStrategies_cons (holds : DynamicManifestCatalog φ → Prop)
    (first : holds (applyStrategy families now raw catalog).2)
    (later : ∀ next, holds next → holds (applyStrategies families now rest next).2) :
    holds (applyStrategies families now (raw :: rest) catalog).2 := by
  cases ran : applyStrategy families now raw catalog with
  | mk answer next =>
    rw [ran] at first
    cases answer with
    | error => rwa [applyStrategies, Program.bind_of_error ran]
    | ok key =>
      rw [applyStrategies_of_ok ran]
      exact later next first

variable (families now)

theorem applyStrategies_active (raws : List (ManifestValue φ))
    (catalog : DynamicManifestCatalog φ) :
    FromEntries (raws.filterMap parseStrategyEntry) catalog.active
      (applyStrategies families now raws catalog).2.active := by
  induction raws generalizing catalog with
  | nil => exact fun _ active => .inl active
  | cons raw rest ih =>
    refine applyStrategies_cons (fun after => FromEntries _ catalog.active after.active) ?_ ?_
    · refine (applyStrategy_active families now raw catalog).mono ?_
      cases parsed : parseStrategyEntry raw <;> simp [parsed]
    · refine fun next first => first.trans ((ih next).mono ?_)
      cases parsed : parseStrategyEntry raw <;> simp [parsed]

theorem applyManifest_active (manifest : ManifestValue φ) (catalog : DynamicManifestCatalog φ) :
    FromEntries (listedEntries manifest) catalog.active
      (applyManifest families now manifest catalog).2.active := by
  cases manifest with
  | obj fields =>
    have entries : listedEntries (.obj fields) =
        ((listedStrategies fields).getD []).filterMap parseStrategyEntry := rfl
    rw [entries]
    simp only [applyManifest]
    cases listedStrategies fields with
    | none => exact fun _ active => .inl active
    | some strategies =>
      let versioned := { catalog with manifestVersion := versionOf fields }
      have applied := applyStrategies_active families now strategies versioned
      rw [Program.bind_of_ok Program.modify_run]
      refine Program.bind_final (fun after : DynamicManifestCatalog φ =>
        FromEntries _ catalog.active after.active) ?_ ?_
      · intro raised last ran
        rw [ran] at applied
        exact applied
      · intro incoming last ran
        rw [ran] at applied
        exact fun strategy active => applied strategy (removeUnlisted_active active)
  | _ => exact fun _ active => .inl (removeUnlisted_active active)

end TradingLab

import TradingLab.Manifests.Application

/-!
# The local manifest files

`_load_local_manifest_catalog` of `apps/core/lifecycle_service.py` applies the first local file that
can be applied, as `json.loads` reads it. An exception is swallowed, and the next file is tried on
the catalog that it left behind.
-/
namespace TradingLab

open Relational Machine DynamicManifestCatalog
open Machine.Program

variable {φ : Type} [Floating φ] {catalog : DynamicManifestCatalog φ} {now : Instant} {key : String}
  {raws : List (ManifestValue φ)}

inductive LocalFile
  | missing
  | unreadable
  | holds (raw : ByteArray)

def applyFile (families : Families φ) (now : Instant) (raw : ByteArray) :
    Program Unit (DynamicManifestCatalog φ) Unit :=
  match loads raw with
  | none => Program.raise ()
  | some data => applyManifest families now data

/-- `_load_local_manifest_catalog`, with the clock as it stands at each file. -/
def loadLocalManifestCatalog (families : Families φ) :
    List (LocalFile × Instant) → DynamicManifestCatalog φ → DynamicManifestCatalog φ
  | [], catalog => catalog
  | (.holds raw, now) :: rest, catalog =>
    match applyFile families now raw catalog with
    | (.ok (), applied) => applied
    | (.error (), left) => loadLocalManifestCatalog families rest left
  | (.missing, _) :: rest, catalog => loadLocalManifestCatalog families rest catalog
  | (.unreadable, _) :: rest, catalog => loadLocalManifestCatalog families rest catalog

structure FileVisit (φ : Type) where
  raw : ByteArray
  now : Instant
  before : DynamicManifestCatalog φ
  after : DynamicManifestCatalog φ

def fileVisits (families : Families φ) :
    List (LocalFile × Instant) → DynamicManifestCatalog φ → List (FileVisit φ)
  | [], _ => []
  | (.holds raw, now) :: rest, catalog =>
    match applyFile families now raw catalog with
    | (.ok (), applied) => [⟨raw, now, catalog, applied⟩]
    | (.error (), left) => ⟨raw, now, catalog, left⟩ :: fileVisits families rest left
  | (.missing, _) :: rest, catalog => fileVisits families rest catalog
  | (.unreadable, _) :: rest, catalog => fileVisits families rest catalog

variable (families : Families φ)

theorem exists_fileVisit (raw : ByteArray) (now : Instant) (rest : List (LocalFile × Instant))
    (catalog : DynamicManifestCatalog φ) :
    ∃ visit ∈ fileVisits families ((.holds raw, now) :: rest) catalog,
      visit.raw = raw ∧ visit.now = now ∧ visit.before = catalog := by
  simp only [fileVisits]
  split
  · exact ⟨_, List.mem_cons_self, rfl, rfl, rfl⟩
  · exact ⟨_, List.mem_cons_self, rfl, rfl, rfl⟩

variable {files : List (LocalFile × Instant)}

theorem after_eq_of_mem_fileVisits {visit : FileVisit φ}
    (member : visit ∈ fileVisits families files catalog) :
    visit.after = (applyFile families visit.now visit.raw visit.before).2 := by
  induction files generalizing catalog with
  | nil => cases member
  | cons file rest ih =>
    obtain ⟨file, now⟩ := file
    cases file with
    | missing => exact ih member
    | unreadable => exact ih member
    | holds raw =>
      simp only [fileVisits] at member
      cases ran : applyFile families now raw catalog with
      | mk answer left =>
        rw [ran] at member
        cases answer with
        | ok =>
          obtain rfl := List.mem_singleton.mp member
          rw [ran]
        | error =>
          rcases List.mem_cons.mp member with rfl | later
          · rw [ran]
          · exact ih later

theorem load_invariant (holds : DynamicManifestCatalog φ → Prop)
    (keeps : ∀ visit ∈ fileVisits families files catalog, holds visit.before → holds visit.after)
    (start : holds catalog) : holds (loadLocalManifestCatalog families files catalog) := by
  induction files generalizing catalog with
  | nil => exact start
  | cons file rest ih =>
    obtain ⟨file, now⟩ := file
    cases file with
    | missing => exact ih keeps start
    | unreadable => exact ih keeps start
    | holds raw =>
      simp only [fileVisits] at keeps
      simp only [loadLocalManifestCatalog]
      cases ran : applyFile families now raw catalog with
      | mk answer left =>
        rw [ran] at keeps
        cases answer with
        | ok => exact keeps _ List.mem_cons_self start
        | error =>
          have next := keeps _ List.mem_cons_self start
          exact ih (fun visit member => keeps visit (List.mem_cons_of_mem _ member)) next

theorem applyFile_active (now : Instant) (raw : ByteArray) (catalog : DynamicManifestCatalog φ) :
    FromEntries (((loads raw).map listedEntries).getD []) catalog.active
      (applyFile families now raw catalog).2.active := by
  unfold applyFile
  cases read : (loads raw : Option (ManifestValue φ)) with
  | none => exact fun _ active => .inl active
  | some data => exact applyManifest_active families now data catalog

/-! ### Files without an effect -/

/-- The entries before the first exception are rejected or of an unknown family. -/
def Inert : List (ManifestValue φ) → Prop
  | [] => True
  | raw :: rest =>
    match parseStrategyEntry raw with
    | none => True
    | some entry =>
      if entry.status = "rejected" ∨ entry.family ∉ familyNames then Inert rest
      else entry.build families = none

variable {families}

theorem stored_fresh (entry : StrategyCatalogEntry φ) :
    stored families now none entry =
      if entry.status = "rejected" ∨ entry.family ∉ familyNames then some none
      else (entry.build families).map fun instance_ =>
        some { entry, instance_, status := entry.status, addedAt := now } := by
  simp only [stored, Option.filter_none]
  by_cases rejected : entry.status = "rejected"
  · simp [rejected]
  · by_cases known : entry.family ∈ familyNames <;> simp [rejected, known]

theorem applyStrategies_keeps_key (raws : List (ManifestValue φ))
    (present : (catalog.active.get? key).isSome) :
    ((applyStrategies families now raws catalog).2.active.get? key).isSome := by
  induction raws generalizing catalog with
  | nil => exact present
  | cons raw rest ih =>
    refine applyStrategies_cons (fun after => (after.active.get? key).isSome) ?_ fun _ => ih
    unfold applyStrategy
    split
    · exact present
    split
    · exact present
    · exact present
    · simp only [Dict.get?_put]
      split
      · rfl
      · exact present

theorem applyStrategy_stores {raw : ManifestValue φ} {entry : StrategyCatalogEntry φ}
    {instance_ : FamilyStrategy φ} (parsed : parseStrategyEntry raw = some entry)
    (listed : ¬ (entry.status = "rejected" ∨ entry.family ∉ familyNames))
    (builds : entry.build families = some instance_)
      (fresh : catalog.active.get? entry.key = none) :
    ∃ after, applyStrategy families now raw catalog = (.ok entry.key, after) ∧
      (after.active.get? entry.key).isSome := by
  simp only [applyStrategy, parsed, fresh, stored_fresh, if_neg listed, builds, Option.map_some]
  refine ⟨_, rfl, ?_⟩
  simp [Dict.get?_put]

theorem applyStrategies_inert (fresh : catalog.active = []) (inert : Inert families raws) :
    (applyStrategies families now raws catalog).2 = catalog := by
  induction raws with
  | nil => rfl
  | cons raw rest ih =>
    have absent : ∀ key, catalog.active.get? key = none := by simp [fresh, Dict.get?]
    unfold Inert at inert
    -- An exception in the first entry ends the loop, whatever follows.
    have raises (ran : applyStrategy families now raw catalog = (.error (), catalog)) :
        (applyStrategies families now (raw :: rest) catalog).2 = catalog := by
      rw [applyStrategies, bind_of_error ran]
    cases parsed : parseStrategyEntry raw with
    | none => exact raises (by simp [applyStrategy, parsed])
    | some entry =>
      simp only [parsed] at inert
      split at inert
      · rename_i skipped
        have ran : applyStrategy families now raw catalog = (.ok entry.key, catalog) := by
          simp only [applyStrategy, parsed, absent, stored_fresh, if_pos skipped]
        rw [applyStrategies_of_ok ran]
        exact ih inert
      · rename_i listed
        refine raises ?_
        simp only [applyStrategy, parsed, absent, stored_fresh, if_neg listed, inert,
          Option.map_none]

theorem applyStrategies_not_inert (fresh : catalog.active = []) (effect : ¬ Inert families raws) :
    ∃ key, ((applyStrategies families now raws catalog).2.active.get? key).isSome ∧
      ∀ keys after, applyStrategies families now raws catalog = (.ok keys, after) → key ∈ keys := by
  induction raws with
  | nil => exact absurd trivial effect
  | cons raw rest ih =>
    have absent : ∀ key, catalog.active.get? key = none := by simp [fresh, Dict.get?]
    unfold Inert at effect
    cases parsed : parseStrategyEntry raw with
    | none => simp [parsed] at effect
    | some entry =>
      simp only [parsed] at effect
      split at effect
      · -- The first entry is passed over; a later one leaves the strategy.
        rename_i skipped
        have ran : applyStrategy families now raw catalog = (.ok entry.key, catalog) := by
          simp only [applyStrategy, parsed, absent, stored_fresh, if_pos skipped]
        obtain ⟨key, present, reported⟩ := ih effect
        refine ⟨key, ?_, ?_⟩
        · rwa [applyStrategies_of_ok ran]
        · intro keys after ends
          rw [applyStrategies, bind_of_ok ran] at ends
          obtain ⟨others, middle, loop, made⟩ := bind_eq_ok.mp ends
          cases made
          exact List.mem_cons_of_mem _ (reported _ _ loop)
      · -- The first entry leaves its strategy, and the rest of the loop keeps the key.
        rename_i listed
        obtain ⟨instance_, builds⟩ := Option.ne_none_iff_exists'.mp effect
        obtain ⟨stored, ran, present⟩ :=
          applyStrategy_stores parsed listed builds (absent entry.key)
        refine ⟨entry.key, ?_, ?_⟩
        · rw [applyStrategies_of_ok ran]
          exact applyStrategies_keeps_key rest present
        · intro keys after ends
          rw [applyStrategies, bind_of_ok ran] at ends
          obtain ⟨others, middle, loop, made⟩ := bind_eq_ok.mp ends
          cases made
          exact List.mem_cons_self

omit [Floating φ] in
theorem removeUnlisted_keeps {incoming : List String} (present : (catalog.active.get? key).isSome)
    (listed : key ∈ incoming) :
    ((catalog.removeUnlisted incoming).active.get? key).isSome := by
  unfold removeUnlisted
  have spared : ∀ gone ∈ (catalog.active.map Prod.fst).filter (· ∉ incoming), gone ≠ key := by
    intro gone member same
    have unlisted := (List.mem_filter.mp member).2
    simp [same, listed] at unlisted
  generalize (catalog.active.map Prod.fst).filter (· ∉ incoming) = unlisted at spared
  induction unlisted generalizing catalog with
  | nil => exact present
  | cons gone rest ih =>
    refine ih ?_ fun other member => spared other (List.mem_cons_of_mem _ member)
    have differs := spared gone List.mem_cons_self
    simp only [remove]
    split
    · exact present
    · split <;> simpa [Dict.get?_erase, Ne.symm differs] using present

theorem applyManifest_obj {fields : ManifestObject φ} {strategies : List (ManifestValue φ)}
    (listed : listedStrategies fields = some strategies) (catalog : DynamicManifestCatalog φ) :
    applyManifest families now (.obj fields) catalog =
      (applyStrategies families now strategies >>= fun incoming =>
        Program.modify (removeUnlisted · incoming))
        { catalog with manifestVersion := versionOf fields } := by
  rw [applyManifest, bind_of_ok (modify_run), listed]

/-- **The files that leave a fresh catalog alone** are those that are no JSON object, and the
    objects without a version whose entries are inert. -/
theorem effectless_empty_iff (raw : ByteArray) :
    (applyFile families now raw {}).2 = {} ↔
      ∀ fields, (loads raw : Option (ManifestValue φ)) = some (.obj fields) →
        versionOf fields = .null ∧
          ∀ strategies, listedStrategies fields = some strategies → Inert families strategies := by
  unfold applyFile
  cases read : (loads raw : Option (ManifestValue φ)) with
  | none => simp
  | some data =>
    cases data with
    | obj fields =>
      have versioned : ({ manifestVersion := versionOf fields } : DynamicManifestCatalog φ) = {} ↔
          versionOf fields = .null := by simp
      simp only [Option.some.injEq, ManifestValue.obj.injEq, forall_eq']
      cases listed : listedStrategies fields with
      | none =>
        have raises : applyManifest families now (.obj fields) {} =
            (.error (), { manifestVersion := versionOf fields }) := by
          rw [applyManifest, bind_of_ok (modify_run), listed]
          rfl
        simp [raises]
      | some strategies =>
        simp only [Option.some.injEq, forall_eq', applyManifest_obj listed]
        by_cases inert : Inert families strategies
        · have left : (applyStrategies families now strategies
              { manifestVersion := versionOf fields }).2 =
                { manifestVersion := versionOf fields } :=
            applyStrategies_inert rfl inert
          simp only [inert, and_true, ← versioned]
          refine bind_final (fun after : DynamicManifestCatalog φ => after = {} ↔ _) ?_ ?_
          all_goals
            intro ended last ran
            rw [ran] at left
            subst left
            rfl
        · -- A strategy is left, and it is one that the loop reported.
          obtain ⟨key, present, reported⟩ : ∃ key,
              ((applyStrategies families now strategies
                { manifestVersion := versionOf fields }).2.active.get? key).isSome ∧
              ∀ keys after, applyStrategies families now strategies
                { manifestVersion := versionOf fields } = (.ok keys, after) → key ∈ keys :=
            applyStrategies_not_inert rfl inert
          simp only [inert, and_false, iff_false]
          intro empty
          have kept : (((applyStrategies families now strategies >>= fun incoming =>
              Program.modify (removeUnlisted · incoming))
              { manifestVersion := versionOf fields }).2.active.get? key).isSome := by
            refine bind_final (fun after : DynamicManifestCatalog φ =>
              (after.active.get? key).isSome) ?_ ?_
            · intro raised last ran
              rw [ran] at present
              exact present
            · intro keys last ran
              rw [ran] at present
              exact removeUnlisted_keeps present (reported _ _ ran)
          rw [empty] at kept
          cases kept
    | _ => simp [applyManifest, removeUnlisted]

end TradingLab

import TradingLab.Core.IqOptionAutoTrader
import TradingLab.Manifests.Canonical
import TradingLab.Manifests.Client
import TradingLab.Manifests.Startup

/-!
# Only verified manifests trade

The catalog is filled from the local files without any check: whatever JSON is found there is
applied.
-/
namespace TradingLab

open Relational Machine DynamicManifestCatalog

variable {φ : Type} [Floating φ] (settings : ClientSettings)

/-- The checks of a manifest against the keys and primitives of the settings; test keys are not
    trusted. -/
def ClientSettings.verifies (raw : ByteArray) (document : ManifestObject φ) : Prop :=
  evaluateManifestBytes settings.verify raw settings.publicKeys false
    (some settings.primitivesVersion) (some settings.primitivesParitySha256) = .accepted document

/-- The file passes the checks, and its grace of 24 hours had not passed when it was applied. -/
def FileVisit.Trusted (visit : FileVisit φ) (document : ManifestObject φ) : Prop :=
  settings.verifies visit.raw document ∧
    visit.now ≤ (intEntry document "expires_at" + offlineExpirationGrace) * 1000000

/-- Some cycle evaluates the strategy for some symbol of the radar. -/
def CanEvaluate (catalog : DynamicManifestCatalog φ) (info : CatalogStrategyInfo φ) : Prop :=
  ∃ config : IqOptionRiskConfig, ∃ item ∈ iqoptionRadarSymbols,
    pickStrategy catalog config item.1 = some info

/-- What is evaluated stems from a trusted file, and the other files leave no trace. -/
structure VerifiedOnly (settings : ClientSettings) (families : Families φ)
    (files : List (LocalFile × Instant)) : Prop where
  stems : ∀ info, CanEvaluate (loadLocalManifestCatalog families files {}) info →
    ∃ visit ∈ fileVisits families files {}, ∃ document, visit.Trusted settings document ∧
      info.entry ∈ listedEntries (.obj document)
  ignored : ∀ visit ∈ fileVisits families files {},
    (¬ ∃ document, visit.Trusted settings document) → visit.after = visit.before

/-- Applying the file to the catalog as it stands changes nothing. -/
def FileVisit.Effectless (families : Families φ) (visit : FileVisit φ) : Prop :=
  (applyFile families visit.now visit.raw visit.before).2 = visit.before

omit [Floating φ] in
theorem CanEvaluate.active {catalog : DynamicManifestCatalog φ} {info : CatalogStrategyInfo φ}
    (can : CanEvaluate catalog info) : ∃ key, (key, info) ∈ catalog.active := by
  obtain ⟨config, item, -, picked⟩ := can
  have member : info ∈ catalog.active.values := by
    unfold pickStrategy at picked
    cases byKey : catalog.active.get? config.strategyId with
    | some found =>
      rw [byKey] at picked
      cases picked
      exact Dict.mem_values_of_get? byKey
    | none =>
      rw [byKey] at picked
      exact List.mem_of_find?_eq_some picked
  obtain ⟨⟨key, stored⟩, active, rfl⟩ := List.mem_map.mp member
  exact ⟨key, active⟩

theorem ClientSettings.verifies.loads {settings : ClientSettings} {raw : ByteArray}
    {document : ManifestObject φ} (verified : settings.verifies raw document) :
    TradingLab.loads raw = some (.obj document) :=
  loads_of_loadDocument (loadDocument_of_accepted verified)

namespace Sample

open Formats.Json

def productionSettings : ClientSettings where
  verify _ _ _ := true
  publicKeys := publicKeys "production"
  readDate _ := .unusable

def unsignedTree : List (String × Tree) :=
  [("manifest_version", .int 1),
    ("strategies", .arr [.obj [("key", .str "f1:x"), ("family", .str "F1"),
      ("asset", .str "EURUSD-OTC"), ("status", .str "approved")]])]

def unsignedManifest : ManifestObject Unit :=
  ManifestValue.ofEntries unsignedTree

def unsignedFile : ByteArray :=
  (dumps (.obj unsignedManifest)).toUTF8

def quietFamilies : Families Unit := fun _ _ _ => some fun _ => .ok none

theorem unsigned_checks : unsignedFile.size ≤ maxJsonBytes ∧
    checkValue (.obj unsignedManifest) 0 = .ok () ∧
    validateManifestSchema unsignedManifest ≠ .ok () := by
  decide

theorem legible_unsigned : Legible (.obj unsignedTree) := by
  have one : 1 ≤ maxSafeInteger := by decide
  refine ⟨by simp [unsignedTree], ?_⟩
  simp [unsignedTree, LegibleEntries, LegibleItems, Legible, one]

theorem loadDocument_unsigned : loadDocument unsignedFile = .ok unsignedManifest :=
  loadDocument_dumps unsigned_checks.1 legible_unsigned unsigned_checks.2.1

theorem unsigned_untrusted (document : ManifestObject Unit) :
    ¬ settings.verifies unsignedFile document := by
  intro verified
  obtain ⟨loaded, valid⟩ := document_of_accepted verified
  rw [loadDocument_unsigned] at loaded
  cases loaded
  exact unsigned_checks.2.2 valid

theorem namedConfig_valid :
    ({ strategyId := "f1:x" } : IqOptionRiskConfigFields).postInit = .ok () := by
  decide

def namedConfig : IqOptionRiskConfig :=
  ⟨{ strategyId := "f1:x" }, namedConfig_valid⟩

theorem loads_unsigned :
    (loads unsignedFile : Option (ManifestValue Unit)) = some (.obj unsignedManifest) :=
  loads_of_loadDocument loadDocument_unsigned

theorem load_unsigned : loadLocalManifestCatalog quietFamilies [(.holds unsignedFile, 0)] {} =
    (applyManifest quietFamilies 0 (.obj unsignedManifest) {}).2 := by
  simp only [loadLocalManifestCatalog, applyFile, loads_unsigned]
  split <;> simp_all

theorem status_unsigned : ((applyManifest quietFamilies 0 (.obj unsignedManifest) {}).2.active.get?
    "f1:x").map CatalogStrategyInfo.status = some "approved" := by
  decide

end Sample

end TradingLab

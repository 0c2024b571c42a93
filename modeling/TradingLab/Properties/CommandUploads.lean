import TradingLab.Hub.PublishCommand

/-!
# What the publish command uploads

`canonical_bytes` refuses a document with a signature, and the command gives it the signed manifest,
so no command uploads anything.
-/
namespace TradingLab.Publishing

open Relational

variable {φ : Type} [Floating φ]

/-- What the command uploads reads back to its signed manifest, and the signature verifies. -/
structure Uploads (sign : ByteArray → String) (preflight : ManifestObject φ → Bool)
    (command : PublishCommand φ) : Prop where
  reads_back : ∃ bytes signed document, publish sign preflight command = .ok bytes ∧
    signedManifest sign command = .ok signed ∧ loadDocument bytes = .ok document ∧
    sortKeys (.obj document) = sortKeys (.obj signed)
  verifies : ∃ signed bytes, signedManifest sign command = .ok signed ∧
    canonicalBytes (Dict.erase signed "signature") = .ok bytes ∧
    Dict.get? signed "signature" = some (.str ("ed25519:" ++ sign bytes))

/-- Each command uploads, and each version is above the one before. -/
structure AllUpload (sign : ByteArray → String) (preflight : ManifestObject φ → Bool)
    (commands : List (PublishCommand φ)) : Prop where
  each : ∀ command ∈ commands, Uploads sign preflight command
  rising : (commands.map fun command =>
    ((Dict.get? (buildManifest none command) "manifest_version").bind (·.asInt)).getD 0).Pairwise
      (· < ·)

theorem canonicalBytes_of_signature {document : ManifestObject φ} {signature : ManifestValue φ}
    (signed : Dict.get? document "signature" = some signature) :
    canonicalBytes document = .error "MANIFEST_SIGNATURE_MUST_BE_EXCLUDED" := by
  simp only [canonicalBytes, signed, Option.isNone_some, check]
  rfl

theorem signedManifest_signature {sign : ByteArray → String} {command : PublishCommand φ}
    {signed : ManifestObject φ} (made : signedManifest sign command = .ok signed) :
    ∃ signature, Dict.get? signed "signature" = some signature := by
  obtain ⟨bytes, -, same⟩ := Except.bind_ok_iff.mp made
  cases same
  exact ⟨_, by rw [Dict.get?_put, if_pos rfl]⟩

theorem publish_ne_ok (sign : ByteArray → String) (preflight : ManifestObject φ → Bool)
    (command : PublishCommand φ) (bytes : ByteArray) :
    publish sign preflight command ≠ .ok bytes := by
  intro uploaded
  obtain ⟨signed, made, rest⟩ := Except.bind_ok_iff.mp uploaded
  obtain ⟨-, -, payload⟩ := Except.bind_ok_iff.mp rest
  obtain ⟨signature, found⟩ := signedManifest_signature made
  rw [canonicalBytes_of_signature found] at payload
  cases payload

/-- For every way to sign and every preflight. -/
theorem uploads_iff_none (sign : ByteArray → String) (preflight : ManifestObject φ → Bool)
    (commands : List (PublishCommand φ)) : AllUpload sign preflight commands ↔ commands = [] := by
  constructor
  · intro all
    cases commands with
    | nil => rfl
    | cons command rest =>
      obtain ⟨bytes, -, -, uploaded, -⟩ := (all.each command List.mem_cons_self).reads_back
      exact absurd uploaded (publish_ne_ok sign preflight command bytes)
  · rintro rfl
    exact ⟨nofun, .nil⟩

def sampleCommand : PublishCommand Unit :=
  ⟨"run-1", "A", [.obj [("key", .str "F1")]], 1700000000⟩

theorem sample_not_uploaded :
    (∃ signed, signedManifest (fun _ => "signature") sampleCommand = .ok signed) ∧
      publish (fun _ => "signature") (fun _ => true) sampleCommand =
        .error "MANIFEST_SIGNATURE_MUST_BE_EXCLUDED" ∧
      Dict.get? (buildManifest none sampleCommand) "manifest_version" = some (.int 1) := by
  have signs : (signedManifest (fun _ => "signature") sampleCommand).isOk = true := by
    decide +kernel
  cases made : signedManifest (fun _ => "signature") sampleCommand with
  | error reason =>
    rw [made] at signs
    cases signs
  | ok signed =>
    obtain ⟨signature, found⟩ := signedManifest_signature made
    refine ⟨⟨signed, rfl⟩, ?_, rfl⟩
    rw [publish, made]
    exact canonicalBytes_of_signature found

end TradingLab.Publishing

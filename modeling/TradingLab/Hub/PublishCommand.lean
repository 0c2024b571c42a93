import TradingLab.Manifests.Document

/-!
# The publish command

`strategy_lab publish` from the curated candidates to the bytes that it uploads. The entries that
the curation builds, the signature of Ed25519 and the answer of the preflight are inputs; a manifest
is the document that `model_dump` writes.
-/
namespace TradingLab.Publishing

open Relational

variable {φ : Type} [Floating φ]

structure PublishCommand (φ : Type) where
  runId : String
  keyId : String
  strategies : List (ManifestValue φ)
  nowEpoch : Int

def defaultLifetimeSeconds : Int := 30 * 86400

def defaultParitySha256 : String :=
  "sha256:f3d4285fc5aa7d7801a565cbee815d70034049c7a963ec137a8fa07da18eae10"

def currentVersion : Option (ManifestObject φ) → Int
  | none => 0
  | some document => (((Dict.get? document "manifest_version").getD (.int 0)).asInt).getD 0

def buildManifest (current : Option (ManifestObject φ)) (command : PublishCommand φ) :
    ManifestObject φ :=
  [("schema_version", .int 1),
    ("manifest_version", .int (currentVersion current + 1)),
    ("key_id", .str command.keyId),
    ("published_at", .int command.nowEpoch),
    ("expires_at", .int (command.nowEpoch + defaultLifetimeSeconds)),
    ("primitives_version", .str "1.0.0"),
    ("primitives_parity_sha256", .str defaultParitySha256),
    ("research_run_id", .str command.runId),
    ("strategies", .arr command.strategies),
    ("signature", .str "")]

variable (sign : ByteArray → String)

def signManifest (manifest : ManifestObject φ) : Except String (ManifestObject φ) := do
  let bytes ← canonicalBytes (Dict.erase manifest "signature")
  .ok (Dict.put manifest "signature" (.str ("ed25519:" ++ sign bytes)))

/-- The signed manifest of a confirmed command. No current manifest is passed on. -/
def signedManifest (command : PublishCommand φ) : Except String (ManifestObject φ) :=
  signManifest sign (buildManifest none command)

/-- The bytes that the command uploads; an error is printed and nothing is uploaded. -/
def publish (preflight : ManifestObject φ → Bool) (command : PublishCommand φ) :
    Except String ByteArray := do
  let signed ← signedManifest sign command
  check (preflight signed) "PreflightError"
  canonicalBytes signed

end TradingLab.Publishing

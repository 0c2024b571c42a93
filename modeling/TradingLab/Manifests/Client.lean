import TradingLab.Manifests.Schema

/-!
# The manifest client

`ManifestClient` of `apps/core/manifest_client.py`. What the clock, the transport and the disk do
is an input of each step; how `email.utils.parsedate_to_datetime` reads a header is a parameter.
Events and callbacks are left out: their exceptions are suppressed.
-/
namespace TradingLab

open Relational

variable {φ : Type} [Floating φ]

def defaultParitySha256 : String :=
  "sha256:f3d4285fc5aa7d7801a565cbee815d70034049c7a963ec137a8fa07da18eae10"

/-- `OFFLINE_EXPIRATION_GRACE_S`: 24 hours. -/
def offlineExpirationGrace : Int := 86400

structure ManifestRecord (φ : Type) where
  schemaVersion : Int
  manifestVersion : Int
  keyId : String
  publishedAt : Int
  expiresAt : Int
  primitivesVersion : String
  primitivesParitySha256 : String
  researchRunId : String
  strategies : List (ManifestValue φ)
  signature : String
  rawBytes : ByteArray

variable (data : ManifestObject φ)

/-- `int(data[name])`; the schema has made it a number. -/
def intEntry (name : String) : Int :=
  (((Dict.get? data name).getD .null).asInt).getD 0

/-- `str(data[name])`. -/
def textEntry (name : String) : String :=
  ((Dict.get? data name).getD (.str "")).text

def ManifestRecord.fromDict (rawBytes : ByteArray) :
    ManifestRecord φ where
  schemaVersion := intEntry data "schema_version"
  manifestVersion := intEntry data "manifest_version"
  keyId := textEntry data "key_id"
  publishedAt := intEntry data "published_at"
  expiresAt := intEntry data "expires_at"
  primitivesVersion := textEntry data "primitives_version"
  primitivesParitySha256 := textEntry data "primitives_parity_sha256"
  researchRunId := textEntry data "research_run_id"
  strategies := (((Dict.get? data "strategies").getD (.arr [])).iterate).getD []
  signature := textEntry data "signature"
  rawBytes

/-! ### The client -/

/-- What `parsedate_to_datetime` makes of a header. -/
inductive DateReading
  | epoch (seconds : Int)
  /-- `ValueError` or `TypeError`. -/
  | unusable
  /-- Any other exception, such as `OverflowError` for an offset out of range. -/
  | raises
deriving DecidableEq, Repr

structure ClientSettings where
  verify : Ed25519
  publicKeys : Dict String Bytes
  primitivesVersion : String := "1.0.0"
  primitivesParitySha256 : String := defaultParitySha256
  primaryUrl : String := "https://storage.dualtrade.com/manifests/latest.json"
  mirrorUrl : String := "https://r2.dualtrade.com/manifests/latest.json"
  allowTestKeys : Bool := false
  buildProfile : String := "production"
  pollInterval : ℚ := 900
  readDate : String → DateReading

structure ManifestClient (φ : Type) where
  current : Option (ManifestRecord φ) := none
  lastEtag : Option String := none
  /-- `none` before the first poll. -/
  lastPoll : Option ℚ := none

structure Installation (φ : Type) where
  client : ManifestClient φ := {}
  cache : Option ByteArray := none

variable (settings : ClientSettings)

def ClientSettings.evaluate (raw : ByteArray) : Evaluation φ :=
  evaluateManifestBytes settings.verify raw settings.publicKeys
    (settings.allowTestKeys || settings.buildProfile == "test")
    (some settings.primitivesVersion) (some settings.primitivesParitySha256)

/-- The expiration check of `accept`; `none` is an exception. -/
def ClientSettings.expired (dateHeader : Option String) (now expiresAt : Int) : Option Bool :=
  match dateHeader with
  | some header =>
    match settings.readDate header with
    | .epoch server => some (expiresAt < server)
    -- `pass`: neither clock is looked at.
    | .unusable => some false
    | .raises => none
  | none => some (expiresAt + offlineExpirationGrace < now)

inductive Acceptance (φ : Type)
  | accepted (record : ManifestRecord φ)
  | rejected (code : String)
  | raised

namespace Installation

/-- `accept`. `written` says whether the cache file was replaced; an `OSError` is suppressed and
    leaves it as it was. -/
def accept (raw : ByteArray) (dateHeader : Option String) (now : Int) (written : Bool)
    (i : Installation φ) : Acceptance φ × Installation φ :=
  match settings.evaluate raw with
  | .raised => (.raised, i)
  | .rejected code => (.rejected code, i)
  | .accepted document =>
    let record := ManifestRecord.fromDict document raw
    if ∃ current ∈ i.client.current, record.manifestVersion ≤ current.manifestVersion then
      (.rejected "MANIFEST_REJECTED_REGRESSIVE_VERSION", i)
    else match settings.expired dateHeader now record.expiresAt with
    | none => (.raised, i)
    | some true => (.rejected "MANIFEST_REJECTED_EXPIRED", i)
    | some false =>
      (.accepted record,
        { client := { i.client with current := some record }
          cache := if written then some raw else i.cache })

/-! ### Polling -/

end Installation

structure HttpResponse where
  statusCode : Int
  headers : Dict String String := []
  body : ByteArray := ByteArray.empty

/-- The answer to each call of `get`, by the number of the call; `none` is an exception. -/
abbrev HttpTransport := Nat → String → Dict String String → Option HttpResponse

namespace Installation

omit [Floating φ] in
def requestHeaders (i : Installation φ) : Dict String String :=
  match i.client.lastEtag with
  | some etag => if etag = "" then [] else [("If-None-Match", etag)]
  | none => []

/-- What follows the answer of one address: `some` is what `poll` returns, `none` goes on to the
    next address. An exception of `accept` is swallowed here. -/
def pollAddress (answer : Option HttpResponse) (now : Int) (written : Bool) (i : Installation φ) :
    Option (Option (Acceptance φ)) × Installation φ :=
  match answer with
  | none => (none, i)
  | some response =>
    if response.statusCode = 304 then (some none, i)
    else if response.statusCode = 200 then
      match i.accept settings response.body (Dict.get? response.headers "Date") now written with
      | (.raised, after) => (none, after)
      | (.rejected code, after) => (some (some (.rejected code)), after)
      | (.accepted record, after) =>
        (some (some (.accepted record)),
          { after with
            client := { after.client with lastEtag := Dict.get? response.headers "ETag" } })
    else (none, i)

/-- Only the call of `accept` that ends it reads the local clock. -/
def poll (http : Option HttpTransport) (force : Bool) (monotonic : ℚ) (now : Int) (written : Bool)
    (i : Installation φ) : Option (Acceptance φ) × Installation φ :=
  match http with
  | none => (none, i)
  | some get =>
    if ¬ force ∧ ∃ last ∈ i.client.lastPoll, monotonic - last < settings.pollInterval then (none, i)
    else
      let asking := { i with client := { i.client with lastPoll := some monotonic } }
      match asking.pollAddress settings (get 0 settings.primaryUrl i.requestHeaders) now written
        with
      | (some result, after) => (result, after)
      | (none, after) =>
        let (result, last) :=
          after.pollAddress settings (get 1 settings.mirrorUrl i.requestHeaders) now written
        (result.join, last)

def cached (now : Int) (readable : Bool) (raw : ByteArray) : Option (ManifestRecord φ) :=
  if readable then
    match settings.evaluate raw with
    | .accepted document =>
      let record := ManifestRecord.fromDict document raw
      if now ≤ record.expiresAt + offlineExpirationGrace then some record else none
    | _ => none
  else none

/-- A new process on the same cache directory: `__init__` and `_load_cache`. A file that gives
    no record is discarded, unless that fails too. -/
def restart (now : Int) (readable removable : Bool) (i : Installation φ) : Installation φ :=
  match i.cache with
  | none => {}
  | some raw =>
    match cached settings now readable raw with
    | some record => { client := { current := some record }, cache := some raw }
    | none => { cache := if removable then none else some raw }

end Installation

inductive ClientStep
  | accept (raw : ByteArray) (dateHeader : Option String) (now : Int) (written : Bool)
  | poll (http : Option HttpTransport) (force : Bool) (monotonic : ℚ) (now : Int) (written : Bool)
  | restart (now : Int) (readable removable : Bool)

def Installation.step (i : Installation φ) :
    ClientStep → Installation φ
  | .accept raw dateHeader now written => (i.accept settings raw dateHeader now written).2
  | .poll http force monotonic now written =>
    (i.poll settings http force monotonic now written).2
  | .restart now readable removable => i.restart settings now readable removable

end TradingLab

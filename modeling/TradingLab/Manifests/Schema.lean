import TradingLab.Manifests.Document
import TradingLab.Strategies.Models

/-!
# Accepting a manifest

`validate_manifest_schema`, `verify_signature` and `evaluate_manifest_bytes` of
`apps/core/manifest_client.py`, and the trust store of `apps/core/manifest_keys.py`. A check that
fails raises the code of its reason. Ed25519 verification is an oracle.
-/
namespace TradingLab

open Relational

variable {φ : Type} {raw : ByteArray} {keys : Dict String Bytes} {allowTestKeys : Bool}
  {expectedVersion expectedParity : Option String} {document : ManifestObject φ}

def schemaInvalid : String := "MANIFEST_SCHEMA_INVALID"

/-! ### Texts -/

def isDigit (c : Char) : Bool := '0' ≤ c && c ≤ '9'

def isUpper (c : Char) : Bool := 'A' ≤ c && c ≤ 'Z'

def isLower (c : Char) : Bool := 'a' ≤ c && c ≤ 'z'

variable (cs : List Char)

/-- `^-?[0-9]+(\.[0-9]+)?$`. -/
def decimalPattern : Bool :=
  let unsigned := if cs.head? = some '-' then cs.drop 1 else cs
  !(unsigned.takeWhile isDigit).isEmpty &&
    match unsigned.dropWhile isDigit with
    | [] => true
    | '.' :: fraction => !fraction.isEmpty && fraction.all isDigit
    | _ => false

/-- `0|[1-9][0-9]*`. -/
def numeralPattern : Bool :=
  cs == ['0'] || (!cs.isEmpty && cs.head? != some '0' && cs.all isDigit)

/-- Three numerals with a point between each two. -/
def versionPattern : Bool :=
  match cs.splitOn '.' with
  | [major, minor, patch] => numeralPattern major && numeralPattern minor && numeralPattern patch
  | _ => false

/-- `^sha256:[0-9a-f]\x7b64\x7d$`. -/
def parityPattern : Bool :=
  "sha256:".toList.isPrefixOf cs && isHexDigest (String.ofList (cs.drop 7))

/-- One character or more, each a letter, a digit or one of the others given. -/
def namePattern (others : String) (cs : List Char) : Bool :=
  !cs.isEmpty && cs.all fun c =>
    isUpper c || isLower c || isDigit c || others.toList.contains c

/-- `^[A-Z0-9]+(?:-OTC)?$`. -/
def assetPattern : Bool :=
  let base := cs.takeWhile fun c => isUpper c || isDigit c
  let suffix := cs.dropWhile fun c => isUpper c || isDigit c
  !base.isEmpty && (suffix.isEmpty || suffix == "-OTC".toList)

/-- `^[0-9]\x7b1,6\x7d/[1-9][0-9]\x7b0,5\x7d$`, with its two numbers. -/
def windowsOf : Option (Nat × Nat) :=
  match cs.splitOn '/' with
  | [passed, total] =>
    if (passed ++ total).all isDigit ∧ passed.length ∈ List.range' 1 6 ∧
        total.length ∈ List.range' 1 6 ∧ total.head? ≠ some '0' then do
      let passed ← Decimal.readInt passed
      let total ← Decimal.readInt total
      some (passed.toNat, total.toNat)
    else none
  | _ => none

/-- `fields[name]`, where the name is required. -/
def field (fields : ManifestObject φ) (name : String) : Except String (ManifestValue φ) :=
  match Dict.get? fields name with
  | some value => .ok value
  | none => .error schemaInvalid

def asObject : ManifestValue φ → Except String (ManifestObject φ)
  | .obj entries => .ok entries
  | _ => .error schemaInvalid

/-- `type(value) is int`, and within bounds. -/
def intWithin (low high : Int) : ManifestValue φ → Except String Int
  | .int n => if low ≤ n ∧ n ≤ high then .ok n else .error schemaInvalid
  | _ => .error schemaInvalid

def asBool : ManifestValue φ → Except String Bool
  | .bool b => .ok b
  | _ => .error schemaInvalid

def textLike (pattern : List Char → Bool) (limit : Nat) : ManifestValue φ → Except String String
  | .str text =>
    if pattern text.toList ∧ text.toList.length ≤ limit then .ok text else .error schemaInvalid
  | _ => .error schemaInvalid

def oneOf (options : List String) : ManifestValue φ → Except String String
  | .str text => if text ∈ options then .ok text else .error schemaInvalid
  | _ => .error schemaInvalid

/-- `fields.keys() <= allowed` and every required name is there. -/
def checkNames (allowed required : List String) (fields : ManifestObject φ) : Except String Unit :=
    do
  check (∀ entry ∈ fields, entry.1 ∈ allowed) schemaInvalid
  check (∀ name ∈ required, (Dict.get? fields name).isSome) schemaInvalid

def maxDecimalLength : Nat := 24

def decimalValue : ManifestValue φ → Except String Decimal
  | .str text =>
    if text.toList.length ≤ maxDecimalLength ∧ decimalPattern text.toList then
      match Decimal.read text.toList with
      | some number => .ok number
      | none => .error schemaInvalid
    else .error schemaInvalid
  | _ => .error schemaInvalid

/-! ### Parameters of a family -/

/-- The range of one parameter: its bounds, its step, and whether it is a whole number. -/
structure ParamRange where
  name : String
  minimum : ℚ
  maximum : ℚ
  step : ℚ
  isInt : Bool

def familySpecs : Dict String (List ParamRange) :=
  [("F1", [⟨"adx_len", 2, 100, 1, true⟩, ⟨"adx_max", 0, 100, 1, false⟩,
      ⟨"bb_k", 1 / 2, 5, 1 / 10, false⟩, ⟨"bb_len", 2, 200, 1, true⟩,
      ⟨"rsi_hi", 51, 99, 1, false⟩, ⟨"rsi_len", 2, 100, 1, true⟩, ⟨"rsi_lo", 1, 49, 1, false⟩]),
    ("F2", [⟨"body_max", 1 / 20, 4 / 5, 1 / 20, false⟩, ⟨"ema_long", 4, 300, 1, true⟩,
      ⟨"ema_medium", 3, 150, 1, true⟩, ⟨"ema_short", 2, 100, 1, true⟩,
      ⟨"pullback_len", 2, 200, 1, true⟩, ⟨"pullback_tolerance", 0, 1 / 20, 1 / 1000, false⟩,
      ⟨"wick_min", 1 / 5, 9 / 10, 1 / 20, false⟩]),
    ("F3", [⟨"body_max", 1 / 20, 4 / 5, 1 / 20, false⟩,
      ⟨"level_resistance", 1 / 100000000, 1000000, 1 / 100000000, false⟩,
      ⟨"level_support", 1 / 100000000, 1000000, 1 / 100000000, false⟩,
      ⟨"level_tolerance", 0, 10000, 1 / 100000000, false⟩,
      ⟨"wick_min", 1 / 5, 9 / 10, 1 / 20, false⟩]),
    ("F4", [⟨"bb_k", 1 / 2, 5, 1 / 10, false⟩, ⟨"bb_len", 2, 200, 1, true⟩,
      ⟨"break_len", 2, 200, 1, true⟩, ⟨"volume_len", 2, 200, 1, true⟩,
      ⟨"volume_min", 1 / 2, 5, 1 / 10, false⟩, ⟨"width_median_len", 2, 200, 1, true⟩,
      ⟨"width_ratio_max", 1 / 10, 1, 1 / 10, false⟩]),
    ("F5", [⟨"quadrant_window", 3, 21, 2, true⟩, ⟨"rsi_hi", 51, 99, 1, false⟩,
      ⟨"rsi_len", 2, 100, 1, true⟩, ⟨"rsi_lo", 1, 49, 1, false⟩])]

def familyRelations : Dict String (List (String × String)) :=
  [("F1", [("rsi_lo", "rsi_hi")]),
    ("F2", [("ema_short", "ema_medium"), ("ema_medium", "ema_long")]),
    ("F3", [("level_support", "level_resistance")]), ("F4", []), ("F5", [("rsi_lo", "rsi_hi")])]

def validateRange (value : ManifestValue φ) (range : ParamRange) : Except String Unit := do
  let number ← decimalValue value
  let q := number.value
  check (range.minimum ≤ q ∧ q ≤ range.maximum) "MANIFEST_PARAM_RANGE"
  check (range.isInt = true → q.den = 1) "MANIFEST_PARAM_INTEGER"
  check ((q.num * range.minimum.den - range.minimum.num * q.den) * range.step.den %
      (q.den * range.minimum.den * range.step.num) = 0) "MANIFEST_PARAM_STEP"

def validateParams (family : String) (params : ManifestObject φ) : Except String Unit := do
  let specs := (Dict.get? familySpecs family).getD []
  check ((∀ entry ∈ params, entry.1 ∈ specs.map fun spec => spec.name) ∧
    ∀ spec ∈ specs, (Dict.get? params spec.name).isSome) "MANIFEST_PARAM_KEYS"
  specs.forM fun spec => do validateRange (← field params spec.name) spec
  ((Dict.get? familyRelations family).getD []).forM fun (lower, upper) => do
    let below ← decimalValue (← field params lower)
    let above ← decimalValue (← field params upper)
    check (below.value < above.value) "MANIFEST_PARAM_RELATION"

def maxLifetime : Int := 45 * 86400

def validateLifetime (published expires : Int) : Except String Unit :=
  check (0 < expires - published ∧ expires - published ≤ maxLifetime) "MANIFEST_EXPIRATION"

/-- `MARGIN`. -/
def payoutMargin : Decimal := .finite false 15 (-3)

def payoutStep : Decimal := .finite false 1 (-2)

/-- `Decimal(1) / (Decimal(1) + payout)`; `none` is `InvalidOperation`. -/
def breakEvenShare (payout : Decimal) : Option Decimal := do
  let total ← Decimal.add decimalPrecision (Decimal.ofInt 1) payout
  Decimal.div decimalPrecision (Decimal.ofInt 1) total

/-- The share of wins that a payout asks for, with the margin. -/
def breakEven (payout : Decimal) : Option Decimal := do
  let share ← breakEvenShare payout
  Decimal.add decimalPrecision share payoutMargin

def belowEdge (lower payout : Decimal) : Option Bool := do
  let edge ← breakEven payout
  lower.less edge

def validatePayout (wilson payout : ManifestValue φ) : Except String Unit := do
  let lower ← decimalValue wilson
  let minimum ← decimalValue payout
  check (0 < minimum.value ∧ minimum.value ≤ 1) "MANIFEST_PAYOUT_MIN"
  check ((minimum.value * 100).den = 1) "MANIFEST_PAYOUT_GRID"
  check (belowEdge lower minimum ≠ some true) "MANIFEST_PAYOUT_UNSAFE"
  -- The step is exact: the minimum has at most the places of its text.
  let previous := (Decimal.sub decimalPrecision minimum payoutStep).getD .nan
  check (0 < previous.value → belowEdge lower previous = some true) "MANIFEST_PAYOUT_NOT_MINIMUM"

/-! ### One strategy -/

def validateHours (value : ManifestValue φ) : Except String Unit :=
  match value with
  | .arr [first, second] => do
    let start ← intWithin 0 24 first
    let stop ← intWithin 0 24 second
    check (start < stop) "MANIFEST_HOURS_RANGE"
  | _ => .error schemaInvalid

def validatedNames : List String :=
  ["p_hat", "wilson_lower", "p_min_at_validation", "payout_min", "n", "ops_per_day",
    "worst_streak", "result_1000_ops_stake10", "windows_passed", "holdout_passed"]

/-- The checks of `validated`; the result says whether the holdout was passed. -/
def validateStats (value : ManifestValue φ) : Except String Bool := do
  let stats ← asObject value
  checkNames validatedNames validatedNames stats
  ["p_hat", "wilson_lower", "p_min_at_validation"].forM fun metric => do
    let share ← decimalValue (← field stats metric)
    check (0 ≤ share.value ∧ share.value ≤ 1) "MANIFEST_PROBABILITY_RANGE"
  let wilson ← decimalValue (← field stats "wilson_lower")
  let estimate ← decimalValue (← field stats "p_hat")
  check (wilson.value ≤ estimate.value) "MANIFEST_WILSON_ABOVE_ESTIMATE"
  let ops ← decimalValue (← field stats "ops_per_day")
  check (0 ≤ ops.value) "MANIFEST_OPS_NEGATIVE"
  let n ← intWithin 1 maxSafeInteger (← field stats "n")
  let streak ← intWithin 0 maxSafeInteger (← field stats "worst_streak")
  check (streak ≤ n) "MANIFEST_STREAK_RANGE"
  match ← field stats "windows_passed" with
  | .str text =>
    match windowsOf text.toList with
    | some (passed, total) => check (passed ≤ total) "MANIFEST_WINDOWS_RANGE"
    | none => .error schemaInvalid
  | _ => .error schemaInvalid
  let holdout ← asBool (← field stats "holdout_passed")
  validatePayout (← field stats "wilson_lower") (← field stats "payout_min")
  .ok holdout

def validateManagement (value : ManifestValue φ) : Except String Unit := do
  let management ← asObject value
  let names := ["stake_pct", "martingale_steps_max", "paroli"]
  checkNames names names management
  let stake ← decimalValue (← field management "stake_pct")
  check (0 < stake.value ∧ stake.value ≤ 100) "MANIFEST_STAKE_RANGE"
  let _ ← intWithin 0 10 (← field management "martingale_steps_max")
  let _ ← asBool (← field management "paroli")
  .ok ()

variable [Floating φ]

/-- `reason_pt is not None and str(reason_pt).strip()`. -/
def givesReason : ManifestValue φ → Bool
  | .null => false
  | value => !isBlank value.text

def strategyNames : List String :=
  ["key", "family", "display_name_pt", "asset", "timeframe", "hours_utc", "params", "validated",
    "status", "management"]

/-- One turn of the loop over `strategies`; the result is the key. -/
def validateStrategy (value : ManifestValue φ) : Except String String := do
  let s ← asObject value
  checkNames ("reason_pt" :: strategyNames) strategyNames s
  let key ← textLike (namePattern "_:.-") 160 (← field s "key")
  let family ← oneOf ["F1", "F2", "F3", "F4", "F5"] (← field s "family")
  let _ ← textLike (fun cs => !cs.isEmpty && cs.all fun c => 0x20 ≤ c.toNat) 160
    (← field s "display_name_pt")
  let _ ← textLike assetPattern 32 (← field s "asset")
  let _ ← oneOf ["M1", "M5", "M15"] (← field s "timeframe")
  validateHours (← field s "hours_utc")
  validateParams family (← asObject (← field s "params"))
  let holdout ← validateStats (← field s "validated")
  let status ← oneOf ["approved", "observation", "rejected"] (← field s "status")
  check (status = "rejected" → givesReason ((Dict.get? s "reason_pt").getD .null) = true)
    "MANIFEST_REASON_REQUIRED"
  check (status = "approved" → holdout = true) "MANIFEST_HOLDOUT_REQUIRED"
  validateManagement (← field s "management")
  .ok key

def manifestNames : List String :=
  ["manifest_version", "key_id", "published_at", "expires_at", "primitives_version",
    "primitives_parity_sha256", "research_run_id", "strategies"]

def validateManifestSchema (data : ManifestObject φ) : Except String Unit := do
  check (∀ entry ∈ data, entry.1 ∈ "schema_version" :: "signature" :: manifestNames) schemaInvalid
  match ← field data "schema_version" with
  | .int version => check (version = 1) schemaInvalid
  | _ => .error "MANIFEST_SCHEMA_VERSION"
  check (∀ name ∈ manifestNames, (Dict.get? data name).isSome) schemaInvalid
  let _ ← intWithin 1 maxSafeInteger (← field data "manifest_version")
  let _ ← oneOf ["A", "B"] (← field data "key_id")
  let published ← intWithin 0 maxSafeInteger (← field data "published_at")
  let expires ← intWithin 0 maxSafeInteger (← field data "expires_at")
  validateLifetime published expires
  let _ ← textLike versionPattern 32 (← field data "primitives_version")
  let _ ← textLike parityPattern 71 (← field data "primitives_parity_sha256")
  let _ ← textLike (namePattern "_.-") 96 (← field data "research_run_id")
  match ← field data "strategies" with
  | .arr strategies => do
    check (strategies.length ≤ 5000) schemaInvalid
    let keys ← strategies.mapM validateStrategy
    check keys.Nodup "MANIFEST_DUPLICATE_KEY"
  | _ => .error schemaInvalid

/-! ### The signature -/

/-- `bytes.fromhex`. -/
def bytesOfHex : List Char → Bytes
  | high :: low :: rest =>
    UInt8.ofNat ((Formats.Json.hexValue high).getD 0 * 16 + (Formats.Json.hexValue low).getD 0) ::
      bytesOfHex rest
  | _ => []

def testKey : Bytes :=
  bytesOfHex "03a107bff3ce10be1d70dd18e74bc09967e4d6309ba50d5f1ddc8664125531b8".toList

def prodPublicKeys : Dict String Bytes :=
  [("A", bytesOfHex "a1b2c3d4e5f60718293a4b5c6d7e8f90123456789abcdef0123456789abcdef0".toList),
    ("B", bytesOfHex "b1c2d3e4f5061728394a5b6c7d8e9f0123456789abcdef0123456789abcdef01".toList)]

/-- `get_public_keys`. -/
def publicKeys (buildProfile : String) : Dict String Bytes :=
  if buildProfile = "test" then [("A", testKey), ("B", testKey), ("TEST", testKey)]
  else prodPublicKeys

def base64Alphabet : List Char :=
  "ABCDEFGHIJKLMNOPQRSTUVWXYZabcdefghijklmnopqrstuvwxyz0123456789+/".toList

def base64Value (c : Char) : Option Nat :=
  if c ∈ base64Alphabet then some (base64Alphabet.idxOf c) else none

/-- `base64.b64decode(text, validate=True)`; `none` is `binascii.Error`. -/
def b64decode : List Char → Option Bytes
  | [] => some []
  | [a, b, '=', '='] => do
    let group := (← base64Value a) * 4 + (← base64Value b) / 16
    some [UInt8.ofNat group]
  | [a, b, c, '='] => do
    let group := ((← base64Value a) * 64 + (← base64Value b)) * 16 + (← base64Value c) / 4
    some [UInt8.ofNat (group / 256), UInt8.ofNat group]
  | a :: b :: c :: d :: rest => do
    let group := (((← base64Value a) * 64 + (← base64Value b)) * 64 + (← base64Value c)) * 64 +
      (← base64Value d)
    let tail ← b64decode rest
    some (UInt8.ofNat (group / 65536) :: UInt8.ofNat (group / 256) :: UInt8.ofNat group :: tail)
  | _ => none

def base64Char (n : Nat) : Char :=
  base64Alphabet.getD (n % 64) '='

def b64encode : Bytes → List Char
  | [] => []
  | [a] => [base64Char (a.toNat / 4), base64Char (a.toNat * 16), '=', '=']
  | [a, b] =>
    let group := a.toNat * 256 + b.toNat
    [base64Char (group / 1024), base64Char (group / 16), base64Char (group * 4), '=']
  | a :: b :: c :: rest =>
    let group := (a.toNat * 256 + b.toNat) * 256 + c.toNat
    base64Char (group / 262144) :: base64Char (group / 4096) :: base64Char (group / 64) ::
      base64Char group :: b64encode rest

/-- Whether a key has signed a payload. -/
abbrev Ed25519 := Bytes → Bytes → ByteArray → Bool

/-- `verify_signature`; the error is the `ValueError` of a signature that is not ASCII. -/
def verifySignature (verify : Ed25519) (document : ManifestObject φ) (keys : Dict String Bytes)
    (allowTestKeys : Bool) : Except String Bool :=
  match Dict.get? document "signature", Dict.get? document "key_id" with
  | some (.str signature), some (.str keyId) =>
    if "ed25519:".toList.isPrefixOf signature.toList then
      match Dict.get? keys keyId with
      | none => .ok false
      | some key =>
        if key = testKey ∧ ¬ allowTestKeys then .ok false
        else
          let encoded := signature.toList.drop 8
          if encoded.any fun c => 0x80 ≤ c.toNat then
            .error "string argument should contain only ASCII characters"
          else match b64decode encoded with
          | none => .ok false
          | some bytes =>
            if bytes.length ≠ 64 ∨ b64encode bytes ≠ encoded then .ok false
            else match canonicalBytes (Dict.erase document "signature") with
            | .ok payload => .ok (key.length == 32 && verify key bytes payload)
            | .error _ => .ok false
    else .ok false
  | _, _ => .ok false

inductive Evaluation (φ : Type)
  | accepted (document : ManifestObject φ)
  | rejected (code : String)
  | raised

def evaluateManifestBytes (verify : Ed25519) (raw : ByteArray) (keys : Dict String Bytes)
    (allowTestKeys : Bool) (expectedVersion expectedParity : Option String) : Evaluation φ :=
  match (do let document ← loadDocument raw; validateManifestSchema document; .ok document :
      Except String (ManifestObject φ)) with
  | .error code => .rejected code
  | .ok document =>
    match verifySignature verify document keys allowTestKeys with
    | .error _ => .raised
    | .ok false => .rejected "MANIFEST_SIGNATURE_INVALID"
    | .ok true =>
      let text (name : String) := ((Dict.get? document name).getD .null).text
      if ∃ version ∈ expectedVersion, text "primitives_version" ≠ version then
        .rejected "MANIFEST_PRIMITIVES_VERSION"
      else if ∃ parity ∈ expectedParity, text "primitives_parity_sha256" ≠ parity then
        .rejected "MANIFEST_PRIMITIVES_PARITY"
      else .accepted document

variable {verify : Ed25519}

section

variable
  (accepted : evaluateManifestBytes verify raw keys allowTestKeys expectedVersion expectedParity = .accepted document)
include accepted

theorem document_of_accepted :
    loadDocument raw = .ok document ∧ validateManifestSchema document = .ok () := by
  unfold evaluateManifestBytes at accepted
  split at accepted
  · cases accepted
  · rename_i loaded sound
    obtain ⟨read, reading, sound⟩ := Except.bind_ok_iff.mp sound
    obtain ⟨⟨⟩, valid, same⟩ := Except.bind_ok_iff.mp sound
    cases same
    split at accepted
    · cases accepted
    · cases accepted
    · dsimp only at accepted
      split at accepted
      · cases accepted
      · split at accepted
        · cases accepted
        · cases accepted
          exact ⟨reading, valid⟩

theorem loadDocument_of_accepted :
    loadDocument raw = .ok document :=
  (document_of_accepted accepted).1

end

end TradingLab

import TradingLab.Domain.Orders
import TradingLab.Formats.Json
import TradingLab.Relational.Dict
import TradingLab.Workers.Json
import Mathlib.Data.List.Sort

/-!
# Manifest documents

The values that a manifest file holds, read by `json.loads` for the local catalog, and by
`load_document` of `apps/core/manifest_client.py`, which refuses floats, repeated names, deep and
large documents. Binary floating point is a parameter. The text of a file is its bytes as UTF-8;
that `read_text` also joins line ends makes no difference between values or inside a string.
-/
namespace TradingLab

open Relational

/-- What the code does with a `float`. -/
class Floating (φ : Type) where
  /-- `float(text)`. -/
  read : List Char → φ
  /-- `NaN`, `Infinity` and `-Infinity`. -/
  constant : String → φ
  /-- `str(value)`. -/
  text : φ → String
  /-- `int(value)`, of a finite value. -/
  trunc : φ → Option Int
  eq : φ → φ → Bool
  eqInt : φ → Int → Bool

/-- For documents without floats: one value stands for all. -/
instance : Floating Unit where
  read _ := ()
  constant _ := ()
  text _ := "0.0"
  trunc _ := some 0
  eq _ _ := true
  eqInt _ n := n == 0

/-- A value of `json.loads`. An object has each name once. -/
inductive ManifestValue (φ : Type)
  | null
  | bool (value : Bool)
  | int (value : Int)
  | float (value : φ)
  | str (value : String)
  | arr (items : List (ManifestValue φ))
  | obj (entries : List (String × ManifestValue φ))

/-- A `dict` of a document. -/
abbrev ManifestObject (φ : Type) := Dict String (ManifestValue φ)

variable {φ : Type} [Floating φ]

namespace ManifestValue

/-! ### The built-in functions -/

mutual

/-- `repr(value)`; a text is put between quotes as it is. -/
def repr : ManifestValue φ → String
  | .null => "None"
  | .bool true => "True"
  | .bool false => "False"
  | .int value => toString value
  | .float value => Floating.text value
  | .str value => "'" ++ value ++ "'"
  | .arr items => "[" ++ reprItems items ++ "]"
  | .obj entries => "\x7b" ++ reprEntries entries ++ "\x7d"

def reprItems : List (ManifestValue φ) → String
  | [] => ""
  | [item] => repr item
  | item :: rest => repr item ++ ", " ++ reprItems rest

def reprEntries : List (String × ManifestValue φ) → String
  | [] => ""
  | [(name, value)] => "'" ++ name ++ "': " ++ repr value
  | (name, value) :: rest => "'" ++ name ++ "': " ++ repr value ++ ", " ++ reprEntries rest

end

/-- `str(value)`. -/
def text : ManifestValue φ → String
  | .str value => value
  | value => repr value

/-- `Decimal(str(value))`; `none` is `InvalidOperation`. -/
def asDecimal (value : ManifestValue φ) : Option Decimal :=
  decimalOfText value.text

/-- `int(value)`; `none` is an exception. -/
def asInt : ManifestValue φ → Option Int
  | .bool value => some value.toNat
  | .int value => some value
  | .float value => Floating.trunc value
  | .str value => intOfText value
  | _ => none

omit [Floating φ] in
/-- What a loop over the value goes through; `none` is `TypeError`. -/
def iterate : ManifestValue φ → Option (List (ManifestValue φ))
  | .str value => some (value.toList.map fun c => .str (String.ofList [c]))
  | .arr items => some items
  | .obj entries => some (entries.map fun entry => .str entry.1)
  | _ => none

omit [Floating φ] in
/-- The number that a value is; `True` is `1`. -/
def numeral : ManifestValue φ → Option (Int ⊕ φ)
  | .bool value => some (.inl value.toNat)
  | .int value => some (.inl value)
  | .float value => some (.inr value)
  | _ => none

def sameNumber : Int ⊕ φ → Int ⊕ φ → Bool
  | .inl m, .inl n => m == n
  | .inl m, .inr x | .inr x, .inl m => Floating.eqInt x m
  | .inr x, .inr y => Floating.eq x y

mutual

/-- `a == b`. -/
def pyEq : ManifestValue φ → ManifestValue φ → Bool
  | .null, .null => true
  | .str a, .str b => a == b
  | .arr a, .arr b => eqItems a b
  | .obj a, .obj b => a.length == b.length && eqEntries a b
  | a, b => match numeral a, numeral b with
    | some m, some n => sameNumber m n
    | _, _ => false

def eqItems : List (ManifestValue φ) → List (ManifestValue φ) → Bool
  | [], [] => true
  | a :: as, b :: bs => pyEq a b && eqItems as bs
  | _, _ => false

def eqEntries : List (String × ManifestValue φ) → List (String × ManifestValue φ) → Bool
  | [], _ => true
  | (name, a) :: as, bs =>
    (match Dict.get? bs name with
      | some b => pyEq a b
      | none => false) && eqEntries as bs

end

omit [Floating φ] in
def hashable : ManifestValue φ → Bool
  | .arr _ | .obj _ => false
  | _ => true

end ManifestValue

/-- A `dict` whose keys need not be names. -/
abbrev Params (φ : Type) := List (ManifestValue φ × ManifestValue φ)

namespace Params

/-- `params[key] = value`. -/
def put (params : Params φ) (key value : ManifestValue φ) : Params φ :=
  if params.any (fun entry => entry.1.pyEq key) then
    params.map fun entry => if entry.1.pyEq key then (entry.1, value) else entry
  else params ++ [(key, value)]

def get? (params : Params φ) (key : ManifestValue φ) : Option (ManifestValue φ) :=
  (params.find? fun entry => entry.1.pyEq key).map Prod.snd

/-- `first == second`. -/
def pyEq (first second : Params φ) : Bool :=
  first.length == second.length && first.all fun entry =>
    match second.get? entry.1 with
    | some value => entry.2.pyEq value
    | none => false

omit [Floating φ] in
def pairOf (item : ManifestValue φ) : Option (ManifestValue φ × ManifestValue φ) :=
  match item.iterate with
  | some [key, value] => if key.hashable then some (key, value) else none
  | _ => none

/-- `dict(value)`; `none` is an exception. -/
def ofValue : ManifestValue φ → Option (Params φ)
  | .obj entries => some (entries.map fun entry => (.str entry.1, entry.2))
  | value => do
    let items ← value.iterate
    let pairs ← items.mapM pairOf
    some (pairs.foldl (fun params entry => params.put entry.1 entry.2) [])

end Params

/-- `sys.int_info.default_max_str_digits`. -/
def maxIntDigits : Nat := 4300

/-- `int(text)` of a numeral; a longer one is refused. -/
def readNumeral (refusal : String) (text : List Char) : Except String (ManifestValue φ) :=
  if maxIntDigits < (text.filter (· != '-')).length then .error refusal
  else match Decimal.readInt text with
  | some n => .ok (.int n)
  | none => .error refusal

omit [Floating φ] in
/-- `dict(pairs)`: the last value of a name stands where the first one stood. -/
def objectOf (pairs : List (String × ManifestValue φ)) : ManifestObject φ :=
  pairs.foldl (fun object entry => Dict.put object entry.1 entry.2) []

/-- The hooks of `json.loads`. -/
def plainHooks : Formats.Json.Hooks String (ManifestValue φ) where
  null := .null
  bool := .bool
  int := readNumeral "JSONDecodeError"
  float text := .ok (.float (Floating.read text))
  constant name := .ok (.float (Floating.constant name))
  str := .str
  arr := .arr
  obj pairs := .ok (.obj (objectOf pairs))
  malformed := "JSONDecodeError"

/-- `raw.decode("utf-8")`. -/
def decodeUtf8 (raw : ByteArray) : Option (List Char) :=
  (String.fromUTF8? raw).map String.toList

/-- `json.loads(path.read_text(encoding="utf-8"))`; `none` is an exception. -/
def loads (raw : ByteArray) : Option (ManifestValue φ) := do
  let decoded ← decodeUtf8 raw
  (plainHooks.decode decoded).toOption

/-! ### Reading a manifest -/

def maxJsonBytes : Nat := 4 * 1024 * 1024

def maxDepth : Nat := 32

def maxSafeInteger : Int := 9007199254740991

mutual

/-- `_check`. -/
def checkValue : ManifestValue φ → Nat → Except String Unit
  | value, depth => do
    check (depth ≤ maxDepth) "MANIFEST_TOO_DEEP"
    match value with
    | .null | .bool _ | .str _ => .ok ()
    | .int n => check (n.natAbs ≤ maxSafeInteger) "MANIFEST_INTEGER_RANGE"
    | .float _ => .error "MANIFEST_NON_JSON_TYPE"
    | .arr items => checkItems items (depth + 1)
    | .obj entries => checkEntries entries (depth + 1)

def checkItems : List (ManifestValue φ) → Nat → Except String Unit
  | [], _ => .ok ()
  | item :: rest, depth => do
    checkValue item depth
    checkItems rest depth

/-- A name counts as a value at the depth of its entry. -/
def checkEntries : List (String × ManifestValue φ) → Nat → Except String Unit
  | [], _ => .ok ()
  | (_, value) :: rest, depth => do
    check (depth ≤ maxDepth) "MANIFEST_TOO_DEEP"
    checkValue value depth
    checkEntries rest depth

end

omit [Floating φ] in
/-- `_unique_pairs`, from the pairs read so far. -/
def uniquePairs : List (String × ManifestValue φ) → ManifestObject φ →
    Except String (ManifestObject φ)
  | [], object => .ok object
  | (name, value) :: rest, object => do
    check (Dict.get? object name).isNone "MANIFEST_DUPLICATE_JSON_KEY"
    uniquePairs rest (Dict.put object name value)

/-- The hooks of `load_document`. -/
def manifestHooks : Formats.Json.Hooks String (ManifestValue φ) where
  null := .null
  bool := .bool
  int := readNumeral "MANIFEST_JSON_INVALID"
  float _ := .error "MANIFEST_FLOAT_FORBIDDEN"
  constant _ := .error "MANIFEST_FLOAT_FORBIDDEN"
  str := .str
  arr := .arr
  obj pairs := (uniquePairs pairs []).map .obj
  malformed := "MANIFEST_JSON_INVALID"

def loadDocument (raw : ByteArray) : Except String (ManifestObject φ) := do
  check (raw.size ≤ maxJsonBytes) "MANIFEST_TOO_LARGE"
  match decodeUtf8 raw with
  | none => .error "MANIFEST_JSON_INVALID"
  | some decoded =>
    match ← manifestHooks.decode decoded with
    | .obj entries => do
      checkValue (.obj entries : ManifestValue φ) 0
      .ok entries
    | _ => .error "MANIFEST_ROOT_TYPE"

/-! ### Writing a document -/

def hexDigit (n : Nat) : Char :=
  (Nat.toDigits 16 n).headD '0'

/-- One character inside quotes, with `ensure_ascii=False`. -/
def escapeChar (c : Char) : List Char :=
  if c = '"' then ['\\', '"']
  else if c = '\\' then ['\\', '\\']
  else if c = '\n' then ['\\', 'n']
  else if c = '\r' then ['\\', 'r']
  else if c = '\t' then ['\\', 't']
  else if c.toNat = 12 then ['\\', 'f']
  else if c.toNat = 8 then ['\\', 'b']
  else if c.toNat < 0x20 then
    ['\\', 'u', '0', '0', hexDigit (c.toNat / 16), hexDigit (c.toNat % 16)]
  else [c]

def quoted (text : String) : String :=
  String.ofList ('"' :: text.toList.flatMap escapeChar ++ ['"'])

mutual

/-- `json.dumps(value, separators=(",", ":"), ensure_ascii=False)` of a value with sorted names. -/
def dumps : ManifestValue φ → String
  | .null => "null"
  | .bool true => "true"
  | .bool false => "false"
  | .int value => toString value
  | .float value => Floating.text value
  | .str value => quoted value
  | .arr items => "[" ++ dumpsItems items ++ "]"
  | .obj entries => "\x7b" ++ dumpsEntries entries ++ "\x7d"

def dumpsItems : List (ManifestValue φ) → String
  | [] => ""
  | [item] => dumps item
  | item :: rest => dumps item ++ "," ++ dumpsItems rest

def dumpsEntries : List (String × ManifestValue φ) → String
  | [] => ""
  | [(name, value)] => quoted name ++ ":" ++ dumps value
  | (name, value) :: rest => quoted name ++ ":" ++ dumps value ++ "," ++ dumpsEntries rest

end

omit [Floating φ] in
mutual

def sortKeys : ManifestValue φ → ManifestValue φ
  | .arr items => .arr (sortItems items)
  | .obj entries => .obj ((sortEntries entries).insertionSort fun a b => a.1 ≤ b.1)
  | value => value

def sortItems : List (ManifestValue φ) → List (ManifestValue φ)
  | [] => []
  | item :: rest => sortKeys item :: sortItems rest

def sortEntries : List (String × ManifestValue φ) → List (String × ManifestValue φ)
  | [] => []
  | (name, value) :: rest => (name, sortKeys value) :: sortEntries rest

end

def canonicalBytes (document : ManifestObject φ) : Except String ByteArray := do
  check (Dict.get? document "signature").isNone "MANIFEST_SIGNATURE_MUST_BE_EXCLUDED"
  checkValue (.obj document : ManifestValue φ) 0
  let encoded := (dumps (sortKeys (.obj document))).toUTF8
  check (encoded.size ≤ maxJsonBytes) "MANIFEST_TOO_LARGE"
  .ok encoded

/-! ### The two readers agree -/

omit [Floating φ] in
theorem uniquePairs_eq_foldl {pairs : List (String × ManifestValue φ)}
    {object result : ManifestObject φ} (unique : uniquePairs pairs object = .ok result) :
    pairs.foldl (fun object entry => Dict.put object entry.1 entry.2) object = result := by
  induction pairs generalizing object with
  | nil =>
    cases unique
    rfl
  | cons entry rest ih =>
    obtain ⟨name, value⟩ := entry
    obtain ⟨-, -, unique⟩ := Except.bind_ok_iff.mp unique
    exact ih unique

omit [Floating φ] in
theorem readNumeral_of_ok {refusal other : String} {text : List Char} {value : ManifestValue φ}
    (read : readNumeral refusal text = .ok value) : readNumeral other text = .ok value := by
  unfold readNumeral at read ⊢
  split at read
  · cases read
  · rename_i short
    rw [if_neg short]
    cases numeral : Decimal.readInt text with
    | none => simp [numeral] at read
    | some n => simpa [numeral] using read

/-- `load_document` only refuses more than `json.loads`. -/
theorem manifestHooks_restricts :
    (manifestHooks : Formats.Json.Hooks String (ManifestValue φ)).Restricts plainHooks where
  null := rfl
  bool := rfl
  int := readNumeral_of_ok
  float refused := by cases refused
  constant refused := by cases refused
  str := rfl
  arr := rfl
  obj unique := by
    obtain ⟨object, made, rfl⟩ := Formats.Json.map_ok.mp unique
    change Except.ok (ManifestValue.obj (objectOf _)) = Except.ok (ManifestValue.obj object)
    rw [objectOf, uniquePairs_eq_foldl made]

theorem loads_of_loadDocument {raw : ByteArray} {document : ManifestObject φ}
    (loaded : loadDocument raw = .ok document) : loads raw = some (.obj document) := by
  unfold loadDocument at loaded
  obtain ⟨-, -, loaded⟩ := Except.bind_ok_iff.mp loaded
  cases utf8 : decodeUtf8 raw with
  | none => simp [utf8] at loaded
  | some decoded =>
    simp only [utf8] at loaded
    obtain ⟨value, read, loaded⟩ := Except.bind_ok_iff.mp loaded
    have plain := Formats.Json.Hooks.decode_of_restricts manifestHooks_restricts read
    cases value with
    | obj entries =>
      obtain ⟨-, -, same⟩ := Except.bind_ok_iff.mp loaded
      cases same
      simp [loads, utf8, plain, Except.toOption]
    | _ => cases loaded

end TradingLab

import TradingLab.Formats.Spelling
import TradingLab.Manifests.Document

/-!
# Writing and reading a document

What `json.dumps` writes is one spelling of the document, and `load_document` reads every
spelling of a document with distinct names back to it (`loadDocument_of_spells`). So canonical
bytes determine the document that they were made from (`loadDocument_dumps`).
-/
namespace TradingLab

open Relational Formats.Json

variable {φ : Type} {entries : List (String × Tree)}

mutual

def ManifestValue.ofTree : Tree → ManifestValue φ
  | .null => .null
  | .bool value => .bool value
  | .int value => .int value
  | .str value => .str value
  | .arr items => .arr (ofItems items)
  | .obj entries => .obj (ofEntries entries)

def ManifestValue.ofItems : List Tree → List (ManifestValue φ)
  | [] => []
  | item :: rest => ofTree item :: ofItems rest

def ManifestValue.ofEntries : List (String × Tree) → List (String × ManifestValue φ)
  | [] => []
  | (name, item) :: rest => (name, ofTree item) :: ofEntries rest

end

mutual

/-- Every object of the document has each name once, and every number can be read. -/
def Legible : Tree → Prop
  | .int n => n.natAbs ≤ maxSafeInteger
  | .arr items => LegibleItems items
  | .obj entries => (entries.map Prod.fst).Nodup ∧ LegibleEntries entries
  | _ => True

def LegibleItems : List Tree → Prop
  | [] => True
  | item :: rest => Legible item ∧ LegibleItems rest

def LegibleEntries : List (String × Tree) → Prop
  | [] => True
  | (_, item) :: rest => Legible item ∧ LegibleEntries rest

end

/-! ### Reading -/

theorem decodeUtf8_toUTF8 (s : String) : decodeUtf8 s.toUTF8 = some s.toList := by
  have valid : s.toUTF8.IsValidUTF8 := s.isValidUTF8
  unfold decodeUtf8 String.fromUTF8?
  rw [dif_pos valid]
  rfl

theorem digit_of_isDigit {c : Char} (digit : Formats.Json.isDigit c = true) :
    Decimal.digit c = some (c.toNat - '0'.toNat) := by
  simp only [Formats.Json.isDigit, Bool.and_eq_true, decide_eq_true_eq] at digit
  exact if_pos digit

theorem readDigits_of_digits {cs : List Char} (all : ∀ c ∈ cs, Formats.Json.isDigit c = true) :
    Decimal.readDigits cs = (cs.map fun c => c.toNat - '0'.toNat, []) := by
  induction cs with
  | nil => rfl
  | cons c cs ih =>
    have here := digit_of_isDigit (all c List.mem_cons_self)
    have there := ih fun d member => all d (List.mem_cons_of_mem c member)
    simp [Decimal.readDigits, here, there]

theorem natOfDigits_toDigits (n : Nat) :
    Decimal.natOfDigits ((Nat.toDigits 10 n).map fun c => c.toNat - '0'.toNat) = n := by
  have value := Nat.ofDigitChars_ten_toDigits (n := n)
  rw [Nat.ofDigitChars_eq_foldl] at value
  rw [Decimal.natOfDigits, List.foldl_map]
  exact value

theorem readInt_toDigits (n : Nat) : Decimal.readInt (Nat.toDigits 10 n) = some (n : Int) ∧
    Decimal.readInt ('-' :: Nat.toDigits 10 n) = some (-n : Int) := by
  have read := readDigits_of_digits fun c => isDigit_of_mem_toDigits (n := n) (c := c)
  have value := natOfDigits_toDigits n
  have digits := fun c => isDigit_of_mem_toDigits (n := n) (c := c)
  obtain ⟨c, tail, numeral⟩ : ∃ c tail, Nat.toDigits 10 n = c :: tail :=
    List.exists_cons_of_ne_nil Nat.toDigits_ne_nil
  rw [numeral] at read value digits ⊢
  -- A digit is not a sign.
  have other : ∀ d, Formats.Json.isDigit d = false → c ≠ d := by
    rintro d letter rfl
    rw [digits c List.mem_cons_self] at letter
    cases letter
  have unsigned : Decimal.readSign (c :: tail) = (false, c :: tail) := by
    rw [Decimal.readSign]
    · exact fun _ minus => other '-' (by decide) (List.cons.inj minus).1
    · exact fun _ plus => other '+' (by decide) (List.cons.inj plus).1
  rw [List.map_cons] at read value
  constructor
  · simp only [Decimal.readInt, unsigned, read, value]
    rfl
  · simp only [Decimal.readInt, Decimal.readSign, read, value]
    rfl

theorem readInt_toString (n : Int) : Decimal.readInt (toString n).toList = some n := by
  rw [toList_toString]
  by_cases natural : 0 ≤ n
  · rw [if_pos natural, (readInt_toDigits n.toNat).1, Int.toNat_of_nonneg natural]
  · rw [if_neg natural, (readInt_toDigits (-n).toNat).2, Int.toNat_of_nonneg (by omega), neg_neg]

theorem length_toDigits_of_safe {n : Nat} (safe : (n : Int) ≤ maxSafeInteger) :
    (Nat.toDigits 10 n).length ≤ 16 := by
  rw [Nat.length_toDigits_le_iff (by decide) (by decide)]
  unfold maxSafeInteger at safe
  omega

theorem readNumeral_toString {n : Int} (safe : n.natAbs ≤ maxSafeInteger) (refusal : String) :
    readNumeral refusal (toString n).toList = .ok (.int n : ManifestValue φ) := by
  have short : ¬ maxIntDigits < ((toString n).toList.filter (· != '-')).length := by
    have fits := List.length_filter_le (· != '-') (toString n).toList
    have digits : (toString n).toList.length ≤ 17 := by
      rw [toList_toString]
      split
      · have natural := length_toDigits_of_safe (n := n.toNat) (by omega)
        omega
      · have negative := length_toDigits_of_safe (n := (-n).toNat) (by omega)
        rw [List.length_cons]
        omega
    unfold maxIntDigits
    omega
  rw [readNumeral, if_neg short, readInt_toString]

theorem uniquePairs_of_nodup (pairs : List (String × ManifestValue φ)) (object : ManifestObject φ)
    (distinct : ((object ++ pairs).map Prod.fst).Nodup) :
    uniquePairs pairs object = .ok (object ++ pairs) := by
  induction pairs generalizing object with
  | nil => simp [uniquePairs]
  | cons entry rest ih =>
    obtain ⟨name, value⟩ := entry
    have absent : object.any (fun entry => entry.1 == name) = false := by
      rw [List.any_eq_false]
      intro entry member
      rw [List.map_append, List.map_cons] at distinct
      have apart := List.disjoint_of_nodup_append distinct (List.mem_map_of_mem member)
      intro same
      exact apart (by rw [beq_iff_eq.mp same]; exact List.mem_cons_self)
    have put : Dict.put object name value = object ++ [(name, value)] := by
      simp [Dict.put, absent]
    rw [uniquePairs, Dict.get?_eq_none absent, put]
    have further := ih (object ++ [(name, value)]) (by simpa using distinct)
    simpa [check] using further

theorem names_ofEntries (entries : List (String × Tree)) :
    (ManifestValue.ofEntries entries : List (String × ManifestValue φ)).map Prod.fst =
      entries.map Prod.fst := by
  induction entries with
  | nil => rfl
  | cons entry rest ih =>
    obtain ⟨name, item⟩ := entry
    rw [ManifestValue.ofEntries, List.map_cons, List.map_cons, ih]

mutual

theorem build_of_legible : (tree : Tree) → Legible tree →
    manifestHooks.build tree = .ok (ManifestValue.ofTree tree : ManifestValue φ)
  | .null, _ => rfl
  | .bool _, _ => rfl
  | .int _, safe => readNumeral_toString safe _
  | .str _, _ => rfl
  | .arr items, legible => by
    rw [Hooks.build, buildItems_of_legible items legible]
    rfl
  | .obj entries, ⟨distinct, legible⟩ => by
    rw [Hooks.build, buildEntries_of_legible entries legible, Except.ok_bind]
    have unique := uniquePairs_of_nodup (ManifestValue.ofEntries entries : ManifestObject φ) []
      (by simpa [names_ofEntries] using distinct)
    simp [manifestHooks, unique, Except.map, ManifestValue.ofTree]

theorem buildItems_of_legible : (items : List Tree) → LegibleItems items →
    manifestHooks.buildItems items = .ok (ManifestValue.ofItems items : List (ManifestValue φ))
  | [], _ => rfl
  | item :: rest, ⟨here, there⟩ => by
    rw [Hooks.buildItems, build_of_legible item here, buildItems_of_legible rest there]
    rfl

theorem buildEntries_of_legible : (entries : List (String × Tree)) → LegibleEntries entries →
    manifestHooks.buildEntries entries =
      .ok (ManifestValue.ofEntries entries : List (String × ManifestValue φ))
  | [], _ => rfl
  | (name, item) :: rest, ⟨here, there⟩ => by
    rw [Hooks.buildEntries, build_of_legible item here, buildEntries_of_legible rest there]
    rfl

end

/-- Every spelling of a document, with blanks around it, is read back to the document. -/
theorem loadDocument_of_spells {before text after : List Char}
    {raw : ByteArray} (decoded : decodeUtf8 raw = some (before ++ text ++ after))
    (small : raw.size ≤ maxJsonBytes) (blankBefore : Blank before)
    (spelled : Spells (.obj entries) text) (blankAfter : Blank after)
    (legible : Legible (.obj entries))
    (sound : checkValue (.obj (ManifestValue.ofEntries entries) : ManifestValue φ) 0 = .ok ()) :
    loadDocument raw = .ok (ManifestValue.ofEntries entries : ManifestObject φ) := by
  have read := manifestHooks.decode_of_spells blankBefore spelled blankAfter
    (build_of_legible (φ := φ) _ legible)
  rw [ManifestValue.ofTree] at read
  simp only [loadDocument, check, small, decoded, read]
  simp [sound, bind, Except.bind]

/-! ### Writing -/

theorem hex4_control : ∀ n < 0x20, hex4 ['0', '0', hexDigit (n / 16), hexDigit (n % 16)] =
    some (n, []) := by
  decide

theorem spells_escapeChar (c : Char) : SpellsChar c (escapeChar c) := by
  unfold escapeChar
  split_ifs with quote backslash newline return_ tab feed back control
  · exact .escape (by rw [quote]; rfl)
  · exact .escape (by rw [backslash]; rfl)
  · exact .escape (by rw [newline]; rfl)
  · exact .escape (by rw [return_]; rfl)
  · exact .escape (by rw [tab]; rfl)
  · have form : simpleEscape 'f' = some (Char.ofNat 12) := rfl
    exact .escape (by rw [form, ← feed, Char.ofNat_toNat])
  · have backspace : simpleEscape 'b' = some (Char.ofNat 8) := rfl
    exact .escape (by rw [backspace, ← back, Char.ofNat_toNat])
  · exact .unicode (hex4_control c.toNat control)
  · exact .plain (Nat.not_lt.mp control) quote backslash

theorem spells_escaped (cs : List Char) : SpellsChars cs (cs.flatMap escapeChar) := by
  induction cs with
  | nil => rfl
  | cons c cs ih => exact ⟨_, _, spells_escapeChar c, ih, List.flatMap_cons⟩

theorem spells_quoted (s : String) : SpellsString s (quoted s).toList :=
  ⟨_, spells_escaped s.toList, by simp [quoted]⟩

theorem blank_nil : Blank [] := nofun

variable [Floating φ]

mutual

/-- `json.dumps` writes one of the spellings, without blanks. -/
theorem spells_dumps : (tree : Tree) →
    Spells tree (dumps (ManifestValue.ofTree tree : ManifestValue φ)).toList
  | .null => rfl
  | .bool true => rfl
  | .bool false => rfl
  | .int _ => rfl
  | .str value => spells_quoted value
  | .arr items => ⟨_, spells_dumpsItems items, by simp [ManifestValue.ofTree, dumps]⟩
  | .obj entries => ⟨_, spells_dumpsEntries entries, by simp [ManifestValue.ofTree, dumps]⟩

theorem spells_dumpsItems : (items : List Tree) →
    SpellsItems items (dumpsItems (ManifestValue.ofItems items : List (ManifestValue φ))).toList
  | [] => blank_nil
  | [item] => ⟨[], _, [], [], blank_nil, spells_dumps item, blank_nil, rfl, by
      simp [ManifestValue.ofItems, dumpsItems]⟩
  | item :: next :: more => ⟨[], _, [], _, blank_nil, spells_dumps item, blank_nil,
      ⟨_, spells_dumpsItems (next :: more), rfl⟩, by
      simp [ManifestValue.ofItems, dumpsItems]⟩

theorem spells_dumpsEntries : (entries : List (String × Tree)) →
    SpellsEntries entries
      (dumpsEntries (ManifestValue.ofEntries entries : List (String × ManifestValue φ))).toList
  | [] => blank_nil
  | [(name, item)] => ⟨[], _, _, _, [], [], blank_nil, spells_quoted name,
      ⟨[], [], blank_nil, blank_nil, rfl⟩, spells_dumps item, blank_nil, rfl, by
      simp [ManifestValue.ofEntries, dumpsEntries]⟩
  | (name, item) :: next :: more => ⟨[], _, _, _, [], _, blank_nil, spells_quoted name,
      ⟨[], [], blank_nil, blank_nil, rfl⟩, spells_dumps item, blank_nil,
      ⟨_, spells_dumpsEntries (next :: more), rfl⟩, by
      simp [ManifestValue.ofEntries, dumpsEntries]⟩

end

theorem loadDocument_dumps
    (small : (dumps (.obj (ManifestValue.ofEntries entries) : ManifestValue φ)).toUTF8.size ≤
      maxJsonBytes) (legible : Legible (.obj entries))
    (sound : checkValue (.obj (ManifestValue.ofEntries entries) : ManifestValue φ) 0 = .ok ()) :
    loadDocument (dumps (.obj (ManifestValue.ofEntries entries) : ManifestValue φ)).toUTF8 =
      .ok (ManifestValue.ofEntries entries : ManifestObject φ) := by
  refine loadDocument_of_spells ?_ small blank_nil (spells_dumps (φ := φ) (.obj entries)) blank_nil
    legible sound
  rw [decodeUtf8_toUTF8, ManifestValue.ofTree, List.append_nil, List.nil_append]

end TradingLab

import TradingLab.Formats.Json
import Mathlib.Data.Option.Basic
import Mathlib.Data.List.TakeWhile

/-!
# Spelling JSON

The texts that denote a document without floats. The decoder reads each of them to the value that
its hooks build from the document. A scanner gets a text that spells a value and is followed by
something that does not go on with a number, and leaves what follows; the length bounds the fuel.
-/
namespace Formats.Json

inductive Tree
  | null
  | bool (value : Bool)
  | int (value : Int)
  | str (value : String)
  | arr (items : List Tree)
  | obj (entries : List (String × Tree))

/-! ### What a text may look like -/

def Blank (cs : List Char) : Prop :=
  ∀ c ∈ cs, isBlank c = true

inductive SpellsChar : Char → List Char → Prop
  | plain {c : Char} (printable : 0x20 ≤ c.toNat) (notQuote : c ≠ '"') (notEscape : c ≠ '\\') :
    SpellsChar c [c]
  | escape {c name : Char} (escaped : simpleEscape name = some c) : SpellsChar c ['\\', name]
  | unicode {c : Char} {digits : List Char} (code : hex4 digits = some (c.toNat, [])) :
    SpellsChar c ('\\' :: 'u' :: digits)
  | pair {c : Char} {first second : List Char} {high low : Nat}
    (firstCode : hex4 first = some (high, []))
    (secondCode : hex4 second = some (low, [])) (isHigh : 0xd800 ≤ high ∧ high ≤ 0xdbff)
    (isLow : 0xdc00 ≤ low ∧ low ≤ 0xdfff)
    (code : c = Char.ofNat (0x10000 + (high - 0xd800) * 0x400 + (low - 0xdc00))) :
    SpellsChar c ('\\' :: 'u' :: first ++ '\\' :: 'u' :: second)

def SpellsChars : List Char → List Char → Prop
  | [], text => text = []
  | c :: cs, text => ∃ head tail, SpellsChar c head ∧ SpellsChars cs tail ∧ text = head ++ tail

def SpellsString (s : String) (text : List Char) : Prop :=
  ∃ body, SpellsChars s.toList body ∧ text = '"' :: body ++ ['"']

def SpellsColon (text : List Char) : Prop :=
  ∃ left right, Blank left ∧ Blank right ∧ text = left ++ ':' :: right

mutual

def Spells : Tree → List Char → Prop
  | .null, text => text = "null".toList
  | .bool true, text => text = "true".toList
  | .bool false, text => text = "false".toList
  | .int n, text => text = (toString n).toList
  | .str s, text => SpellsString s text
  | .arr items, text => ∃ body, SpellsItems items body ∧ text = '[' :: body ++ [']']
  | .obj entries, text => ∃ body, SpellsEntries entries body ∧ text = '\x7b' :: body ++ ['\x7d']

def SpellsItems : List Tree → List Char → Prop
  | [], text => Blank text
  | item :: rest, text => ∃ before value after tail,
    Blank before ∧ Spells item value ∧ Blank after ∧
      (if rest = [] then tail = [] else ∃ more, SpellsItems rest more ∧ tail = ',' :: more) ∧
      text = before ++ value ++ after ++ tail

def SpellsEntries : List (String × Tree) → List Char → Prop
  | [], text => Blank text
  | (name, item) :: rest, text => ∃ before key colon value after tail,
    Blank before ∧ SpellsString name key ∧ SpellsColon colon ∧ Spells item value ∧ Blank after ∧
      (if rest = [] then tail = [] else ∃ more, SpellsEntries rest more ∧ tail = ',' :: more) ∧
      text = before ++ (key ++ colon ++ value) ++ after ++ tail

end

section Build
variable {ε α : Type} (hooks : Hooks ε α)

mutual

def Hooks.build : Tree → Except ε α
  | .null => .ok hooks.null
  | .bool b => .ok (hooks.bool b)
  | .int n => hooks.int (toString n).toList
  | .str s => .ok (hooks.str s)
  | .arr items => do
    let values ← Hooks.buildItems items
    .ok (hooks.arr values)
  | .obj entries => do
    let pairs ← Hooks.buildEntries entries
    hooks.obj pairs

def Hooks.buildItems : List Tree → Except ε (List α)
  | [] => .ok []
  | item :: rest => do
    let value ← Hooks.build item
    let values ← Hooks.buildItems rest
    .ok (value :: values)

def Hooks.buildEntries : List (String × Tree) → Except ε (List (String × α))
  | [] => .ok []
  | (name, item) :: rest => do
    let value ← Hooks.build item
    let pairs ← Hooks.buildEntries rest
    .ok ((name, value) :: pairs)

end

end Build

variable {blanks digits text body rest : List Char} {c : Char} {n : Nat}

theorem skip_append (blank : Blank blanks) (rest : List Char) :
    skip (blanks ++ rest) = skip rest := by
  induction blanks with
  | nil => rfl
  | cons c blanks ih =>
    have here : isBlank c = true := blank c List.mem_cons_self
    have there := ih fun d member => blank d (List.mem_cons_of_mem c member)
    simpa [skip, here] using there

theorem skip_cons (visible : isBlank c = false) (rest : List Char) :
    skip (c :: rest) = c :: rest := by
  simp [skip, visible]

/-! ### Strings -/

theorem hex4_append (code : hex4 digits = some (n, []))
    (rest : List Char) : hex4 (digits ++ rest) = some (n, rest) := by
  match digits with
  | [] | [_] | [_, _] | [_, _, _] => simp [hex4] at code
  | a :: b :: c :: d :: more =>
    simp only [hex4, List.cons_append, Option.bind_eq_bind, Option.bind_eq_some_iff] at code ⊢
    obtain ⟨va, ha, vb, hb, vc, hc, vd, hd, same⟩ := code
    obtain ⟨rfl, rfl⟩ := Prod.mk.inj (Option.some.inj same)
    exact ⟨va, ha, vb, hb, vc, hc, vd, hd, rfl⟩

theorem toNat_not_surrogate (c : Char) : ¬ (0xd800 ≤ c.toNat ∧ c.toNat ≤ 0xdfff) := by
  have valid := c.valid
  simp only [UInt32.isValidChar, Nat.isValidChar] at valid
  change _ ∨ _ at valid
  unfold Char.toNat
  omega

theorem unicodeEscape_of_code (code : hex4 digits = some (c.toNat, [])) (rest : List Char) :
    unicodeEscape (digits ++ rest) = some (c, rest) := by
  have valid := toNat_not_surrogate c
  have notHigh : ¬ (0xd800 ≤ c.toNat ∧ c.toNat ≤ 0xdbff) := by omega
  have notLow : ¬ (0xdc00 ≤ c.toNat ∧ c.toNat ≤ 0xdfff) := by omega
  simp [unicodeEscape, hex4_append code, notHigh, notLow, Char.ofNat_toNat]

theorem unicodeEscape_of_pair {first second : List Char} {high low : Nat}
    (firstCode : hex4 first = some (high, [])) (secondCode : hex4 second = some (low, []))
    (isHigh : 0xd800 ≤ high ∧ high ≤ 0xdbff) (isLow : 0xdc00 ≤ low ∧ low ≤ 0xdfff)
    (rest : List Char) :
    unicodeEscape (first ++ '\\' :: 'u' :: second ++ rest) =
      some (Char.ofNat (0x10000 + (high - 0xd800) * 0x400 + (low - 0xdc00)), rest) := by
  simp [unicodeEscape, hex4_append firstCode, hex4_append secondCode, isHigh, isLow]

theorem stringBody_char (spelled : SpellsChar c text) (fuel : Nat) (rest : List Char) :
    stringBody (fuel + 1) (text ++ rest) =
      (stringBody fuel rest).map fun (tail, rest) => (c :: tail, rest) := by
  cases spelled with
  | plain printable notQuote notEscape =>
    rw [List.singleton_append, stringBody]
    · cases stringBody fuel rest <;> simp [guard, printable, notEscape]
    · exact notQuote
    · exact fun _ backslash _ => notEscape backslash
    · exact fun _ _ backslash _ => notEscape backslash
  | escape escaped =>
    rw [List.cons_append, List.singleton_append, stringBody]
    · cases stringBody fuel rest <;> simp [escaped]
    · rintro rfl
      simp [simpleEscape] at escaped
  | unicode code =>
    rw [List.cons_append, List.cons_append, stringBody, unicodeEscape_of_code code]
    cases body : stringBody fuel rest <;> simp [body]
  | pair firstCode secondCode isHigh isLow code =>
    have read := unicodeEscape_of_pair firstCode secondCode isHigh isLow rest
    simp only [List.cons_append, List.append_assoc] at read ⊢
    rw [stringBody, read, code]
    cases body : stringBody fuel rest <;> simp [body]

theorem SpellsChar.length_pos (spelled : SpellsChar c text) :
    0 < text.length := by
  cases spelled <;> simp

theorem stringBody_of_spells {cs : List Char} (spelled : SpellsChars cs text) {fuel : Nat}
    (enough : text.length < fuel) (rest : List Char) :
    stringBody fuel (text ++ '"' :: rest) = some (cs, rest) := by
  induction cs generalizing text fuel with
  | nil =>
    obtain rfl : text = [] := spelled
    cases fuel with
    | zero => cases enough
    | succ fuel => rfl
  | cons c cs ih =>
    obtain ⟨head, tail, here, there, rfl⟩ := spelled
    have taken := here.length_pos
    rw [List.length_append] at enough
    cases fuel with
    | zero => omega
    | succ fuel =>
      rw [List.append_assoc, stringBody_char here, ih there (by omega)]
      rfl

theorem string_of_spells {s : String} (spelled : SpellsChars s.toList body)
    (rest : List Char) : string (body ++ '"' :: rest) = some (s, rest) := by
  have enough : body.length < (body ++ '"' :: rest).length + 1 := by
    rw [List.length_append]
    omega
  have scanned := stringBody_of_spells spelled enough rest
  simp only [string, scanned, Option.map_some, String.ofList_toList]

/-! ### Numbers -/

/-- The text does not go on with a number. -/
def Ends (rest : List Char) : Prop :=
  ∀ c ∈ rest.head?, isDigit c = false ∧ c ≠ '.' ∧ c ≠ 'e' ∧ c ≠ 'E'

theorem isDigit_of_mem_toDigits (member : c ∈ Nat.toDigits 10 n) :
    isDigit c = true := by
  have digit := Nat.isDigit_of_mem_toDigits (by decide) (by decide) member
  simp only [Char.isDigit, Bool.and_eq_true, decide_eq_true_eq] at digit
  simp only [isDigit, Bool.and_eq_true, decide_eq_true_eq]
  exact digit

theorem toDigits_head (positive : 0 < n) : (Nat.toDigits 10 n).head? ≠ some '0' := by
  induction n using Nat.strongRecOn with
  | ind n ih =>
    by_cases small : n < 10
    · have digit : ∀ d < 10, 0 < d → [Nat.digitChar d].head? ≠ some '0' := by decide
      rw [Nat.toDigits_of_lt_base small]
      exact digit n small positive
    · have leading := ih (n / 10) (by omega) (by omega)
      obtain ⟨c, tail, numeral⟩ : ∃ c tail, Nat.toDigits 10 (n / 10) = c :: tail :=
        List.exists_cons_of_ne_nil Nat.toDigits_ne_nil
      rw [Nat.toDigits_of_base_le (by decide) (by omega), numeral]
      rw [numeral] at leading
      exact leading

theorem span_digits (all : ∀ c ∈ digits, isDigit c = true) (ends : Ends rest) :
    (digits ++ rest).takeWhile isDigit = digits ∧ (digits ++ rest).dropWhile isDigit = rest := by
  have stops : rest.takeWhile isDigit = [] ∧ rest.dropWhile isDigit = rest := by
    cases rest with
    | nil => exact ⟨rfl, rfl⟩
    | cons c rest =>
      have stop := (ends c rfl).1
      simp [stop]
  rw [List.takeWhile_append_of_pos all, List.dropWhile_append_of_pos all, stops.1, stops.2]
  simp

theorem wholePart_of_nat (n : Nat) (ends : Ends rest) :
    wholePart (Nat.toDigits 10 n ++ rest) = some (Nat.toDigits 10 n, rest) := by
  rcases Nat.eq_zero_or_pos n with rfl | positive
  · simp [wholePart]
  · have head := toDigits_head positive
    have digits := fun c => isDigit_of_mem_toDigits (n := n) (c := c)
    cases numeral : Nat.toDigits 10 n with
    | nil => exact absurd numeral Nat.toDigits_ne_nil
    | cons c tail =>
      rw [numeral] at head digits
      have spanned := span_digits (fun d member => digits d (List.mem_cons_of_mem c member)) ends
      rw [List.cons_append, wholePart]
      · simp [digits c List.mem_cons_self, spanned]
      · rintro rfl
        exact head rfl

theorem fraction_of_ends (ends : Ends rest) : fraction rest = ([], rest) := by
  match rest with
  | [] => rfl
  | c :: rest =>
    rw [fraction]
    rintro d more point
    exact absurd (List.cons.inj point).1 (ends c rfl).2.1

theorem exponent_of_ends (ends : Ends rest) : exponent rest = ([], rest) := by
  match rest with
  | [] => rfl
  | c :: rest =>
    obtain ⟨-, -, small, large⟩ := ends c rfl
    simp [exponent, small, large]

theorem toList_toString (n : Int) : (toString n).toList =
    if 0 ≤ n then Nat.toDigits 10 n.toNat else '-' :: Nat.toDigits 10 (-n).toNat := by
  change n.repr.toList = _
  rw [Int.repr_eq_if]
  split
  · exact Nat.toList_repr
  · simp [Nat.toList_repr]

theorem number_of_nat (n : Nat) (ends : Ends rest) :
    number (Nat.toDigits 10 n ++ rest) = some (Nat.toDigits 10 n, false, rest) := by
  have whole := wholePart_of_nat n ends
  have digits := fun c => isDigit_of_mem_toDigits (n := n) (c := c)
  cases numeral : Nat.toDigits 10 n with
  | nil => exact absurd numeral Nat.toDigits_ne_nil
  | cons c tail =>
    rw [numeral, List.cons_append] at whole
    rw [numeral] at digits
    have unsigned : c ≠ '-' := by
      rintro rfl
      exact absurd (digits '-' List.mem_cons_self) (by decide)
    unfold number
    split
    · rename_i sign unsigned' matched
      split at matched
      · exact absurd (List.cons.inj ‹_›).1 unsigned
      · cases matched
        simp [whole, fraction_of_ends ends, exponent_of_ends ends]

theorem number_of_int (n : Int) (ends : Ends rest) :
    number ((toString n).toList ++ rest) = some ((toString n).toList, false, rest) := by
  rw [toList_toString]
  by_cases natural : 0 ≤ n
  · rw [if_pos natural]
    exact number_of_nat n.toNat ends
  · rw [if_neg natural]
    simp [number, wholePart_of_nat _ ends, fraction_of_ends ends, exponent_of_ends ends]

/-! ### Values -/

def Punctuation (c : Char) : Prop :=
  isBlank c = false ∧ isDigit c = false ∧ c ≠ '.' ∧ c ≠ 'e' ∧ c ≠ 'E'

theorem ends_of_blank (blank : Blank blanks) : Ends blanks := by
  cases blanks with
  | nil => exact nofun
  | cons b blanks =>
    rintro d ⟨⟩
    have here : isBlank b = true := blank b List.mem_cons_self
    simp only [isBlank, Bool.or_eq_true, beq_iff_eq] at here
    rcases here with ((rfl | rfl) | rfl) | rfl <;> decide

theorem ends_of_punctuation (blank : Blank blanks)
    (mark : Punctuation c) (rest : List Char) : Ends (blanks ++ c :: rest) := by
  cases blanks with
  | nil =>
    rintro d ⟨⟩
    exact mark.2
  | cons b blanks =>
    rintro d ⟨⟩
    exact ends_of_blank blank b rfl

theorem head_of_int (n : Int) : ∃ c rest, (toString n).toList = c :: rest ∧
    (c = '-' ∨ isDigit c = true) := by
  rw [toList_toString]
  split
  · obtain ⟨c, tail, numeral⟩ : ∃ c tail, Nat.toDigits 10 n.toNat = c :: tail :=
      List.exists_cons_of_ne_nil Nat.toDigits_ne_nil
    refine ⟨c, tail, numeral, .inr (isDigit_of_mem_toDigits (n := n.toNat) ?_)⟩
    rw [numeral]
    exact List.mem_cons_self
  · exact ⟨'-', _, rfl, .inl rfl⟩

theorem not_digit {d : Char} (digit : c = '-' ∨ isDigit c = true) (other : d ≠ '-')
    (letter : isDigit d = false) : c ≠ d := by
  rintro rfl
  rcases digit with minus | digit
  · exact other minus
  · rw [letter] at digit
    cases digit

theorem head_of_spells {tree : Tree} (spelled : Spells tree text) :
    ∃ c rest, text = c :: rest ∧ isBlank c = false ∧ c ≠ ']' ∧ c ≠ Char.ofNat 0xfeff := by
  cases tree with
  | null => exact ⟨_, _, spelled, by decide⟩
  | bool value =>
    cases value with
    | true => exact ⟨_, _, spelled, by decide⟩
    | false => exact ⟨_, _, spelled, by decide⟩
  | int n =>
    obtain ⟨c, rest, numeral, digit⟩ := head_of_int n
    have other : ∀ d, d ≠ '-' → isDigit d = false → c ≠ d := fun d => not_digit digit
    refine ⟨c, rest, Eq.trans spelled numeral, ?_, other _ (by decide) (by decide),
      other _ (by decide) (by decide)⟩
    simp only [isBlank, Bool.or_eq_false_iff, beq_eq_false_iff_ne]
    exact ⟨⟨⟨other _ (by decide) (by decide), other _ (by decide) (by decide)⟩,
      other _ (by decide) (by decide)⟩, other _ (by decide) (by decide)⟩
  | str value =>
    obtain ⟨body, -, rfl⟩ := spelled
    exact ⟨_, _, rfl, by decide⟩
  | arr items =>
    obtain ⟨body, -, rfl⟩ := spelled
    exact ⟨_, _, rfl, by decide⟩
  | obj entries =>
    obtain ⟨body, -, rfl⟩ := spelled
    exact ⟨_, _, rfl, by decide⟩

section Scanners
variable {ε α : Type} {bad : ε} {close : Char} {part : Scanner ε α} {n : Nat}
  {value after rest : List Char} {a : α} {as : List α}

theorem separated_last
    (read : part (value ++ (after ++ close :: rest)) = .ok (a, after ++ close :: rest))
    (blank : Blank after) (visible : isBlank close = false) :
    separated bad close part (n + 1) (value ++ (after ++ close :: rest)) = .ok ([a], rest) := by
  simp [separated, read, skip_append blank, skip_cons visible, bind, Except.bind]

theorem separated_more {more : List Char}
    (read : part (value ++ (after ++ ',' :: more)) = .ok (a, after ++ ',' :: more))
    (blank : Blank after) (other : close ≠ ',')
    (tail : separated bad close part n (skip more) = .ok (as, rest)) :
    separated bad close part (n + 1) (value ++ (after ++ ',' :: more)) = .ok (a :: as, rest) := by
  have visible : isBlank ',' = false := by decide
  simp [separated, read, skip_append blank, skip_cons visible, bind, Except.bind, other.symm, tail]

theorem member_of_spells {name : String} {key colon : List Char}
    (named : SpellsString name key) (middle : SpellsColon colon) {tree : Tree}
    (spelled : Spells tree value) (read : part (value ++ rest) = .ok (a, rest)) :
    member bad part (key ++ colon ++ value ++ rest) = .ok ((name, a), rest) := by
  obtain ⟨body, letters, rfl⟩ := named
  obtain ⟨left, right, blankLeft, blankRight, rfl⟩ := middle
  obtain ⟨c, tail, rfl, visible, -⟩ := head_of_spells spelled
  have colonVisible : isBlank ':' = false := by decide
  simp only [List.cons_append, List.append_assoc, List.nil_append] at read ⊢
  simp only [member, string_of_spells letters, skip_append blankLeft, skip_cons colonVisible,
    skip_append blankRight, skip_cons visible, read]
  rfl

variable {body : List Char}

theorem enclosed_none (blank : Blank body) (visible : isBlank close = false)
    (rest : List Char) : enclosed bad close part (body ++ close :: rest) = .ok ([], rest) := by
  simp [enclosed, skip_append blank, skip_cons visible]

theorem enclosed_some {tail : List Char}
    (first : skip (body ++ close :: rest) = c :: tail) (other : c ≠ close)
    (read : separated bad close part ((body ++ close :: rest).length + 1) (c :: tail) =
      .ok (as, rest)) : enclosed bad close part (body ++ close :: rest) = .ok (as, rest) := by
  simp only [enclosed, first, if_neg other, read]

end Scanners

/-! ### Documents -/

theorem punctuation_comma : Punctuation ',' := by
  unfold Punctuation
  decide

theorem punctuation_bracket : Punctuation ']' := by
  unfold Punctuation
  decide

theorem punctuation_brace : Punctuation '\x7d' := by
  unfold Punctuation
  decide

theorem skip_of_items {item : Tree} {more : List Tree}
    (spelled : SpellsItems (item :: more) body) (rest : List Char) :
    ∃ c tail, skip (body ++ ']' :: rest) = c :: tail ∧ c ≠ ']' := by
  obtain ⟨before, value, after, tail, blankBefore, spelled, -, -, rfl⟩ := spelled
  obtain ⟨c, letters, rfl, visible, other, -⟩ := head_of_spells spelled
  simp only [List.append_assoc, List.cons_append, skip_append blankBefore, skip_cons visible]
  exact ⟨c, _, rfl, other⟩

theorem skip_of_entries {entry : String × Tree} {more : List (String × Tree)}
    (spelled : SpellsEntries (entry :: more) body) (rest : List Char) :
    ∃ c tail, skip (body ++ '\x7d' :: rest) = c :: tail ∧ c ≠ '\x7d' := by
  obtain ⟨name, item⟩ := entry
  obtain ⟨before, key, colon, value, after, tail, blankBefore, ⟨letters, -, rfl⟩, -, -, -, -,
    rfl⟩ :=
    spelled
  have visible : isBlank '"' = false := by decide
  simp only [List.append_assoc, List.cons_append, skip_append blankBefore, skip_cons visible]
  exact ⟨'"', _, rfl, by decide⟩

section Documents
variable {ε α : Type} (hooks : Hooks ε α) {a : α}

theorem Hooks.atom_of_int (n : Int) (ends : Ends rest)
    (built : hooks.int (toString n).toList = .ok a) :
    hooks.atom ((toString n).toList ++ rest) = .ok (a, rest) := by
  have scanned := number_of_int n ends
  obtain ⟨c, tail, numeral, digit⟩ := head_of_int n
  rw [numeral] at scanned built ⊢
  have noWord : ∀ word : String, (∃ d letters, word.toList = d :: letters ∧ d ≠ '-' ∧
      isDigit d = false) → after word (c :: tail ++ rest) = none := by
    rintro word ⟨d, letters, spelled, other, letter⟩
    simp [after, spelled, (not_digit digit other letter).symm]
  have notNull := noWord "null" ⟨_, _, rfl, by decide, by decide⟩
  have notTrue := noWord "true" ⟨_, _, rfl, by decide, by decide⟩
  have notFalse := noWord "false" ⟨_, _, rfl, by decide, by decide⟩
  simp only [Hooks.atom, Hooks.orWord, notNull, notTrue, notFalse, scanned]
  simp [built, Except.map]

mutual

theorem Hooks.value_of_spells : (tree : Tree) → ∀ {text rest : List Char} {fuel : Nat} {a : α},
    Spells tree text → hooks.build tree = .ok a → text.length < fuel → Ends rest →
    hooks.value fuel (text ++ rest) = .ok (a, rest)
  | tree, text, rest, 0, a => fun _ _ enough _ => absurd enough (Nat.not_lt_zero _)
  | .null, text, rest, fuel + 1, a => by
    rintro rfl ⟨⟩ - -
    simp [Hooks.value, Hooks.atom, Hooks.orWord, after, Except.map]
  | .bool value, text, rest, fuel + 1, a => by
    rintro spelled built - -
    cases built
    cases value with
    | true =>
      obtain rfl : text = "true".toList := spelled
      simp [Hooks.value, Hooks.atom, Hooks.orWord, after, Except.map]
    | false =>
      obtain rfl : text = "false".toList := spelled
      simp [Hooks.value, Hooks.atom, Hooks.orWord, after, Except.map]
  | .int n, text, rest, fuel + 1, a => by
    rintro spelled built - ends
    obtain rfl : text = (toString n).toList := spelled
    have atom := hooks.atom_of_int n ends built
    obtain ⟨c, tail, numeral, digit⟩ := head_of_int n
    rw [numeral, List.cons_append] at atom ⊢
    rw [Hooks.value]
    · exact atom
    · rintro _ ⟨rfl, -⟩
      exact not_digit digit (by decide) (by decide) rfl
    · rintro _ ⟨rfl, -⟩
      exact not_digit digit (by decide) (by decide) rfl
    · rintro _ ⟨rfl, -⟩
      exact not_digit digit (by decide) (by decide) rfl
  | .str value, text, rest, fuel + 1, a => by
    rintro ⟨body, letters, rfl⟩ ⟨⟩ - -
    simp [Hooks.value, string_of_spells letters]
  | .arr items, text, rest, fuel + 1, a => by
    rintro ⟨body, spelled, rfl⟩ built enough -
    obtain ⟨values, builtItems, same⟩ := Except.bind_ok_iff.mp built
    cases same
    have shorter : body.length < fuel := by
      simp only [List.length_append, List.length_cons, List.length_nil] at enough
      omega
    have read : enclosed hooks.malformed ']' (hooks.value fuel) (body ++ ']' :: rest) =
        .ok (values, rest) := by
      cases items with
      | nil =>
        cases builtItems
        exact enclosed_none spelled (by decide) rest
      | cons item more =>
        obtain ⟨c, tail, first, other⟩ := skip_of_items spelled rest
        refine enclosed_some first other ?_
        rw [← first]
        exact Hooks.items_of_spells (item :: more) rest (List.cons_ne_nil _ _) spelled builtItems
          shorter (by rw [List.length_append]; omega)
    simp [Hooks.value, read, bind, Except.bind]
  | .obj entries, text, rest, fuel + 1, a => by
    rintro ⟨body, spelled, rfl⟩ built enough -
    obtain ⟨pairs, builtEntries, object⟩ := Except.bind_ok_iff.mp built
    have shorter : body.length < fuel := by
      simp only [List.length_append, List.length_cons, List.length_nil] at enough
      omega
    have read : enclosed hooks.malformed '\x7d' (member hooks.malformed (hooks.value fuel))
        (body ++ '\x7d' :: rest) = .ok (pairs, rest) := by
      cases entries with
      | nil =>
        cases builtEntries
        exact enclosed_none spelled (by decide) rest
      | cons entry more =>
        obtain ⟨c, tail, first, other⟩ := skip_of_entries spelled rest
        refine enclosed_some first other ?_
        rw [← first]
        exact Hooks.entries_of_spells (entry :: more) rest (List.cons_ne_nil _ _) spelled
          builtEntries shorter (by rw [List.length_append]; omega)
    simp [Hooks.value, read, object, bind, Except.bind]

theorem Hooks.items_of_spells : (items : List Tree) →
    ∀ {body : List Char} (rest : List Char) {fuel n : Nat} {values : List α},
    items ≠ [] → SpellsItems items body → hooks.buildItems items = .ok values →
    body.length < fuel → body.length < n →
    separated hooks.malformed ']' (hooks.value fuel) n (skip (body ++ ']' :: rest)) =
      .ok (values, rest)
  | [], _, _, _, _, _ => fun some => absurd rfl some
  | _ :: _, _, _, _, 0, _ => fun _ _ _ _ none => absurd none (Nat.not_lt_zero _)
  | item :: more, body, rest, fuel, n + 1, values => by
    rintro - ⟨before, value, after, tail, blankBefore, spelled, blankAfter, next, rfl⟩ built enough
      turns
    obtain ⟨a, builtItem, built⟩ := Except.bind_ok_iff.mp built
    obtain ⟨as, builtMore, same⟩ := Except.bind_ok_iff.mp built
    cases same
    simp only [List.length_append] at enough turns
    obtain ⟨c, letters, head, visible, -⟩ := head_of_spells spelled
    have taken : 0 < value.length := by
      rw [head]
      exact Nat.succ_pos _
    have start : ∀ text, skip (before ++ value ++ after ++ text) = value ++ (after ++ text) := by
      intro text
      rw [List.append_assoc, List.append_assoc, skip_append blankBefore, head, List.cons_append,
        skip_cons visible]
    rw [List.append_assoc, start]
    by_cases last : more = []
    · rw [if_pos last] at next
      subst next last
      cases builtMore
      exact separated_last (Hooks.value_of_spells item spelled builtItem (by omega)
        (ends_of_punctuation blankAfter punctuation_bracket rest)) blankAfter (by decide)
    · rw [if_neg last] at next
      obtain ⟨others, spelledMore, rfl⟩ := next
      rw [List.length_cons] at enough turns
      exact separated_more (Hooks.value_of_spells item spelled builtItem (by omega)
        (ends_of_punctuation blankAfter punctuation_comma _)) blankAfter (by decide)
        (Hooks.items_of_spells more rest last spelledMore builtMore (by omega) (by omega))

theorem Hooks.entries_of_spells : (entries : List (String × Tree)) →
    ∀ {body : List Char} (rest : List Char) {fuel n : Nat} {pairs : List (String × α)},
    entries ≠ [] → SpellsEntries entries body → hooks.buildEntries entries = .ok pairs →
    body.length < fuel → body.length < n →
    separated hooks.malformed '\x7d' (member hooks.malformed (hooks.value fuel)) n
      (skip (body ++ '\x7d' :: rest)) = .ok (pairs, rest)
  | [], _, _, _, _, _ => fun some => absurd rfl some
  | _ :: _, _, _, _, 0, _ => fun _ _ _ _ none => absurd none (Nat.not_lt_zero _)
  | (name, item) :: more, body, rest, fuel, n + 1, pairs => by
    rintro - ⟨before, key, colon, value, after, tail, blankBefore, named, middle, spelled,
      blankAfter, next, rfl⟩ built enough turns
    obtain ⟨a, builtItem, built⟩ := Except.bind_ok_iff.mp built
    obtain ⟨as, builtMore, same⟩ := Except.bind_ok_iff.mp built
    cases same
    simp only [List.length_append] at enough turns
    have quote : ∃ letters, key = '"' :: letters := by
      obtain ⟨letters, -, rfl⟩ := named
      exact ⟨_, rfl⟩
    obtain ⟨letters, head⟩ := quote
    have taken : 0 < key.length := by
      rw [head]
      exact Nat.succ_pos _
    have start : ∀ text, skip (before ++ (key ++ colon ++ value) ++ after ++ text) =
        (key ++ colon ++ value) ++ (after ++ text) := by
      intro text
      rw [List.append_assoc, List.append_assoc, skip_append blankBefore, head]
      exact skip_cons (by decide) _
    rw [List.append_assoc, start]
    by_cases last : more = []
    · rw [if_pos last] at next
      subst next last
      cases builtMore
      exact separated_last (member_of_spells named middle spelled (Hooks.value_of_spells item
        spelled builtItem (by omega) (ends_of_punctuation blankAfter punctuation_brace rest)))
        blankAfter (by decide)
    · rw [if_neg last] at next
      obtain ⟨others, spelledMore, rfl⟩ := next
      rw [List.length_cons] at enough turns
      exact separated_more (member_of_spells named middle spelled (Hooks.value_of_spells item
        spelled builtItem (by omega) (ends_of_punctuation blankAfter punctuation_comma _)))
        blankAfter (by decide)
        (Hooks.entries_of_spells more rest last spelledMore builtMore (by omega) (by omega))

end

/-- The decoder reads a spelling of a document, with blanks around it, to what the hooks build
    from the document. -/
theorem Hooks.decode_of_spells {tree : Tree} {before after : List Char}
    (blankBefore : Blank before) (spelled : Spells tree text) (blankAfter : Blank after)
    (built : hooks.build tree = .ok a) : hooks.decode (before ++ text ++ after) = .ok a := by
  obtain ⟨c, letters, head, visible, -, noMark⟩ := head_of_spells spelled
  have start : skip (before ++ text ++ after) = text ++ after := by
    rw [List.append_assoc, skip_append blankBefore, head, List.cons_append, skip_cons visible]
  have unmarked : (before ++ text ++ after).head? ≠ some (Char.ofNat 0xfeff) := by
    cases before with
    | nil =>
      rw [head]
      exact fun mark => noMark (Option.some.inj mark)
    | cons b blanks =>
      intro mark
      have here := blankBefore b List.mem_cons_self
      rw [Option.some.inj mark] at here
      exact absurd here (by decide)
  have shorter : text.length < (before ++ text ++ after).length + 1 := by
    simp only [List.length_append]
    omega
  have read := hooks.value_of_spells tree spelled built shorter (ends_of_blank blankAfter)
  have nothing : skip after = [] := by
    have skipped := skip_append blankAfter []
    rwa [List.append_nil] at skipped
  unfold Hooks.decode
  rw [if_neg unmarked, start, read]
  exact if_pos nothing

end Documents

end Formats.Json

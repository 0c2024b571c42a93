import Mathlib.Data.List.Basic

/-!
# Text normalisation

`str.strip` and `str.upper` on lists of characters. `upper` capitalises the ASCII letters and the
characters whose capital form is ASCII text; no name of the system contains another one.
-/
namespace TradingLab

abbrev Bytes := List UInt8

/-- `str.isspace` of one character. -/
def isSpace (c : Char) : Bool :=
  let n := c.toNat
  (0x09 ≤ n && n ≤ 0x0d) || (0x1c ≤ n && n ≤ 0x20) || n == 0x85 || n == 0xa0 || n == 0x1680 ||
    (0x2000 ≤ n && n ≤ 0x200a) || n == 0x2028 || n == 0x2029 || n == 0x202f || n == 0x205f ||
    n == 0x3000

/-- `str.isalpha` of one character: exact on ASCII, and lenient beyond it. -/
def isAlpha (c : Char) : Bool :=
  let n := c.toNat
  (0x41 ≤ n && n ≤ 0x5a) || (0x61 ≤ n && n ≤ 0x7a) || (0x80 ≤ n && !isSpace c)

def stripChars (cs : List Char) : List Char :=
  ((cs.dropWhile isSpace).reverse.dropWhile isSpace).reverse

/-- The characters beyond `a`–`z` whose capital form is ASCII text. -/
def foldings : List (Char × List Char) :=
  [(Char.ofNat 0xdf, ['S', 'S']), (Char.ofNat 0x131, ['I']), (Char.ofNat 0x17f, ['S']),
    (Char.ofNat 0xfb00, ['F', 'F']), (Char.ofNat 0xfb01, ['F', 'I']),
    (Char.ofNat 0xfb02, ['F', 'L']), (Char.ofNat 0xfb03, ['F', 'F', 'I']),
    (Char.ofNat 0xfb04, ['F', 'F', 'L']), (Char.ofNat 0xfb05, ['S', 'T']),
    (Char.ofNat 0xfb06, ['S', 'T'])]

/-- The capital form of one character (a ligature becomes several letters). -/
def upperChar (c : Char) : List Char :=
  if 0x61 ≤ c.toNat ∧ c.toNat ≤ 0x7a then [Char.ofNat (c.toNat - 32)]
  else match foldings.find? fun entry => entry.1 == c with
  | some entry => entry.2
  | none => [c]

def upperChars (cs : List Char) : List Char :=
  cs.flatMap upperChar

/-- `text.upper()`. -/
def upperText (text : String) : String :=
  String.ofList (upperChars text.toList)

/-- `text.strip().upper()`. -/
def normalize (text : String) : String :=
  String.ofList (upperChars (stripChars text.toList))

/-- `not text.strip()`. -/
def isBlank (text : String) : Bool :=
  (stripChars text.toList).isEmpty

/-- Equivalent broker spellings share one exposure key. -/
def canonicalizeSymbol (symbol : String) : String :=
  let clean := upperChars (stripChars symbol.toList)
  if "FRX".toList.isPrefixOf clean then String.ofList (clean.drop 3)
  else if "OTC_".toList.isPrefixOf clean then String.ofList (clean.drop 4)
  else String.ofList clean

/-! ### Normalising twice changes nothing on letters -/

def Capital (c : Char) : Prop :=
  upperChar c = [c]

instance (c : Char) : Decidable (Capital c) :=
  inferInstanceAs (Decidable (upperChar c = [c]))

theorem capital_letter : ∀ k : Fin 26, Capital (Char.ofNat (0x41 + k)) := by decide

theorem capital_of_folding : ∀ entry ∈ foldings, ∀ d ∈ entry.2, Capital d := by
  have all : (foldings.all fun entry => entry.2.all fun d => decide (Capital d)) = true := by rfl
  simpa [List.all_eq_true] using all

theorem capital_of_mem_upperChar {c d : Char} (member : d ∈ upperChar c) : Capital d := by
  unfold upperChar at member
  split at member
  · rename_i lower
    have := capital_letter ⟨c.toNat - 0x61, by omega⟩
    rw [List.mem_singleton.mp member]
    rwa [show 0x41 + (c.toNat - 0x61) = c.toNat - 32 by omega] at this
  · rename_i notLower
    split at member
    · rename_i entry found
      exact capital_of_folding entry (List.mem_of_find?_eq_some found) d member
    · rename_i unfolded
      rw [List.mem_singleton.mp member]
      simp only [Capital, upperChar, if_neg notLower, unfolded]

theorem upperChars_of_capital {cs : List Char} (h : ∀ c ∈ cs, Capital c) :
    upperChars cs = cs := by
  induction cs with
  | nil => rfl
  | cons c rest ih =>
    have head : upperChar c = [c] := h c (by simp)
    have tail := ih fun d hd => h d (by simp [hd])
    simp only [upperChars, List.flatMap_cons, head] at tail ⊢
    rw [tail]
    rfl

theorem upperChars_idem (cs : List Char) : upperChars (upperChars cs) = upperChars cs := by
  apply upperChars_of_capital
  intro d member
  obtain ⟨c, -, from_c⟩ := List.mem_flatMap.mp member
  exact capital_of_mem_upperChar from_c

theorem isSpace_of_isAlpha {c : Char} (h : isAlpha c = true) : isSpace c = false := by
  unfold isAlpha at h
  unfold isSpace at *
  simp only [Bool.or_eq_true, Bool.and_eq_true, decide_eq_true_eq, Bool.not_eq_true',
    Bool.or_eq_false_iff, Bool.and_eq_false_iff, decide_eq_false_iff_not, beq_eq_false_iff_ne,
    ne_eq] at h ⊢
  omega

theorem stripChars_of_letters {cs : List Char} (h : ∀ c ∈ cs, isAlpha c = true) :
    stripChars cs = cs := by
  have keep : ∀ ds : List Char, (∀ d ∈ ds, isAlpha d = true) → ds.dropWhile isSpace = ds := by
    intro ds letters
    cases ds with
    | nil => rfl
    | cons d rest =>
      simp only [List.dropWhile_cons, isSpace_of_isAlpha (letters d (by simp))]
      rfl
  unfold stripChars
  rw [keep cs h, keep cs.reverse (fun d hd => h d (List.mem_reverse.mp hd)), List.reverse_reverse]

theorem normalize_idem_of_letters {text : String}
    (h : ∀ c ∈ (normalize text).toList, isAlpha c = true) :
    normalize (normalize text) = normalize text := by
  have letters : ∀ c ∈ upperChars (stripChars text.toList), isAlpha c = true := by
    simpa [normalize] using h
  simp only [normalize, String.toList_ofList, stripChars_of_letters letters, upperChars_idem]

end TradingLab

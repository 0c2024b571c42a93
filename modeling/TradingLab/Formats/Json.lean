import TradingLab.Machine.Run

/-!
# Reading JSON

A decoder that builds its values through hooks, which may refuse them. What is scanned does not
depend on the hooks. An escape that is half of a surrogate pair is refused.
-/
namespace Formats.Json

/-- What the parts of a text become. -/
structure Hooks (ε α : Type) where
  null : α
  bool : Bool → α
  /-- The text of a number without point and exponent. -/
  int : List Char → Except ε α
  /-- The text of a number with a point or an exponent. -/
  float : List Char → Except ε α
  /-- `NaN`, `Infinity` or `-Infinity`. -/
  constant : String → Except ε α
  str : String → α
  arr : List α → α
  obj : List (String × α) → Except ε α
  malformed : ε

/-- A scanner reads a value from the head of a text and leaves the rest. -/
abbrev Scanner (ε α : Type) := List Char → Except ε (α × List Char)

/-! ### Characters -/

def isBlank (c : Char) : Bool :=
  c == ' ' || c == '\t' || c == '\n' || c == '\r'

def skip (cs : List Char) : List Char :=
  cs.dropWhile isBlank

def isDigit (c : Char) : Bool :=
  '0' ≤ c && c ≤ '9'

def hexValue (c : Char) : Option Nat :=
  if '0' ≤ c ∧ c ≤ '9' then some (c.toNat - '0'.toNat)
  else if 'a' ≤ c ∧ c ≤ 'f' then some (c.toNat - 'a'.toNat + 10)
  else if 'A' ≤ c ∧ c ≤ 'F' then some (c.toNat - 'A'.toNat + 10)
  else none

def hex4 : List Char → Option (Nat × List Char)
  | a :: b :: c :: d :: rest => do
    let a ← hexValue a
    let b ← hexValue b
    let c ← hexValue c
    let d ← hexValue d
    some (((a * 16 + b) * 16 + c) * 16 + d, rest)
  | _ => none

/-- The character of an escape after `\u`, which may take a second escape. -/
def unicodeEscape (cs : List Char) : Option (Char × List Char) := do
  let (high, rest) ← hex4 cs
  if 0xd800 ≤ high ∧ high ≤ 0xdbff then
    match rest with
    | '\\' :: 'u' :: rest => do
      let (low, rest) ← hex4 rest
      if 0xdc00 ≤ low ∧ low ≤ 0xdfff then
        some (Char.ofNat (0x10000 + (high - 0xd800) * 0x400 + (low - 0xdc00)), rest)
      else none
    | _ => none
  else if 0xdc00 ≤ high ∧ high ≤ 0xdfff then none
  else some (Char.ofNat high, rest)

def simpleEscape : Char → Option Char
  | '"' => some '"'
  | '\\' => some '\\'
  | '/' => some '/'
  | 'b' => some (Char.ofNat 8)
  | 'f' => some (Char.ofNat 12)
  | 'n' => some '\n'
  | 'r' => some '\r'
  | 't' => some '\t'
  | _ => none

/-- The characters up to the closing quote; control characters must be escaped. -/
def stringBody : Nat → List Char → Option (List Char × List Char)
  | 0, _ => none
  | fuel + 1, cs =>
    match cs with
    | [] => none
    | '"' :: rest => some ([], rest)
    | '\\' :: 'u' :: rest => do
      let (c, rest) ← unicodeEscape rest
      let (tail, rest) ← stringBody fuel rest
      some (c :: tail, rest)
    | '\\' :: escape :: rest => do
      let c ← simpleEscape escape
      let (tail, rest) ← stringBody fuel rest
      some (c :: tail, rest)
    | c :: rest => do
      guard (c != '\\' && 0x20 ≤ c.toNat)
      let (tail, rest) ← stringBody fuel rest
      some (c :: tail, rest)

def string (cs : List Char) : Option (String × List Char) :=
  (stringBody (cs.length + 1) cs).map fun (body, rest) => (String.ofList body, rest)

def wholePart : List Char → Option (List Char × List Char)
  | '0' :: rest => some (['0'], rest)
  | c :: rest =>
    if isDigit c then some (c :: rest.takeWhile isDigit, rest.dropWhile isDigit) else none
  | [] => none

def fraction : List Char → List Char × List Char
  | '.' :: c :: rest =>
    if isDigit c then ('.' :: c :: rest.takeWhile isDigit, rest.dropWhile isDigit)
    else ([], '.' :: c :: rest)
  | cs => ([], cs)

def exponentSign : List Char → List Char × List Char
  | '+' :: rest => (['+'], rest)
  | '-' :: rest => (['-'], rest)
  | cs => ([], cs)

def exponent : List Char → List Char × List Char
  | e :: rest =>
    let (sign, digits) := exponentSign rest
    if (e == 'e' || e == 'E') && digits.head?.any isDigit then
      (e :: sign ++ digits.takeWhile isDigit, digits.dropWhile isDigit)
    else ([], e :: rest)
  | [] => ([], [])

/-- The text of a number, whether it is more than a whole one, and the rest. -/
def number (cs : List Char) : Option (List Char × Bool × List Char) := do
  let (sign, unsigned) := match cs with
    | '-' :: rest => (['-'], rest)
    | cs => ([], cs)
  let (whole, rest) ← wholePart unsigned
  let (fraction, rest) := fraction rest
  let (exponent, rest) := exponent rest
  some (sign ++ whole ++ fraction ++ exponent, !(fraction ++ exponent).isEmpty, rest)

/-! ### Values -/

variable {ε α β : Type}

def after (word : String) (cs : List Char) : Option (List Char) :=
  if word.toList.isPrefixOf cs then some (cs.drop word.toList.length) else none

/-- Parts with a comma between each two, up to the closing character. -/
def separated (bad : ε) (close : Char) (part : Scanner ε α) : Nat → Scanner ε (List α)
  | 0, _ => .error bad
  | fuel + 1, cs => do
    let (value, rest) ← part cs
    match skip rest with
    | [] => .error bad
    | c :: rest =>
      if c = close then .ok ([value], rest)
      else if c = ',' then do
        let (values, rest) ← separated bad close part fuel (skip rest)
        .ok (value :: values, rest)
      else .error bad

/-- The parts between brackets, after the opening one; there may be none. -/
def enclosed (bad : ε) (close : Char) (part : Scanner ε α) (cs : List Char) :
    Except ε (List α × List Char) :=
  match skip cs with
  | [] => .error bad
  | c :: rest =>
    if c = close then .ok ([], rest)
    else separated bad close part (cs.length + 1) (c :: rest)

def member (bad : ε) (value : Scanner ε α) : Scanner ε (String × α)
  | '"' :: cs =>
    match string cs with
    | none => .error bad
    | some (name, rest) =>
      match skip rest with
      | ':' :: rest => do
        let (v, rest) ← value (skip rest)
        .ok ((name, v), rest)
      | _ => .error bad
  | _ => .error bad

namespace Hooks

variable (hooks : Hooks ε α)

/-- A value that is one of the given words, or what the rest makes of the text. -/
def orWord (cs : List Char) (word : String) (made : Except ε α)
    (otherwise : Except ε (α × List Char)) : Except ε (α × List Char) :=
  match after word cs with
  | some rest => made.map (·, rest)
  | none => otherwise

def atom (cs : List Char) : Except ε (α × List Char) :=
  orWord cs "null" (.ok hooks.null) <|
  orWord cs "true" (.ok (hooks.bool true)) <|
  orWord cs "false" (.ok (hooks.bool false)) <|
  match number cs with
  | some (text, isFloat, rest) =>
    (if isFloat then hooks.float text else hooks.int text).map (·, rest)
  | none =>
    orWord cs "NaN" (hooks.constant "NaN") <|
    orWord cs "Infinity" (hooks.constant "Infinity") <|
    orWord cs "-Infinity" (hooks.constant "-Infinity") <|
    .error hooks.malformed

/-- One value; the fuel bounds how deep it is. -/
def value : Nat → Scanner ε α
  | 0, _ => .error hooks.malformed
  | fuel + 1, cs =>
    match cs with
    | '"' :: rest =>
      match string rest with
      | some (text, rest) => .ok (hooks.str text, rest)
      | none => .error hooks.malformed
    | '\x7b' :: rest => do
      let (pairs, rest) ← enclosed hooks.malformed '\x7d' (member hooks.malformed (value fuel)) rest
      let object ← hooks.obj pairs
      .ok (object, rest)
    | '[' :: rest => do
      let (items, rest) ← enclosed hooks.malformed ']' (value fuel) rest
      .ok (hooks.arr items, rest)
    | cs => hooks.atom cs

/-- The value that a whole text denotes. A byte order mark is not part of a text. -/
def decode (cs : List Char) : Except ε α :=
  if cs.head? = some (Char.ofNat 0xfeff) then .error hooks.malformed
  else do
    let (result, rest) ← hooks.value (cs.length + 1) (skip cs)
    if skip rest = [] then .ok result else .error hooks.malformed

end Hooks

/-! ### Stricter hooks -/

/-- Where the first scanner reads something, the second reads the same. -/
def Within (first second : Scanner ε α) : Prop :=
  ∀ {cs : List Char} {read : α × List Char}, first cs = .ok read → second cs = .ok read

/-- The first hooks refuse more, and build the same values otherwise. -/
structure Hooks.Restricts (strict plain : Hooks ε α) : Prop where
  null : strict.null = plain.null
  bool : strict.bool = plain.bool
  int : ∀ {text a}, strict.int text = .ok a → plain.int text = .ok a
  float : ∀ {text a}, strict.float text = .ok a → plain.float text = .ok a
  constant : ∀ {name a}, strict.constant name = .ok a → plain.constant name = .ok a
  str : strict.str = plain.str
  arr : strict.arr = plain.arr
  obj : ∀ {pairs a}, strict.obj pairs = .ok a → plain.obj pairs = .ok a

theorem map_ok {x : Except ε α} {f : α → β} {b : β} :
    x.map f = .ok b ↔ ∃ a, x = .ok a ∧ f a = b := by
  cases x <;> simp [Except.map]

section
variable {bad bad' : ε} {close : Char} {first second : Scanner ε α}

theorem separated_within (parts : Within first second) (fuel : Nat) :
    Within (separated bad close first fuel) (separated bad' close second fuel) := by
  induction fuel with
  | zero =>
    intro cs read scanned
    simp [separated] at scanned
  | succ fuel ih =>
    intro cs read scanned
    obtain ⟨⟨value, rest⟩, head, tail⟩ := Except.bind_ok_iff.mp scanned
    refine Except.bind_ok_iff.mpr ⟨(value, rest), parts head, ?_⟩
    dsimp only at tail ⊢
    cases next : skip rest with
    | nil => simp [next] at tail
    | cons c rest =>
      rw [next] at tail
      dsimp only at tail ⊢
      by_cases closing : c = close
      · simpa [closing] using tail
      · by_cases comma : c = ','
        · rw [if_neg closing, if_pos comma] at tail ⊢
          obtain ⟨more, scannedMore, same⟩ := Except.bind_ok_iff.mp tail
          exact Except.bind_ok_iff.mpr ⟨more, ih scannedMore, same⟩
        · simp [closing, comma] at tail

theorem enclosed_within (parts : Within first second) :
    Within (enclosed bad close first) (enclosed bad' close second) := by
  intro cs read scanned
  unfold enclosed at scanned ⊢
  cases next : skip cs with
  | nil => simp [next] at scanned
  | cons c rest =>
    rw [next] at scanned
    dsimp only at scanned ⊢
    by_cases closing : c = close
    · simpa [closing] using scanned
    · rw [if_neg closing] at scanned ⊢
      exact separated_within parts _ scanned

theorem member_within (values : Within first second) :
    Within (member bad first) (member bad' second) := by
  intro cs read scanned
  unfold member at scanned ⊢
  split at scanned
  · rename_i cs
    cases named : string cs with
    | none => simp [named] at scanned
    | some entry =>
      simp only [named] at scanned ⊢
      split at scanned
      · rename_i rest colon
        obtain ⟨more, read, same⟩ := Except.bind_ok_iff.mp scanned
        exact Except.bind_ok_iff.mpr ⟨more, values read, same⟩
      · simp at scanned
  · simp at scanned

end

namespace Hooks

variable {strict plain : Hooks ε α} {made made' : Except ε α} {read : α × List Char}
  {cs : List Char}

theorem map_of_ok {rest : List Char} (same : ∀ {a}, made = .ok a → made' = .ok a)
    (scanned : made.map (·, rest) = .ok read) : made'.map (·, rest) = .ok read := by
  obtain ⟨a, built, paired⟩ := map_ok.mp scanned
  exact map_ok.mpr ⟨a, same built, paired⟩

theorem orWord_of_ok {word : String} {otherwise otherwise' : Except ε (α × List Char)}
    (same : ∀ {a}, made = .ok a → made' = .ok a)
    (rest : otherwise = .ok read → otherwise' = .ok read)
    (scanned : orWord cs word made otherwise = .ok read) :
    orWord cs word made' otherwise' = .ok read := by
  unfold orWord at scanned ⊢
  split at scanned
  · exact map_of_ok same scanned
  · exact rest scanned

theorem atom_within (restricts : Restricts strict plain) : Within strict.atom plain.atom := by
  intro cs read
  unfold atom
  rw [← restricts.null, ← restricts.bool]
  refine orWord_of_ok id (orWord_of_ok id (orWord_of_ok id fun scanned => ?_))
  split at scanned
  · rename_i text isFloat rest numeral
    refine map_of_ok ?_ scanned
    cases isFloat
    · exact restricts.int
    · exact restricts.float
  · refine orWord_of_ok restricts.constant (orWord_of_ok restricts.constant
      (orWord_of_ok restricts.constant ?_)) scanned
    intro refused
    cases refused

theorem value_within (restricts : Restricts strict plain) (fuel : Nat) :
    Within (strict.value fuel) (plain.value fuel) := by
  induction fuel with
  | zero =>
    intro cs read scanned
    simp [value] at scanned
  | succ fuel ih =>
    intro cs read scanned
    unfold value at scanned ⊢
    split at scanned
    · rename_i rest
      cases text : string rest with
      | none => simp [text] at scanned
      | some entry => simpa [text, restricts.str] using scanned
    · obtain ⟨pairs, inside, built⟩ := Except.bind_ok_iff.mp scanned
      refine Except.bind_ok_iff.mpr ⟨pairs, enclosed_within (member_within ih) inside, ?_⟩
      obtain ⟨object, made, same⟩ := Except.bind_ok_iff.mp built
      exact Except.bind_ok_iff.mpr ⟨object, restricts.obj made, same⟩
    · obtain ⟨items, inside, built⟩ := Except.bind_ok_iff.mp scanned
      refine Except.bind_ok_iff.mpr ⟨items, enclosed_within ih inside, ?_⟩
      rwa [← restricts.arr]
    · exact atom_within restricts scanned

/-- What stricter hooks read, the others read to the same value. -/
theorem decode_of_restricts (restricts : Restricts strict plain) {a : α}
    (decoded : strict.decode cs = .ok a) : plain.decode cs = .ok a := by
  unfold decode at decoded ⊢
  split at decoded
  · simp at decoded
  · rename_i unmarked
    rw [if_neg unmarked]
    obtain ⟨result, read, finished⟩ := Except.bind_ok_iff.mp decoded
    refine Except.bind_ok_iff.mpr ⟨result, value_within restricts _ read, ?_⟩
    by_cases whole : skip result.2 = []
    · simpa [whole] using finished
    · simp [whole] at finished

end Hooks

end Formats.Json

import Mathlib.Tactic.Ring
import Mathlib.Tactic.NormNum

/-!
# Decimal numbers

Decimal floating point as the General Decimal Arithmetic specification has it: `1.50` and `1.5` are
two numbers of one value. Exponent limits and signalling are left out. An operation that is invalid
has no result.
-/

inductive Decimal
  | finite (negative : Bool) (coefficient : Nat) (exponent : Int)
  | infinite (negative : Bool)
  | nan
deriving DecidableEq, Repr

namespace Decimal

def ofInt (n : Int) : Decimal := .finite (decide (n < 0)) n.natAbs 0

def isFinite : Decimal → Bool
  | .finite .. => true
  | _ => false

def signed (negative : Bool) (n : Nat) : Int :=
  if negative then -n else n

def value : Decimal → ℚ
  | .finite negative coefficient exponent => signed negative coefficient * 10 ^ exponent
  | _ => 0

def lastDigit : Decimal → Option Nat
  | .finite _ coefficient _ => some (coefficient % 10)
  | .infinite _ => some 0
  | .nan => none

/-! ### Reading a numeral -/

def digit (c : Char) : Option Nat :=
  if '0' ≤ c ∧ c ≤ '9' then some (c.toNat - '0'.toNat) else none

def readDigits : List Char → List Nat × List Char
  | [] => ([], [])
  | c :: rest =>
    match digit c with
    | some d => (d :: (readDigits rest).1, (readDigits rest).2)
    | none => ([], c :: rest)

def natOfDigits (digits : List Nat) : Nat :=
  digits.foldl (fun n d => 10 * n + d) 0

def readSign : List Char → Bool × List Char
  | '-' :: rest => (true, rest)
  | '+' :: rest => (false, rest)
  | cs => (false, cs)

def readInt (cs : List Char) : Option Int :=
  let (negative, rest) := readSign cs
  match readDigits rest with
  | (d :: ds, []) => some (signed negative (natOfDigits (d :: ds)))
  | _ => none

def readFraction : List Char → List Nat × List Char
  | '.' :: rest => readDigits rest
  | cs => ([], cs)

def readExponent : List Char → Option Int
  | [] => some 0
  | c :: rest => if c = 'e' ∨ c = 'E' then readInt rest else none

/-- The names of the numbers that are not finite, in lower case. -/
def readName (negative : Bool) (cs : List Char) : Option Decimal :=
  let name := cs.map Char.toLower
  if name = "inf".toList ∨ name = "infinity".toList then some (.infinite negative)
  else
    let afterSignal := if "s".toList.isPrefixOf name then name.drop 1 else name
    if "nan".toList.isPrefixOf afterSignal ∧ (readDigits (afterSignal.drop 3)).2 = [] then some .nan
    else none

def read (cs : List Char) : Option Decimal :=
  let (negative, unsigned) := readSign cs
  let (whole, afterWhole) := readDigits unsigned
  let (fraction, afterFraction) := readFraction afterWhole
  match whole ++ fraction with
  | [] => readName negative unsigned
  | digits => (readExponent afterFraction).map fun exponent =>
      .finite negative (natOfDigits digits) (exponent - fraction.length)

/-! ### Rounding -/

/-- `n / d` to the nearest whole number, and to the even one of two nearest. -/
def divHalfEven (n d : Nat) : Nat :=
  let q := n / d
  if d < 2 * (n % d) ∨ (2 * (n % d) = d ∧ q % 2 = 1) then q + 1 else q

def numDigits (n : Nat) : Nat :=
  (Nat.toDigits 10 n).length

variable (precision : Nat)

def round : Decimal → Decimal
  | .finite negative coefficient exponent =>
    let dropped := numDigits coefficient - precision
    if dropped = 0 then .finite negative coefficient exponent
    else
      let kept := divHalfEven coefficient (10 ^ dropped)
      if kept = 10 ^ precision then .finite negative (kept / 10) (exponent + dropped + 1)
      else .finite negative kept (exponent + dropped)
  | number => number

def trim (negative : Bool) (coefficient : Nat) : Nat → Decimal
  | 0 => .finite negative coefficient 0
  | places + 1 =>
    if coefficient % 10 = 0 then trim negative (coefficient / 10) places
    else .finite negative coefficient (-((places : Int) + 1))

def ofScaled (n : Int) (places : Nat) : Decimal :=
  round precision (trim (decide (n < 0)) n.natAbs places)

def mul : Decimal → Decimal → Option Decimal
  | .finite s c e, .finite s' c' e' => some (round precision (.finite (s != s') (c * c') (e + e')))
  | .nan, _ | _, .nan => some .nan
  | .infinite s, .finite s' c _ | .finite s' c _, .infinite s =>
    if c = 0 then none else some (.infinite (s != s'))
  | .infinite s, .infinite s' => some (.infinite (s != s'))

/-- The coefficient of a number when its exponent is lowered to `floor`. -/
def alignedTo (floor : Int) (negative : Bool) (coefficient : Nat) (exponent : Int) : Int :=
  signed negative (coefficient * 10 ^ (exponent - floor).toNat)

def sub : Decimal → Decimal → Option Decimal
  | .finite s c e, .finite s' c' e' =>
    let floor := min e e'
    let difference := alignedTo floor s c e - alignedTo floor s' c' e'
    some (round precision (.finite (decide (difference < 0)) difference.natAbs floor))
  | .nan, _ | _, .nan => some .nan
  | .infinite s, .infinite s' => if s = s' then none else some (.infinite s)
  | .infinite s, .finite .. => some (.infinite s)
  | .finite .., .infinite s => some (.infinite (!s))

/-- A sum that is zero has the sign of its parts, where they agree. -/
def add : Decimal → Decimal → Option Decimal
  | .finite s c e, .finite s' c' e' =>
    let floor := min e e'
    let sum := alignedTo floor s c e + alignedTo floor s' c' e'
    let negative := if sum = 0 then s && s' else decide (sum < 0)
    some (round precision (.finite negative sum.natAbs floor))
  | .nan, _ | _, .nan => some .nan
  | .infinite s, .infinite s' => if s = s' then some (.infinite s) else none
  | .infinite s, .finite .. | .finite .., .infinite s => some (.infinite s)

/-- Take zeros off the end of a coefficient, while the exponent is below the ideal one. -/
def stripTo (negative : Bool) (coefficient : Nat) (exponent : Int) : Nat → Decimal
  | 0 => .finite negative coefficient exponent
  | zeros + 1 =>
    if coefficient % 10 = 0 then stripTo negative (coefficient / 10) (exponent + 1) zeros
    else .finite negative coefficient exponent

/-- A quotient to `precision` digits. One digit more is computed; a remainder behind it keeps
    that digit from reading as a tie or as exact. Nothing is divided by zero. -/
def div : Decimal → Decimal → Option Decimal
  | .nan, _ | _, .nan => some .nan
  | .infinite _, .infinite _ => none
  | .infinite s, .finite s' _ _ => some (.infinite (s != s'))
  | .finite s _ _, .infinite s' => some (.finite (s != s') 0 0)
  | .finite s c e, .finite s' c' e' =>
    if c' = 0 then none
    else if c = 0 then some (.finite (s != s') 0 (e - e'))
    else
      let shift : Int := numDigits c' - numDigits c + precision + 1
      let dividend := c * 10 ^ shift.toNat
      let divisor := c' * 10 ^ (-shift).toNat
      let quotient := dividend / divisor
      some <| round precision <|
        if dividend % divisor = 0 then stripTo (s != s') quotient (e - e' - shift) shift.toNat
        else .finite (s != s') (if quotient % 5 = 0 then quotient + 1 else quotient)
          (e - e' - shift)

/-- The nearest whole number, when it has at most `precision` digits. -/
def toInt : Decimal → Option Int
  | .finite negative coefficient exponent =>
    let whole := if 0 ≤ exponent then coefficient * 10 ^ exponent.toNat
      else divHalfEven coefficient (10 ^ (-exponent).toNat)
    if numDigits whole ≤ precision then some (signed negative whole) else none
  | _ => none

def nearestInt : Decimal → Option Int
  | .finite negative coefficient exponent =>
    some <| signed negative <| if 0 ≤ exponent then coefficient * 10 ^ exponent.toNat
      else divHalfEven coefficient (10 ^ (-exponent).toNat)
  | _ => none

/-! ### Comparing -/

/-- Equality of values; no number equals `nan`. -/
def numEq : Decimal → Decimal → Bool
  | .finite s c e, .finite s' c' e' =>
    alignedTo (min e e') s c e == alignedTo (min e e') s' c' e'
  | .infinite s, .infinite s' => s == s'
  | _, _ => false

/-- How two numbers compare; `nan` does not. -/
def order : Decimal → Decimal → Option Ordering
  | .finite s c e, .finite s' c' e' =>
    some (compare (alignedTo (min e e') s c e) (alignedTo (min e e') s' c' e'))
  | .nan, _ | _, .nan => none
  | .infinite s, .infinite s' => some (compare s' s)
  | .infinite s, .finite .. => some (if s then .lt else .gt)
  | .finite .., .infinite s => some (if s then .gt else .lt)

def less (a b : Decimal) : Option Bool := (order a b).map (· == .lt)

def greater (a b : Decimal) : Option Bool := (order a b).map (· == .gt)

def fixedText (places : Nat) : Decimal → String
  | .nan => "NaN"
  | .infinite negative => (if negative then "-" else "") ++ "Infinity"
  | .finite negative coefficient exponent =>
    let lift : Int := exponent + places
    let scaled := if 0 ≤ lift then coefficient * 10 ^ lift.toNat
      else divHalfEven coefficient (10 ^ (-lift).toNat)
    let digits := Nat.toDigits 10 scaled
    let padded := List.replicate (places + 1 - digits.length) '0' ++ digits
    let whole := padded.take (padded.length - places)
    let behind := padded.drop (padded.length - places)
    (if negative then "-" else "") ++ String.ofList whole ++
      (if places = 0 then "" else "." ++ String.ofList behind)

theorem signed_mul (negative : Bool) (m n : Nat) :
    signed negative (m * n) = signed negative m * n := by
  cases negative <;> simp [signed]

theorem value_eq_aligned {floor exponent : Int} (below : floor ≤ exponent) (negative : Bool)
    (coefficient : Nat) : (finite negative coefficient exponent).value =
      (alignedTo floor negative coefficient exponent : ℚ) * 10 ^ floor := by
  have split : exponent = ((exponent - floor).toNat : Int) + floor := by omega
  have power : (10 : ℚ) ^ exponent = 10 ^ (exponent - floor).toNat * 10 ^ floor := by
    rw [← zpow_natCast, ← zpow_add₀ (by norm_num), ← split]
  simp only [value, alignedTo, signed_mul, power]
  push_cast
  ring

theorem value_eq_iff {s s' : Bool} {c c' : Nat} {e e' : Int} :
    (finite s c e).value = (finite s' c' e').value ↔
      alignedTo (min e e') s c e = alignedTo (min e e') s' c' e' := by
  rw [value_eq_aligned (min_le_left e e'), value_eq_aligned (min_le_right e e')]
  have nonzero : (10 : ℚ) ^ min e e' ≠ 0 := zpow_ne_zero _ (by norm_num)
  rw [mul_left_inj' nonzero]
  exact Int.cast_inj

theorem numEq_comm (a b : Decimal) : a.numEq b = b.numEq a := by
  cases a <;> cases b <;> simp only [numEq]
  · rw [min_comm, Bool.beq_comm]
  · rw [Bool.beq_comm]

theorem numEq_iff {a b : Decimal} (left : a.isFinite = true) (right : b.isFinite = true) :
    a.numEq b = true ↔ a.value = b.value := by
  cases a <;> cases b <;> simp_all [isFinite, numEq, value_eq_iff]

theorem eq_of_signed {s : Bool} {m n : Nat} (positive : 0 < n)
    (same : signed s m = signed false n) : m = n := by
  cases s <;> simp [signed] at same <;> omega

theorem mul_pow_mod_ten {m j : Nat} (positive : 0 < j) : (m * 10 ^ j) % 10 = 0 := by
  obtain ⟨i, rfl⟩ := Nat.exists_eq_succ_of_ne_zero (Nat.pos_iff_ne_zero.mp positive)
  rw [Nat.pow_succ, ← Nat.mul_assoc, Nat.mul_mod_left]

/-- A number with the value of `n` at `places` places ends in the last digit of `n` exactly
    when it has that many places, or both end in zero. -/
theorem lastDigit_iff {s : Bool} {c n places : Nat} {e : Int} (positive : 0 < n)
    (same : (finite s c e).value = (finite false n (-(places : Int))).value) :
    c % 10 = n % 10 ↔ e = -(places : Int) ∨ (n % 10 = 0 ∧ c % 10 = 0) := by
  rw [value_eq_iff] at same
  have aligned := eq_of_signed (Nat.mul_pos positive (Nat.pow_pos (by norm_num))) same
  rcases lt_trichotomy e (-(places : Int)) with fewer | equal | more
  · -- The number has more places than `n`: it is `n` with zeros behind it.
    rw [min_eq_left fewer.le, sub_self, Int.toNat_zero, pow_zero, mul_one] at aligned
    have zero : c % 10 = 0 := by
      rw [aligned]
      exact mul_pow_mod_ten (by omega)
    omega
  · rw [equal, min_self, sub_self, Int.toNat_zero, pow_zero, mul_one, mul_one] at aligned
    simp [equal, aligned]
  · -- The number has fewer places: `n` has zeros where the number stops.
    rw [min_eq_right more.le, sub_self, Int.toNat_zero, pow_zero, mul_one] at aligned
    have zero : n % 10 = 0 := by
      rw [← aligned]
      exact mul_pow_mod_ten (by omega)
    omega

def isPositive : Decimal → Bool
  | .finite negative coefficient _ => !negative && coefficient != 0
  | .infinite negative => !negative
  | .nan => false

end Decimal

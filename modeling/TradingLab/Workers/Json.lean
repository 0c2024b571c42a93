import TradingLab.Domain.Text
import TradingLab.Numeric.Decimal

/-!
# What the brokers send

The values that `json.loads` gives a worker: a number with a point or an exponent is a `Decimal`,
any other number an `int`. `Decimal(str(v))` and `int(str(v))` are functions of the value itself,
since the text of a number reads back as that number.
-/
namespace TradingLab

inductive Json
  | null
  | bool (value : Bool)
  | int (value : Int)
  | decimal (value : Decimal)
  | str (value : String)
  | arr (items : List Json)
  | obj (entries : List (String × Json))

abbrev Fields := List (String × Json)

namespace Fields

/-- The value under a name, if the name is there at all. -/
def lookup (fields : Fields) (name : String) : Option Json :=
  (fields.find? fun entry => entry.1 == name).map Prod.snd

def get (fields : Fields) (name : String) : Json :=
  (lookup fields name).getD .null

/-- `fields.get(name, default)`. -/
def getD (fields : Fields) (name : String) (default : Json) : Json :=
  (lookup fields name).getD default

end Fields

/-- The precision of the default decimal context. -/
def decimalPrecision : Nat := 28

/-- `Decimal(text)`. -/
def decimalOfText (text : String) : Option Decimal :=
  Decimal.read ((stripChars text.toList).filter (· != '_'))

/-- `int(text)`; an underscore may stand between two digits only. -/
def intOfText (text : String) : Option Int :=
  let cs := stripChars text.toList
  let grouped := cs.zip (cs.drop 1) |>.all fun (c, d) =>
    (c != '_' || (Decimal.digit d).isSome) && (d != '_' || (Decimal.digit c).isSome)
  if grouped && cs.getLast? != some '_' && cs.head? != some '_'
  then Decimal.readInt (cs.filter (· != '_')) else none

/-- `Decimal(minor_units) / Decimal(100)`. -/
def stakeOf (minorUnits : Int) : Decimal :=
  Decimal.ofScaled decimalPrecision minorUnits 2

/-- `int((value * Decimal(100)).quantize(Decimal("1"), rounding=ROUND_HALF_EVEN))`. -/
def moneyToMinorUnits (value : Decimal) : Option Int :=
  (Decimal.mul decimalPrecision value (Decimal.ofInt 100)).bind (Decimal.toInt decimalPrecision)

/-! ### The text of a value -/

/-- `str(number)`. -/
def decimalText : Decimal → String
  | .nan => "NaN"
  | .infinite negative => (if negative then "-" else "") ++ "Infinity"
  | .finite negative coefficient exponent =>
    let digits := Nat.toDigits 10 coefficient
    let left : Int := exponent + digits.length
    -- The point stands after `place` digits; a number too small or too large for that has
    -- its point after the first digit and an exponent.
    let place : Int := if exponent ≤ 0 ∧ -6 < left then left else 1
    let body := if place ≤ 0 then "0.".toList ++ List.replicate (-place).toNat '0' ++ digits
      else if digits.length ≤ place then digits
        ++ List.replicate (place.toNat - digits.length) '0'
      else digits.take place.toNat ++ '.' :: digits.drop place.toNat
    let scale := left - place
    let suffix := if scale = 0 then "" else (if 0 < scale then "E+" else "E") ++ toString scale
    (if negative then "-" else "") ++ String.ofList body ++ suffix

namespace Json

mutual

/-- `repr(value)`; a text is put between quotes as it is. -/
def repr : Json → String
  | .null => "None"
  | .bool true => "True"
  | .bool false => "False"
  | .int value => toString value
  | .decimal value => "Decimal('" ++ decimalText value ++ "')"
  | .str value => "'" ++ value ++ "'"
  | .arr items => "[" ++ reprItems items ++ "]"
  | .obj entries => "\x7b" ++ reprEntries entries ++ "\x7d"

def reprItems : List Json → String
  | [] => ""
  | [item] => repr item
  | item :: rest => repr item ++ ", " ++ reprItems rest

def reprEntries : List (String × Json) → String
  | [] => ""
  | [(name, value)] => "'" ++ name ++ "': " ++ repr value
  | (name, value) :: rest => "'" ++ name ++ "': " ++ repr value ++ ", " ++ reprEntries rest

end

/-- `str(value)`. -/
def text : Json → String
  | .str value => value
  | .decimal value => decimalText value
  | value => repr value

/-- `Decimal(str(value))`; `none` is `InvalidOperation`. -/
def asDecimal : Json → Option Decimal
  | .int value => some (Decimal.ofInt value)
  | .decimal value => some value
  | .str value => decimalOfText value
  | _ => none

/-- `int(str(value))`; `none` is `ValueError`. -/
def asInt : Json → Option Int
  | .int value => some value
  | .decimal (.finite negative coefficient 0) => some (Decimal.signed negative coefficient)
  | .str value => intOfText value
  | _ => none

/-- `bool(value)`. -/
def truthy : Json → Bool
  | .null => false
  | .bool value => value
  | .int value => value != 0
  | .decimal (.finite _ coefficient _) => coefficient != 0
  | .decimal _ => true
  | .str value => value != ""
  | .arr items => !items.isEmpty
  | .obj entries => !entries.isEmpty

/-- `isinstance(value, dict)`. -/
def asObject : Json → Option Fields
  | .obj entries => some entries
  | _ => none

/-- `isinstance(value, list)`. -/
def asList : Json → Option (List Json)
  | .arr items => some items
  | _ => none

/-- `isinstance(value, str)`. -/
def asText : Json → Option String
  | .str value => some value
  | _ => none

/-- `value is None`. -/
def isNull : Json → Bool
  | .null => true
  | _ => false

end Json

end TradingLab

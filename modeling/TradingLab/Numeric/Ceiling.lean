import Mathlib.Data.Rat.Floor
import TradingLab.Numeric.Decimal

/-!
# Decimals as whole numbers

A decimal rounded up to a whole number, and decimals between two bounds.
-/
namespace Decimal

def within (number low high : Decimal) : Bool :=
  number.isFinite && (low.greater number == some false) && (number.greater high == some false)

/-- The least whole number that is not below a finite decimal. -/
def ceiling : Decimal → Option Int
  | .finite negative coefficient exponent =>
    some (if 0 ≤ exponent then signed negative coefficient * 10 ^ exponent.toNat
      else -(-signed negative coefficient / 10 ^ (-exponent).toNat))
  | _ => none

/-- `number.quantize(Decimal("1"), rounding=ROUND_CEILING)`, which is invalid when the result has
    more than `precision` digits. -/
def quantizeUp (precision : Nat) (number : Decimal) : Option Int :=
  number.ceiling.bind fun whole => if numDigits whole.natAbs ≤ precision then some whole else none

end Decimal

import TradingLab.Domain.Text
import TradingLab.Machine.Run

/-!
# Orders: requests and commands

The value types of `packages/domain/models.py` on the way from a request to the outbox. A validated
type extends its plain fields with the proof that `__post_init__` accepts them. Instants are
microseconds of UTC, and their ISO texts compare as they do.
-/
namespace TradingLab

/-- A timezone-aware UTC `datetime`, in microseconds. -/
abbrev Instant := Int

inductive Broker
  | deriv
  | iqOption
deriving DecidableEq, Repr

def Broker.value : Broker → String
  | .deriv => "DERIV"
  | .iqOption => "IQ_OPTION"

def Broker.ofValue (text : String) : Option Broker :=
  [Broker.deriv, .iqOption].find? fun broker => broker.value == text

inductive Direction
  | call
  | put
deriving DecidableEq, Repr

def Direction.value : Direction → String
  | .call => "CALL"
  | .put => "PUT"

def Direction.ofValue (text : String) : Option Direction :=
  [Direction.call, .put].find? fun direction => direction.value == text

/-- `if not accepted: raise ValueError(message)`. -/
def check (accepted : Prop) [Decidable accepted] (message : String) : Except String Unit :=
  if accepted then .ok () else .error message

@[simp] theorem check_eq_ok (accepted : Prop) [Decidable accepted] (message : String)
    (u : Unit) : check accepted message = .ok u ↔ accepted := by
  unfold check
  split <;> simp_all

/-- The loop over `field_name`: the first blank field is the one reported. -/
def requireNonBlank : List (String × String) → Except String Unit
  | [] => .ok ()
  | (name, value) :: rest => do
    check (isBlank value = false) (name ++ " cannot be empty")
    requireNonBlank rest

/-- The normal form of a three-letter currency code. -/
def currencyCode (text : String) : Option String :=
  let code := normalize text
  if code.length = 3 ∧ code.toList.all isAlpha = true then some code else none

theorem currencyCode_idem {text code : String} (h : currencyCode text = some code) :
    currencyCode code = some code := by
  unfold currencyCode at h
  simp only at h
  split at h
  · rename_i accepted
    cases h
    have letters : ∀ c ∈ (normalize text).toList, isAlpha c = true := by
      simpa using accepted.2
    simp only [currencyCode, normalize_idem_of_letters letters, accepted, and_self, if_true]
  · cases h

structure Money where
  minorUnits : Int
  currency : String
  normal : currencyCode currency = some currency
deriving DecidableEq

theorem currencyCode_usd : currencyCode "USD" = some "USD" := by
  decide

/-- `Money(minor_units, currency)`: the currency is stored in normal form. -/
def Money.make (minorUnits : Int) (text : String) : Except String Money :=
  match h : currencyCode text with
  | some code => .ok ⟨minorUnits, code, currencyCode_idem h⟩
  | none => .error "currency must be a three-letter code"

@[simp] theorem Money.make_self (amount : Money) :
    Money.make amount.minorUnits amount.currency = .ok amount := by
  unfold Money.make
  split
  · rename_i code h
    have : code = amount.currency := by
      rw [amount.normal] at h
      exact (Option.some.inj h).symm
    subst this
    rfl
  · rename_i h
    simp [amount.normal] at h

def digitBarrierProducts : List String := ["DIGITDIFF", "DIGITOVER", "DIGITUNDER"]

def digitParityProducts : List String := ["DIGITEVEN", "DIGITODD"]

def digitProducts : List String := digitBarrierProducts ++ digitParityProducts

/-- `product.strip().upper() in _DIGIT_PRODUCTS`. -/
def isDigitProduct (product : String) : Bool :=
  digitProducts.contains (normalize product)

def validateDigitContract (product : String) (predictionDigit : Option Int) (duration : Int)
    (durationUnit : String) (requireBarrier : Bool) : Except String Unit :=
  let normalized := normalize product
  if isDigitProduct product then do
    check (duration = 1 ∧ durationUnit = "t") (normalized ++ " requires one-tick duration")
    check (¬ (requireBarrier = true ∧ normalized ∈ digitBarrierProducts ∧ predictionDigit = none))
      (normalized ++ " requires a prediction digit")
    check (¬ (normalized ∈ digitParityProducts ∧ predictionDigit ≠ none))
      (normalized ++ " does not accept a prediction digit")
  else .ok ()

/-- The checks that `OrderRequest` and `OrderCommand` share. -/
def validateContract (product : String) (amount : Money) (duration : Int)
    (durationUnit : String) (predictionDigit : Option Int) (requireBarrier : Bool) :
    Except String Unit := do
  check (0 < amount.minorUnits) "order amount must be positive"
  check (0 < duration) "duration must be positive"
  check (durationUnit ∈ ["m", "s", "t"]) "duration_unit must be 'm', 's' or 't'"
  check (∀ digit ∈ predictionDigit, 0 ≤ digit ∧ digit ≤ 9)
    "prediction_digit must be between zero and nine"
  validateDigitContract product predictionDigit duration durationUnit requireBarrier

/-! ### Requests and commands -/

structure OrderRequestFields where
  correlationId : String
  broker : Broker
  accountId : String
  product : String
  symbol : String
  direction : Direction
  amount : Money
  strategyId : String
  strategyVersion : String
  deadlineAt : Instant
  duration : Int := 1
  durationUnit : String := "m"
  predictionDigit : Option Int := none
deriving DecidableEq

def OrderRequestFields.postInit (r : OrderRequestFields) : Except String Unit := do
  requireNonBlank [("correlation_id", r.correlationId), ("account_id", r.accountId),
    ("product", r.product), ("symbol", r.symbol), ("strategy_id", r.strategyId),
    ("strategy_version", r.strategyVersion)]
  validateContract r.product r.amount r.duration r.durationUnit r.predictionDigit true

structure OrderRequest extends OrderRequestFields where
  valid : toOrderRequestFields.postInit = .ok ()
deriving DecidableEq

def OrderRequest.make (fields : OrderRequestFields) : Except String OrderRequest :=
  match h : fields.postInit with
  | .ok () => .ok ⟨fields, h⟩
  | .error message => .error message

theorem OrderRequest.amount_pos (request : OrderRequest) : 0 < request.amount.minorUnits := by
  have valid := request.valid
  simp only [OrderRequestFields.postInit, validateContract, Except.bind_ok_iff, check_eq_ok] at valid
  obtain ⟨-, -, _, positive, -⟩ := valid
  exact positive

structure OrderCommandFields where
  messageId : String
  correlationId : String
  intentId : String
  orderId : String
  broker : Broker
  accountId : String
  product : String
  symbol : String
  direction : Direction
  amount : Money
  deadlineAt : Instant
  duration : Int := 1
  durationUnit : String := "m"
  predictionDigit : Option Int := none
deriving DecidableEq

def OrderCommandFields.postInit (c : OrderCommandFields) : Except String Unit := do
  requireNonBlank [("message_id", c.messageId), ("correlation_id", c.correlationId),
    ("intent_id", c.intentId), ("order_id", c.orderId), ("account_id", c.accountId),
    ("product", c.product), ("symbol", c.symbol)]
  validateContract c.product c.amount c.duration c.durationUnit c.predictionDigit false

structure OrderCommand extends OrderCommandFields where
  valid : toOrderCommandFields.postInit = .ok ()
deriving DecidableEq

def OrderCommand.make (fields : OrderCommandFields) : Except String OrderCommand :=
  match h : fields.postInit with
  | .ok () => .ok ⟨fields, h⟩
  | .error message => .error message

theorem OrderCommand.make_of_fields {c : OrderCommand} {fields : OrderCommandFields}
    (same : fields = c.toOrderCommandFields) : OrderCommand.make fields = .ok c := by
  subst same
  unfold OrderCommand.make
  split
  · rfl
  · rename_i message h
    simp [c.valid] at h

end TradingLab

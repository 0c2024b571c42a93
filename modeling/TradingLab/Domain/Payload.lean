import TradingLab.Domain.Orders

/-!
# Payloads

JSON objects as the Core writes and reads them. `json.loads` inverts `json.dumps` and
`fromisoformat` inverts `isoformat`; so a stored document is its tree, and the ISO text of an
instant is a value of its own. A SHA-256 digest is represented by the document it is the digest of.
-/
namespace TradingLab

inductive JsonValue
  | null
  | bool (value : Bool)
  | integer (value : Int)
  | text (value : String)
  /-- The ISO text of an instant, `value.isoformat()`. -/
  | instant (value : Instant)
deriving DecidableEq, Repr

abbrev Payload := List (String × JsonValue)

/-- `hashlib.sha256(json.dumps(payload, sort_keys=True).encode()).hexdigest()`. -/
structure Digest where
  preimage : Payload
deriving DecidableEq, Repr

namespace Payload

variable (payload : Payload) (name : String)

def get : Option JsonValue :=
  (payload.find? fun entry => entry.1 == name).map Prod.snd

def setDefault (value : JsonValue) : Payload :=
  match payload.get name with
  | some _ => payload
  | none => payload ++ [(name, value)]

def invalidField : String :=
  "invalid external payload field: " ++ name

def requireText : Except String String :=
  match payload.get name with
  | some (.text value) => .ok value
  | _ => .error (invalidField name)

def requireInteger : Except String Int :=
  match payload.get name with
  | some (.integer value) => .ok value
  | _ => .error (invalidField name)

def requireInstant : Except String Instant :=
  match payload.get name with
  | some (.instant value) => .ok value
  | _ => .error (invalidField name)

end Payload

/-- `raise ValueError(message)` when a lookup finds nothing. -/
def orRaise {α : Type} (found : Option α) (message : String) : Except String α :=
  match found with
  | some value => .ok value
  | none => .error message

/-! ### `OrderCommand.to_payload` and `OrderCommand.from_payload` -/

namespace OrderCommand

def toPayload (c : OrderCommand) : Payload :=
  [("message_id", .text c.messageId), ("correlation_id", .text c.correlationId),
    ("intent_id", .text c.intentId), ("order_id", .text c.orderId),
    ("broker", .text c.broker.value), ("account_id", .text c.accountId),
    ("product", .text c.product), ("symbol", .text c.symbol),
    ("direction", .text c.direction.value), ("amount_minor", .integer c.amount.minorUnits),
    ("currency", .text c.amount.currency), ("deadline_at", .instant c.deadlineAt),
    ("duration", .integer c.duration), ("duration_unit", .text c.durationUnit)] ++
  match c.predictionDigit with
  | some digit => [("prediction_digit", .integer digit)]
  | none => []

variable (payload : Payload)

def readDuration : Except String Int :=
  match payload.get "duration" with
  | none => .ok 1
  | some (.integer value) => .ok value
  | some _ => .error (Payload.invalidField "duration")

def readDurationUnit : Except String String :=
  match payload.get "duration_unit" with
  | none => .ok "m"
  | some (.text value) => .ok value
  | some _ => .error (Payload.invalidField "duration_unit")

def readPredictionDigit : Except String (Option Int) :=
  match payload.get "prediction_digit" with
  | none => .ok none
  | some .null => .ok none
  | some (.integer digit) =>
    if 0 ≤ digit ∧ digit ≤ 9 then .ok (some digit)
    else .error (Payload.invalidField "prediction_digit")
  | some _ => .error (Payload.invalidField "prediction_digit")

def fromPayload : Except String OrderCommand := do
  let messageId ← payload.requireText "message_id"
  let correlationId ← payload.requireText "correlation_id"
  let intentId ← payload.requireText "intent_id"
  let orderId ← payload.requireText "order_id"
  let brokerText ← payload.requireText "broker"
  let accountId ← payload.requireText "account_id"
  let product ← payload.requireText "product"
  let symbol ← payload.requireText "symbol"
  let directionText ← payload.requireText "direction"
  let amountMinor ← payload.requireInteger "amount_minor"
  let currency ← payload.requireText "currency"
  let deadlineAt ← payload.requireInstant "deadline_at"
  let duration ← readDuration payload
  let durationUnit ← readDurationUnit payload
  let predictionDigit ← readPredictionDigit payload
  let broker ← orRaise (Broker.ofValue brokerText) (brokerText ++ " is not a valid Broker")
  let direction ←
    orRaise (Direction.ofValue directionText) (directionText ++ " is not a valid Direction")
  let amount ← Money.make amountMinor currency
  OrderCommand.make
    { messageId, correlationId, intentId, orderId, broker, accountId, product, symbol,
      direction, amount, deadlineAt, duration, durationUnit, predictionDigit }

end OrderCommand

@[simp] theorem Broker.ofValue_value (broker : Broker) :
    Broker.ofValue broker.value = some broker := by
  cases broker <;> rfl

@[simp] theorem Direction.ofValue_value (direction : Direction) :
    Direction.ofValue direction.value = some direction := by
  cases direction <;> rfl

theorem OrderCommandFields.predictionDigit_range {c : OrderCommandFields}
    (valid : c.postInit = .ok ()) : ∀ digit ∈ c.predictionDigit, 0 ≤ digit ∧ digit ≤ 9 := by
  simp only [OrderCommandFields.postInit, validateContract, Except.bind_ok_iff, check_eq_ok] at valid
  obtain ⟨-, -, -, -, -, -, -, -, -, range, -⟩ := valid
  exact range

theorem OrderCommand.fromPayload_toPayload (c : OrderCommand) :
    OrderCommand.fromPayload c.toPayload = .ok c := by
  have range := OrderCommandFields.predictionDigit_range c.valid
  have digit : OrderCommand.readPredictionDigit c.toPayload = .ok c.predictionDigit := by
    cases h : c.predictionDigit with
    | none => simp [readPredictionDigit, toPayload, Payload.get, h]
    | some d => simp [readPredictionDigit, toPayload, Payload.get, h, range d h]
  rw [OrderCommand.fromPayload, digit]
  simp only [toPayload, Payload.requireText, Payload.requireInteger, Payload.requireInstant,
    readDuration, readDurationUnit, Payload.get, orRaise, bind, Except.bind, List.cons_append,
    List.find?_cons, String.reduceBEq, Option.map_some, Broker.ofValue_value,
    Direction.ofValue_value, Money.make_self]
  exact OrderCommand.make_of_fields rfl

@[simp] theorem OrderCommand.setDefault_toPayload (c : OrderCommand) (value : JsonValue) :
    c.toPayload.setDefault "order_id" value = c.toPayload := by
  simp [Payload.setDefault, Payload.get, toPayload]

end TradingLab

import TradingLab.Domain.Orders
import TradingLab.Workers.DerivTransport

/-!
# Ticks

The price of a Deriv tick (`require_decimal`), and the ring buffer that counts the last digits of
the most recent ticks.
-/
namespace TradingLab

def schemaIncompatible : DerivWorkerError :=
  ⟨.schemaIncompatible, "DERIV_SCHEMA_INCOMPATIBLE"⟩

def finiteDecimal : Option Decimal → Except DerivWorkerError Decimal
  | some number =>
    if number.isFinite then .ok number
    else .error ⟨.schemaIncompatible, "MARKET_DATA_INVALID"⟩
  | none => .error schemaIncompatible

/-- The value that `require_decimal` finds under its name. -/
def decimalOfValue (value : Json) : Except DerivWorkerError Decimal :=
  match value with
  | .decimal _ | .str _ | .int _ => finiteDecimal value.asDecimal
  | _ => .error schemaIncompatible

structure MarketTickFields where
  broker : Broker
  brokerSymbol : String
  epoch : Int
  quote : Decimal
  receivedAt : Instant
  subscriptionId : String
  source : String

def MarketTickFields.postInit (t : MarketTickFields) : Except String Unit := do
  check (0 < t.epoch ∧ t.brokerSymbol ≠ "" ∧ t.subscriptionId ≠ "")
    "tick identity and timestamp are required"
  check (t.quote.isFinite = true ∧ t.quote.isPositive = true)
    "tick quote must be a positive finite decimal"

structure MarketTick extends MarketTickFields where
  valid : toMarketTickFields.postInit = .ok ()

theorem MarketTick.quote_finite (tick : MarketTick) : tick.quote.isFinite = true := by
  have valid := tick.valid
  simp only [MarketTickFields.postInit, Except.bind_ok_iff, check_eq_ok] at valid
  obtain ⟨-, -, finite, -⟩ := valid
  exact finite

theorem MarketTick.quote_positive (tick : MarketTick) : tick.quote.isPositive = true := by
  have valid := tick.valid
  simp only [MarketTickFields.postInit, Except.bind_ok_iff, check_eq_ok] at valid
  obtain ⟨-, -, -, positive⟩ := valid
  exact positive

theorem MarketTick.epoch_pos (tick : MarketTick) : 0 < tick.epoch := by
  have valid := tick.valid
  simp only [MarketTickFields.postInit, Except.bind_ok_iff, check_eq_ok] at valid
  obtain ⟨_, identity, -⟩ := valid
  exact identity.1

/-! ### The ring buffer -/

structure DigitTick where
  epoch : Int
  quoteDecimal : Decimal
  lastDigit : Nat
  receivedAtMonotonic : ℚ

/-- The slots of the buffer, with the counts of the digits in it and of the digits that
    follow one another. -/
structure TickRingBuffer where
  capacity : Nat
  ticks : List (Option DigitTick)
  frequencyCounts : Nat → Int
  transitionCounts : Nat → Nat → Int
  start : Nat
  size : Nat

namespace TickRingBuffer

/-- `TickRingBuffer(capacity)`. -/
def empty (capacity : Nat) : TickRingBuffer :=
  ⟨capacity, List.replicate capacity none, fun _ => 0, fun _ _ => 0, 0, 0⟩

variable (buffer : TickRingBuffer)

def slotDigit (index : Nat) : Option Nat :=
  (buffer.ticks[index % buffer.capacity]?).join.map (·.lastDigit)

/-- `counts[digit] += amount`. -/
def bump (counts : Nat → Int) (digit : Nat) (amount : Int) : Nat → Int :=
  fun d => if d = digit then counts d + amount else counts d

/-- `counts[from][to] += amount`. -/
def bumpPair (counts : Nat → Nat → Int) (first second : Nat) (amount : Int) : Nat → Nat → Int :=
  fun a => if a = first then bump (counts a) second amount else counts a

def evictTransition (evicted : Nat) : Nat → Nat → Int :=
  if 1 < buffer.capacity then
    match buffer.slotDigit (buffer.start + 1) with
    | some successor => bumpPair buffer.transitionCounts evicted successor (-1)
    | none => buffer.transitionCounts
  else buffer.transitionCounts

def evict : TickRingBuffer :=
  match buffer.slotDigit buffer.start with
  | none => buffer
  | some evicted =>
    { buffer with
      frequencyCounts := bump buffer.frequencyCounts evicted (-1)
      transitionCounts := buffer.evictTransition evicted
      start := (buffer.start + 1) % buffer.capacity }

def previous : Option Nat :=
  if buffer.size = 0 then none
  else if buffer.size = buffer.capacity ∧ buffer.capacity ≤ 1 then none
  else buffer.slotDigit (buffer.start + buffer.size - 1)

def store (index : Nat) (previous : Option Nat) (tick : DigitTick) : TickRingBuffer :=
  { buffer with
    ticks := buffer.ticks.set index (some tick)
    frequencyCounts := bump buffer.frequencyCounts tick.lastDigit 1
    transitionCounts :=
      match previous with
      | some before => bumpPair buffer.transitionCounts before tick.lastDigit 1
      | none => buffer.transitionCounts }

def insert (tick : DigitTick) : TickRingBuffer :=
  if buffer.size = buffer.capacity then buffer.evict.store buffer.start buffer.previous tick
  else ({ buffer with size := buffer.size + 1 } : TickRingBuffer).store
    ((buffer.start + buffer.size) % buffer.capacity) buffer.previous tick

/-- `push_tick`; `clock` is what the monotonic clock shows. -/
def pushTick (quote : Decimal) (epoch : Int) (clock : ℚ) :
    Except String (DigitTick × TickRingBuffer) :=
  if quote.isFinite = false ∨ quote.isPositive = false then
    .error "tick quote must be positive and finite"
  else if epoch ≤ 0 then .error "tick epoch must be a positive integer"
  else match quote.lastDigit with
  | none => .error "tuple index out of range"
  | some digit =>
    if clock < 0 then .error "monotonic receipt time cannot be negative"
    else .ok (⟨epoch, quote, digit, clock⟩, buffer.insert ⟨epoch, quote, digit, clock⟩)

def historyDigit (offset : Nat) : Except String Nat :=
  match buffer.slotDigit (buffer.start + offset) with
  | some digit => .ok digit
  | none => .error "AssertionError"

def getDigitHistory (limit : Int) : Except String (List Nat) :=
  if limit < 0 then .error "digit history limit must be a non-negative integer"
  else
    let count := min limit.toNat buffer.size
    let first := buffer.size - count
    (List.range' first (buffer.size - first)).mapM buffer.historyDigit

end TickRingBuffer

end TradingLab

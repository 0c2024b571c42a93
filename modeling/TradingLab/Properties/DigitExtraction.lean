import TradingLab.Strategies.DerivDigits
import TradingLab.Workers.DerivOrders

/-!
# The last digit of a price

The digit of a price `n * 10 ^ -k` with `k` decimal places is `n mod 10`. The code takes the last
digit of the number as it was written: a price without its last zero shows another digit.
-/
namespace TradingLab

/-- What is written ends like the price `n` at `places` places. -/
def EndsLike (places n : Nat) : Decimal → Prop
  | .finite _ coefficient exponent =>
    exponent = -(places : Int) ∨ (n % 10 = 0 ∧ coefficient % 10 = 0)
  | _ => False

def Worth (places n : Nat) (number : Decimal) : Prop :=
  number.isFinite = true ∧ number.value = (n : ℚ) * 10 ^ (-(places : Int))

variable {places n : Nat} {number : Decimal} {tick other : MarketTick}
  {ticks others : List MarketTick} {value : Json}

theorem lastDigit_eq_iff (positive : 0 < n) (worth : Worth places n number) :
    number.lastDigit.getD 0 = n % 10 ↔ EndsLike places n number := by
  obtain ⟨finite, value⟩ := worth
  cases number with
  | finite negative coefficient exponent =>
    apply Decimal.lastDigit_iff positive
    rw [value]
    simp [Decimal.value, Decimal.signed]
  | infinite negative => cases finite
  | nan => cases finite

/-! ### Ticks that differ only in how their price is written -/

/-- Two ticks that the strategies cannot tell apart. -/
structure Twins (tick other : MarketTick) : Prop where
  broker : tick.broker = other.broker
  symbol : tick.brokerSymbol = other.brokerSymbol
  epoch : tick.epoch = other.epoch
  source : tick.source = other.source
  value : tick.quote.value = other.quote.value
  digit : lastDigit tick = lastDigit other

theorem sameIdentity_congr {before before' : MarketTick} (twins : Twins tick other)
    (twins' : Twins before before') : tick.sameIdentity before = other.sameIdentity before' := by
  have quotes : tick.quote.numEq before.quote = other.quote.numEq before'.quote := by
    apply Bool.eq_iff_iff.mpr
    rw [Decimal.numEq_iff tick.quote_finite before.quote_finite,
      Decimal.numEq_iff other.quote_finite before'.quote_finite, twins.value, twins'.value]
  simp only [MarketTick.sameIdentity, twins.broker, twins'.broker, twins.symbol, twins'.symbol,
    twins.epoch, twins'.epoch, twins.source, twins'.source, quotes]

theorem validFrom_congr {symbol : String} (twins : List.Forall₂ Twins ticks others) :
    ∀ {before before' : Option MarketTick}, Option.Rel Twins before before' →
      validFrom symbol before ticks = validFrom symbol before' others := by
  induction twins with
  | nil =>
    intro before before' _
    simp only [validFrom]
  | @cons tick other ticks others twin _ ih =>
    intro before before' related
    have rest := ih (Option.Rel.some twin)
    cases related with
    | none => simp only [validFrom, twin.broker, twin.symbol, twin.epoch, rest]
    | some twin' =>
      simp only [validFrom, twin.broker, twin.symbol, twin.epoch, twin'.epoch,
        sameIdentity_congr twin twin', rest]

theorem validTicks_congr
    (twins : List.Forall₂ Twins ticks others) : validTicks ticks = validTicks others := by
  cases twins with
  | nil => rfl
  | cons twin rest =>
    simp only [validTicks, twin.symbol]
    exact validFrom_congr (List.Forall₂.cons twin rest) Option.Rel.none

theorem map_congr {α : Type} {f : MarketTick → α}
    (same : ∀ tick other, Twins tick other → f tick = f other)
    (twins : List.Forall₂ Twins ticks others) : ticks.map f = others.map f := by
  induction twins with
  | nil => rfl
  | cons twin _ ih => simp only [List.map_cons, same _ _ twin, ih]

theorem lastSymbol_congr {default : String} (twins : List.Forall₂ Twins ticks others) :
    lastSymbol default ticks = lastSymbol default others := by
  simp only [lastSymbol, ← List.getLast?_map]
  rw [map_congr (fun _ _ twin => twin.symbol) twins]

theorem lastEpoch_congr
    (twins : List.Forall₂ Twins ticks others) : lastEpoch ticks = lastEpoch others := by
  simp only [lastEpoch, ← List.getLast?_map]
  rw [map_congr (fun _ _ twin => twin.epoch) twins]

theorem lastItems_twins (n : Nat) (twins : List.Forall₂ Twins ticks others) :
    List.Forall₂ Twins (lastItems ticks n) (lastItems others n) := by
  unfold lastItems
  rw [twins.length_eq]
  exact List.forall₂_drop _ twins

theorem evaluate_congr {wilson : WilsonBound} {strategy : EdgeStrategy}
    (twins : List.Forall₂ Twins ticks others) :
    strategy.evaluate wilson ticks = strategy.evaluate wilson others := by
  have window := lastItems_twins warmupTicks twins
  simp only [EdgeStrategy.evaluate, twins.length_eq, lastSymbol_congr twins,
    validTicks_congr window, lastEpoch_congr window,
    map_congr (fun _ _ twin => twin.digit) window]

/-! ### The ring buffer -/

namespace TickRingBuffer

def slotDigits (buffer : TickRingBuffer) : List (Option Nat) :=
  buffer.ticks.map (Option.map (·.lastDigit))

structure Alike (buffer other : TickRingBuffer) : Prop where
  capacity : buffer.capacity = other.capacity
  digits : buffer.slotDigits = other.slotDigits
  frequency : buffer.frequencyCounts = other.frequencyCounts
  transition : buffer.transitionCounts = other.transitionCounts
  start : buffer.start = other.start
  size : buffer.size = other.size

variable {buffer other : TickRingBuffer}

section

variable (alike : Alike buffer other)
include alike

theorem Alike.slotDigit (index : Nat) :
    buffer.slotDigit index = other.slotDigit index := by
  have digit : ∀ b : TickRingBuffer, b.slotDigit index =
      (b.slotDigits[index % b.capacity]?).join := by
    intro b
    simp only [TickRingBuffer.slotDigit, slotDigits, List.getElem?_map]
    cases b.ticks[index % b.capacity]? with
    | none => rfl
    | some content => rfl
  rw [digit, digit, alike.digits, alike.capacity]

theorem Alike.evict : Alike buffer.evict other.evict := by
  unfold TickRingBuffer.evict
  rw [alike.slotDigit, alike.start]
  split
  · exact alike
  · rename_i evicted _
    have transition : buffer.evictTransition evicted = other.evictTransition evicted := by
      simp only [evictTransition, alike.capacity, alike.start, alike.slotDigit, alike.transition]
    constructor
    case capacity => exact alike.capacity
    case digits => exact alike.digits
    case frequency => simp only [alike.frequency]
    case transition => exact transition
    case start => simp only [alike.capacity]
    case size => exact alike.size

variable {tick twin : DigitTick}

theorem Alike.store (index : Nat) (previous : Option Nat) (same : tick.lastDigit = twin.lastDigit) :
    Alike (buffer.store index previous tick) (other.store index previous twin) := by
  constructor
  case capacity => exact alike.capacity
  case digits =>
    have digits := alike.digits
    simp only [slotDigits, TickRingBuffer.store, List.map_set] at digits ⊢
    rw [digits, Option.map_some, Option.map_some, same]
  case frequency => simp only [TickRingBuffer.store, alike.frequency, same]
  case transition => simp only [TickRingBuffer.store, alike.transition, same]
  case start => exact alike.start
  case size => exact alike.size

theorem Alike.insert
    (same : tick.lastDigit = twin.lastDigit) : Alike (buffer.insert tick) (other.insert twin) := by
  have previous : buffer.previous = other.previous := by
    simp only [TickRingBuffer.previous, alike.size, alike.capacity, alike.start, alike.slotDigit]
  unfold TickRingBuffer.insert
  rw [alike.size, alike.capacity, alike.start, previous]
  split
  · exact alike.evict.store _ _ same
  · apply Alike.store _ _ _ same
    exact ⟨rfl, alike.digits, alike.frequency, alike.transition, rfl, rfl⟩

end

def pushAll (buffer : TickRingBuffer) (transcript : List (MarketTick × ℚ)) :
    Except String TickRingBuffer :=
  transcript.foldlM (fun buffer entry =>
    (buffer.pushTick entry.1.quote entry.1.epoch entry.2).map Prod.snd) buffer

theorem pushTick_tick (buffer : TickRingBuffer) (tick : MarketTick) (clock : ℚ) :
    (buffer.pushTick tick.quote tick.epoch clock).map Prod.snd =
      if clock < 0 then .error "monotonic receipt time cannot be negative"
      else .ok (buffer.insert ⟨tick.epoch, tick.quote, lastDigit tick, clock⟩) := by
  have finite := tick.quote_finite
  have positive := tick.quote_positive
  have epoch := tick.epoch_pos
  have digit : tick.quote.lastDigit = some (lastDigit tick) := by
    unfold lastDigit
    cases number : tick.quote with
    | finite negative coefficient exponent => rfl
    | infinite negative => simp [number, Decimal.isFinite] at finite
    | nan => simp [number, Decimal.isFinite] at finite
  simp only [pushTick, finite, positive, digit, not_le.mpr epoch, if_false, Bool.true_eq_false,
    or_self]
  split <;> rfl

theorem pushAll_congr {transcript other' : List (MarketTick × ℚ)}
    (twins : List.Forall₂ (fun entry entry' => Twins entry.1 entry'.1 ∧ entry.2 = entry'.2)
      transcript other') :
    ∀ {buffer other : TickRingBuffer}, Alike buffer other →
      (buffer.pushAll transcript).map (·.frequencyCounts) =
        (other.pushAll other').map (·.frequencyCounts) := by
  induction twins with
  | nil =>
    intro buffer other alike
    simp only [pushAll, List.foldlM_nil]
    exact congrArg Except.ok alike.frequency
  | cons entries _ ih =>
    intro buffer other alike
    obtain ⟨twin, clock⟩ := entries
    simp only [pushAll, List.foldlM_cons, pushTick_tick, clock] at ih ⊢
    split
    · rfl
    · exact ih (alike.insert twin.digit)

end TickRingBuffer

/-! ### The three places -/

theorem finiteDecimal_eq_ok {found : Option Decimal}
    (read : finiteDecimal found = .ok number) : found = some number ∧ number.isFinite = true := by
  cases found with
  | none => cases read
  | some other =>
    simp only [finiteDecimal] at read
    split at read
    · rename_i finite
      cases read
      exact ⟨rfl, finite⟩
    · cases read

theorem asDecimal_of_value (read : decimalOfValue value = .ok number) :
    value.asDecimal = some number ∧ number.isFinite = true := by
  cases value with
  | decimal _ => exact finiteDecimal_eq_ok read
  | str _ => exact finiteDecimal_eq_ok read
  | int _ => exact finiteDecimal_eq_ok read
  | null => cases read
  | bool _ => cases read
  | arr _ => cases read
  | obj _ => cases read

theorem exitDigit_of_asDecimal
    (read : value.asDecimal = some number) (finite : number.isFinite = true) :
    DerivOrderSession.exitDigit value = .ok (number.lastDigit.getD 0) := by
  have present : value.isNull = false := by
    cases value with
    | null => cases read
    | _ => rfl
  cases number with
  | finite negative coefficient exponent =>
    simp only [DerivOrderSession.exitDigit, present, read, Bool.false_eq_true, if_false]
  | infinite negative => cases finite
  | nan => cases finite

/-- The strategies, the ring buffer and the settlement check all read the digit of the
    price `n`. -/
structure ReadsDigit (value : Json) (number : Decimal) (n : Nat) : Prop where
  strategy : ∀ tick : MarketTick, tick.quote = number → lastDigit tick = n % 10
  buffer : ∀ (buffer buffer' : TickRingBuffer) (epoch : Int) (clock : ℚ) (tick : DigitTick),
    buffer.pushTick number epoch clock = .ok (tick, buffer') → tick.lastDigit = n % 10
  settlement : DerivOrderSession.exitDigit value = .ok (n % 10)

theorem pushTick_digit {buffer buffer' : TickRingBuffer} {epoch : Int}
    {clock : ℚ} {tick : DigitTick}
    (pushed : buffer.pushTick number epoch clock = .ok (tick, buffer')) :
    tick.lastDigit = number.lastDigit.getD 0 := by
  unfold TickRingBuffer.pushTick at pushed
  split at pushed
  · cases pushed
  · split at pushed
    · cases pushed
    · cases digit : number.lastDigit with
      | none => simp [digit] at pushed
      | some d =>
        simp only [digit] at pushed
        split at pushed
        · cases pushed
        · cases pushed
          rfl

theorem readsDigit_iff (read : decimalOfValue value = .ok number) :
    ReadsDigit value number n ↔ number.lastDigit.getD 0 = n % 10 := by
  obtain ⟨asDecimal, finite⟩ := asDecimal_of_value read
  have exit := exitDigit_of_asDecimal asDecimal finite
  constructor
  · intro reads
    have settled := reads.settlement
    rw [exit] at settled
    exact Except.ok.inj settled
  · intro same
    constructor
    case strategy =>
      rintro tick rfl
      exact same
    case buffer =>
      intro buffer buffer' epoch clock tick pushed
      rw [pushTick_digit pushed, same]
    case settlement => rw [exit, same]

/-! ### Transcripts -/

/-- Two ticks of one price at `places` places that is written well in both. -/
structure SamePrice (places : Nat) (tick other : MarketTick) : Prop where
  broker : tick.broker = other.broker
  symbol : tick.brokerSymbol = other.brokerSymbol
  epoch : tick.epoch = other.epoch
  source : tick.source = other.source
  price : ∃ n, 0 < n ∧ Worth places n tick.quote ∧ Worth places n other.quote ∧
    EndsLike places n tick.quote ∧ EndsLike places n other.quote

theorem SamePrice.twins (same : SamePrice places tick other) : Twins tick other := by
  obtain ⟨n, positive, worth, worth', ends, ends'⟩ := same.price
  constructor
  case broker => exact same.broker
  case symbol => exact same.symbol
  case epoch => exact same.epoch
  case source => exact same.source
  case value => rw [worth.2, worth'.2]
  case digit =>
    have digit := (lastDigit_eq_iff positive worth).mpr ends
    have digit' := (lastDigit_eq_iff positive worth').mpr ends'
    exact digit.trans digit'.symm

def edgeStrategies : List EdgeStrategy :=
  [tailProbabilityEdge, selectiveDiffersEdge, parityRegimeEdge]

/-- The digit of a price is read exactly when the price is written with all its places, or ends in
    zero as it is written. -/
theorem last_digit_iff (places : Nat) :
    (∀ (n : Nat) (value : Json) (number : Decimal), 0 < n → decimalOfValue value = .ok number →
      number.value = (n : ℚ) * 10 ^ (-(places : Int)) →
        (ReadsDigit value number n ↔ EndsLike places n number)) ∧
    (∀ (wilson : WilsonBound) (ticks others : List MarketTick),
      List.Forall₂ (SamePrice places) ticks others →
        ∀ strategy ∈ edgeStrategies,
          strategy.evaluate wilson ticks = strategy.evaluate wilson others) ∧
    (∀ (buffer : TickRingBuffer) (transcript others : List (MarketTick × ℚ)),
      List.Forall₂ (fun entry entry' => SamePrice places entry.1 entry'.1 ∧ entry.2 = entry'.2)
        transcript others →
        (buffer.pushAll transcript).map (·.frequencyCounts) =
          (buffer.pushAll others).map (·.frequencyCounts)) ∧
    (∀ (n : Nat) (value other : Json) (number number' : Decimal), 0 < n →
      decimalOfValue value = .ok number → decimalOfValue other = .ok number' →
      Worth places n number → Worth places n number' →
      EndsLike places n number → EndsLike places n number' →
        ∀ product predictionDigit status profit,
          DerivOrderSession.checkDigitSettlement product predictionDigit status profit value =
            DerivOrderSession.checkDigitSettlement product predictionDigit status profit
              other) := by
  refine ⟨?_, ?_, ?_, ?_⟩
  · intro n value number positive read price
    rw [readsDigit_iff read]
    exact lastDigit_eq_iff positive ⟨(asDecimal_of_value read).2, price⟩
  · intro wilson ticks others same strategy _
    exact evaluate_congr (same.imp fun _ _ prices => prices.twins)
  · intro buffer transcript others same
    have twins := same.imp fun _ _ entries => And.imp_left SamePrice.twins entries
    exact TickRingBuffer.pushAll_congr twins ⟨rfl, rfl, rfl, rfl, rfl, rfl⟩
  · intro n value other number number' positive read read' worth worth' ends ends' product
      predictionDigit status profit
    have exit := ((readsDigit_iff read).mpr ((lastDigit_eq_iff positive worth).mpr ends)).settlement
    have exit' :=
      ((readsDigit_iff read').mpr ((lastDigit_eq_iff positive worth').mpr ends')).settlement
    simp only [DerivOrderSession.checkDigitSettlement, exit, exit']

theorem written_sample_read :
    decimalOfValue (.str "1234.56") = .ok (.finite false 123456 (-2)) ∧
      ReadsDigit (.str "1234.56") (.finite false 123456 (-2)) 123456 := by
  have read : decimalOfValue (.str "1234.56") = .ok (.finite false 123456 (-2)) := rfl
  refine ⟨read, ?_⟩
  apply ((last_digit_iff 2).1 123456 _ _ (by decide) read ?_).mpr (Or.inl rfl)
  simp [Decimal.value, Decimal.signed]

/-- The price 1234.50, written without its last zero, shows the digit 5. -/
theorem unpadded_sample_misread :
    decimalOfValue (.decimal (.finite false 12345 (-1))) = .ok (.finite false 12345 (-1)) ∧
      (Decimal.finite false 12345 (-1)).value = (123450 : ℚ) * 10 ^ (-2 : Int) ∧
      DerivOrderSession.exitDigit (.decimal (.finite false 12345 (-1))) = .ok 5 ∧
      ¬ ReadsDigit (.decimal (.finite false 12345 (-1))) (.finite false 12345 (-1)) 123450 := by
  refine ⟨rfl, ?_, rfl, ?_⟩
  · norm_num [Decimal.value, Decimal.signed]
  · intro reads
    cases reads.settlement

end TradingLab

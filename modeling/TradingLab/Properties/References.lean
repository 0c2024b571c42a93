import TradingLab.Persistence.Rows

/-!
# What the columns of `state.db` refer to

Some columns name rows of another table without a foreign key: the last sequence number of an
order, the evidence that resolved it, and the order that the digit row has counted last. In every
reachable database these rows exist.
-/
namespace TradingLab

open Relational

namespace Database

/-- A sequence number comes from an event that the inbox holds for the order. -/
def Sequenced (db : Database) : Prop :=
  ∀ i o, db.order i = some o → o.lastExternalSequence ≠ none →
    ∃ e ∈ db.brokerOrderEvents.rows, e.orderId = some o.orderId

def Evidenced (db : Database) : Prop :=
  ∀ i o id, db.order i = some o → o.resolutionEvidenceId = some id → (db.evidence id).isSome = true

def LastSettled (db : Database) : Prop :=
  ∀ row orderId, db.digitRiskRuntime = some row → row.lastOrderId = some orderId →
    ∃ o, db.orderById orderId = some o ∧ o.state = .settled

end Database

section Steps
variable {db db' : Database}

theorem sequenced_creates (sequenced : db.Sequenced) (created : Creates db db') :
    db'.Sequenced := by
  obtain ⟨_, _, _, _, _, _, _, persisted⟩ := created
  intro i o found numbered
  rw [order_created persisted] at found
  split at found
  · -- A new order has seen no event.
    cases found
    exact absurd rfl numbered
  · obtain ⟨-, -, -, -, frame⟩ := persist_inserts persisted
    rw [frame]
    exact sequenced i o found numbered

theorem sequenced_change (sequenced : db.Sequenced) (change : Change db db') :
    db'.Sequenced := by
  intro i o' found numbered
  have step := order_change change i
  rw [found] at step
  generalize before : db.order i = old at step
  cases step with
  | @some o _ step =>
    have recorded : ∃ e ∈ db.brokerOrderEvents.rows, e.orderId = some o.orderId := by
      rcases step.sequenced with same | recorded
      · apply sequenced i o before
        rwa [same] at numbered
      · exact recorded
    obtain ⟨e, member, named⟩ := recorded
    obtain ⟨e', member', -, kept⟩ := events_change change member
    exact ⟨e', member', by rw [kept, named, step.orderId]⟩

theorem evidenced_creates (evidenced : db.Evidenced) (created : Creates db db') :
    db'.Evidenced := by
  obtain ⟨_, _, _, _, _, _, _, persisted⟩ := created
  intro i o id found named
  rw [order_created persisted] at found
  split at found
  · -- A new order is not resolved.
    cases found
    cases named
  · obtain ⟨-, -, -, -, frame⟩ := persist_inserts persisted
    rw [frame]
    exact evidenced i o id found named

theorem evidenced_change (evidenced : db.Evidenced) (change : Change db db') :
    db'.Evidenced := by
  intro i o' id found named
  have step := order_change change i
  rw [found] at step
  generalize before : db.order i = old at step
  apply evidence_change change
  cases step with
  | @some o _ step =>
    rcases step.evidenced with same | ⟨id', present, noted⟩
    · apply evidenced i o id before
      rwa [same] at named
    · rw [noted] at named
      cases named
      exact present

theorem lastSettled_creates (last : db.LastSettled) (created : Creates db db') :
    db'.LastSettled := by
  intro row orderId present counted
  have same : db'.digitRiskRuntime = db.digitRiskRuntime := by
    obtain ⟨_, _, _, _, _, _, _, persisted⟩ := created
    obtain ⟨-, -, -, -, frame⟩ := persist_inserts persisted
    rw [frame]
  rw [same] at present
  obtain ⟨o, found, settled⟩ := last row orderId present counted
  exact ⟨o, orderById_creates created found, settled⟩

theorem lastOrderId_change (change : Change db db') {row' : DigitRiskRuntime} {orderId : String}
    (present : db'.digitRiskRuntime = some row') (counted : row'.lastOrderId = some orderId) :
    (∃ row, db.digitRiskRuntime = some row ∧ row.lastOrderId = some orderId) ∨
      ∃ o, db.orderById orderId = some o ∧ o.state = .settled := by
  cases change with
  | settleDigit _ _ _ _ _ _ _ settled applied =>
    rcases Database.applyDigitRuntimeSettlement_eq_ok applied with
      ⟨-, rfl⟩ | ⟨_, -, -, -, ⟨-, rfl⟩ | ⟨-, rfl⟩⟩
    · exact .inl ⟨row', present, counted⟩
    · exact .inl ⟨row', present, counted⟩
    · -- The settlement counts the order that it is about.
      cases present
      cases counted
      exact .inr settled
  | digitRow row same =>
    cases present
    rcases same with none | ⟨old, here, kept⟩
    · rw [none] at counted
      cases counted
    · exact .inl ⟨old, here, kept ▸ counted⟩
  | move _ _ _ _ _ moved =>
    rw [Database.transitionOrder_frame moved] at present
    exact .inl ⟨row', present, counted⟩
  | claim _ _ _ _ moved =>
    rw [Database.transitionOrder_frame moved] at present
    exact .inl ⟨row', present, counted⟩
  | close _ _ _ _ _ _ _ _ _ _ moved =>
    rw [Database.transitionOrder_frame moved] at present
    exact .inl ⟨row', present, counted⟩
  | message | note | inbox | evidence | attempts | processed =>
    exact .inl ⟨row', present, counted⟩

theorem lastSettled_change (last : db.LastSettled) (change : Change db db') :
    db'.LastSettled := by
  intro row' orderId present counted
  have before : ∃ o, db.orderById orderId = some o ∧ o.state = .settled := by
    rcases lastOrderId_change change present counted with ⟨row, here, same⟩ | settled
    · exact last row orderId here same
    · exact settled
  -- A SETTLED order stays SETTLED.
  obtain ⟨o, found, settled⟩ := before
  obtain ⟨o', found', step⟩ := orderById_change change found
  refine ⟨o', found', ?_⟩
  rw [step.state_eq (by rw [settled]; rfl), settled]

end Steps

namespace Reachable

variable {db : Database}

theorem sequenced (reachable : Reachable db) : db.Sequenced := by
  apply Reachable.of_changes _ _ _ reachable
  · intro i o found
    cases found
  · intro _ _ before created
    exact sequenced_creates before created
  · intro _ _ before change
    exact sequenced_change before change

theorem evidenced (reachable : Reachable db) : db.Evidenced := by
  apply Reachable.of_changes _ _ _ reachable
  · intro i o id found
    cases found
  · intro _ _ before created
    exact evidenced_creates before created
  · intro _ _ before change
    exact evidenced_change before change

theorem lastSettled (reachable : Reachable db) : db.LastSettled := by
  apply Reachable.of_changes _ _ _ reachable
  · intro row orderId present
    cases present
  · intro _ _ before created
    exact lastSettled_creates before created
  · intro _ _ before change
    exact lastSettled_change before change

theorem lastOrderId_ne (reachable : Reachable db) {orderId : String} {o : OrderRow}
    (found : db.orderById orderId = some o) (open_ : o.state ≠ .settled) {row : DigitRiskRuntime}
    (present : db.digitRiskRuntime = some row) : row.lastOrderId ≠ some orderId := by
  intro counted
  obtain ⟨o', found', settled⟩ := reachable.lastSettled row orderId present counted
  rw [found] at found'
  cases found'
  exact open_ settled

end Reachable

end TradingLab

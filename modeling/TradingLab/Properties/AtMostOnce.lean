import TradingLab.Core.Dispatcher
import TradingLab.Persistence.Rows
import TradingLab.Properties.Exposure

/-!
# At-most-once submission

A message is claimed at most once, and the calls of `submit_order` made and about to be made for it
never outnumber its claims. Crashes only lose dispatches under way.
-/
namespace TradingLab

open Relational
open Database

/-! ### Claims -/

def Database.attempts (db : Database) (messageId : String) : Nat :=
  ((db.message messageId).map OutboxRow.attemptCount).getD 0

def Database.ClaimedOnce (db : Database) : Prop :=
  ∀ id m, db.message id = some m → (m.state = .pending → m.attemptCount = 0) ∧ m.attemptCount ≤ 1

/-- A message that was never claimed and never will be: it has left PENDING, or its order
    has ended. -/
def Database.Barred (db : Database) (messageId : String) : Prop :=
  ∃ m, db.message messageId = some m ∧ m.attemptCount = 0 ∧
    (m.state ≠ .pending ∨ ∃ o, db.order m.intentId = some o ∧ o.state.isTerminal = true)

def Database.commands (db : Database) : List (String × Payload) :=
  db.outboxMessages.rows.map fun m => (m.messageId, m.payload)

section Changes
variable {db db' : Database} {id : String}

theorem commands_updateOutbox (p : OutboxRow → Bool) {f : OutboxRow → OutboxRow}
    (keys : OutboxRow.SameKeys f) (same : ∀ m, (f m).SameCommand m) :
    (db.updateOutbox p f keys).commands = db.commands := by
  simp only [commands, updateOutbox, Table.rows_update, List.map_map]
  refine List.map_congr_left fun m _ => ?_
  simp only [Function.comp_apply, Table.column_change (fun m => (same m).messageId) m,
    Table.column_change (fun m => (same m).payload) m]

theorem commands_change (change : Change db db') : db'.commands = db.commands := by
  cases change with
  | move _ _ _ _ _ moved => rw [transitionOrder_frame moved]; rfl
  | close _ _ _ _ _ _ _ _ _ _ moved => rw [transitionOrder_frame moved]; rfl
  | claim _ _ _ _ moved =>
    rw [transitionOrder_frame moved]
    exact commands_updateOutbox _ (OutboxRow.claim_keys _) fun _ => ⟨rfl, rfl, rfl, rfl⟩
  | message same => exact commands_updateOutbox _ _ same
  | settleDigit _ _ _ _ _ _ _ _ applied =>
    obtain ⟨row, rfl⟩ := applyDigitRuntimeSettlement_frame applied
    rfl
  | note | inbox | evidence | attempts | processed | digitRow => rfl

theorem attempts_le_change (change : Change db db') (id : String) :
    db.attempts id ≤ db'.attempts id := by
  have step := message_change change id
  unfold Database.attempts
  generalize db.message id = before at step
  generalize db'.message id = after at step
  cases step with
  | none => exact Nat.le_refl _
  | some step =>
    cases step with
    | same => exact Nat.le_refl _
    | claimed => exact Nat.le_succ _
    | done _ attempts => exact Nat.le_of_eq attempts.symm

theorem attempts_claimed {message : OutboxRow} {claimedAt : Instant}
    (found : db.message message.messageId = some message) (pending : message.state = .pending)
    (moved : (db.updateOutbox (fun m => m.messageId == message.messageId && m.state == .pending)
      (fun m => m.claim claimedAt) (OutboxRow.claim_keys claimedAt)).transitionOrder
        message.intentId .dispatching claimedAt none none = .ok db') :
    db'.attempts message.messageId = db.attempts message.messageId + 1 := by
  have lookup : db'.message message.messageId = some (message.claim claimedAt) := by
    rw [transitionOrder_frame moved]
    refine (message_updateOutbox _ (OutboxRow.claim_keys claimedAt) _).trans ?_
    rw [found, Option.map_some, Table.change_of_true]
    simp [pending]
  rw [Database.attempts, lookup, Database.attempts, found]
  rfl

theorem claimedOnce_change (once : db.ClaimedOnce) (change : Change db db') :
    db'.ClaimedOnce := by
  intro id m' found
  have step := message_change change id
  rw [found] at step
  generalize here : db.message id = before at step
  cases step with
  | some step =>
    obtain ⟨fresh, bound⟩ := once id _ here
    cases step with
    | same => exact ⟨fresh, bound⟩
    | claimed _ pending =>
      refine ⟨fun again => ?_, by rw [OutboxRow.claim, fresh pending]⟩
      cases again
    | done _ attempts left =>
      refine ⟨fun pending => ?_, attempts ▸ bound⟩
      rw [pending] at left
      cases left

theorem barred_change (barred : db.Barred id) (change : Change db db') :
    db'.Barred id := by
  obtain ⟨m, found, unclaimed, why⟩ := barred
  have step := message_change change id
  rw [found] at step
  generalize there : db'.message id = after at step
  cases step with
  | some step =>
    rename_i m'
    have kept : m'.intentId = m.intentId := step.sameCommand.intentId
    -- An order that has ended stays ended.
    have ends : (∃ o, db.order m.intentId = some o ∧ o.state.isTerminal = true) →
        ∃ o, db'.order m'.intentId = some o ∧ o.state.isTerminal = true := by
      rintro ⟨o, ordered, ended⟩
      have follows := order_change change m.intentId
      rw [ordered] at follows
      generalize later : db'.order m.intentId = final at follows
      cases follows with
      | some follows =>
        exact ⟨_, by rw [kept]; exact later, by rw [follows.state_eq ended]; exact ended⟩
    cases step with
    | same => exact ⟨m, there, unclaimed, why.imp_right ends⟩
    | claimed claimedAt pending ordered waiting =>
      -- A claim needs a PENDING message whose order is still waiting.
      rcases why with gone | ⟨o, ordered', ended⟩
      · exact absurd pending gone
      · rw [ordered] at ordered'
        cases ordered'
        rcases waiting with state | state <;> rw [state] at ended <;> cases ended
    | done _ attempts left =>
      refine ⟨m', there, attempts.trans unclaimed, .inl fun pending => ?_⟩
      rw [pending] at left
      cases left

theorem attempts_le_creates (creates : Creates db db') (id : String) :
    db.attempts id ≤ db'.attempts id := by
  obtain ⟨_, command, _, _, _, _, _, h⟩ := creates
  unfold Database.attempts
  rw [message_created h]
  split
  · rename_i here
    rw [← here, message_fresh h]
    exact Nat.le_refl _
  · exact Nat.le_refl _

theorem claimedOnce_creates (once : db.ClaimedOnce) (creates : Creates db db') :
    db'.ClaimedOnce := by
  obtain ⟨_, _, _, _, _, _, _, h⟩ := creates
  intro id m found
  rw [message_created h] at found
  split at found
  · cases found
    exact ⟨fun _ => rfl, Nat.zero_le 1⟩
  · exact once id m found

theorem barred_creates (barred : db.Barred id) (creates : Creates db db') :
    db'.Barred id := by
  obtain ⟨_, command, _, _, _, _, _, h⟩ := creates
  obtain ⟨m, found, unclaimed, why⟩ := barred
  refine ⟨m, ?_, unclaimed, why.imp_right ?_⟩
  · rw [message_created h, if_neg]
    · exact found
    · intro same
      rw [← same, message_fresh h] at found
      cases found
  · rintro ⟨o, ordered, ended⟩
    refine ⟨o, ?_, ended⟩
    rw [order_created h, if_neg]
    · exact ordered
    · intro same
      rw [← same, order_fresh h] at ordered
      cases ordered

end Changes

theorem Reachable.claimedOnce {db : Database} (reachable : Reachable db) : db.ClaimedOnce :=
  reachable.of_changes (fun _ _ found => nomatch found)
    (fun _ _ once created => claimedOnce_creates once created)
    fun _ _ once change => claimedOnce_change once change

/-! ### The system -/

namespace Dispatch

def isReadyFor (messageId : String) : Dispatch → Bool
  | .ready command _ => command.messageId == messageId
  | _ => false

theorem command_start (command : OrderCommand) (dispatchTime : Instant) :
    (start command dispatchTime).command = command := by
  unfold start
  split <;> rfl

end Dispatch

namespace DispatchSystem

def calls (s : DispatchSystem) (messageId : String) : Nat :=
  s.submissions.countP (fun x => x.command.messageId == messageId) +
    s.underWay.countP (Dispatch.isReadyFor messageId)

structure Sound (s : DispatchSystem) : Prop where
  reachable : Reachable s.db
  stored : s.db.commands = s.persisted.map fun c => (c.messageId, c.toPayload)
  paid : ∀ id, s.calls id ≤ s.db.attempts id
  known : ∀ dispatch ∈ s.underWay, dispatch.command ∈ s.persisted
  ready : ∀ command dispatchTime, .ready command dispatchTime ∈ s.underWay →
    dispatchTime < command.deadlineAt
  sent : ∀ x ∈ s.submissions, x.command ∈ s.persisted ∧ x.dispatchTime < x.command.deadlineAt

theorem sound_initial : initial.Sound where
  reachable := ⟨[], rfl⟩
  stored := rfl
  paid _ := Nat.le_refl _
  known _ member := nomatch member
  ready _ _ member := nomatch member
  sent _ member := nomatch member

variable {op : WriterOp} {db db' : Database} {s : DispatchSystem} {dispatchTime : Instant}
  {command : OrderCommand} {id : String}

theorem commands_of_ok (h : op.body db = .ok ((), db')) :
    db'.commands = db.commands ++ op.newCommand.toList.map fun c => (c.messageId, c.toPayload) := by
  cases new : op.newCommand with
  | none =>
    have unchanged : db'.commands = db.commands :=
      Changes.invariant (fun next => next.commands = db.commands)
        (fun _ _ same change => (commands_change change).trans same) rfl (op.changes new h)
    simpa using unchanged
  | some command =>
    cases op <;> try cases new
    have rows := (Table.insert_eq_some_iff.mp (persist_inserts h).2.2.1).2
    simp only [commands, rows, List.map_append]
    rfl

theorem attempts_le_of_ok (h : op.body db = .ok ((), db'))
    (id : String) : db.attempts id ≤ db'.attempts id := by
  rcases op.creates_or_changes h with creates | changes
  · exact attempts_le_creates creates id
  · exact Changes.invariant (fun next => db.attempts id ≤ next.attempts id)
      (fun _ _ le change => le.trans (attempts_le_change change id)) (Nat.le_refl _) changes

theorem transaction_cases (s : DispatchSystem) (op : WriterOp) :
    (s.transaction op = s ∨ ∃ db', op.body s.db = .ok ((), db') ∧
      s.transaction op = { s with db := db', persisted :=
        s.persisted ++ op.newCommand.toList }) := by
  unfold transaction writerStep added
  cases h : op.body s.db with
  | error e => exact .inl (by rw [Machine.transact_of_error h]; simp)
  | ok answer => exact .inr ⟨answer.2, rfl, by rw [Machine.transact_of_ok h]⟩

theorem Sound.transaction (sound : s.Sound) (op : WriterOp) :
    (s.transaction op).Sound := by
  have reachable : Reachable (s.transaction op).db := sound.reachable.step op
  rcases s.transaction_cases op with same | ⟨db', committed, next⟩
  · rw [same]
    exact sound
  · rw [next] at reachable ⊢
    have more : ∀ {c : OrderCommand}, c ∈ s.persisted → c ∈ s.persisted ++ op.newCommand.toList :=
      fun member => List.mem_append_left _ member
    exact {
      reachable := reachable
      stored := by
        rw [List.map_append, ← sound.stored]
        exact commands_of_ok committed
      paid := fun id => (sound.paid id).trans (attempts_le_of_ok committed id)
      known := fun dispatch member => more (sound.known dispatch member)
      ready := sound.ready
      sent := fun x member => (sound.sent x member).imp_left more }

theorem Sound.persisted_of_message (sound : s.Sound) {m : OutboxRow}
    (member : m ∈ s.db.outboxMessages.rows) :
    ∃ c ∈ s.persisted, c.messageId = m.messageId ∧ c.toPayload = m.payload := by
  have stored : (m.messageId, m.payload) ∈ s.db.commands := List.mem_map_of_mem member
  rw [sound.stored, List.mem_map] at stored
  obtain ⟨c, persisted, same⟩ := stored
  exact ⟨c, persisted, congrArg Prod.fst same, congrArg Prod.snd same⟩

theorem Sound.claimed (sound : s.Sound) {broker accountId : Option String}
    (h : claimNextMessage dispatchTime broker accountId s.db = .ok (some command, db')) :
    command ∈ s.persisted ∧
      ∀ id, s.db.attempts id + (if command.messageId = id then 1 else 0) ≤ db'.attempts id := by
  rcases claimNextMessage_spec h with
    ⟨no, -⟩ | ⟨message, order, answer, some_, found, pending, -, read, moved⟩
  · cases no
  cases some_
  obtain ⟨c, persisted, sameId, samePayload⟩ :=
    sound.persisted_of_message (Table.mem_of_lookup found).1
  have : command = c := by
    rw [← samePayload, OrderCommand.setDefault_toPayload, readCommand,
      OrderCommand.fromPayload_toPayload] at read
    exact (Except.ok.inj read).symm
  subst this
  refine ⟨persisted, fun id => ?_⟩
  split
  · rename_i here
    rw [← here, sameId, attempts_claimed found pending moved]
  · exact attempts_le_change (.claim message dispatchTime found pending moved) id

theorem countP_start (command : OrderCommand) (dispatchTime : Instant) (id : String)
    (underWay : List Dispatch) :
    (Dispatch.start command dispatchTime :: underWay).countP (Dispatch.isReadyFor id) ≤
      underWay.countP (Dispatch.isReadyFor id) + if command.messageId = id then 1 else 0 := by
  unfold Dispatch.start
  split <;> simp [List.countP_cons, Dispatch.isReadyFor]

theorem Sound.claim (sound : s.Sound) (dispatchTime : Instant)
    (broker accountId : Option String) : (s.claim dispatchTime broker accountId).Sound := by
  unfold DispatchSystem.claim
  split
  · rename_i command db' h
    obtain ⟨persisted, paid⟩ := sound.claimed h
    have changes := (claimNextMessage_changes h).changes
    refine ⟨?_, ?_, fun id => ?_, fun dispatch member => ?_, fun c t member => ?_, sound.sent⟩
    · have committed : (WriterOp.claimNextMessage dispatchTime broker accountId).body s.db =
          .ok ((), db') := by
        simp only [WriterOp.body, Operation.silent, h]
      have := sound.reachable.step (.claimNextMessage dispatchTime broker accountId)
      rwa [TradingLab.writerStep, Machine.transact_of_ok committed] at this
    · exact Changes.invariant (fun next => next.commands = _)
        (fun _ _ same change => (commands_change change).trans same) sound.stored changes
    · have before := sound.paid id
      have now := countP_start command dispatchTime id s.underWay
      have after := paid id
      simp only [calls] at before ⊢
      omega
    · rcases List.mem_cons.mp member with rfl | rest
      · rw [Dispatch.command_start]
        exact persisted
      · exact sound.known dispatch rest
    · rcases List.mem_cons.mp member with first | rest
      · unfold Dispatch.start at first
        split at first
        · cases first
        · rename_i live
          cases first
          exact lt_of_not_ge live
      · exact sound.ready c t rest
  · rename_i db' h
    rcases claimNextMessage_spec h with ⟨-, rfl⟩ | ⟨_, _, _, some_, _⟩
    · exact sound
    · cases some_
  · exact sound

theorem Sound.erase (sound : s.Sound) (dispatch : Dispatch) :
    ({ s with underWay := s.underWay.erase dispatch } : DispatchSystem).Sound := by
  refine ⟨sound.reachable, sound.stored, fun id => ?_, fun d member => ?_, fun c t member => ?_,
    sound.sent⟩
  · refine le_trans ?_ (sound.paid id)
    exact Nat.add_le_add_left ((List.erase_sublist).countP_le) _
  · exact sound.known d (List.mem_of_mem_erase member)
  · exact sound.ready c t (List.mem_of_mem_erase member)

theorem Sound.submit (sound : s.Sound) (member : .ready command dispatchTime ∈ s.underWay)
    (answer : WorkerAnswer) :
    ({ s with
      underWay := .answered command answer :: s.underWay.erase (.ready command dispatchTime)
      submissions := ⟨command, dispatchTime⟩ :: s.submissions } : DispatchSystem).Sound := by
  have persisted : command ∈ s.persisted := sound.known _ member
  refine ⟨sound.reachable, sound.stored, fun id => ?_, fun d later => ?_, fun c t later => ?_,
    fun x called => ?_⟩
  · -- The call leaves the dispatches under way and enters the calls made.
    have moved : s.underWay.countP (Dispatch.isReadyFor id) =
        (s.underWay.erase (.ready command dispatchTime)).countP (Dispatch.isReadyFor id) +
          if (Dispatch.ready command dispatchTime).isReadyFor id then 1 else 0 := by
      rw [(List.perm_cons_erase member).countP_eq, List.countP_cons]
    have before := sound.paid id
    by_cases here : command.messageId = id <;>
      simp [calls, Dispatch.isReadyFor, here] at before moved ⊢ <;> omega
  · rcases List.mem_cons.mp later with rfl | rest
    · exact persisted
    · exact sound.known d (List.mem_of_mem_erase rest)
  · rcases List.mem_cons.mp later with first | rest
    · cases first
    · exact sound.ready c t (List.mem_of_mem_erase rest)
  · rcases List.mem_cons.mp called with rfl | rest
    · exact ⟨persisted, sound.ready command dispatchTime member⟩
    · exact sound.sent x rest

theorem Sound.step (sound : s.Sound) (step : DispatchStep) :
    (s.step step).Sound := by
  cases step with
  | writer op => exact sound.transaction op
  | claim dispatchTime broker accountId => exact sound.claim dispatchTime broker accountId
  | advance dispatch answer now =>
    unfold DispatchSystem.step
    simp only
    split
    · rename_i member
      cases dispatch with
      | expired command dispatchTime => exact (sound.erase _).transaction _
      | ready command dispatchTime => exact sound.submit member answer
      | answered command answer => exact (sound.erase _).transaction _
    · exact sound
  | crash =>
    refine ⟨sound.reachable, sound.stored, fun id => ?_, fun _ member => ?_, fun _ _ member => ?_,
      sound.sent⟩
    · exact le_trans (Nat.add_le_add_left (Nat.zero_le _) _) (sound.paid id)
    · cases member
    · cases member

theorem sound_run (steps : List DispatchStep) : (Machine.run step initial steps).Sound :=
  Machine.run_invariant Sound (fun _ input sound => sound.step input) sound_initial steps

/-! ### Barred messages stay barred -/

theorem barred_changes (barred : db.Barred id) (changes : Changes db db') : db'.Barred id :=
  Changes.invariant (fun next => next.Barred id) (fun _ _ barred change =>
    barred_change barred change)
    barred changes

theorem barred_transaction (barred : s.db.Barred id)
    (op : WriterOp) : (s.transaction op).db.Barred id := by
  rcases s.transaction_cases op with same | ⟨db', committed, next⟩
  · rw [same]
    exact barred
  · rw [next]
    rcases op.creates_or_changes committed with creates | changes
    · exact barred_creates barred creates
    · exact barred_changes barred changes

theorem barred_step (barred : s.db.Barred id)
    (step : DispatchStep) : (s.step step).db.Barred id := by
  cases step with
  | writer op => exact barred_transaction barred op
  | claim dispatchTime broker accountId =>
    unfold DispatchSystem.step DispatchSystem.claim
    simp only
    split
    · rename_i h
      exact barred_changes barred ((claimNextMessage_changes h).changes)
    · rename_i h
      exact barred_changes barred ((claimNextMessage_changes h).changes)
    · exact barred
  | advance dispatch answer now =>
    unfold DispatchSystem.step
    simp only
    split
    · cases dispatch with
      | expired command dispatchTime =>
        have erased : ({ s with underWay := s.underWay.erase (.expired command dispatchTime) } :
          DispatchSystem).db.Barred id := barred
        exact barred_transaction erased _
      | ready => exact barred
      | answered command answer =>
        have erased : ({ s with underWay := s.underWay.erase (.answered command answer) } :
          DispatchSystem).db.Barred id := barred
        exact barred_transaction erased _
    · exact barred
  | crash => exact barred

theorem Sound.not_submitted (sound : s.Sound)
    (barred : s.db.Barred id) : ∀ x ∈ s.submissions, x.command.messageId ≠ id := by
  intro x called same
  obtain ⟨m, found, unclaimed, -⟩ := barred
  have none : s.db.attempts id = 0 := by
    rw [Database.attempts, found]
    exact unclaimed
  have some_ : 0 < s.submissions.countP fun x => x.command.messageId == id :=
    List.countP_pos_iff.mpr ⟨x, called, by simpa using same⟩
  have paid := sound.paid id
  simp only [calls] at paid
  omega

theorem Sound.nodup_submissions (sound : s.Sound) :
    (s.submissions.map fun x => x.command.messageId).Nodup := by
  rw [List.nodup_iff_count_le_one]
  intro id
  have once : s.db.attempts id ≤ 1 := by
    unfold Database.attempts
    cases found : s.db.message id with
    | none => exact Nat.zero_le 1
    | some m => exact (sound.reachable.claimedOnce id m found).2
  have paid := sound.paid id
  have count : (s.submissions.map fun x => x.command.messageId).count id =
      s.submissions.countP fun x => x.command.messageId == id := by
    rw [List.count, List.countP_map]
    rfl
  simp only [calls] at paid
  omega

theorem Sound.nodup_persisted (sound : s.Sound) :
    (s.persisted.map fun c => c.messageId).Nodup := by
  have ids : s.persisted.map (fun c => c.messageId) =
      s.db.outboxMessages.rows.map OutboxRow.messageId := by
    have := congrArg (List.map Prod.fst) sound.stored
    simpa [commands, Function.comp_def] using this.symm
  rw [ids, List.Nodup, List.pairwise_map]
  exact s.db.outboxMessages.distinct.imp fun apart => apart.1

end DispatchSystem

/-- **At-most-once submission**, after any interleaving of dispatches, transactions and crashes. -/
theorem submitted_at_most_once (steps : List DispatchStep) :
    let s := Machine.run DispatchSystem.step DispatchSystem.initial steps
    (∀ m ∈ s.db.outboxMessages.rows, m.attemptCount = 0 ∨ m.attemptCount = 1) ∧
    (s.submissions.map fun x => x.command.messageId).Nodup ∧
    (∀ x ∈ s.submissions, x.dispatchTime < x.command.deadlineAt ∧ x.command ∈ s.persisted) ∧
    (s.persisted.map fun c => c.messageId).Nodup ∧
    ∀ before after, steps = before ++ after →
      let earlier := (Machine.run DispatchSystem.step DispatchSystem.initial before).db
      ∀ m ∈ earlier.outboxMessages.rows, m.attemptCount = 0 →
        (m.state = .cancelled ∨ ∃ o, earlier.order m.intentId = some o ∧ o.state = .rejected) →
        ∀ x ∈ s.submissions, x.command.messageId ≠ m.messageId := by
  intro s
  have sound : s.Sound := DispatchSystem.sound_run steps
  refine ⟨fun m member => ?_, sound.nodup_submissions, fun x called => (sound.sent x called).symm,
    sound.nodup_persisted, ?_⟩
  · have found := Table.lookup_of_mem unique_outboxRow_messageId member
    have := (sound.reachable.claimedOnce m.messageId m found).2
    omega
  · intro before after split earlier m member unclaimed why
    have barred : earlier.Barred m.messageId := by
      refine ⟨m, Table.lookup_of_mem unique_outboxRow_messageId member, unclaimed, ?_⟩
      rcases why with cancelled | ⟨o, ordered, rejected⟩
      · exact .inl (by rw [cancelled]; decide)
      · exact .inr ⟨o, ordered, by rw [rejected]; rfl⟩
    have later : s.db.Barred m.messageId := by
      show (Machine.run DispatchSystem.step DispatchSystem.initial steps).db.Barred m.messageId
      rw [split, Machine.run_append]
      exact Machine.run_invariant (fun s : DispatchSystem => s.db.Barred m.messageId)
        (fun _ input barred => DispatchSystem.barred_step barred input) barred after
    exact sound.not_submitted later

def Sample.dispatchSteps : List DispatchStep :=
  [.writer Sample.persistOp, .claim 1 none none, .claim 2 none none,
    .advance (.ready Sample.command 1) .exception 3, .crash,
      .writer (.recoverInterruptedDispatches 4),
    .claim 5 none none]

theorem sample_submitted_once :
    (Machine.run DispatchSystem.step DispatchSystem.initial Sample.dispatchSteps).submissions =
        [⟨Sample.command, 1⟩] ∧
      ∀ m ∈ (Machine.run DispatchSystem.step DispatchSystem.initial
        Sample.dispatchSteps).db.outboxMessages.rows, m.attemptCount = 0 ∨ m.attemptCount = 1 :=
  ⟨by decide, (submitted_at_most_once Sample.dispatchSteps).1⟩

end TradingLab

import TradingLab.Workers.IqOptionOrders

/-!
# Rejected means not bought

A worker should answer `REJECTED` only when the broker has not got a buy request or has refused it,
and `TIMEOUT_AFTER_POSSIBLE_SEND` when the fate of a written request is unclear. Both sessions read
the fate off the exception or the response alone.
-/
namespace TradingLab

open Machine (Logged Program)
open Machine.Logged Machine.Program

/-- How a session and its broker understand each other about a buy. -/
structure BuyProtocol (ι ε : Type) where
  isBuy : ι → Bool
  refuses : Fields → Bool
  names : Fields → Bool
  /-- The exceptions after which the session reports a timeout. -/
  timesOut : ε → Bool

namespace BuyProtocol

variable {ι ε ξ : Type} (protocol : BuyProtocol ι ε) {answer : Except ξ WorkerSubmissionResult}
  {log : List (ι × Exchange ε)} {outcome : WorkerOutcome}

def refused : Except ε Fields → Bool
  | .ok response => protocol.refuses response
  | .error _ => false

/-- The answer was lost, could not be decoded, or neither refuses nor names a contract. -/
def unclear : Except ε Fields → Bool
  | .ok response => !protocol.refuses response && !protocol.names response
  | .error _ => true

/-- The answer was lost in a way that the session takes for a timeout. -/
def timedOut : Except ε Fields → Bool
  | .ok _ => false
  | .error error => protocol.timesOut error

def Answered (answer : Except ξ WorkerSubmissionResult) (outcome : WorkerOutcome) : Prop :=
  ∃ result, answer = .ok result ∧ result.outcome = outcome

/-- The answer of a call does not misstate what became of its buy request. -/
structure Honest (answer : Except ξ WorkerSubmissionResult) (log : List (ι × Exchange ε)) :
    Prop where
  rejected : Answered answer .rejected → ∀ entry ∈ log, protocol.isBuy entry.1 = true →
    entry.2.written = true → protocol.refused entry.2.reply = true
  uncertain : ∀ entry ∈ log, protocol.isBuy entry.1 = true → entry.2.written = true →
    protocol.unclear entry.2.reply = true → Answered answer .timeoutAfterPossibleSend

/-- Whenever the fate of a written buy request is unclear, it was lost to a timeout. -/
def LossesTimeOut (log : List (ι × Exchange ε)) : Prop :=
  ∀ entry ∈ log, protocol.isBuy entry.1 = true → entry.2.written = true →
    protocol.unclear entry.2.reply = true → protocol.timedOut entry.2.reply = true

/-- What the outcome of a call depends on: the reply to its buy request. -/
structure Classifies (answer : Except ξ WorkerSubmissionResult) (log : List (ι × Exchange ε)) :
    Prop where
  timeout : ∀ entry ∈ log, protocol.isBuy entry.1 = true →
    (Answered answer .timeoutAfterPossibleSend ↔ protocol.timedOut entry.2.reply = true)
  rejection : Answered answer .rejected → ∀ entry ∈ log, protocol.isBuy entry.1 = true →
    protocol.refused entry.2.reply = true ∨ protocol.unclear entry.2.reply = true

theorem Answered.unique {o o' : WorkerOutcome}
    (first : Answered answer o) (second : Answered answer o') : o = o' := by
  obtain ⟨result, rfl, rfl⟩ := first
  obtain ⟨result', same, rfl⟩ := second
  cases same
  rfl

variable {protocol}

theorem classifies_of_no_buy (none : ∀ entry ∈ log, protocol.isBuy entry.1 = false) :
    protocol.Classifies answer log := by
  constructor
  · intro entry member buy
    simp [none entry member] at buy
  · intro _ entry member buy
    simp [none entry member] at buy

theorem honest_iff (classifies : protocol.Classifies answer log) :
    protocol.Honest answer log ↔ protocol.LossesTimeOut log := by
  constructor
  · intro honest entry member buy written unclear
    exact (classifies.timeout entry member buy).mp
      (honest.uncertain entry member buy written unclear)
  · intro losses
    constructor
    · intro rejected entry member buy written
      rcases classifies.rejection rejected entry member buy with refused | unclear
      · exact refused
      · -- An unclear request would have made the call report a timeout instead.
        have timedOut := losses entry member buy written unclear
        have timeout := (classifies.timeout entry member buy).mpr timedOut
        cases rejected.unique timeout
    · intro entry member buy written unclear
      exact (classifies.timeout entry member buy).mpr (losses entry member buy written unclear)

theorem answered_ok {result : WorkerSubmissionResult} :
    Answered (.ok result : Except ξ WorkerSubmissionResult) outcome ↔
      result.outcome = outcome := by
  constructor
  · rintro ⟨other, same, rfl⟩
    cases same
    rfl
  · intro same
    exact ⟨result, rfl, same⟩

theorem classifies_of_one_buy {before after : List (ι × Exchange ε)} {buy : ι × Exchange ε}
    (earlier : ∀ entry ∈ before, protocol.isBuy entry.1 = false)
    (later : ∀ entry ∈ after, protocol.isBuy entry.1 = false)
    (timeout : Answered answer .timeoutAfterPossibleSend ↔
      protocol.timedOut buy.2.reply = true) (rejection : Answered answer .rejected →
      protocol.refused buy.2.reply = true ∨ protocol.unclear buy.2.reply = true) :
    protocol.Classifies answer (before ++ buy :: after) := by
  have only : ∀ entry ∈ before ++ buy :: after, protocol.isBuy entry.1 = true → entry = buy := by
    intro entry member isBuy
    rcases List.mem_append.mp member with early | rest
    · simp [earlier entry early] at isBuy
    · rcases List.mem_cons.mp rest with same | late
      · exact same
      · simp [later entry late] at isBuy
  constructor
  · intro entry member isBuy
    rw [only entry member isBuy]
    exact timeout
  · intro rejected entry member isBuy
    rw [only entry member isBuy]
    exact rejection rejected

end BuyProtocol

open BuyProtocol

/-! ### Deriv -/

def usableId (raw : Json) : Bool :=
  !IqOptionOrderSession.missingId raw

/-- Deriv refuses with an `error` object and names the contract inside `buy`. -/
def derivProtocol : BuyProtocol DerivRequest DerivTransportError where
  isBuy request := request.operation == .buy
  refuses response := (Fields.get response "error").asObject.isSome
  names response :=
    match (Fields.get response "buy").asObject with
    | some buyData => usableId (Fields.get buyData "contract_id")
    | none => false
  timesOut
    | .workerError error => error.category == .networkError || error.category == .rateLimited
    | .osError | .timeoutError => true

namespace DerivOrderSession

variable {transport : DerivTransport} {command : OrderCommand} {stake : Decimal} {now : Instant}
  {messageId : String} {w : Logged DerivRequest (Exchange DerivTransportError) DerivOrderSession}

theorem subscribeContract_asks (contractId : String) :
    Logged.Asks (derivProtocol.isBuy · = false) (subscribeContract transport contractId) := by
  unfold subscribeContract
  apply asks_bind asks_read
  intro session
  split
  · exact asks_pure
  · split
    · exact asks_pure
    · apply asks_bind (asks_ask (by rfl))
      intro exchange
      split
      · exact asks_pure
      · apply asks_bind asks_update
        intro _
        split
        · exact asks_pure
        · split
          · exact asks_pure
          · exact asks_update

theorem acceptContract_asks (buyData : Fields) (contractId : String) :
    Logged.Asks (derivProtocol.isBuy · = false)
      (acceptContract transport command stake now messageId buyData contractId) := by
  unfold acceptContract
  split
  · exact asks_raise
  · apply asks_bind asks_update
    intro _
    apply asks_bind (subscribeContract_asks contractId)
    intro _
    exact asks_pure

theorem acceptContract_accepts (buyData : Fields) (contractId : String) :
    Program.Ensures (fun _ => True)
      (acceptContract transport command stake now messageId buyData contractId)
      fun result _ => result.outcome = .accepted := by
  unfold acceptContract
  split
  · exact ensures_raise
  · apply ensures_bind_any
    intro _
    apply ensures_bind_any
    intro _
    apply ensures_pure
    intro _ _
    rfl

variable (reply : Except DerivTransportError Fields)

theorem readBuyReply_asks :
    Logged.Asks (derivProtocol.isBuy · = false)
      (readBuyReply transport command stake now messageId reply) := by
  unfold readBuyReply
  split
  · split <;> exact asks_pure
  · exact asks_pure
  · exact asks_pure
  · split
    · exact asks_pure
    · dsimp only
      split
      · exact asks_pure
      · exact acceptContract_asks _ _

theorem acceptContract_answered {buyData : Fields} {contractId : String} {outcome : WorkerOutcome}
    (answered : Answered
      (acceptContract transport command stake now messageId buyData contractId w).1 outcome) :
    outcome = .accepted := by
  obtain ⟨result, returned, rfl⟩ := answered
  exact acceptContract_accepts buyData contractId w trivial result _ (Prod.ext returned rfl)

theorem readBuyReply_timeout :
    Answered (readBuyReply transport command stake now messageId reply w).1
      .timeoutAfterPossibleSend ↔ derivProtocol.timedOut reply = true := by
  cases reply with
  | error error =>
    cases error with
    | workerError error =>
      simp only [readBuyReply, timedOut, derivProtocol]
      split
      · rename_i lost
        simpa [answered_ok, refusal] using lost
      · rename_i other
        simpa [answered_ok, refusal] using other
    | osError => simp [readBuyReply, timedOut, derivProtocol, answered_ok, refusal]
    | timeoutError => simp [readBuyReply, timedOut, derivProtocol, answered_ok, refusal]
  | ok response =>
    simp only [timedOut, Bool.false_eq_true, iff_false]
    intro answered
    simp only [readBuyReply] at answered
    cases bought : (Fields.get response "buy").asObject with
    | none => simp [bought, answered_ok, refusal] at answered
    | some buyData =>
      simp only [bought] at answered
      by_cases missing : (Fields.get buyData "contract_id").isNull = true
      · simp [missing, answered_ok, refusal] at answered
      · simp only [missing] at answered
        cases acceptContract_answered answered

theorem readBuyReply_rejection
    (rejected : Answered (readBuyReply transport command stake now messageId reply w).1 .rejected) :
    derivProtocol.refused reply = true ∨ derivProtocol.unclear reply = true := by
  cases reply with
  | error error => exact Or.inr rfl
  | ok response =>
    simp only [refused, unclear, derivProtocol]
    simp only [readBuyReply] at rejected
    cases (Fields.get response "error").asObject with
    | some error => exact Or.inl rfl
    | none =>
      right
      cases bought : (Fields.get response "buy").asObject with
      | none => rfl
      | some buyData =>
        simp only [bought] at rejected
        by_cases missing : (Fields.get buyData "contract_id").isNull = true
        · simp [usableId, IqOptionOrderSession.missingId, missing]
        · simp only [missing] at rejected
          cases acceptContract_answered rejected

theorem executeBuyPayload_classifies (payload : Fields)
    (earlier : ∀ entry ∈ w.log, derivProtocol.isBuy entry.1 = false) :
    derivProtocol.Classifies
      (executeBuyPayload transport command payload stake now messageId w).1
      (executeBuyPayload transport command payload stake now messageId w).2.log := by
  unfold executeBuyPayload
  rw [bind_of_ok ask_run]
  have asks : Logged.Asks (derivProtocol.isBuy · = false)
      (readBuyReply transport command stake now messageId
        (transport w.log.length ⟨.buy, payload⟩).reply) := readBuyReply_asks _
  obtain ⟨later, log, noBuy⟩ := asks
    ⟨w.state, w.log ++ [(⟨.buy, payload⟩, transport w.log.length ⟨.buy, payload⟩)]⟩
  rw [log, List.append_assoc, List.singleton_append]
  apply classifies_of_one_buy earlier noBuy
  · exact readBuyReply_timeout _
  · exact readBuyReply_rejection _

theorem readProposalReply_classifies
    (earlier : ∀ entry ∈ w.log, derivProtocol.isBuy entry.1 = false) :
    derivProtocol.Classifies (readProposalReply transport command stake now messageId reply w).1
      (readProposalReply transport command stake now messageId reply w).2.log := by
  cases reply with
  | error error => cases error <;> exact classifies_of_no_buy earlier
  | ok response =>
    simp only [readProposalReply]
    cases (Fields.get response "proposal").asObject.bind (fun p => (Fields.get p "id").asText) with
    | none => exact classifies_of_no_buy earlier
    | some proposalId => exact executeBuyPayload_classifies _ earlier

theorem proposalThenBuy_classifies (payload : Fields)
    (earlier : ∀ entry ∈ w.log, derivProtocol.isBuy entry.1 = false) :
    derivProtocol.Classifies
      (proposalThenBuy transport command payload stake now messageId w).1
      (proposalThenBuy transport command payload stake now messageId w).2.log := by
  unfold proposalThenBuy
  rw [bind_of_ok ask_run]
  apply readProposalReply_classifies
  intro entry member
  rcases List.mem_append.mp member with early | asked
  · exact earlier entry early
  · rw [List.mem_singleton.mp asked]
    rfl

theorem submitProduct_classifies (earlier : ∀ entry ∈ w.log, derivProtocol.isBuy entry.1 = false) :
    derivProtocol.Classifies (submitProduct transport command now messageId w).1
      (submitProduct transport command now messageId w).2.log := by
  unfold submitProduct
  by_cases digit : digitProducts.contains (upperText command.product) = true
  · simp only [digit, if_true]
    by_cases barrier : digitBarrierProducts.contains (upperText command.product) = true
    · simp only [barrier, if_true]
      cases command.predictionDigit with
      | none => exact classifies_of_no_buy earlier
      | some prediction => exact proposalThenBuy_classifies _ earlier
    · simp only [barrier]
      exact proposalThenBuy_classifies _ earlier
  · simp only [digit]
    exact proposalThenBuy_classifies _ earlier

theorem submitOrder_classifies (session : DerivOrderSession) :
    derivProtocol.Classifies (submitOrder transport command now messageId (Logged.start session)).1
      (submitOrder transport command now messageId (Logged.start session)).2.log := by
  have nothing : ∀ entry ∈ (Logged.start session : Logged DerivRequest
      (Exchange DerivTransportError) DerivOrderSession).log,
      derivProtocol.isBuy entry.1 = false := by
    simp [Logged.start]
  unfold submitOrder
  rw [bind_of_ok read_run]
  split
  · exact classifies_of_no_buy nothing
  · split
    · exact classifies_of_no_buy nothing
    · split
      · exact classifies_of_no_buy nothing
      · split
        · exact classifies_of_no_buy nothing
        · exact submitProduct_classifies nothing

end DerivOrderSession

/-! ### IQ Option -/

/-- IQ Option refuses with a falsy `status` and names the contract under `id`. -/
def iqOptionProtocol : BuyProtocol IqOptionRequest IqOptionError where
  isBuy request := request.name == "buy"
  refuses response := !(Fields.get response "status").truthy
  names response := usableId (IqOptionOrderSession.rawContractId response)
  timesOut
    | .raised reasonCode =>
      ["IQOPTION_REQUEST_TIMEOUT", "IQOPTION_NETWORK_ERROR"].contains reasonCode
    | .osError | .timeoutError => true

namespace IqOptionOrderSession

variable {transport : IqOptionTransport} {command : OrderCommand} {now : Instant}
  {messageId : String} {w : Logged IqOptionRequest (Exchange IqOptionError) IqOptionOrderSession}

theorem classify_timeout (error : IqOptionError) :
    (classify error).1 = .timeoutAfterPossibleSend ↔ iqOptionProtocol.timesOut error = true := by
  cases error with
  | raised reasonCode =>
    simp only [classify, iqOptionProtocol, List.contains_iff_mem]
    split
    · rename_i lost
      simpa using lost
    · rename_i other
      simpa using other
  | osError => simp [classify, iqOptionProtocol]
  | timeoutError => simp [classify, iqOptionProtocol]

theorem readReply_run (reply : Except IqOptionError Fields) :
    ∃ result state,
      Program.handle (readReply command now messageId reply) (onError command messageId) w =
        (.ok result, ⟨state, w.log⟩) ∧
      (result.outcome = .timeoutAfterPossibleSend ↔ iqOptionProtocol.timedOut reply = true) ∧
      (result.outcome = .rejected →
        iqOptionProtocol.refused reply = true ∨ iqOptionProtocol.unclear reply = true) := by
  cases reply with
  | error error =>
    refine ⟨_, w.state, handle_of_error rfl, classify_timeout error, ?_⟩
    intro _
    exact Or.inr rfl
  | ok response =>
    by_cases status : (Fields.get response "status").truthy = true
    · by_cases missing : missingId (rawContractId response) = true
      · have ends : readReply command now messageId (.ok response) w =
            (.error (.raised "IQOPTION_ORDER_RESPONSE_INVALID"), w) := by
          simp [readReply, status, missing]
        refine ⟨_, w.state, handle_of_error ends, ?_, ?_⟩
        · simp [answer, classify, timedOut]
        · intro _
          right
          simp [unclear, iqOptionProtocol, usableId, status, missing]
      · have ends : ∃ state, readReply command now messageId (.ok response) w =
            (.ok (answer command messageId .accepted (some (rawContractId response).text) none),
              ⟨state, w.log⟩) := by
          simp only [readReply, status, missing]
          exact ⟨_, rfl⟩
        obtain ⟨state, ends⟩ := ends
        refine ⟨_, state, handle_of_ok ends, ?_, ?_⟩
        · simp [answer, timedOut]
        · simp [answer]
    · have ends : ∃ state, readReply command now messageId (.ok response) w =
          (.ok (answer command messageId .rejected none (some (rejectionReason response))),
            ⟨state, w.log⟩) := by
        simp only [readReply, status]
        exact ⟨_, rfl⟩
      obtain ⟨state, ends⟩ := ends
      refine ⟨_, state, handle_of_ok ends, ?_, ?_⟩
      · simp [answer, timedOut]
      · intro _
        left
        simp [refused, iqOptionProtocol, status]

theorem readReply_classifies {request : IqOptionRequest} {exchange : Exchange IqOptionError}
    (asked : w.log = [(request, exchange)]) :
    iqOptionProtocol.Classifies
      (Program.handle (readReply command now messageId exchange.reply)
        (onError command messageId) w).1
      (Program.handle (readReply command now messageId exchange.reply)
        (onError command messageId) w).2.log := by
  obtain ⟨result, state, run, timeout, rejection⟩ := readReply_run exchange.reply
  rw [run, asked]
  have nothing : ∀ entry ∈ ([] : List (IqOptionRequest × Exchange IqOptionError)),
      iqOptionProtocol.isBuy entry.1 = false := by simp
  have timesOut := (answered_ok (ξ := IqOptionError)).trans timeout
  have rejects := fun answered => rejection ((answered_ok (ξ := IqOptionError)).mp answered)
  exact classifies_of_one_buy nothing nothing timesOut rejects

theorem submitOrder_classifies (session : IqOptionOrderSession) :
    iqOptionProtocol.Classifies
      (submitOrder transport command now messageId (Logged.start session)).1
      (submitOrder transport command now messageId (Logged.start session)).2.log := by
  unfold submitOrder attempt
  cases validateIqOptionOrderCommand command with
  | error error =>
    have ends : ∀ rest : Unit → IqOptionProgram WorkerSubmissionResult,
        (Program.lift (.error error) >>= rest) (Logged.start session) =
          (.error error, Logged.start session) := fun rest => bind_of_error rfl
    rw [handle_of_error (ends _)]
    exact classifies_of_no_buy (by simp [Logged.start, onError])
  | ok _ =>
    rw [handle_bind_of_ok lift_run, handle_bind_of_ok update_run,
      handle_bind_of_ok ask_run]
    exact readReply_classifies rfl

end IqOptionOrderSession

/-- A submission answers `REJECTED` only for orders that were not bought, and reports a
    timeout whenever the fate of its buy request is unclear, exactly when every such
    request was lost in a way that the session takes for a timeout. -/
theorem rejected_iff_classified (derivSession : DerivOrderSession) (derivTransport : DerivTransport)
    (iqOptionSession : IqOptionOrderSession) (iqOptionTransport : IqOptionTransport)
    (command : OrderCommand) (now : Instant) (messageId : String) :
    (let run := DerivOrderSession.submitOrder derivTransport command now messageId
        (Logged.start derivSession)
     derivProtocol.Honest run.1 run.2.log ↔ derivProtocol.LossesTimeOut run.2.log) ∧
    (let run := IqOptionOrderSession.submitOrder iqOptionTransport command now messageId
        (Logged.start iqOptionSession)
     iqOptionProtocol.Honest run.1 run.2.log ↔ iqOptionProtocol.LossesTimeOut run.2.log) := by
  constructor
  · intro run
    exact honest_iff (DerivOrderSession.submitOrder_classifies derivSession)
  · intro run
    exact honest_iff (IqOptionOrderSession.submitOrder_classifies iqOptionSession)

/-! ### The client of the program -/

def openClient : DerivWebSocketClient where
  demoAuthenticated := true
  connected := true
  readerError := none
  consecutiveParseFailures := 0
  nextRequestId := 7

/-- The proposal is answered; after the buy has been written, five frames arrive that
    cannot be decoded. -/
def garbledTransport : DerivTransport := fun _ request =>
  match request.operation with
  | .proposal => ⟨true, .ok [("proposal", .obj [("id", .str "proposal-1")])]⟩
  | _ => (openClient.request request ⟨true, .sent, List.replicate 5 (.frame none)⟩).1

def sampleSession : DerivOrderSession := ⟨"VRTC1", true, [], [], [], []⟩

def buySample : OrderCommand where
  messageId := "m-1"
  correlationId := "c-1"
  intentId := "i-1"
  orderId := "o-1"
  broker := .deriv
  accountId := "VRTC1"
  product := "DIGITAL_OPTION"
  symbol := "R_100"
  direction := .call
  amount := ⟨100, "USD", currencyCode_usd⟩
  deadlineAt := 60000000
  valid := rfl

/-- **With the program's own client a submission is honest**, as long as the reader does not give up
    on undecodable frames and every response to a buy refuses it or names its contract. -/
theorem client_submission_honest (session : DerivOrderSession) (transport : DerivTransport)
    (command : OrderCommand) (now : Instant) (messageId : String) :
    let run := DerivOrderSession.submitOrder transport command now messageId (Logged.start session)
    (∀ entry ∈ run.2.log, ∃ (client : DerivWebSocketClient) (weather : RequestWeather),
      (client.request entry.1 weather).1 = entry.2 ∧
        ∀ connection, client.connect weather.reconnects = .ok connection →
          ¬ DerivWebSocketClient.GivesUp connection.consecutiveParseFailures weather.events) →
    (∀ entry ∈ run.2.log, derivProtocol.isBuy entry.1 = true →
      ∀ response, entry.2.reply = .ok response → derivProtocol.unclear (.ok response) = false) →
    derivProtocol.Honest run.1 run.2.log := by
  intro run own named
  refine (honest_iff (DerivOrderSession.submitOrder_classifies session)).mpr ?_
  intro entry member buy written unclear
  obtain ⟨client, weather, same, decodes⟩ := own entry member
  cases replied : entry.2.reply with
  | error error =>
    rcases DerivWebSocketClient.request_loss (same ▸ written) (same ▸ replied) with
      ⟨reason, rfl⟩ | ⟨connection, opened, gaveUp⟩
    · rfl
    · exact absurd gaveUp (decodes connection opened)
  | ok response =>
    rw [replied, named entry member buy response replied] at unclear
    cases unclear

/-- The proposal is answered, and the connection breaks while the buy is written. -/
def brokenWeather (request : DerivRequest) : RequestWeather where
  reconnects := true
  send := if request.operation = .proposal then .sent else .failed true
  events := [.frame (some [("req_id", .int 7), ("proposal", .obj [("id", .str "proposal-1")])])]

theorem broken_sample_honest :
    let run := DerivOrderSession.submitOrder
      (fun _ request => (openClient.request request (brokenWeather request)).1) buySample 0 "r-1"
      (Logged.start sampleSession)
    run.2.log.map (fun entry => (entry.1.operation, entry.2.written)) =
        [(.proposal, true), (.buy, true)] ∧
      derivProtocol.Honest run.1 run.2.log := by
  refine ⟨by rfl, client_submission_honest _ _ _ _ _ ?_ ?_⟩
  · rintro entry member
    refine ⟨openClient, brokenWeather entry.1, ?_, ?_⟩
    · rcases member with _ | ⟨_, _ | ⟨_, ⟨⟩⟩⟩ <;> rfl
    · rintro connection opened gaveUp
      cases opened
      cases gaveUp with
      | decoded rest => cases rest
  · intro entry member buy response replied
    rcases member with _ | ⟨_, _ | ⟨_, ⟨⟩⟩⟩
    · cases buy
    · cases replied

def garbledRun :
    Except DerivException WorkerSubmissionResult ×
      Logged DerivRequest (Exchange DerivTransportError) DerivOrderSession :=
  DerivOrderSession.submitOrder garbledTransport buySample 0 "r-1" (Logged.start sampleSession)

/-- The buy was written and its answer lost, and yet the session reports a rejection. -/
theorem garbled_sample_rejected :
    garbledRun.1.toOption.map (fun result => (result.outcome, result.reasonCode)) =
        some (.rejected, some "DERIV_SCHEMA_INCOMPATIBLE") ∧
      garbledRun.2.log.map (fun entry => (entry.1.operation, entry.2.written,
          derivProtocol.unclear entry.2.reply)) =
        [(.proposal, true, true), (.buy, true, true)] ∧
      ¬ derivProtocol.Honest garbledRun.1 garbledRun.2.log := by
  refine ⟨by rfl, by rfl, ?_⟩
  intro honest
  have answered : Answered garbledRun.1 .rejected := ⟨_, rfl, rfl⟩
  have refused := honest.rejected answered _ (List.mem_cons_of_mem _ (List.mem_singleton.mpr rfl))
    rfl rfl
  cases refused

end TradingLab

import Mathlib.Data.List.Sort
import TradingLab.Domain.Orders
import TradingLab.Protocol.Framing
import TradingLab.Relational.Dict

/-!
# Envelopes

`Envelope` of `packages/protocol/envelope.py` and `encode_envelope` of `packages/protocol/codec.py`.
The encoded bytes are the tokens of the JSON text: the text is their concatenation, and it has one
reading. Every instant is in UTC, so nothing is left of `_validate_utc`.
-/
namespace TradingLab

open Relational

inductive EndpointRole
  | launcher
  | ui
  | core
  | authAgent
  | simulatedWorker
  | derivWorker
  | iqoptionWorker
deriving DecidableEq, Repr

def EndpointRole.value : EndpointRole → String
  | .launcher => "LAUNCHER"
  | .ui => "UI"
  | .core => "CORE"
  | .authAgent => "AUTH_AGENT"
  | .simulatedWorker => "SIMULATED_WORKER"
  | .derivWorker => "DERIV_WORKER"
  | .iqoptionWorker => "IQOPTION_WORKER"

inductive MessageType
  | uiHandshakeRequest
  | uiHandshakeResponse
  | uiProjectionRequest
  | uiProjectionSnapshot
  | uiSafeStopCommand
  | uiSafeStopAck
  | uiResumeCommand
  | uiResumeAck
  | uiShutdownRequest
  | uiShutdownAck
  | uiGenerateDiagnosticCommand
  | uiGenerateDiagnosticResponse
  | uiDerivDemoConnectCommand
  | uiDerivDemoConnectAck
  | uiUpdateDigitRiskConfigCommand
  | uiUpdateDigitRiskConfigAck
  | uiResetDigitTestSessionCommand
  | uiResetDigitTestSessionAck
  | uiIqoptionLoginCommand
  | uiIqoptionLoginAck
  | uiUpdateIqoptionRiskConfigCommand
  | uiUpdateIqoptionRiskConfigAck
  | uiIqoptionBotControlCommand
  | uiIqoptionBotControlAck
  | lifecycleHandshakeRequest
  | lifecycleHandshakeResponse
  | coreLifecycleStatusRequest
  | coreLifecycleStatusResponse
  | coreSafeStopRequest
  | coreSafeStopAck
  | coreDrainRequest
  | coreDrainResponse
  | coreWorkersShutdownRequest
  | coreWorkersShutdownAck
  | coreAuthShutdownRequest
  | coreAuthShutdownAck
  | coreRestartComponentRequest
  | coreRestartComponentResponse
  | coreProcessShutdownRequest
  | coreProcessShutdownAck
  | authHandshakeRequest
  | authHandshakeResponse
  | authStartLoginRequest
  | authStartLoginResponse
  | authSubmitOtpRequest
  | authSubmitOtpResponse
  | authRenewRequest
  | authRenewResponse
  | authCheckAuthorizationRequest
  | authCheckAuthorizationResponse
  | authStatusRequest
  | authStatusResponse
  | authShutdownRequest
  | authShutdownAck
  | hello
  | helloAck
  | ping
  | pong
  | orderSubmit
  | orderAccepted
  | orderRejected
  | orderStatusUnknown
  | orderStatusRequest
  | orderStatusResponse
  | orderEvent
  | brokerCapabilitiesRequest
  | brokerCapabilitiesResponse
  | marketSymbolsRequest
  | marketSymbolsResponse
  | marketContractsRequest
  | marketContractsResponse
  | marketTickSubscribe
  | marketTickSubscribed
  | marketTickEvent
  | marketTickUnsubscribe
  | marketTickUnsubscribed
  | marketHistoryRequest
  | marketHistoryResponse
  | brokerClockRequest
  | brokerClockResponse
  | brokerBalanceRequest
  | brokerBalanceResponse
  | brokerQuoteRequest
  | brokerQuoteResponse
  | workerHealthRequest
  | workerHealthResponse
  | shutdown
  | shutdownAck
  | error
deriving DecidableEq, Repr

def MessageType.value : MessageType → String
  | .uiHandshakeRequest => "UI_HANDSHAKE_REQUEST"
  | .uiHandshakeResponse => "UI_HANDSHAKE_RESPONSE"
  | .uiProjectionRequest => "UI_PROJECTION_REQUEST"
  | .uiProjectionSnapshot => "UI_PROJECTION_SNAPSHOT"
  | .uiSafeStopCommand => "UI_SAFE_STOP_COMMAND"
  | .uiSafeStopAck => "UI_SAFE_STOP_ACK"
  | .uiResumeCommand => "UI_RESUME_COMMAND"
  | .uiResumeAck => "UI_RESUME_ACK"
  | .uiShutdownRequest => "UI_SHUTDOWN_REQUEST"
  | .uiShutdownAck => "UI_SHUTDOWN_ACK"
  | .uiGenerateDiagnosticCommand => "UI_GENERATE_DIAGNOSTIC_COMMAND"
  | .uiGenerateDiagnosticResponse => "UI_GENERATE_DIAGNOSTIC_RESPONSE"
  | .uiDerivDemoConnectCommand => "UI_DERIV_DEMO_CONNECT_COMMAND"
  | .uiDerivDemoConnectAck => "UI_DERIV_DEMO_CONNECT_ACK"
  | .uiUpdateDigitRiskConfigCommand => "UI_UPDATE_DIGIT_RISK_CONFIG_COMMAND"
  | .uiUpdateDigitRiskConfigAck => "UI_UPDATE_DIGIT_RISK_CONFIG_ACK"
  | .uiResetDigitTestSessionCommand => "UI_RESET_DIGIT_TEST_SESSION_COMMAND"
  | .uiResetDigitTestSessionAck => "UI_RESET_DIGIT_TEST_SESSION_ACK"
  | .uiIqoptionLoginCommand => "UI_IQOPTION_LOGIN_COMMAND"
  | .uiIqoptionLoginAck => "UI_IQOPTION_LOGIN_ACK"
  | .uiUpdateIqoptionRiskConfigCommand => "UI_UPDATE_IQOPTION_RISK_CONFIG_COMMAND"
  | .uiUpdateIqoptionRiskConfigAck => "UI_UPDATE_IQOPTION_RISK_CONFIG_ACK"
  | .uiIqoptionBotControlCommand => "UI_IQOPTION_BOT_CONTROL_COMMAND"
  | .uiIqoptionBotControlAck => "UI_IQOPTION_BOT_CONTROL_ACK"
  | .lifecycleHandshakeRequest => "LIFECYCLE_HANDSHAKE_REQUEST"
  | .lifecycleHandshakeResponse => "LIFECYCLE_HANDSHAKE_RESPONSE"
  | .coreLifecycleStatusRequest => "CORE_LIFECYCLE_STATUS_REQUEST"
  | .coreLifecycleStatusResponse => "CORE_LIFECYCLE_STATUS_RESPONSE"
  | .coreSafeStopRequest => "CORE_SAFE_STOP_REQUEST"
  | .coreSafeStopAck => "CORE_SAFE_STOP_ACK"
  | .coreDrainRequest => "CORE_DRAIN_REQUEST"
  | .coreDrainResponse => "CORE_DRAIN_RESPONSE"
  | .coreWorkersShutdownRequest => "CORE_WORKERS_SHUTDOWN_REQUEST"
  | .coreWorkersShutdownAck => "CORE_WORKERS_SHUTDOWN_ACK"
  | .coreAuthShutdownRequest => "CORE_AUTH_SHUTDOWN_REQUEST"
  | .coreAuthShutdownAck => "CORE_AUTH_SHUTDOWN_ACK"
  | .coreRestartComponentRequest => "CORE_RESTART_COMPONENT_REQUEST"
  | .coreRestartComponentResponse => "CORE_RESTART_COMPONENT_RESPONSE"
  | .coreProcessShutdownRequest => "CORE_PROCESS_SHUTDOWN_REQUEST"
  | .coreProcessShutdownAck => "CORE_PROCESS_SHUTDOWN_ACK"
  | .authHandshakeRequest => "AUTH_HANDSHAKE_REQUEST"
  | .authHandshakeResponse => "AUTH_HANDSHAKE_RESPONSE"
  | .authStartLoginRequest => "AUTH_START_LOGIN_REQUEST"
  | .authStartLoginResponse => "AUTH_START_LOGIN_RESPONSE"
  | .authSubmitOtpRequest => "AUTH_SUBMIT_OTP_REQUEST"
  | .authSubmitOtpResponse => "AUTH_SUBMIT_OTP_RESPONSE"
  | .authRenewRequest => "AUTH_RENEW_REQUEST"
  | .authRenewResponse => "AUTH_RENEW_RESPONSE"
  | .authCheckAuthorizationRequest => "AUTH_CHECK_AUTHORIZATION_REQUEST"
  | .authCheckAuthorizationResponse => "AUTH_CHECK_AUTHORIZATION_RESPONSE"
  | .authStatusRequest => "AUTH_STATUS_REQUEST"
  | .authStatusResponse => "AUTH_STATUS_RESPONSE"
  | .authShutdownRequest => "AUTH_SHUTDOWN_REQUEST"
  | .authShutdownAck => "AUTH_SHUTDOWN_ACK"
  | .hello => "HELLO"
  | .helloAck => "HELLO_ACK"
  | .ping => "PING"
  | .pong => "PONG"
  | .orderSubmit => "ORDER_SUBMIT"
  | .orderAccepted => "ORDER_ACCEPTED"
  | .orderRejected => "ORDER_REJECTED"
  | .orderStatusUnknown => "ORDER_STATUS_UNKNOWN"
  | .orderStatusRequest => "ORDER_STATUS_REQUEST"
  | .orderStatusResponse => "ORDER_STATUS_RESPONSE"
  | .orderEvent => "ORDER_EVENT"
  | .brokerCapabilitiesRequest => "BROKER_CAPABILITIES_REQUEST"
  | .brokerCapabilitiesResponse => "BROKER_CAPABILITIES_RESPONSE"
  | .marketSymbolsRequest => "MARKET_SYMBOLS_REQUEST"
  | .marketSymbolsResponse => "MARKET_SYMBOLS_RESPONSE"
  | .marketContractsRequest => "MARKET_CONTRACTS_REQUEST"
  | .marketContractsResponse => "MARKET_CONTRACTS_RESPONSE"
  | .marketTickSubscribe => "MARKET_TICK_SUBSCRIBE"
  | .marketTickSubscribed => "MARKET_TICK_SUBSCRIBED"
  | .marketTickEvent => "MARKET_TICK_EVENT"
  | .marketTickUnsubscribe => "MARKET_TICK_UNSUBSCRIBE"
  | .marketTickUnsubscribed => "MARKET_TICK_UNSUBSCRIBED"
  | .marketHistoryRequest => "MARKET_HISTORY_REQUEST"
  | .marketHistoryResponse => "MARKET_HISTORY_RESPONSE"
  | .brokerClockRequest => "BROKER_CLOCK_REQUEST"
  | .brokerClockResponse => "BROKER_CLOCK_RESPONSE"
  | .brokerBalanceRequest => "BROKER_BALANCE_REQUEST"
  | .brokerBalanceResponse => "BROKER_BALANCE_RESPONSE"
  | .brokerQuoteRequest => "BROKER_QUOTE_REQUEST"
  | .brokerQuoteResponse => "BROKER_QUOTE_RESPONSE"
  | .workerHealthRequest => "WORKER_HEALTH_REQUEST"
  | .workerHealthResponse => "WORKER_HEALTH_RESPONSE"
  | .shutdown => "SHUTDOWN"
  | .shutdownAck => "SHUTDOWN_ACK"
  | .error => "ERROR"

/-- A value in the payload of an envelope. A key of a mapping is given by its `str(...)`, a
    `float` by its `repr(...)`; `other` is an object that JSON has no text for. -/
inductive WireValue
  | null
  | bool (value : Bool)
  | int (value : Int)
  | float (text : String)
  | str (value : String)
  | arr (items : List WireValue)
  | obj (entries : List (String × WireValue))
  | other

structure EnvelopeFields where
  protocolVersion : Int
  messageId : String
  correlationId : String
  causationId : Option String
  source : EndpointRole
  target : EndpointRole
  messageType : MessageType
  createdAtUtc : Instant
  deadlineAt : Option Instant
  payload : List (String × WireValue)

/-- `__post_init__`, with the message of its `IPC_INVALID_ENVELOPE`. -/
def EnvelopeFields.postInit (e : EnvelopeFields) : Except String Unit := do
  check (0 < e.protocolVersion) "protocol_version must be a positive integer"
  check (isBlank e.messageId = false) "message_id is required"
  check (isBlank e.correlationId = false) "correlation_id is required"
  check (e.causationId.all (fun id => !isBlank id) = true) "causation_id cannot be blank"

structure Envelope extends EnvelopeFields where
  accepted : toEnvelopeFields.postInit = .ok ()

/-! ### `encode_envelope` -/

inductive JsonToken
  | null
  | bool (value : Bool)
  | int (value : Int)
  | float (text : String)
  | str (value : String)
  | instant (value : Instant)
  /-- A bracket, a colon or a comma. -/
  | mark (sign : Char)
deriving DecidableEq, Repr

abbrev JsonText : Type := List JsonToken

namespace WireValue

mutual

/-- Of two keys with one text the later value stays. -/
def jsonCompatible : WireValue → WireValue
  | .arr items => .arr (compatibleItems items)
  | .obj entries => .obj (compatibleEntries [] entries)
  | value => value

def compatibleItems : List WireValue → List WireValue
  | [] => []
  | item :: rest => jsonCompatible item :: compatibleItems rest

def compatibleEntries (made : Dict String WireValue) :
    List (String × WireValue) → Dict String WireValue
  | [] => made
  | (key, item) :: rest => compatibleEntries (made.put key (jsonCompatible item)) rest

end

/-- The entries of an object by their names, `sort_keys=True`. -/
def sorted (entries : List (String × JsonText)) : List (String × JsonText) :=
  entries.insertionSort fun first second => first.1 ≤ second.1

/-- Parts with commas between them. -/
def commaSeparated : List JsonText → JsonText
  | [] => []
  | [part] => part
  | part :: rest => part ++ .mark ',' :: commaSeparated rest

def objectText (entries : List (String × JsonText)) : JsonText :=
  .mark '\x7b' ::
    commaSeparated (entries.map fun entry => .str entry.1 :: .mark ':' :: entry.2) ++
    [.mark '\x7d']

mutual

/-- `json.dumps(value, sort_keys=True, separators=(",", ":"))`; `none` is a `TypeError`. -/
def dumps : WireValue → Option JsonText
  | .null => some [.null]
  | .bool value => some [.bool value]
  | .int value => some [.int value]
  | .float text => some [.float text]
  | .str value => some [.str value]
  | .arr items => do
    let parts ← dumpItems items
    some (.mark '[' :: commaSeparated parts ++ [.mark ']'])
  | .obj entries => do
    let parts ← dumpEntries entries
    some (objectText (sorted parts))
  | .other => none

def dumpItems : List WireValue → Option (List JsonText)
  | [] => some []
  | item :: rest => do
    let text ← dumps item
    let texts ← dumpItems rest
    some (text :: texts)

def dumpEntries : List (String × WireValue) → Option (List (String × JsonText))
  | [] => some []
  | (key, item) :: rest => do
    let text ← dumps item
    let texts ← dumpEntries rest
    some ((key, text) :: texts)

end

end WireValue

/-- The names of the document stand in the order in which they are sorted. -/
def encodeEnvelope (envelope : EnvelopeFields) : Except ProtocolError JsonText :=
  match (WireValue.obj envelope.payload).jsonCompatible.dumps with
  | none => .error ⟨.ipcInvalidEnvelope, "envelope contains a non-JSON value"⟩
  | some payload => .ok (WireValue.objectText
    [("causation_id", [(envelope.causationId.map JsonToken.str).getD .null]),
      ("correlation_id", [.str envelope.correlationId]),
      ("created_at_utc", [.instant envelope.createdAtUtc]),
      ("deadline_at", [(envelope.deadlineAt.map JsonToken.instant).getD .null]),
      ("message_id", [.str envelope.messageId]),
      ("message_type", [.str envelope.messageType.value]),
      ("payload", payload),
      ("protocol_version", [.int envelope.protocolVersion]),
      ("source", [.str envelope.source.value]),
      ("target", [.str envelope.target.value])])

end TradingLab

/-!
# Protocol error codes

`ProtocolErrorCode` of `packages/protocol/errors.py`.
-/
namespace TradingLab

inductive ProtocolErrorCode
  | ipcProtocolIncompatible
  | ipcFrameTooLarge
  | ipcFrameTruncated
  | ipcInvalidFrame
  | ipcInvalidJson
  | ipcInvalidEnvelope
  | ipcUnknownMessageType
  | ipcConnectionLost
  | ipcHandshakeTimeout
  | ipcRoleMismatch
  | ipcMessageReplayConflict
  | ipcBackpressure
  | authIpcAuthenticationFailed
  | authIpcUnavailable
  | authIpcRequestTimeout
  | authIpcInvalidMessage
  | authIpcDuplicateConflict
  | lifecycleIpcAuthenticationFailed
  | lifecycleIpcUnavailable
  | lifecycleIpcRequestTimeout
  | lifecycleIpcInvalidMessage
  | lifecycleIpcDuplicateConflict
  | uiIpcAuthenticationFailed
  | uiIpcUnavailable
  | uiIpcRequestTimeout
  | uiIpcInvalidMessage
  | uiIpcDuplicateConflict
  | workerNotReady
  | workerCrashed
  | orderCommandExpired
  | orderDispatchAmbiguous
  | reconciliationNotFound
  | reconciliationUnavailable
  | reconciliationQueryTimeout
  | reconciliationInvalidResponse
  | reconciliationConflict
  | reconciliationEvidenceConflict
  | brokerOrderIdConflict
  | brokerEventReplayConflict
  | brokerEventScopeMismatch
  | brokerEventAccountMismatch
  | brokerEventClientReferenceMismatch
  | brokerEventStateConflict
  | brokerEventSettlementConflict
  | brokerEventResultCurrencyMismatch
  | brokerEventSequenceConflict
  | orderEventSequenceGap
  | workerCapabilityDenied
  | derivSchemaIncompatible
  | derivTradingOperationDisabled
  | derivRealAccountForbidden
  | derivRealWsForbidden
  | derivDemoAuthRequired
  | derivDemoReauthRequired
  | derivBalanceUnavailable
  | derivBalancePrecisionUnsupported
  | iqoptionAuthFailed
  | iqoption2faRequired
  | iqoptionLoginUnavailable
  | iqoptionNetworkUnreachable
  | iqoptionRateLimited
  | iqoptionConnectionQuarantined
  | iqoptionConnectionSafetyStateInvalid
  | iqoptionWebsocketReconnectLimitReached
  | iqoptionWebsocketUnavailable
  | iqoptionAuthTimeout
  | iqoptionAccountModeUnavailable
  | iqoptionBalanceInvalid
  | iqoptionBalancePrecisionUnsupported
  | iqoptionClockUnavailable
  | iqoptionRealFinancialForbidden
  | iqoptionRequestTimeout
  | iqoptionResponseUnexpected
  | iqoptionCandlesInvalid
  | iqoptionCandleCountInvalid
  | iqoptionTimeframeUnsupported
  | iqoptionSymbolUnsupported
  | iqoptionBalanceIdInvalid
  | iqoptionOrderResponseInvalid
  | iqoptionOrderRejected
  | iqoptionDurationUnsupported
  | iqoptionOperationUnsupported
  | mdClockUntrusted
  | marketDataInvalid
deriving DecidableEq, Repr

end TradingLab

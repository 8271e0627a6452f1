import Universal7580.RilPendingProofs

/-! # The command table `ril_commands.h`

    `addRequestToList` looks a request up by its number in `s_commands`, whose
    rows give the function that answers it.  Numbers and rows are those of
    `ril.h` and `ril_commands.h`; a response function is written as its name,
    and a row without one as `none`. -/

namespace RilCommands

open RilPending

-- ── Request numbers of ril.h ─────────────────────────────────────────────────

def rilRequestGetSimStatus : Nat := 1
def rilRequestEnterSimPin : Nat := 2
def rilRequestEnterSimPuk : Nat := 3
def rilRequestEnterSimPin2 : Nat := 4
def rilRequestEnterSimPuk2 : Nat := 5
def rilRequestChangeSimPin : Nat := 6
def rilRequestChangeSimPin2 : Nat := 7
def rilRequestEnterNetworkDepersonalization : Nat := 8
def rilRequestGetCurrentCalls : Nat := 9
def rilRequestDial : Nat := 10
def rilRequestGetImsi : Nat := 11
def rilRequestHangup : Nat := 12
def rilRequestHangupWaitingOrBackground : Nat := 13
def rilRequestHangupForegroundResumeBackground : Nat := 14
def rilRequestSwitchWaitingOrHoldingAndActive : Nat := 15
def rilRequestConference : Nat := 16
def rilRequestUdub : Nat := 17
def rilRequestLastCallFailCause : Nat := 18
def rilRequestSignalStrength : Nat := 19
def rilRequestVoiceRegistrationState : Nat := 20
def rilRequestDataRegistrationState : Nat := 21
def rilRequestOperator : Nat := 22
def rilRequestRadioPower : Nat := 23
def rilRequestDtmf : Nat := 24
def rilRequestSendSms : Nat := 25
def rilRequestSendSmsExpectMore : Nat := 26
def rilRequestSetupDataCall : Nat := 27
def rilRequestSimIo : Nat := 28
def rilRequestSendUssd : Nat := 29
def rilRequestCancelUssd : Nat := 30
def rilRequestGetClir : Nat := 31
def rilRequestSetClir : Nat := 32
def rilRequestQueryCallForwardStatus : Nat := 33
def rilRequestSetCallForward : Nat := 34
def rilRequestQueryCallWaiting : Nat := 35
def rilRequestSetCallWaiting : Nat := 36
def rilRequestSmsAcknowledge : Nat := 37
def rilRequestGetImei : Nat := 38
def rilRequestGetImeisv : Nat := 39
def rilRequestAnswer : Nat := 40
def rilRequestDeactivateDataCall : Nat := 41
def rilRequestQueryFacilityLock : Nat := 42
def rilRequestSetFacilityLock : Nat := 43
def rilRequestChangeBarringPassword : Nat := 44
def rilRequestQueryNetworkSelectionMode : Nat := 45
def rilRequestSetNetworkSelectionAutomatic : Nat := 46
def rilRequestSetNetworkSelectionManual : Nat := 47
def rilRequestQueryAvailableNetworks : Nat := 48
def rilRequestDtmfStart : Nat := 49
def rilRequestDtmfStop : Nat := 50
def rilRequestBasebandVersion : Nat := 51
def rilRequestSeparateConnection : Nat := 52
def rilRequestSetMute : Nat := 53
def rilRequestGetMute : Nat := 54
def rilRequestQueryClip : Nat := 55
def rilRequestLastDataCallFailCause : Nat := 56
def rilRequestDataCallList : Nat := 57
def rilRequestResetRadio : Nat := 58
def rilRequestOemHookRaw : Nat := 59
def rilRequestOemHookStrings : Nat := 60
def rilRequestScreenState : Nat := 61
def rilRequestSetSuppSvcNotification : Nat := 62
def rilRequestWriteSmsToSim : Nat := 63
def rilRequestDeleteSmsOnSim : Nat := 64
def rilRequestSetBandMode : Nat := 65
def rilRequestQueryAvailableBandMode : Nat := 66
def rilRequestStkGetProfile : Nat := 67
def rilRequestStkSetProfile : Nat := 68
def rilRequestStkSendEnvelopeCommand : Nat := 69
def rilRequestStkSendTerminalResponse : Nat := 70
def rilRequestStkHandleCallSetupRequestedFromSim : Nat := 71
def rilRequestExplicitCallTransfer : Nat := 72
def rilRequestSetPreferredNetworkType : Nat := 73
def rilRequestGetPreferredNetworkType : Nat := 74
def rilRequestGetNeighboringCellIds : Nat := 75
def rilRequestSetLocationUpdates : Nat := 76
def rilRequestCdmaSetSubscriptionSource : Nat := 77
def rilRequestCdmaSetRoamingPreference : Nat := 78
def rilRequestCdmaQueryRoamingPreference : Nat := 79
def rilRequestSetTtyMode : Nat := 80
def rilRequestQueryTtyMode : Nat := 81
def rilRequestCdmaSetPreferredVoicePrivacyMode : Nat := 82
def rilRequestCdmaQueryPreferredVoicePrivacyMode : Nat := 83
def rilRequestCdmaFlash : Nat := 84
def rilRequestCdmaBurstDtmf : Nat := 85
def rilRequestCdmaValidateAndWriteAkey : Nat := 86
def rilRequestCdmaSendSms : Nat := 87
def rilRequestCdmaSmsAcknowledge : Nat := 88
def rilRequestGsmGetBroadcastSmsConfig : Nat := 89
def rilRequestGsmSetBroadcastSmsConfig : Nat := 90
def rilRequestGsmSmsBroadcastActivation : Nat := 91
def rilRequestCdmaGetBroadcastSmsConfig : Nat := 92
def rilRequestCdmaSetBroadcastSmsConfig : Nat := 93
def rilRequestCdmaSmsBroadcastActivation : Nat := 94
def rilRequestCdmaSubscription : Nat := 95
def rilRequestCdmaWriteSmsToRuim : Nat := 96
def rilRequestCdmaDeleteSmsOnRuim : Nat := 97
def rilRequestDeviceIdentity : Nat := 98
def rilRequestExitEmergencyCallbackMode : Nat := 99
def rilRequestGetSmscAddress : Nat := 100
def rilRequestSetSmscAddress : Nat := 101
def rilRequestReportSmsMemoryStatus : Nat := 102
def rilRequestReportStkServiceIsRunning : Nat := 103
def rilRequestCdmaGetSubscriptionSource : Nat := 104
def rilRequestIsimAuthentication : Nat := 105
def rilRequestAcknowledgeIncomingGsmSmsWithPdu : Nat := 106
def rilRequestStkSendEnvelopeWithStatus : Nat := 107
def rilRequestVoiceRadioTech : Nat := 108
def rilRequestGetCellInfoList : Nat := 109
def rilRequestSetUnsolCellInfoListRate : Nat := 110
def rilRequestSetInitialAttachApn : Nat := 111
def rilRequestImsRegistrationState : Nat := 112
def rilRequestImsSendSms : Nat := 113
def rilRequestSimTransmitApduBasic : Nat := 114
def rilRequestSimOpenChannel : Nat := 115
def rilRequestSimCloseChannel : Nat := 116
def rilRequestSimTransmitApduChannel : Nat := 117
def rilRequestNvReadItem : Nat := 118
def rilRequestNvWriteItem : Nat := 119
def rilRequestNvWriteCdmaPrl : Nat := 120
def rilRequestNvResetConfig : Nat := 121
def rilRequestSetUiccSubscription : Nat := 122
def rilRequestAllowData : Nat := 123
def rilRequestGetHardwareConfig : Nat := 124
def rilRequestSimAuthentication : Nat := 125
def rilRequestGetDcRtInfo : Nat := 126
def rilRequestSetDcRtInfoRate : Nat := 127
def rilRequestSetDataProfile : Nat := 128
def rilRequestShutdown : Nat := 129
def rilRequestGetRadioCapability : Nat := 130
def rilRequestSetRadioCapability : Nat := 131
def rilRequestStartLce : Nat := 132
def rilRequestStopLce : Nat := 133
def rilRequestPullLcedata : Nat := 134
def rilRequestGetActivityInfo : Nat := 135
def rilRequestSetCarrierRestrictions : Nat := 136
def rilRequestGetCarrierRestrictions : Nat := 137
def rilRequestSendDeviceState : Nat := 138
def rilRequestSetUnsolicitedResponseFilter : Nat := 139
def rilRequestSetSimCardPower : Nat := 140

-- ── The table ────────────────────────────────────────────────────────────────

/-- `s_commands`. -/
def sCommands : List (CommandInfo String) :=
  [⟨0, none⟩,
   ⟨rilRequestGetSimStatus, some "getIccCardStatusResponse"⟩,
   ⟨rilRequestEnterSimPin, some "supplyIccPinForAppResponse"⟩,
   ⟨rilRequestEnterSimPuk, some "supplyIccPukForAppResponse"⟩,
   ⟨rilRequestEnterSimPin2, some "supplyIccPin2ForAppResponse"⟩,
   ⟨rilRequestEnterSimPuk2, some "supplyIccPuk2ForAppResponse"⟩,
   ⟨rilRequestChangeSimPin, some "changeIccPinForAppResponse"⟩,
   ⟨rilRequestChangeSimPin2, some "changeIccPin2ForAppResponse"⟩,
   ⟨rilRequestEnterNetworkDepersonalization, some "supplyNetworkDepersonalizationResponse"⟩,
   ⟨rilRequestGetCurrentCalls, some "getCurrentCallsResponse"⟩,
   ⟨rilRequestDial, some "dialResponse"⟩,
   ⟨rilRequestGetImsi, some "getIMSIForAppResponse"⟩,
   ⟨rilRequestHangup, some "hangupConnectionResponse"⟩,
   ⟨rilRequestHangupWaitingOrBackground, some "hangupWaitingOrBackgroundResponse"⟩,
   ⟨rilRequestHangupForegroundResumeBackground, some "hangupForegroundResumeBackgroundResponse"⟩,
   ⟨rilRequestSwitchWaitingOrHoldingAndActive, some "switchWaitingOrHoldingAndActiveResponse"⟩,
   ⟨rilRequestConference, some "conferenceResponse"⟩,
   ⟨rilRequestUdub, some "rejectCallResponse"⟩,
   ⟨rilRequestLastCallFailCause, some "getLastCallFailCauseResponse"⟩,
   ⟨rilRequestSignalStrength, some "getSignalStrengthResponse"⟩,
   ⟨rilRequestVoiceRegistrationState, some "getVoiceRegistrationStateResponse"⟩,
   ⟨rilRequestDataRegistrationState, some "getDataRegistrationStateResponse"⟩,
   ⟨rilRequestOperator, some "getOperatorResponse"⟩,
   ⟨rilRequestRadioPower, some "setRadioPowerResponse"⟩,
   ⟨rilRequestDtmf, some "sendDtmfResponse"⟩,
   ⟨rilRequestSendSms, some "sendSmsResponse"⟩,
   ⟨rilRequestSendSmsExpectMore, some "sendSMSExpectMoreResponse"⟩,
   ⟨rilRequestSetupDataCall, some "setupDataCallResponse"⟩,
   ⟨rilRequestSimIo, some "iccIOForAppResponse"⟩,
   ⟨rilRequestSendUssd, some "sendUssdResponse"⟩,
   ⟨rilRequestCancelUssd, some "cancelPendingUssdResponse"⟩,
   ⟨rilRequestGetClir, some "getClirResponse"⟩,
   ⟨rilRequestSetClir, some "setClirResponse"⟩,
   ⟨rilRequestQueryCallForwardStatus, some "getCallForwardStatusResponse"⟩,
   ⟨rilRequestSetCallForward, some "setCallForwardResponse"⟩,
   ⟨rilRequestQueryCallWaiting, some "getCallWaitingResponse"⟩,
   ⟨rilRequestSetCallWaiting, some "setCallWaitingResponse"⟩,
   ⟨rilRequestSmsAcknowledge, some "acknowledgeLastIncomingGsmSmsResponse"⟩,
   ⟨rilRequestGetImei, none⟩,
   ⟨rilRequestGetImeisv, none⟩,
   ⟨rilRequestAnswer, some "acceptCallResponse"⟩,
   ⟨rilRequestDeactivateDataCall, some "deactivateDataCallResponse"⟩,
   ⟨rilRequestQueryFacilityLock, some "getFacilityLockForAppResponse"⟩,
   ⟨rilRequestSetFacilityLock, some "setFacilityLockForAppResponse"⟩,
   ⟨rilRequestChangeBarringPassword, some "setBarringPasswordResponse"⟩,
   ⟨rilRequestQueryNetworkSelectionMode, some "getNetworkSelectionModeResponse"⟩,
   ⟨rilRequestSetNetworkSelectionAutomatic, some "setNetworkSelectionModeAutomaticResponse"⟩,
   ⟨rilRequestSetNetworkSelectionManual, some "setNetworkSelectionModeManualResponse"⟩,
   ⟨rilRequestQueryAvailableNetworks, some "getAvailableNetworksResponse"⟩,
   ⟨rilRequestDtmfStart, some "startDtmfResponse"⟩,
   ⟨rilRequestDtmfStop, some "stopDtmfResponse"⟩,
   ⟨rilRequestBasebandVersion, some "getBasebandVersionResponse"⟩,
   ⟨rilRequestSeparateConnection, some "separateConnectionResponse"⟩,
   ⟨rilRequestSetMute, some "setMuteResponse"⟩,
   ⟨rilRequestGetMute, some "getMuteResponse"⟩,
   ⟨rilRequestQueryClip, some "getClipResponse"⟩,
   ⟨rilRequestLastDataCallFailCause, none⟩,
   ⟨rilRequestDataCallList, some "getDataCallListResponse"⟩,
   ⟨rilRequestResetRadio, none⟩,
   ⟨rilRequestOemHookRaw, some "sendRequestRawResponse"⟩,
   ⟨rilRequestOemHookStrings, some "sendRequestStringsResponse"⟩,
   ⟨rilRequestScreenState, some "sendDeviceStateResponse"⟩,
   ⟨rilRequestSetSuppSvcNotification, some "setSuppServiceNotificationsResponse"⟩,
   ⟨rilRequestWriteSmsToSim, some "writeSmsToSimResponse"⟩,
   ⟨rilRequestDeleteSmsOnSim, some "deleteSmsOnSimResponse"⟩,
   ⟨rilRequestSetBandMode, some "setBandModeResponse"⟩,
   ⟨rilRequestQueryAvailableBandMode, some "getAvailableBandModesResponse"⟩,
   ⟨rilRequestStkGetProfile, none⟩,
   ⟨rilRequestStkSetProfile, none⟩,
   ⟨rilRequestStkSendEnvelopeCommand, some "sendEnvelopeResponse"⟩,
   ⟨rilRequestStkSendTerminalResponse, some "sendTerminalResponseToSimResponse"⟩,
   ⟨rilRequestStkHandleCallSetupRequestedFromSim, some "handleStkCallSetupRequestFromSimResponse"⟩,
   ⟨rilRequestExplicitCallTransfer, some "explicitCallTransferResponse"⟩,
   ⟨rilRequestSetPreferredNetworkType, some "setPreferredNetworkTypeResponse"⟩,
   ⟨rilRequestGetPreferredNetworkType, some "getPreferredNetworkTypeResponse"⟩,
   ⟨rilRequestGetNeighboringCellIds, some "getNeighboringCidsResponse"⟩,
   ⟨rilRequestSetLocationUpdates, some "setLocationUpdatesResponse"⟩,
   ⟨rilRequestCdmaSetSubscriptionSource, some "setCdmaSubscriptionSourceResponse"⟩,
   ⟨rilRequestCdmaSetRoamingPreference, some "setCdmaRoamingPreferenceResponse"⟩,
   ⟨rilRequestCdmaQueryRoamingPreference, some "getCdmaRoamingPreferenceResponse"⟩,
   ⟨rilRequestSetTtyMode, some "setTTYModeResponse"⟩,
   ⟨rilRequestQueryTtyMode, some "getTTYModeResponse"⟩,
   ⟨rilRequestCdmaSetPreferredVoicePrivacyMode, some "setPreferredVoicePrivacyResponse"⟩,
   ⟨rilRequestCdmaQueryPreferredVoicePrivacyMode, some "getPreferredVoicePrivacyResponse"⟩,
   ⟨rilRequestCdmaFlash, some "sendCDMAFeatureCodeResponse"⟩,
   ⟨rilRequestCdmaBurstDtmf, some "sendBurstDtmfResponse"⟩,
   ⟨rilRequestCdmaValidateAndWriteAkey, none⟩,
   ⟨rilRequestCdmaSendSms, some "sendCdmaSmsResponse"⟩,
   ⟨rilRequestCdmaSmsAcknowledge, some "acknowledgeLastIncomingCdmaSmsResponse"⟩,
   ⟨rilRequestGsmGetBroadcastSmsConfig, some "getGsmBroadcastConfigResponse"⟩,
   ⟨rilRequestGsmSetBroadcastSmsConfig, some "setGsmBroadcastConfigResponse"⟩,
   ⟨rilRequestGsmSmsBroadcastActivation, some "setGsmBroadcastActivationResponse"⟩,
   ⟨rilRequestCdmaGetBroadcastSmsConfig, some "getCdmaBroadcastConfigResponse"⟩,
   ⟨rilRequestCdmaSetBroadcastSmsConfig, some "setCdmaBroadcastConfigResponse"⟩,
   ⟨rilRequestCdmaSmsBroadcastActivation, some "setCdmaBroadcastActivationResponse"⟩,
   ⟨rilRequestCdmaSubscription, some "getCDMASubscriptionResponse"⟩,
   ⟨rilRequestCdmaWriteSmsToRuim, some "writeSmsToRuimResponse"⟩,
   ⟨rilRequestCdmaDeleteSmsOnRuim, some "deleteSmsOnRuimResponse"⟩,
   ⟨rilRequestDeviceIdentity, some "getDeviceIdentityResponse"⟩,
   ⟨rilRequestExitEmergencyCallbackMode, some "exitEmergencyCallbackModeResponse"⟩,
   ⟨rilRequestGetSmscAddress, some "getSmscAddressResponse"⟩,
   ⟨rilRequestSetSmscAddress, some "setSmscAddressResponse"⟩,
   ⟨rilRequestReportSmsMemoryStatus, some "reportSmsMemoryStatusResponse"⟩,
   ⟨rilRequestReportStkServiceIsRunning, some "reportStkServiceIsRunningResponse"⟩,
   ⟨rilRequestCdmaGetSubscriptionSource, some "getCdmaSubscriptionSourceResponse"⟩,
   ⟨rilRequestIsimAuthentication, some "requestIsimAuthenticationResponse"⟩,
   ⟨rilRequestAcknowledgeIncomingGsmSmsWithPdu, some "acknowledgeIncomingGsmSmsWithPduResponse"⟩,
   ⟨rilRequestStkSendEnvelopeWithStatus, some "sendEnvelopeWithStatusResponse"⟩,
   ⟨rilRequestVoiceRadioTech, some "getVoiceRadioTechnologyResponse"⟩,
   ⟨rilRequestGetCellInfoList, some "getCellInfoListResponse"⟩,
   ⟨rilRequestSetUnsolCellInfoListRate, some "setCellInfoListRateResponse"⟩,
   ⟨rilRequestSetInitialAttachApn, some "setInitialAttachApnResponse"⟩,
   ⟨rilRequestImsRegistrationState, some "getImsRegistrationStateResponse"⟩,
   ⟨rilRequestImsSendSms, some "sendImsSmsResponse"⟩,
   ⟨rilRequestSimTransmitApduBasic, some "iccTransmitApduBasicChannelResponse"⟩,
   ⟨rilRequestSimOpenChannel, some "iccOpenLogicalChannelResponse"⟩,
   ⟨rilRequestSimCloseChannel, some "iccCloseLogicalChannelResponse"⟩,
   ⟨rilRequestSimTransmitApduChannel, some "iccTransmitApduLogicalChannelResponse"⟩,
   ⟨rilRequestNvReadItem, some "nvReadItemResponse"⟩,
   ⟨rilRequestNvWriteItem, some "nvWriteItemResponse"⟩,
   ⟨rilRequestNvWriteCdmaPrl, some "nvWriteCdmaPrlResponse"⟩,
   ⟨rilRequestNvResetConfig, some "nvResetConfigResponse"⟩,
   ⟨rilRequestSetUiccSubscription, some "setUiccSubscriptionResponse"⟩,
   ⟨rilRequestAllowData, some "setDataAllowedResponse"⟩,
   ⟨rilRequestGetHardwareConfig, some "getHardwareConfigResponse"⟩,
   ⟨rilRequestSimAuthentication, some "requestIccSimAuthenticationResponse"⟩,
   ⟨rilRequestGetDcRtInfo, none⟩,
   ⟨rilRequestSetDcRtInfoRate, none⟩,
   ⟨rilRequestSetDataProfile, some "setDataProfileResponse"⟩,
   ⟨rilRequestShutdown, some "requestShutdownResponse"⟩,
   ⟨rilRequestGetRadioCapability, some "getRadioCapabilityResponse"⟩,
   ⟨rilRequestSetRadioCapability, some "setRadioCapabilityResponse"⟩,
   ⟨rilRequestStartLce, some "startLceServiceResponse"⟩,
   ⟨rilRequestStopLce, some "stopLceServiceResponse"⟩,
   ⟨rilRequestPullLcedata, some "pullLceDataResponse"⟩,
   ⟨rilRequestGetActivityInfo, some "getModemActivityInfoResponse"⟩,
   ⟨rilRequestSetCarrierRestrictions, some "setAllowedCarriersResponse"⟩,
   ⟨rilRequestGetCarrierRestrictions, some "getAllowedCarriersResponse"⟩,
   ⟨rilRequestSendDeviceState, some "sendDeviceStateResponse"⟩,
   ⟨rilRequestSetUnsolicitedResponseFilter, some "setIndicationFilterResponse"⟩,
   ⟨rilRequestSetSimCardPower, some "setSimCardPowerResponse"⟩]

/-- The self-check of `RIL_register`: every row stands at its own number. -/
theorem sCommands_numbered : sCommands.map (·.requestNumber) = List.range 141 := by decide

end RilCommands

import Universal7580.RilCommandsProofs

/-! # The requests of `ril_service.cpp`

    Every method of `RadioImpl` and `OemHookImpl` that sends a request does the
    same: it adds the request to the pending list, builds the data for the
    vendor RIL member by member, and hands both over with `onRequest`.  Building
    can stop halfway, at an allocation that fails or an argument that is refused,
    and then the method answers the request itself.

    A method is modelled as the request number and the list of members it
    builds, in the order the source builds them (`radioImpl`); `marshal` runs such
    a list. -/

namespace RilRadio

open RilPending RilCommands

-- ── Strings ──────────────────────────────────────────────────────────────────

/-- The bytes of a C string, without its terminator. -/
abbrev CStr := List UInt8

/-- `hidl_string`: what `c_str()` points to and what `size()` says. -/
structure HidlString where
  cStr : CStr
  size : Nat

/-- `hidl_string(const char *)`. -/
def HidlString.ofCStr (s : CStr) : HidlString := ⟨s, s.length⟩

/-- A string literal of the source. -/
def text (s : String) : CStr := s.toUTF8.toList

/-- `std::to_string`. -/
def toStr (n : Int) : CStr := text (toString n)

/-- `BOOL_TO_INT`. -/
def boolToInt (b : Bool) : Int := if b then 1 else 0

/-- A flag passed as a string. -/
def flag (b : Bool) : CStr := if b then text "1" else text "0"

-- ── Building the data of a request ───────────────────────────────────────────

/-- `RIL_E_REQUEST_NOT_SUPPORTED`. -/
def rilERequestNotSupported : Int := 6

/-- `RIL_E_NO_MEMORY`. -/
def rilENoMemory : Int := 37

/-- `RIL_E_INVALID_ARGUMENTS`. -/
def rilEInvalidArguments : Int := 44

/-- A member that is built: a number, a string that is not copied, bytes, a
    copied string, an array that is allocated, or a check of the arguments. -/
inductive Field where
  | int (n : Int)
  | str (s : Option CStr)
  | bytes (b : List UInt8)
  | copy (src : HidlString) (allowEmpty : Bool)
  | calloc
  | require (ok : Bool) (err : Int)

/-- A member as the vendor RIL sees it; `none` is a `NULL` pointer. -/
inductive Value where
  | int (n : Int)
  | str (s : Option CStr)
  | bytes (b : List UInt8)

/-- How building ends: the data is complete, the request was answered with an
    error, or the method gave up without an answer. -/
inductive Outcome where
  | ready (data : List Value)
  | refused (err : Int)
  | dropped

/-- One more member in front. -/
def Outcome.cons (v : Value) : Outcome → Outcome
  | .ready data => .ready (v :: data)
  | .refused err => .refused err
  | .dropped => .dropped

/-- Builds the members of a request; `heap n` says whether the `n`-th `calloc`
    succeeds.  The case of `copy` is `copyHidlStringToRil`. -/
def marshal (heap : Nat → Bool) : Nat → List Field → Outcome
  | _, [] => .ready []
  | n, .int v :: rest => (marshal heap n rest).cons (.int v)
  | n, .str s :: rest => (marshal heap n rest).cons (.str s)
  | n, .bytes b :: rest => (marshal heap n rest).cons (.bytes b)
  | n, .copy src allowEmpty :: rest =>
      if src.size = 0 ∧ !allowEmpty then (marshal heap n rest).cons (.str none)
      else if !heap n then .refused rilENoMemory
      -- `strlcpy` returns the length of the whole source
      else if src.cStr.length ≥ src.size + 1 then .dropped
      else (marshal heap (n + 1) rest).cons (.str (some src.cStr))
  | n, .calloc :: rest =>
      if heap n then marshal heap (n + 1) rest else .refused rilENoMemory
  | n, .require ok err :: rest => if ok then marshal heap n rest else .refused err

/-- What a method does: the request it adds, the members it builds, and whether
    it checks that the request could be added before it goes on. -/
structure Program where
  request : Nat
  fields : List Field
  checksNull : Bool := true

-- ── The dispatch functions ───────────────────────────────────────────────────

/-- `dispatchVoid`. -/
def dispatchVoid (request : Nat) : Program := { request := request, fields := [] }

/-- `dispatchString`. -/
def dispatchString (request : Nat) (str : CStr) : Program :=
  { request := request, fields := [.copy (.ofCStr str) false] }

/-- `dispatchStrings` on its variable arguments. -/
def dispatchStrings (request : Nat) (allowEmpty : Bool) (strs : List CStr) : Program :=
  { request := request
    fields := .calloc :: strs.map (fun str => .copy (.ofCStr str) allowEmpty) }

/-- `dispatchStrings` on a `hidl_vec`. -/
def dispatchStringsVec (request : Nat) (data : List HidlString) : Program :=
  { request := request, fields := .calloc :: data.map (fun str => .copy str false) }

/-- `dispatchInts`. -/
def dispatchInts (request : Nat) (ints : List Int) : Program :=
  { request := request, fields := .calloc :: ints.map .int }

/-- `dispatchRaw`. -/
def dispatchRaw (request : Nat) (rawBytes : List UInt8) : Program :=
  { request := request, fields := [.bytes rawBytes] }

/-- A request that is added only to be answered with an error. -/
def rejected (request : Nat) (err : Int) : Program :=
  { request := request, fields := [.require false err] }

-- ── The arguments of IRadio ──────────────────────────────────────────────────

/-- The build and the vendor RIL behind the service. -/
structure Vendor where
  version : Int
  needsRoamingProtocolField : Bool := false
  needsImsTypeField : Bool := false

structure CallForwardInfo where
  status : Int
  reason : Int
  serviceClass : Int
  toa : Int
  number : HidlString
  timeSeconds : Int

structure SimApdu where
  sessionId : Int
  cla : Int
  instruction : Int
  p1 : Int
  p2 : Int
  p3 : Int
  data : HidlString

structure UusInfo where
  uusType : Int
  uusDcs : Int
  uusData : HidlString

structure Dial where
  address : HidlString
  clir : Int
  uusInfo : List UusInfo

structure GsmSmsMessage where
  smscPdu : HidlString
  pdu : HidlString

/-- `MvnoType` as it arrives: the four values that are defined, and any
    other. -/
inductive MvnoType where
  | imsi
  | gid
  | spn
  | none
  | other (value : Int)
  deriving DecidableEq

structure DataProfileInfo where
  profileId : Int
  apn : HidlString
  protocol : HidlString
  roamingProtocol : HidlString
  authType : Int
  user : HidlString
  password : HidlString
  type : Int
  maxConnsTime : Int
  maxConns : Int
  waitTime : Int
  enabled : Bool
  supportedApnTypesBitmap : Int
  bearerBitmap : Int
  mtu : Int
  mvnoType : MvnoType
  mvnoMatchData : HidlString

structure IccIo where
  command : Int
  fileId : Int
  path : HidlString
  p1 : Int
  p2 : Int
  p3 : Int
  data : HidlString
  pin2 : HidlString
  aid : HidlString

structure SmsWriteArgs where
  status : Int
  pdu : HidlString
  smsc : HidlString

structure CdmaSmsMessage where
  teleserviceId : Int
  isServicePresent : Bool
  serviceCategory : Int
  digitMode : Int
  numberMode : Int
  numberType : Int
  numberPlan : Int
  addressDigits : List UInt8
  subaddressType : Int
  odd : Bool
  subAddressDigits : List UInt8
  bearerData : List UInt8

structure GsmBroadcastSmsConfigInfo where
  fromServiceId : Int
  toServiceId : Int
  fromCodeScheme : Int
  toCodeScheme : Int
  selected : Bool

structure CdmaBroadcastSmsConfigInfo where
  serviceCategory : Int
  language : Int
  selected : Bool

structure ImsSmsMessage where
  tech : Int
  retry : Bool
  messageRef : Int
  cdmaMessage : List CdmaSmsMessage
  gsmMessage : List GsmSmsMessage

/-- `ResetNvType` as it arrives. -/
inductive ResetNvType where
  | reload
  | erase
  | factoryReset
  | other (value : Int)

structure SelectUiccSub where
  slot : Int
  appIndex : Int
  subType : Int
  actStatus : Int

structure RadioCapability where
  session : Int
  phase : Int
  raf : Int
  logicalModemUuid : HidlString
  status : Int

structure Carrier where
  mcc : HidlString
  mnc : HidlString
  matchType : Int
  matchData : HidlString

structure CarrierRestrictions where
  allowedCarriers : List Carrier
  excludedCarriers : List Carrier

/-- `DeviceStateType` as it arrives. -/
inductive DeviceStateType where
  | powerSaveMode
  | chargingState
  | lowDataExpected
  | other (value : Int)
  deriving DecidableEq

/-- The number of a `DeviceStateType`. -/
def DeviceStateType.toInt : DeviceStateType → Int
  | .powerSaveMode => 0
  | .chargingState => 1
  | .lowDataExpected => 2
  | .other value => value

-- ── The requests of IRadio and IOemHook ──────────────────────────────────────

/-- A call of a method of `IRadio` or `IOemHook` that sends a request, without
    its serial number. -/
inductive RadioRequest where
  | getIccCardStatus
  | supplyIccPinForApp (pin aid : HidlString)
  | supplyIccPukForApp (puk pin aid : HidlString)
  | supplyIccPin2ForApp (pin2 aid : HidlString)
  | supplyIccPuk2ForApp (puk2 pin2 aid : HidlString)
  | changeIccPinForApp (oldPin newPin aid : HidlString)
  | changeIccPin2ForApp (oldPin2 newPin2 aid : HidlString)
  | supplyNetworkDepersonalization (netPin : HidlString)
  | getCurrentCalls
  | dial (dialInfo : Dial)
  | getImsiForApp (aid : HidlString)
  | hangup (gsmIndex : Int)
  | hangupWaitingOrBackground
  | hangupForegroundResumeBackground
  | switchWaitingOrHoldingAndActive
  | conference
  | rejectCall
  | getLastCallFailCause
  | getSignalStrength
  | getVoiceRegistrationState
  | getDataRegistrationState
  | getOperator
  | setRadioPower (on : Bool)
  | sendDtmf (s : HidlString)
  | sendSms (message : GsmSmsMessage)
  | sendSMSExpectMore (message : GsmSmsMessage)
  | setupDataCall (radioTechnology : Int) (dataProfileInfo : DataProfileInfo)
      (modemCognitive roamingAllowed isRoaming : Bool)
  | iccIOForApp (iccIo : IccIo)
  | sendUssd (ussd : HidlString)
  | cancelPendingUssd
  | getClir
  | setClir (status : Int)
  | getCallForwardStatus (callInfo : CallForwardInfo)
  | setCallForward (callInfo : CallForwardInfo)
  | getCallWaiting (serviceClass : Int)
  | setCallWaiting (enable : Bool) (serviceClass : Int)
  | acknowledgeLastIncomingGsmSms (success : Bool) (cause : Int)
  | acceptCall
  | deactivateDataCall (cid : Int) (reasonRadioShutDown : Bool)
  | getFacilityLockForApp (facility password : HidlString) (serviceClass : Int)
      (appId : HidlString)
  | setFacilityLockForApp (facility : HidlString) (lockState : Bool) (password : HidlString)
      (serviceClass : Int) (appId : HidlString)
  | setBarringPassword (facility oldPassword newPassword : HidlString)
  | getNetworkSelectionMode
  | setNetworkSelectionModeAutomatic
  | setNetworkSelectionModeManual (operatorNumeric : HidlString)
  | getAvailableNetworks
  | startDtmf (s : HidlString)
  | stopDtmf
  | getBasebandVersion
  | separateConnection (gsmIndex : Int)
  | setMute (enable : Bool)
  | getMute
  | getClip
  | getDataCallList
  | setSuppServiceNotifications (enable : Bool)
  | writeSmsToSim (smsWriteArgs : SmsWriteArgs)
  | deleteSmsOnSim (index : Int)
  | setBandMode (mode : Int)
  | getAvailableBandModes
  | sendEnvelope (command : HidlString)
  | sendTerminalResponseToSim (commandResponse : HidlString)
  | handleStkCallSetupRequestFromSim (accept : Bool)
  | explicitCallTransfer
  | setPreferredNetworkType (nwType : Int)
  | getPreferredNetworkType
  | getNeighboringCids
  | setLocationUpdates (enable : Bool)
  | setCdmaSubscriptionSource (cdmaSub : Int)
  | setCdmaRoamingPreference (type : Int)
  | getCdmaRoamingPreference
  | setTTYMode (mode : Int)
  | getTTYMode
  | setPreferredVoicePrivacy (enable : Bool)
  | getPreferredVoicePrivacy
  | sendCDMAFeatureCode (featureCode : HidlString)
  | sendBurstDtmf (dtmf : HidlString) (on off : Int)
  | sendCdmaSms (sms : CdmaSmsMessage)
  | acknowledgeLastIncomingCdmaSms (errorClass smsCauseCode : Int)
  | getGsmBroadcastConfig
  | setGsmBroadcastConfig (configInfo : List GsmBroadcastSmsConfigInfo)
  | setGsmBroadcastActivation (activate : Bool)
  | getCdmaBroadcastConfig
  | setCdmaBroadcastConfig (configInfo : List CdmaBroadcastSmsConfigInfo)
  | setCdmaBroadcastActivation (activate : Bool)
  | getCDMASubscription
  | writeSmsToRuim (status : Int) (message : CdmaSmsMessage)
  | deleteSmsOnRuim (index : Int)
  | getDeviceIdentity
  | exitEmergencyCallbackMode
  | getSmscAddress
  | setSmscAddress (smsc : HidlString)
  | reportSmsMemoryStatus (available : Bool)
  | reportStkServiceIsRunning
  | getCdmaSubscriptionSource
  | requestIsimAuthentication (challenge : HidlString)
  | acknowledgeIncomingGsmSmsWithPdu (success : Bool) (ackPdu : HidlString)
  | sendEnvelopeWithStatus (contents : HidlString)
  | getVoiceRadioTechnology
  | getCellInfoList
  | setCellInfoListRate (rate : Int)
  | setInitialAttachApn (dataProfileInfo : DataProfileInfo) (modemCognitive isRoaming : Bool)
  | getImsRegistrationState
  | sendImsSms (message : ImsSmsMessage)
  | iccTransmitApduBasicChannel (message : SimApdu)
  | iccOpenLogicalChannel (aid : HidlString) (p2 : Int)
  | iccCloseLogicalChannel (channelId : Int)
  | iccTransmitApduLogicalChannel (message : SimApdu)
  | nvReadItem (itemId : Int)
  | nvWriteItem (itemId : Int) (value : HidlString)
  | nvWriteCdmaPrl (prl : List UInt8)
  | nvResetConfig (resetType : ResetNvType)
  | setUiccSubscription (uiccSub : SelectUiccSub)
  | setDataAllowed (allow : Bool)
  | getHardwareConfig
  | requestIccSimAuthentication (authContext : Int) (authData aid : HidlString)
  | setDataProfile (profiles : List DataProfileInfo) (isRoaming : Bool)
  | requestShutdown
  | getRadioCapability
  | setRadioCapability (rc : RadioCapability)
  | startLceService (reportInterval : Int) (pullMode : Bool)
  | stopLceService
  | pullLceData
  | getModemActivityInfo
  | setAllowedCarriers (allAllowed : Bool) (carriers : CarrierRestrictions)
  | getAllowedCarriers
  | sendDeviceState (deviceStateType : DeviceStateType) (state : Bool)
  | setIndicationFilter (indicationFilter : Int)
  | setSimCardPower (powerUp : Bool)
  | sendRequestRaw (data : List UInt8)
  | sendRequestStrings (data : List HidlString)

-- ── Methods with a body of their own ─────────────────────────────────────────

/-- `dispatchCallForwardStatus`. -/
def dispatchCallForwardStatus (request : Nat) (callInfo : CallForwardInfo) : Program :=
  { request := request
    fields :=
      [.int callInfo.status, .int callInfo.reason, .int callInfo.serviceClass, .int callInfo.toa,
       .int callInfo.timeSeconds, .copy callInfo.number false] }

/-- `dispatchIccApdu`. -/
def dispatchIccApdu (request : Nat) (message : SimApdu) : Program :=
  { request := request
    fields :=
      [.int message.sessionId, .int message.cla, .int message.instruction, .int message.p1,
       .int message.p2, .int message.p3, .copy message.data false] }

/-- `RadioImpl::dial`; only the first `uusInfo` is used. -/
def dial (dialInfo : Dial) : Program :=
  { request := rilRequestDial
    fields := [.copy dialInfo.address false, .int dialInfo.clir]
      ++ match dialInfo.uusInfo with
        | [] => []
        | uus :: _ =>
            [.int uus.uusType, .int uus.uusDcs]
              ++ if uus.uusData.size = 0 then [.str none, .int 0]
                else [.copy uus.uusData false, .int uus.uusData.size] }

/-- `convertMvnoTypeToString`; `none` is a value that is not defined. -/
def convertMvnoTypeToString : MvnoType → Option CStr
  | .imsi => some (text "imsi")
  | .gid => some (text "gid")
  | .spn => some (text "spn")
  | .none => some (text "")
  | .other _ => none

/-- `RadioImpl::setupDataCall`. -/
def setupDataCall (vendor : Vendor) (radioTechnology : Int) (info : DataProfileInfo)
    (modemCognitive roamingAllowed isRoaming : Bool) : Program :=
  if vendor.version ≥ 4 ∧ vendor.version ≤ 14 then
    let protocol := if isRoaming then info.roamingProtocol else info.protocol
    dispatchStrings rilRequestSetupDataCall true
      [toStr (radioTechnology + 2), toStr info.profileId, info.apn.cStr, info.user.cStr,
       info.password.cStr, toStr info.authType, protocol.cStr]
  else if vendor.version ≥ 15 then
    match convertMvnoTypeToString info.mvnoType with
    | none => rejected rilRequestSetupDataCall rilEInvalidArguments
    | some mvnoTypeStr =>
        dispatchStrings rilRequestSetupDataCall true
          [toStr (radioTechnology + 2), toStr info.profileId, info.apn.cStr, info.user.cStr,
           info.password.cStr, toStr info.authType, info.protocol.cStr,
           info.roamingProtocol.cStr, toStr info.supportedApnTypesBitmap,
           toStr info.bearerBitmap, flag modemCognitive, toStr info.mtu, mvnoTypeStr,
           info.mvnoMatchData.cStr, flag roamingAllowed]
  else rejected rilRequestSetupDataCall rilERequestNotSupported

/-- `RadioImpl::iccIOForApp`. -/
def iccIOForApp (iccIo : IccIo) : Program :=
  { request := rilRequestSimIo
    fields :=
      [.int iccIo.command, .int iccIo.fileId, .copy iccIo.path false, .int iccIo.p1, .int iccIo.p2,
       .int iccIo.p3, .copy iccIo.data false, .copy iccIo.pin2 false, .copy iccIo.aid false] }

/-- `constructCdmaSms`; the counts of digits are kept in an `unsigned char`. -/
def constructCdmaSms (sms : CdmaSmsMessage) : List Field :=
  let digits := sms.addressDigits.length % 256
  let subDigits := sms.subAddressDigits.length % 256
  let bearerDataLen := sms.bearerData.length
  [.int sms.teleserviceId, .int (boolToInt sms.isServicePresent), .int sms.serviceCategory,
   .int sms.digitMode, .int sms.numberMode, .int sms.numberType, .int sms.numberPlan,
   .int digits, .bytes (sms.addressDigits.take (min digits 36)),
   .int sms.subaddressType, .int (boolToInt sms.odd),
   .int subDigits, .bytes (sms.subAddressDigits.take (min subDigits 36)),
   .int bearerDataLen, .bytes (sms.bearerData.take (min bearerDataLen 255))]

/-- `RadioImpl::setInitialAttachApn`. -/
def setInitialAttachApn (vendor : Vendor) (info : DataProfileInfo)
    (modemCognitive isRoaming : Bool) : Program :=
  { request := rilRequestSetInitialAttachApn
    fields :=
      if vendor.version ≤ 14 then
        let protocol := if isRoaming then info.roamingProtocol else info.protocol
        [.copy info.apn true, .copy protocol false, .int info.authType, .copy info.user false,
         .copy info.password false]
          ++ (if vendor.needsRoamingProtocolField then [.copy info.roamingProtocol false] else [])
          ++ (if vendor.needsImsTypeField then [.int 0] else [])
      else
        [.copy info.apn true, .copy info.protocol false, .copy info.roamingProtocol false,
         .int info.authType, .copy info.user false, .copy info.password false,
         .int info.supportedApnTypesBitmap, .int info.bearerBitmap,
         .int (boolToInt modemCognitive), .int info.mtu,
         .require (convertMvnoTypeToString info.mvnoType).isSome rilEInvalidArguments,
         .str (convertMvnoTypeToString info.mvnoType), .copy info.mvnoMatchData false] }

/-- `dispatchImsGsmSms`; the technology is `RADIO_TECH_3GPP`. -/
def dispatchImsGsmSms (message : ImsSmsMessage) : List Field :=
  [.int 1, .int (boolToInt message.retry), .int message.messageRef]
    ++ match message.gsmMessage with
      | [gsm] => [.calloc, .copy gsm.smscPdu false, .copy gsm.pdu false]
      | _ => [.require false rilEInvalidArguments]

/-- `dispatchImsCdmaSms`; the technology is `RADIO_TECH_3GPP2`. -/
def dispatchImsCdmaSms (message : ImsSmsMessage) : List Field :=
  match message.cdmaMessage with
  | [cdma] =>
      [.int 2, .int (boolToInt message.retry), .int message.messageRef] ++ constructCdmaSms cdma
  | _ => [.require false rilEInvalidArguments]

/-- `RadioImpl::sendImsSms`. -/
def sendImsSms (message : ImsSmsMessage) : Program :=
  { request := rilRequestImsSendSms
    fields :=
      if message.tech = 1 then dispatchImsGsmSms message
      else if message.tech = 2 then dispatchImsCdmaSms message
      else [.require false rilEInvalidArguments] }

/-- `RadioImpl::iccOpenLogicalChannel`. -/
def iccOpenLogicalChannel (vendor : Vendor) (aid : HidlString) (p2 : Int) : Program :=
  if vendor.version < 15 then dispatchString rilRequestSimOpenChannel aid.cStr
  else { request := rilRequestSimOpenChannel, fields := [.int p2, .copy aid false] }

/-- The conversion in `RadioImpl::nvResetConfig`. -/
def rilResetType : ResetNvType → Int
  | .reload => 1
  | .erase => 2
  | .factoryReset => 3
  | .other _ => -1

/-- One profile of `RadioImpl::setDataProfile`. -/
def dataProfile (vendor : Vendor) (isRoaming : Bool) (info : DataProfileInfo) : List Field :=
  let common : List Field :=
    [.int info.profileId, .int info.authType, .int info.type, .int info.maxConnsTime,
     .int info.maxConns, .int info.waitTime, .int (boolToInt info.enabled)]
  if vendor.version ≤ 14 then
    let protocol := if isRoaming then info.roamingProtocol else info.protocol
    [.copy info.apn true, .copy protocol true, .copy info.user true, .copy info.password true]
      ++ common
  else
    [.copy info.apn true, .copy info.protocol false, .copy info.roamingProtocol true,
     .copy info.user true, .copy info.password true, .copy info.mvnoMatchData true,
     .require (convertMvnoTypeToString info.mvnoType).isSome rilEInvalidArguments,
     .str (convertMvnoTypeToString info.mvnoType)]
      ++ common
      ++ [.int info.supportedApnTypesBitmap, .int info.bearerBitmap, .int info.mtu]

/-- `RadioImpl::setDataProfile`. -/
def setDataProfile (vendor : Vendor) (profiles : List DataProfileInfo) (isRoaming : Bool) :
    Program :=
  { request := rilRequestSetDataProfile
    fields := [.calloc, .calloc] ++ profiles.flatMap (dataProfile vendor isRoaming) }

/-- A carrier of `RadioImpl::setAllowedCarriers`; its strings are not copied. -/
def carrier (c : Carrier) : List Field :=
  [.str (some c.mcc.cStr), .str (some c.mnc.cStr), .int c.matchType, .str (some c.matchData.cStr)]

/-- `RadioImpl::setAllowedCarriers`. -/
def setAllowedCarriers (carriers : CarrierRestrictions) : Program :=
  { request := rilRequestSetCarrierRestrictions
    fields :=
      [.int carriers.allowedCarriers.length, .calloc, .int carriers.excludedCarriers.length,
       .calloc]
        ++ carriers.allowedCarriers.flatMap carrier
        ++ carriers.excludedCarriers.flatMap carrier }

/-- `RadioImpl::sendDeviceState`.  The request that is refused is not checked
    for `NULL`. -/
def sendDeviceState (vendor : Vendor) (deviceStateType : DeviceStateType) (state : Bool) :
    Program :=
  if vendor.version < 15 then
    if deviceStateType = .lowDataExpected then
      dispatchInts rilRequestScreenState [boolToInt (!state)]
    else
      { rejected rilRequestSendDeviceState rilERequestNotSupported with checksNull := false }
  else dispatchInts rilRequestSendDeviceState [deviceStateType.toInt, boolToInt state]

/-- `RadioImpl::setIndicationFilter`.  The request that is refused is not checked
    for `NULL`. -/
def setIndicationFilter (vendor : Vendor) (indicationFilter : Int) : Program :=
  if vendor.version < 15 then
    { rejected rilRequestSetUnsolicitedResponseFilter rilERequestNotSupported with
      checksNull := false }
  else dispatchInts rilRequestSetUnsolicitedResponseFilter [indicationFilter]

-- ── All methods ──────────────────────────────────────────────────────────────

/-- **WHAT EACH METHOD DOES**: `RadioImpl` and `OemHookImpl`, in the order of the
    source. -/
def radioImpl (vendor : Vendor) : RadioRequest → Program
  | .getIccCardStatus => dispatchVoid rilRequestGetSimStatus
  | .supplyIccPinForApp pin aid =>
      dispatchStrings rilRequestEnterSimPin true [pin.cStr, aid.cStr]
  | .supplyIccPukForApp puk pin aid =>
      dispatchStrings rilRequestEnterSimPuk true [puk.cStr, pin.cStr, aid.cStr]
  | .supplyIccPin2ForApp pin2 aid =>
      dispatchStrings rilRequestEnterSimPin2 true [pin2.cStr, aid.cStr]
  | .supplyIccPuk2ForApp puk2 pin2 aid =>
      dispatchStrings rilRequestEnterSimPuk2 true [puk2.cStr, pin2.cStr, aid.cStr]
  | .changeIccPinForApp oldPin newPin aid =>
      dispatchStrings rilRequestChangeSimPin true [oldPin.cStr, newPin.cStr, aid.cStr]
  | .changeIccPin2ForApp oldPin2 newPin2 aid =>
      dispatchStrings rilRequestChangeSimPin2 true [oldPin2.cStr, newPin2.cStr, aid.cStr]
  | .supplyNetworkDepersonalization netPin =>
      dispatchStrings rilRequestEnterNetworkDepersonalization true [netPin.cStr]
  | .getCurrentCalls => dispatchVoid rilRequestGetCurrentCalls
  | .dial dialInfo => dial dialInfo
  | .getImsiForApp aid => dispatchStrings rilRequestGetImsi false [aid.cStr]
  | .hangup gsmIndex => dispatchInts rilRequestHangup [gsmIndex]
  | .hangupWaitingOrBackground => dispatchVoid rilRequestHangupWaitingOrBackground
  | .hangupForegroundResumeBackground =>
      dispatchVoid rilRequestHangupForegroundResumeBackground
  | .switchWaitingOrHoldingAndActive => dispatchVoid rilRequestSwitchWaitingOrHoldingAndActive
  | .conference => dispatchVoid rilRequestConference
  | .rejectCall => dispatchVoid rilRequestUdub
  | .getLastCallFailCause => dispatchVoid rilRequestLastCallFailCause
  | .getSignalStrength => dispatchVoid rilRequestSignalStrength
  | .getVoiceRegistrationState => dispatchVoid rilRequestVoiceRegistrationState
  | .getDataRegistrationState => dispatchVoid rilRequestDataRegistrationState
  | .getOperator => dispatchVoid rilRequestOperator
  | .setRadioPower on => dispatchInts rilRequestRadioPower [boolToInt on]
  | .sendDtmf s => dispatchString rilRequestDtmf s.cStr
  | .sendSms message =>
      dispatchStrings rilRequestSendSms false [message.smscPdu.cStr, message.pdu.cStr]
  | .sendSMSExpectMore message =>
      dispatchStrings rilRequestSendSmsExpectMore false [message.smscPdu.cStr, message.pdu.cStr]
  | .setupDataCall radioTechnology info modemCognitive roamingAllowed isRoaming =>
      setupDataCall vendor radioTechnology info modemCognitive roamingAllowed isRoaming
  | .iccIOForApp iccIo => iccIOForApp iccIo
  | .sendUssd ussd => dispatchString rilRequestSendUssd ussd.cStr
  | .cancelPendingUssd => dispatchVoid rilRequestCancelUssd
  | .getClir => dispatchVoid rilRequestGetClir
  | .setClir status => dispatchInts rilRequestSetClir [status]
  | .getCallForwardStatus callInfo =>
      dispatchCallForwardStatus rilRequestQueryCallForwardStatus callInfo
  | .setCallForward callInfo => dispatchCallForwardStatus rilRequestSetCallForward callInfo
  | .getCallWaiting serviceClass => dispatchInts rilRequestQueryCallWaiting [serviceClass]
  | .setCallWaiting enable serviceClass =>
      dispatchInts rilRequestSetCallWaiting [boolToInt enable, serviceClass]
  | .acknowledgeLastIncomingGsmSms success cause =>
      dispatchInts rilRequestSmsAcknowledge [boolToInt success, cause]
  | .acceptCall => dispatchVoid rilRequestAnswer
  | .deactivateDataCall cid reasonRadioShutDown =>
      dispatchStrings rilRequestDeactivateDataCall false [toStr cid, flag reasonRadioShutDown]
  | .getFacilityLockForApp facility password serviceClass appId =>
      dispatchStrings rilRequestQueryFacilityLock true
        [facility.cStr, password.cStr, toStr serviceClass, appId.cStr]
  | .setFacilityLockForApp facility lockState password serviceClass appId =>
      dispatchStrings rilRequestSetFacilityLock true
        [facility.cStr, flag lockState, password.cStr, toStr serviceClass, appId.cStr]
  | .setBarringPassword facility oldPassword newPassword =>
      dispatchStrings rilRequestChangeBarringPassword true
        [facility.cStr, oldPassword.cStr, newPassword.cStr]
  | .getNetworkSelectionMode => dispatchVoid rilRequestQueryNetworkSelectionMode
  | .setNetworkSelectionModeAutomatic => dispatchVoid rilRequestSetNetworkSelectionAutomatic
  | .setNetworkSelectionModeManual operatorNumeric =>
      dispatchString rilRequestSetNetworkSelectionManual operatorNumeric.cStr
  | .getAvailableNetworks => dispatchVoid rilRequestQueryAvailableNetworks
  | .startDtmf s => dispatchString rilRequestDtmfStart s.cStr
  | .stopDtmf => dispatchVoid rilRequestDtmfStop
  | .getBasebandVersion => dispatchVoid rilRequestBasebandVersion
  | .separateConnection gsmIndex => dispatchInts rilRequestSeparateConnection [gsmIndex]
  | .setMute enable => dispatchInts rilRequestSetMute [boolToInt enable]
  | .getMute => dispatchVoid rilRequestGetMute
  | .getClip => dispatchVoid rilRequestQueryClip
  | .getDataCallList => dispatchVoid rilRequestDataCallList
  | .setSuppServiceNotifications enable =>
      dispatchInts rilRequestSetSuppSvcNotification [boolToInt enable]
  | .writeSmsToSim args =>
      { request := rilRequestWriteSmsToSim
        fields := [.int args.status, .copy args.pdu false, .copy args.smsc false] }
  | .deleteSmsOnSim index => dispatchInts rilRequestDeleteSmsOnSim [index]
  | .setBandMode mode => dispatchInts rilRequestSetBandMode [mode]
  | .getAvailableBandModes => dispatchVoid rilRequestQueryAvailableBandMode
  | .sendEnvelope command => dispatchString rilRequestStkSendEnvelopeCommand command.cStr
  | .sendTerminalResponseToSim commandResponse =>
      dispatchString rilRequestStkSendTerminalResponse commandResponse.cStr
  | .handleStkCallSetupRequestFromSim accept =>
      dispatchInts rilRequestStkHandleCallSetupRequestedFromSim [boolToInt accept]
  | .explicitCallTransfer => dispatchVoid rilRequestExplicitCallTransfer
  | .setPreferredNetworkType nwType => dispatchInts rilRequestSetPreferredNetworkType [nwType]
  | .getPreferredNetworkType => dispatchVoid rilRequestGetPreferredNetworkType
  | .getNeighboringCids => dispatchVoid rilRequestGetNeighboringCellIds
  | .setLocationUpdates enable => dispatchInts rilRequestSetLocationUpdates [boolToInt enable]
  | .setCdmaSubscriptionSource cdmaSub =>
      dispatchInts rilRequestCdmaSetSubscriptionSource [cdmaSub]
  | .setCdmaRoamingPreference type => dispatchInts rilRequestCdmaSetRoamingPreference [type]
  | .getCdmaRoamingPreference => dispatchVoid rilRequestCdmaQueryRoamingPreference
  | .setTTYMode mode => dispatchInts rilRequestSetTtyMode [mode]
  | .getTTYMode => dispatchVoid rilRequestQueryTtyMode
  | .setPreferredVoicePrivacy enable =>
      dispatchInts rilRequestCdmaSetPreferredVoicePrivacyMode [boolToInt enable]
  | .getPreferredVoicePrivacy => dispatchVoid rilRequestCdmaQueryPreferredVoicePrivacyMode
  | .sendCDMAFeatureCode featureCode => dispatchString rilRequestCdmaFlash featureCode.cStr
  | .sendBurstDtmf dtmf on off =>
      dispatchStrings rilRequestCdmaBurstDtmf false [dtmf.cStr, toStr on, toStr off]
  | .sendCdmaSms sms => { request := rilRequestCdmaSendSms, fields := constructCdmaSms sms }
  | .acknowledgeLastIncomingCdmaSms errorClass smsCauseCode =>
      { request := rilRequestCdmaSmsAcknowledge, fields := [.int errorClass, .int smsCauseCode] }
  | .getGsmBroadcastConfig => dispatchVoid rilRequestGsmGetBroadcastSmsConfig
  | .setGsmBroadcastConfig configInfo =>
      { request := rilRequestGsmSetBroadcastSmsConfig
        fields := configInfo.flatMap (fun config =>
          [.int config.fromServiceId, .int config.toServiceId, .int config.fromCodeScheme,
           .int config.toCodeScheme, .int (boolToInt config.selected)]) }
  | .setGsmBroadcastActivation activate =>
      dispatchInts rilRequestGsmSmsBroadcastActivation [boolToInt (!activate)]
  | .getCdmaBroadcastConfig => dispatchVoid rilRequestCdmaGetBroadcastSmsConfig
  | .setCdmaBroadcastConfig configInfo =>
      { request := rilRequestCdmaSetBroadcastSmsConfig
        fields := configInfo.flatMap (fun config =>
          [.int config.serviceCategory, .int config.language,
           .int (boolToInt config.selected)]) }
  | .setCdmaBroadcastActivation activate =>
      dispatchInts rilRequestCdmaSmsBroadcastActivation [boolToInt (!activate)]
  | .getCDMASubscription => dispatchVoid rilRequestCdmaSubscription
  | .writeSmsToRuim status message =>
      { request := rilRequestCdmaWriteSmsToRuim
        fields := .int status :: constructCdmaSms message }
  | .deleteSmsOnRuim index => dispatchInts rilRequestCdmaDeleteSmsOnRuim [index]
  | .getDeviceIdentity => dispatchVoid rilRequestDeviceIdentity
  | .exitEmergencyCallbackMode => dispatchVoid rilRequestExitEmergencyCallbackMode
  | .getSmscAddress => dispatchVoid rilRequestGetSmscAddress
  | .setSmscAddress smsc => dispatchString rilRequestSetSmscAddress smsc.cStr
  | .reportSmsMemoryStatus available =>
      dispatchInts rilRequestReportSmsMemoryStatus [boolToInt available]
  | .reportStkServiceIsRunning => dispatchVoid rilRequestReportStkServiceIsRunning
  | .getCdmaSubscriptionSource => dispatchVoid rilRequestCdmaGetSubscriptionSource
  | .requestIsimAuthentication challenge =>
      dispatchString rilRequestIsimAuthentication challenge.cStr
  | .acknowledgeIncomingGsmSmsWithPdu success ackPdu =>
      dispatchStrings rilRequestAcknowledgeIncomingGsmSmsWithPdu false
        [flag success, ackPdu.cStr]
  | .sendEnvelopeWithStatus contents =>
      dispatchString rilRequestStkSendEnvelopeWithStatus contents.cStr
  | .getVoiceRadioTechnology => dispatchVoid rilRequestVoiceRadioTech
  | .getCellInfoList => dispatchVoid rilRequestGetCellInfoList
  | .setCellInfoListRate rate => dispatchInts rilRequestSetUnsolCellInfoListRate [rate]
  | .setInitialAttachApn info modemCognitive isRoaming =>
      setInitialAttachApn vendor info modemCognitive isRoaming
  | .getImsRegistrationState => dispatchVoid rilRequestImsRegistrationState
  | .sendImsSms message => sendImsSms message
  | .iccTransmitApduBasicChannel message =>
      dispatchIccApdu rilRequestSimTransmitApduBasic message
  | .iccOpenLogicalChannel aid p2 => iccOpenLogicalChannel vendor aid p2
  | .iccCloseLogicalChannel channelId => dispatchInts rilRequestSimCloseChannel [channelId]
  | .iccTransmitApduLogicalChannel message =>
      dispatchIccApdu rilRequestSimTransmitApduChannel message
  | .nvReadItem itemId => { request := rilRequestNvReadItem, fields := [.int itemId] }
  | .nvWriteItem itemId value =>
      { request := rilRequestNvWriteItem, fields := [.int itemId, .copy value false] }
  | .nvWriteCdmaPrl prl => dispatchRaw rilRequestNvWriteCdmaPrl prl
  | .nvResetConfig resetType => dispatchInts rilRequestNvResetConfig [rilResetType resetType]
  | .setUiccSubscription uiccSub =>
      { request := rilRequestSetUiccSubscription
        fields :=
          [.int uiccSub.slot, .int uiccSub.appIndex, .int uiccSub.subType,
           .int uiccSub.actStatus] }
  | .setDataAllowed allow => dispatchInts rilRequestAllowData [boolToInt allow]
  | .getHardwareConfig => dispatchVoid rilRequestGetHardwareConfig
  | .requestIccSimAuthentication authContext authData aid =>
      { request := rilRequestSimAuthentication
        fields := [.int authContext, .copy authData false, .copy aid false] }
  | .setDataProfile profiles isRoaming => setDataProfile vendor profiles isRoaming
  | .requestShutdown => dispatchVoid rilRequestShutdown
  | .getRadioCapability => dispatchVoid rilRequestGetRadioCapability
  | .setRadioCapability rc =>
      { request := rilRequestSetRadioCapability
        fields :=
          [.int rc.session, .int rc.phase, .int rc.raf, .int rc.status,
           .str (some (rc.logicalModemUuid.cStr.take 63))] }
  | .startLceService reportInterval pullMode =>
      dispatchInts rilRequestStartLce [reportInterval, boolToInt pullMode]
  | .stopLceService => dispatchVoid rilRequestStopLce
  | .pullLceData => dispatchVoid rilRequestPullLcedata
  | .getModemActivityInfo => dispatchVoid rilRequestGetActivityInfo
  | .setAllowedCarriers _ carriers => setAllowedCarriers carriers
  | .getAllowedCarriers => dispatchVoid rilRequestGetCarrierRestrictions
  | .sendDeviceState deviceStateType state => sendDeviceState vendor deviceStateType state
  | .setIndicationFilter indicationFilter => setIndicationFilter vendor indicationFilter
  | .setSimCardPower powerUp => dispatchInts rilRequestSetSimCardPower [boolToInt powerUp]
  | .sendRequestRaw data => dispatchRaw rilRequestOemHookRaw data
  | .sendRequestStrings data => dispatchStringsVec rilRequestOemHookStrings data

-- ── Which requests are refused ───────────────────────────────────────────────

/-- The method answers the request itself, with an error. -/
def Refused (heap : Nat → Bool) (prog : Program) : Prop :=
  ∃ err, marshal heap 0 prog.fields = .refused err

/-- A member that no argument can make fail. -/
def Field.sound : Field → Bool
  | .require ok _ => ok
  | _ => true

theorem cons_eq_refused {v : Value} {o : Outcome} {err : Int} (h : o.cons v = .refused err) :
    o = .refused err := by
  cases o with
  | ready data => exact nomatch h
  | refused err' => exact h
  | dropped => exact nomatch h

/-- With memory and sound arguments nothing is refused. -/
theorem marshal_not_refused {heap : Nat → Bool} (hheap : ∀ n, heap n = true) (err : Int) :
    ∀ (fields : List Field) (n : Nat), (∀ f ∈ fields, f.sound = true) →
      marshal heap n fields ≠ .refused err := by
  intro fields
  induction fields with
  | nil => exact fun _ _ h => nomatch h
  | cons f rest ih =>
      intro n hall h
      have hrest := ih n (fun g hg => hall g (List.mem_cons_of_mem f hg))
      have hnext := ih (n + 1) (fun g hg => hall g (List.mem_cons_of_mem f hg))
      cases f with
      | int v => exact hrest (cons_eq_refused h)
      | str s => exact hrest (cons_eq_refused h)
      | bytes b => exact hrest (cons_eq_refused h)
      | copy src allowEmpty =>
          rw [marshal, hheap n] at h
          split at h
          · exact hrest (cons_eq_refused h)
          split at h
          · rename_i hfalse
            exact nomatch hfalse
          split at h
          · exact nomatch h
          · exact hnext (cons_eq_refused h)
      | calloc =>
          rw [marshal, hheap n, if_pos rfl] at h
          exact hnext h
      | require ok e =>
          have hok : ok = true := hall _ List.mem_cons_self
          rw [marshal, hok, if_pos rfl] at h
          exact hrest h

/-- The arguments and the vendor RIL's version let a request through. -/
def Acceptable (vendor : Vendor) : RadioRequest → Prop
  | .setupDataCall _ info _ _ _ =>
      vendor.version ≥ 4
        ∧ (vendor.version ≥ 15 → (convertMvnoTypeToString info.mvnoType).isSome = true)
  | .setInitialAttachApn info _ _ =>
      vendor.version ≥ 15 → (convertMvnoTypeToString info.mvnoType).isSome = true
  | .sendImsSms message =>
      (message.tech = 1 ∧ message.gsmMessage.length = 1)
        ∨ (message.tech = 2 ∧ message.cdmaMessage.length = 1)
  | .setDataProfile profiles _ =>
      vendor.version ≥ 15 →
        ∀ info ∈ profiles, (convertMvnoTypeToString info.mvnoType).isSome = true
  | .sendDeviceState deviceStateType _ =>
      vendor.version ≥ 15 ∨ deviceStateType = .lowDataExpected
  | .setIndicationFilter _ => vendor.version ≥ 15
  | _ => True

section Acceptance

variable {vendor : Vendor}

theorem sound_strings (allowEmpty : Bool) (strs : List CStr) :
    ∀ f ∈ strs.map (fun str => Field.copy (.ofCStr str) allowEmpty), f.sound = true := by
  intro f hf
  obtain ⟨str, -, rfl⟩ := List.mem_map.mp hf
  rfl

theorem sound_flatMap {α : Type} {l : List α} {g : α → List Field}
    (h : ∀ x ∈ l, ∀ f ∈ g x, f.sound = true) : ∀ f ∈ l.flatMap g, f.sound = true := by
  intro f hf
  obtain ⟨x, hx, hf⟩ := List.mem_flatMap.mp hf
  exact h x hx f hf

theorem sound_dispatchStrings (request : Nat) (allowEmpty : Bool) (strs : List CStr) :
    ∀ f ∈ (dispatchStrings request allowEmpty strs).fields, f.sound = true := by
  intro f hf
  rcases List.mem_cons.mp hf with rfl | hf
  · rfl
  · exact sound_strings allowEmpty strs f hf

theorem sound_setupDataCall {radioTechnology : Int} {info : DataProfileInfo}
    {modemCognitive roamingAllowed isRoaming : Bool} (h4 : vendor.version ≥ 4)
    (hmvno : vendor.version ≥ 15 → (convertMvnoTypeToString info.mvnoType).isSome = true) :
    ∀ f ∈ (setupDataCall vendor radioTechnology info modemCognitive roamingAllowed
      isRoaming).fields, f.sound = true := by
  rw [setupDataCall]
  split
  · exact sound_dispatchStrings _ _ _
  · have h15 : vendor.version ≥ 15 := by omega
    obtain ⟨str, hstr⟩ := Option.isSome_iff_exists.mp (hmvno h15)
    rw [if_pos h15, hstr]
    exact sound_dispatchStrings _ _ _

theorem sound_dataProfile {isRoaming : Bool} {info : DataProfileInfo}
    (hmvno : vendor.version ≥ 15 → (convertMvnoTypeToString info.mvnoType).isSome = true) :
    ∀ f ∈ dataProfile vendor isRoaming info, f.sound = true := by
  rw [dataProfile]
  dsimp only
  split
  · simp [Field.sound]
  · have h15 : vendor.version ≥ 15 := by omega
    simp [Field.sound, hmvno h15]

theorem sound_sendImsSms {message : ImsSmsMessage} (h : Acceptable vendor (.sendImsSms message)) :
    ∀ f ∈ (sendImsSms message).fields, f.sound = true := by
  rw [sendImsSms]
  rcases h with ⟨htech, hlen⟩ | ⟨htech, hlen⟩
  · obtain ⟨gsm, hgsm⟩ := List.length_eq_one_iff.mp hlen
    dsimp only
    rw [if_pos htech, dispatchImsGsmSms, hgsm]
    simp [Field.sound]
  · obtain ⟨cdma, hcdma⟩ := List.length_eq_one_iff.mp hlen
    dsimp only
    rw [if_neg (by omega), if_pos htech, dispatchImsCdmaSms, hcdma]
    simp [Field.sound, constructCdmaSms]

theorem sound_of_acceptable {m : RadioRequest} (h : Acceptable vendor m) :
    ∀ f ∈ (radioImpl vendor m).fields, f.sound = true := by
  cases m with
  | setupDataCall radioTechnology info modemCognitive roamingAllowed isRoaming =>
      exact sound_setupDataCall h.1 h.2
  | setInitialAttachApn info modemCognitive isRoaming =>
      show ∀ f ∈ (setInitialAttachApn vendor info modemCognitive isRoaming).fields, _
      rw [setInitialAttachApn]
      dsimp only
      split
      · simp only [List.forall_mem_append]
        refine ⟨⟨by simp [Field.sound], ?_⟩, ?_⟩
        · split <;> simp [Field.sound]
        · split <;> simp [Field.sound]
      · have hmvno := h (by omega)
        simp [Field.sound, hmvno]
  | sendImsSms message => exact sound_sendImsSms h
  | setDataProfile profiles isRoaming =>
      intro f hf
      rcases List.mem_append.mp hf with hf | hf
      · simp only [List.mem_cons, List.not_mem_nil, or_false, or_self] at hf
        rw [hf]
        rfl
      · exact sound_flatMap (fun info hinfo => sound_dataProfile (fun h15 => h h15 info hinfo))
          f hf
  | sendDeviceState deviceStateType state =>
      show ∀ f ∈ (sendDeviceState vendor deviceStateType state).fields, _
      rw [sendDeviceState]
      split
      · rcases h with h | h
        · omega
        · rw [if_pos h]
          simp [dispatchInts, Field.sound]
      · simp [dispatchInts, Field.sound]
  | setIndicationFilter indicationFilter =>
      have h15 : vendor.version ≥ 15 := h
      show ∀ f ∈ (setIndicationFilter vendor indicationFilter).fields, _
      rw [setIndicationFilter, if_neg (by omega)]
      simp [dispatchInts, Field.sound]
  | dial dialInfo =>
      show ∀ f ∈ (dial dialInfo).fields, _
      rw [dial]
      dsimp only
      split
      · simp [Field.sound]
      · split <;> simp [Field.sound]
  | iccOpenLogicalChannel aid p2 =>
      show ∀ f ∈ (iccOpenLogicalChannel vendor aid p2).fields, _
      rw [iccOpenLogicalChannel]
      split <;> simp [dispatchString, Field.sound]
  | setGsmBroadcastConfig configInfo =>
      exact sound_flatMap (fun config _ => by simp [Field.sound])
  | setCdmaBroadcastConfig configInfo =>
      exact sound_flatMap (fun config _ => by simp [Field.sound])
  | setAllowedCarriers allAllowed carriers =>
      have hcarriers : ∀ l : List Carrier, ∀ f ∈ l.flatMap carrier, f.sound = true :=
        fun l => sound_flatMap (fun c _ => by simp [carrier, Field.sound])
      show ∀ f ∈ (setAllowedCarriers carriers).fields, _
      rw [setAllowedCarriers]
      simp only [List.forall_mem_append]
      exact ⟨⟨by simp [Field.sound], hcarriers _⟩, hcarriers _⟩
  | sendRequestStrings data => simp [radioImpl, dispatchStringsVec, Field.sound]
  | _ =>
      -- the other methods check nothing: their members can be listed
      exact List.all_eq_true.mp rfl

/-- **WHAT LETS A REQUEST THROUGH**: memory, and acceptable arguments. -/
theorem not_refused_of_acceptable {m : RadioRequest} {heap : Nat → Bool}
    (hheap : ∀ n, heap n = true) (h : Acceptable vendor m) :
    ¬ Refused heap (radioImpl vendor m) := by
  rintro ⟨err, herr⟩
  exact marshal_not_refused hheap err _ 0 (sound_of_acceptable h) herr

end Acceptance

-- ── Every request can be answered ────────────────────────────────────────────

/-- The tables and the vendor RIL behind the service. -/
def radioConfig (simCount : Nat) (vendor : Vendor) (commandsV : List (CommandInfo String)) :
    Config String :=
  { simCount := simCount, version := vendor.version, commands := sCommands
    commandsV := commandsV }

/-- Every method uses a request with a response function. -/
theorem radioImpl_hasFunction (simCount : Nat) (vendor : Vendor)
    (commandsV : List (CommandInfo String)) (m : RadioRequest) :
    (responseFunction (radioConfig simCount vendor commandsV)
      (radioImpl vendor m).request).isSome = true := by
  cases m with
  | setupDataCall radioTechnology info modemCognitive roamingAllowed isRoaming =>
      have hrequest : (setupDataCall vendor radioTechnology info modemCognitive roamingAllowed
          isRoaming).request = rilRequestSetupDataCall := by
        rw [setupDataCall]
        split
        · rfl
        split
        · split <;> rfl
        · rfl
      rw [radioImpl, hrequest]
      rfl
  | iccOpenLogicalChannel aid p2 =>
      have hrequest : (iccOpenLogicalChannel vendor aid p2).request = rilRequestSimOpenChannel := by
        rw [iccOpenLogicalChannel]
        split <;> rfl
      rw [radioImpl, hrequest]
      rfl
  | sendDeviceState deviceStateType state =>
      rw [radioImpl, sendDeviceState]
      split
      · split <;> rfl
      · rfl
  | setIndicationFilter indicationFilter =>
      rw [radioImpl, setIndicationFilter]
      split <;> rfl
  | _ => rfl

end RilRadio

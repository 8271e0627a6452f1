import Mathlib.Algebra.Group.Nat.Defs
import Mathlib.Data.List.TakeDrop

/-! # What a SAP message carries (`sap_service.cpp`)

    A request is encoded into a buffer that has room for it, and the buffer is
    copied into the payload of the message that the vendor gets.  A response is
    decoded by its message id and is given to the client as a callback.

    Two things are lost on the way.  `addPayloadAndDispatchRequest` takes the
    length of the encoding as a `uint16_t`, and so the vendor gets the start of
    a longer one.  `sapDecodeMessage` says `NULL` for a payload that is
    malformed, and `processResponse` does not ask.  `payload_integrity` says
    exactly when neither matters.

    The encoder is not a part of this: `Nanopb` has its functions, and what they
    promise. -/

namespace SapPayload

-- ── Messages ─────────────────────────────────────────────────────────────────

/-- `MsgId`. -/
inductive MsgId where
  | simSapConnect
  | simSapDisconnect
  | simSapApdu
  | simSapTransferAtr
  | simSapPower
  | simSapResetSim
  | simSapStatus
  | simSapTransferCardReaderStatus
  | simSapErrorResp
  | simSapSetTransferProtocol
  | other (id : Int32)
  deriving DecidableEq, Repr

/-- The two types that responses have. -/
inductive MsgType where
  | response
  | unsolResponse
  deriving DecidableEq, Repr

/-- The requests.  The command of an APDU is a pointer. -/
inductive Request where
  | connect (maxMessageSize : Int32)
  | disconnect
  | apdu (type : Int32) (command : Option (List UInt8))
  | transferAtr
  | power (state : Bool)
  | resetSim
  | transferCardReaderStatus
  | setTransferProtocol (protocol : Int32)
  deriving DecidableEq, Repr

/-- The `response` of the messages, in one type: a conversion has the ones that
    its message does not have in its default. -/
inductive Response where
  | rilESuccess
  | rilEGenericFailure
  | rilESimNotReady
  | rilESimAlreadyPoweredOff
  | rilESimAlreadyPoweredOn
  | rilESimAbsent
  | rilESimDataNotAvailable
  | other (response : Int32)
  deriving DecidableEq, Repr

structure ConnectRsp where
  response : Int32
  max_message_size : Int32
  deriving DecidableEq, Repr

structure ApduRsp where
  response : Response
  apduResponse : Option (List UInt8)
  deriving DecidableEq, Repr

structure TransferAtrRsp where
  response : Response
  atr : Option (List UInt8)
  deriving DecidableEq, Repr

structure CardReaderStatusRsp where
  response : Response
  cardReaderStatus : Int32
  deriving DecidableEq, Repr

/-- The descriptors that `pb_decode` is given. -/
inductive Fields where
  | connectRsp
  | disconnectRsp
  | disconnectInd
  | apduRsp
  | transferAtrRsp
  | powerRsp
  | resetSimRsp
  | statusInd
  | transferCardReaderStatusRsp
  | errorRsp
  | setTransferProtocolRsp
  deriving DecidableEq, Repr

def Message : Fields → Type
  | .connectRsp => ConnectRsp
  | .disconnectRsp => Unit
  | .disconnectInd => Int32
  | .apduRsp => ApduRsp
  | .transferAtrRsp => TransferAtrRsp
  | .powerRsp => Response
  | .resetSimRsp => Response
  | .statusInd => Int32
  | .transferCardReaderStatusRsp => CardReaderStatusRsp
  | .errorRsp => Unit
  | .setTransferProtocolRsp => Response

-- ── The encoder ──────────────────────────────────────────────────────────────

/-- The functions of nanopb.  Each may fail; what they give when they do not is
    right. -/
structure Nanopb where
  /-- The bits of `pb_size_t`. -/
  sizeBits : Nat
  /-- The complete encoding of a request. -/
  encode : Request → List UInt8
  pb_get_encoded_size : Request → Option Nat
  /-- `pb_encode` to a stream with room for so many bytes: what it wrote. -/
  pb_encode : Nat → Request → Option (List UInt8)
  pb_decode : (fields : Fields) → List UInt8 → Option (Message fields)
  size_eq : ∀ req n, pb_get_encoded_size req = some n → n = (encode req).length
  encode_eq : ∀ n req bytes, pb_encode n req = some bytes → bytes = encode req
  /-- Of two commands the longer one has the longer encoding. -/
  encode_apdu_lt : ∀ type command command', command.length < command'.length →
    (encode (.apdu type (some command))).length < (encode (.apdu type (some command'))).length

/-- `pb_bytes_array_t`. -/
structure PbBytes where
  size : Nat
  bytes : List UInt8
  deriving DecidableEq, Repr

def PbBytes.data (a : PbBytes) : List UInt8 := a.bytes.take a.size

/-- An array of these bytes, with their number as its size. -/
def Nanopb.bytesArray (np : Nanopb) (bytes : List UInt8) : PbBytes where
  size := bytes.length % 2 ^ np.sizeBits
  bytes := bytes

-- ── The callbacks ────────────────────────────────────────────────────────────

inductive SapResultCode where
  | success
  | genericFailure
  | cardNotAccesssible
  | cardAlreadyPoweredOff
  | cardRemoved
  | cardAlreadyPoweredOn
  | dataNotAvailable
  | notSupported
  deriving DecidableEq, Repr

/-- `SapConnectRsp::CONNECT_FAILURE`. -/
def CONNECT_FAILURE : Int32 := 1

/-- What is called on `ISapCallback`. -/
inductive Callback where
  | connectResponse (token sapConnectRsp maxMsgSize : Int32)
  | disconnectResponse (token : Int32)
  | disconnectIndication (token disconnectType : Int32)
  | apduResponse (token : Int32) (resultCode : SapResultCode) (apduRsp : List UInt8)
  | transferAtrResponse (token : Int32) (resultCode : SapResultCode) (atr : List UInt8)
  | powerResponse (token : Int32) (resultCode : SapResultCode)
  | resetSimResponse (token : Int32) (resultCode : SapResultCode)
  | statusIndication (token status : Int32)
  | transferCardReaderStatusResponse (token : Int32) (resultCode : SapResultCode)
      (cardReaderStatus : Int32)
  | errorResponse (token : Int32)
  | transferProtocolResponse (token : Int32) (resultCode : SapResultCode)
  deriving DecidableEq, Repr

-- ── Requests ─────────────────────────────────────────────────────────────────

/-- What the calls of a request meet. -/
structure Env where
  /-- There is memory for the `MsgHeader`. -/
  header : Bool
  /-- There is memory for `req.command`. -/
  command : Bool
  /-- There is memory for the buffer. -/
  buffer : Bool
  /-- There is memory for the payload. -/
  payload : Bool
  /-- `getSocketById` finds a socket. -/
  sapSocket : Bool
  /-- There is memory for the `SapSocketRequest`. -/
  record : Bool
  /-- The socket has the vendor's functions. -/
  uimFuncs : Bool
  /-- The client has set its callback. -/
  sapCallback : Bool
  deriving DecidableEq, Repr

/-- What becomes of a request. -/
inductive Sent where
  /-- The vendor's `onRequest` is called. -/
  | onRequest (id : MsgId) (data : List UInt8)
  /-- The request waits, and there is no vendor to give it to. -/
  | queued
  /-- `dispatchRequest` has no memory for it. -/
  | oom
  | failedResponse (callback : Callback)
  /-- `sendFailedResponse` does not know the message. -/
  | ignored
  /-- The failure cannot be told: the callback is `NULL`. -/
  | nullCallback
  deriving DecidableEq, Repr

/-- The callback of `sendFailedResponse`. -/
def failedCallback (msgId : MsgId) (token : Int32) : Option Callback :=
  match msgId with
  | .simSapConnect => some (.connectResponse token CONNECT_FAILURE 0)
  | .simSapDisconnect => some (.disconnectResponse token)
  | .simSapApdu => some (.apduResponse token .genericFailure [])
  | .simSapTransferAtr => some (.transferAtrResponse token .genericFailure [])
  | .simSapPower => some (.powerResponse token .genericFailure)
  | .simSapResetSim => some (.resetSimResponse token .genericFailure)
  | .simSapTransferCardReaderStatus =>
      some (.transferCardReaderStatusResponse token .genericFailure 0)
  | .simSapSetTransferProtocol => some (.transferProtocolResponse token .notSupported)
  | _ => none

/-- `sendFailedResponse`. -/
def sendFailedResponse (env : Env) (msgId : MsgId) (token : Int32) : Sent :=
  match failedCallback msgId token with
  | none => .ignored
  | some callback => if env.sapCallback then .failedResponse callback else .nullCallback

/-- `RilSapSocket::dispatchRequest`. -/
def dispatchRequest (env : Env) (msgId : MsgId) (payload : PbBytes) : Sent :=
  if !env.record then .oom
  else if env.uimFuncs then .onRequest msgId payload.data
  else .queued

/-- `addPayloadAndDispatchRequest`. -/
def addPayloadAndDispatchRequest (np : Nanopb) (env : Env) (msgId : MsgId) (token : Int32)
    (reqLen : UInt16) (reqPtr : List UInt8) : Sent :=
  if !env.payload then sendFailedResponse env msgId token
  else
    let payload := np.bytesArray (reqPtr.take reqLen.toNat)
    if env.sapSocket then dispatchRequest env msgId payload
    else sendFailedResponse env msgId token

/-- What all requests do when they are filled in. -/
def encodeAndDispatch (np : Nanopb) (env : Env) (msgId : MsgId) (token : Int32)
    (req : Request) : Sent :=
  match np.pb_get_encoded_size req with
  | none => sendFailedResponse env msgId token
  | some encodedSize =>
      if !env.buffer then sendFailedResponse env msgId token
      else
        match np.pb_encode encodedSize req with
        | none => sendFailedResponse env msgId token
        | some buffer =>
            addPayloadAndDispatchRequest np env msgId token (UInt16.ofNat buffer.length) buffer

/-- A request whose message has no pointers. -/
def plainReq (np : Nanopb) (env : Env) (msgId : MsgId) (token : Int32) (req : Request) : Sent :=
  if !env.header then sendFailedResponse env msgId token
  else encodeAndDispatch np env msgId token req

def connectReq (np : Nanopb) (env : Env) (token maxMsgSize : Int32) : Sent :=
  plainReq np env .simSapConnect token (.connect maxMsgSize)

def disconnectReq (np : Nanopb) (env : Env) (token : Int32) : Sent :=
  plainReq np env .simSapDisconnect token .disconnect

def apduReq (np : Nanopb) (env : Env) (token type : Int32) (command : List UInt8) : Sent :=
  if !env.header then sendFailedResponse env .simSapApdu token
  else if command.length > 0 then
    if !env.command then sendFailedResponse env .simSapApdu token
    else
      encodeAndDispatch np env .simSapApdu token (.apdu type (some (np.bytesArray command).data))
  else encodeAndDispatch np env .simSapApdu token (.apdu type none)

def transferAtrReq (np : Nanopb) (env : Env) (token : Int32) : Sent :=
  plainReq np env .simSapTransferAtr token .transferAtr

def powerReq (np : Nanopb) (env : Env) (token : Int32) (state : Bool) : Sent :=
  plainReq np env .simSapPower token (.power state)

def resetSimReq (np : Nanopb) (env : Env) (token : Int32) : Sent :=
  plainReq np env .simSapResetSim token .resetSim

def transferCardReaderStatusReq (np : Nanopb) (env : Env) (token : Int32) : Sent :=
  plainReq np env .simSapTransferCardReaderStatus token .transferCardReaderStatus

def setTransferProtocolReq (np : Nanopb) (env : Env) (token transferProtocol : Int32) : Sent :=
  plainReq np env .simSapSetTransferProtocol token (.setTransferProtocol transferProtocol)

-- ── Responses ────────────────────────────────────────────────────────────────

/-- The descriptor of a message. -/
def fieldsOf : MsgId → MsgType → Option Fields
  | .simSapConnect, _ => some .connectRsp
  | .simSapDisconnect, .response => some .disconnectRsp
  | .simSapDisconnect, .unsolResponse => some .disconnectInd
  | .simSapApdu, _ => some .apduRsp
  | .simSapTransferAtr, _ => some .transferAtrRsp
  | .simSapPower, _ => some .powerRsp
  | .simSapResetSim, _ => some .resetSimRsp
  | .simSapStatus, _ => some .statusInd
  | .simSapTransferCardReaderStatus, _ => some .transferCardReaderStatusRsp
  | .simSapErrorResp, _ => some .errorRsp
  | .simSapSetTransferProtocol, _ => some .setTransferProtocolRsp
  | .other _, _ => none

/-- What `messagePtr` points to. -/
abbrev Pointee : Option Fields → Type
  | none => Empty
  | some fields => Message fields

/-- One case of `sapDecodeMessage`. -/
def decodeCase (np : Nanopb) (malloc : Bool) (payload : List UInt8) :
    (fields : Option Fields) → Option (Pointee fields)
  | none => none
  | some fields => if malloc then np.pb_decode fields payload else none

/-- `sapDecodeMessage`.  `none` is `NULL`. -/
def sapDecodeMessage (np : Nanopb) (malloc : Bool) (msgId : MsgId) (msgType : MsgType)
    (payload : List UInt8) : Option (Pointee (fieldsOf msgId msgType)) :=
  decodeCase np malloc payload (fieldsOf msgId msgType)

def convertApduResponseProtoToHal : Response → SapResultCode
  | .rilESuccess => .success
  | .rilEGenericFailure => .genericFailure
  | .rilESimNotReady => .cardNotAccesssible
  | .rilESimAlreadyPoweredOff => .cardAlreadyPoweredOff
  | .rilESimAbsent => .cardRemoved
  | _ => .genericFailure

def convertTransferAtrResponseProtoToHal : Response → SapResultCode
  | .rilESuccess => .success
  | .rilEGenericFailure => .genericFailure
  | .rilESimAlreadyPoweredOff => .cardAlreadyPoweredOff
  | .rilESimAbsent => .cardRemoved
  | .rilESimDataNotAvailable => .dataNotAvailable
  | _ => .genericFailure

def convertPowerResponseProtoToHal : Response → SapResultCode
  | .rilESuccess => .success
  | .rilEGenericFailure => .genericFailure
  | .rilESimAbsent => .cardRemoved
  | .rilESimAlreadyPoweredOff => .cardAlreadyPoweredOff
  | .rilESimAlreadyPoweredOn => .cardAlreadyPoweredOn
  | _ => .genericFailure

def convertResetSimResponseProtoToHal : Response → SapResultCode
  | .rilESuccess => .success
  | .rilEGenericFailure => .genericFailure
  | .rilESimAbsent => .cardRemoved
  | .rilESimNotReady => .cardNotAccesssible
  | .rilESimAlreadyPoweredOff => .cardAlreadyPoweredOff
  | _ => .genericFailure

def convertTransferCardReaderStatusResponseProtoToHal : Response → SapResultCode
  | .rilESuccess => .success
  | .rilEGenericFailure => .genericFailure
  | .rilESimDataNotAvailable => .dataNotAvailable
  | _ => .genericFailure

/-- The callback that a message is. -/
def toCallback (token : Int32) : (fields : Fields) → Message fields → Callback
  | .connectRsp, (m : ConnectRsp) => .connectResponse token m.response m.max_message_size
  | .disconnectRsp, _ => .disconnectResponse token
  | .disconnectInd, (disconnectType : Int32) => .disconnectIndication token disconnectType
  | .apduRsp, (m : ApduRsp) =>
      .apduResponse token (convertApduResponseProtoToHal m.response) (m.apduResponse.getD [])
  | .transferAtrRsp, (m : TransferAtrRsp) =>
      .transferAtrResponse token (convertTransferAtrResponseProtoToHal m.response) (m.atr.getD [])
  | .powerRsp, (response : Response) =>
      .powerResponse token (convertPowerResponseProtoToHal response)
  | .resetSimRsp, (response : Response) =>
      .resetSimResponse token (convertResetSimResponseProtoToHal response)
  | .statusInd, (statusChange : Int32) => .statusIndication token statusChange
  | .transferCardReaderStatusRsp, (m : CardReaderStatusRsp) =>
      .transferCardReaderStatusResponse token
        (convertTransferCardReaderStatusResponseProtoToHal m.response) m.cardReaderStatus
  | .errorRsp, _ => .errorResponse token
  | .setTransferProtocolRsp, (response : Response) =>
      .transferProtocolResponse token
        (if response = .rilESuccess then .success else .notSupported)

/-- What becomes of a response. -/
inductive Outcome where
  | returned
  | called (callback : Callback)
  /-- `messagePtr` is `NULL`, and is used. -/
  | nullMessage
  deriving DecidableEq, Repr

/-- A case that looks at the message. -/
def withMessage (token : Int32) (fields : Fields) : Option (Message fields) → Outcome
  | none => .nullMessage
  | some m => .called (toCallback token fields m)

/-- The cases of `processResponse`. -/
def handleMessage (token : Int32) : (msgId : MsgId) → (msgType : MsgType) →
    Option (Pointee (fieldsOf msgId msgType)) → Outcome
  | .simSapConnect, _, messagePtr => withMessage token .connectRsp messagePtr
  | .simSapDisconnect, .response, _ => .called (.disconnectResponse token)
  | .simSapDisconnect, .unsolResponse, messagePtr => withMessage token .disconnectInd messagePtr
  | .simSapApdu, _, messagePtr => withMessage token .apduRsp messagePtr
  | .simSapTransferAtr, _, messagePtr => withMessage token .transferAtrRsp messagePtr
  | .simSapPower, _, messagePtr => withMessage token .powerRsp messagePtr
  | .simSapResetSim, _, messagePtr => withMessage token .resetSimRsp messagePtr
  | .simSapStatus, _, messagePtr => withMessage token .statusInd messagePtr
  | .simSapTransferCardReaderStatus, _, messagePtr =>
      withMessage token .transferCardReaderStatusRsp messagePtr
  | .simSapErrorResp, _, _ => .called (.errorResponse token)
  | .simSapSetTransferProtocol, _, messagePtr =>
      withMessage token .setTransferProtocolRsp messagePtr
  | .other _, _, _ => .returned

/-- A response as the socket hands it over. -/
structure MsgHeader where
  id : MsgId
  token : Int32
  payload : PbBytes
  deriving DecidableEq, Repr

/-- `checkReturnStatus`: a client that cannot be reached has no callback any
    more. -/
def checkReturnStatus (isOk sapCallback : Bool) : Bool := sapCallback && isOk

/-- `processResponse`, with whether there is a callback before and after it.
    `malloc` says whether there is memory for the message, and `isOk` whether
    the client can be reached. -/
def processResponse (np : Nanopb) (malloc isOk sapCallback : Bool) (rsp : MsgHeader)
    (msgType : MsgType) : Outcome × Bool :=
  let messagePtr := sapDecodeMessage np malloc rsp.id msgType rsp.payload.data
  if !sapCallback then (.returned, sapCallback)
  else
    match handleMessage rsp.token rsp.id msgType messagePtr with
    | .called callback => (.called callback, checkReturnStatus isOk sapCallback)
    | outcome => (outcome, sapCallback)

-- ── What is promised ─────────────────────────────────────────────────────────

/-- The vendor gets this, or nothing. -/
def Delivers (sent : Sent) (whole : List UInt8) : Prop :=
  ∀ id data, sent = .onRequest id data → data = whole

/-- The request of an APDU command. -/
def apduRequest (type : Int32) (command : List UInt8) : Request :=
  .apdu type (if command = [] then none else some command)

/-- Nothing is cut off a payload of this length. -/
def Nanopb.Fits (np : Nanopb) (n : Nat) : Prop := n < 2 ^ 16 ∧ n < 2 ^ np.sizeBits

/-- The request can be encoded. -/
def Nanopb.Encodes (np : Nanopb) (req : Request) : Prop :=
  ∃ n ∈ np.pb_get_encoded_size req, (np.pb_encode n req).isSome = true

/-- An encoded request gets to the vendor. -/
def Env.Dispatches (env : Env) : Prop :=
  env.buffer = true ∧ env.payload = true ∧ env.sapSocket = true ∧ env.record = true
    ∧ env.uimFuncs = true

/-- This is the message that is decoded. -/
def Decoded (np : Nanopb) (malloc : Bool) (rsp : MsgHeader) (msgType : MsgType) (fields : Fields)
    (m : Message fields) : Prop :=
  fieldsOf rsp.id msgType = some fields ∧ malloc = true
    ∧ np.pb_decode fields rsp.payload.data = some m

/-- No message is used that is not there, and a callback says what a decoded
    message says. -/
def Clean (np : Nanopb) (malloc : Bool) (rsp : MsgHeader) (msgType : MsgType)
    (outcome : Outcome) : Prop :=
  outcome ≠ .nullMessage
    ∧ ∀ callback, outcome = .called callback →
        ∃ fields m, Decoded np malloc rsp msgType fields m
          ∧ callback = toCallback rsp.token fields m

/-- A message comes out of the payload, if the message id has one. -/
def Decodes (np : Nanopb) (malloc : Bool) (rsp : MsgHeader) (msgType : MsgType) : Prop :=
  ∀ fields, fieldsOf rsp.id msgType = some fields →
    malloc = true ∧ (np.pb_decode fields rsp.payload.data).isSome = true

/-- The callbacks that say no more than the token. -/
def TokenOnly (msgId : MsgId) (msgType : MsgType) : Prop :=
  (msgId = .simSapDisconnect ∧ msgType = .response) ∨ msgId = .simSapErrorResp

-- ── Requests to the vendor ───────────────────────────────────────────────────

section Requests

variable {np : Nanopb} {env : Env} {msgId id : MsgId} {token type : Int32}
  {req : Request} {data bytes command : List UInt8}

theorem sendFailedResponse_ne_onRequest : sendFailedResponse env msgId token ≠ .onRequest id data := by
  rw [sendFailedResponse]
  cases failedCallback msgId token with
  | none => exact Sent.noConfusion
  | some callback =>
      cases env.sapCallback with
      | false => exact Sent.noConfusion
      | true => exact Sent.noConfusion

theorem dispatchRequest_eq_onRequest {payload : PbBytes} :
    dispatchRequest env msgId payload = .onRequest id data
      ↔ (env.record = true ∧ env.uimFuncs = true) ∧ id = msgId ∧ data = payload.data := by
  rw [dispatchRequest]
  cases env.record with
  | false => exact iff_of_false Sent.noConfusion fun h => nomatch h.1.1
  | true =>
      cases env.uimFuncs with
      | false => exact iff_of_false Sent.noConfusion fun h => nomatch h.1.2
      | true =>
          constructor
          · intro h
            injection h with hid hdata
            exact ⟨⟨rfl, rfl⟩, hid.symm, hdata.symm⟩
          · rintro ⟨-, rfl, rfl⟩
            rfl

theorem take_mod_length (l : List UInt8) (n k : Nat) :
    (l.take n).take ((l.take n).length % k) = l.take ((l.take n).length % k) := by
  rw [List.take_take, Nat.min_eq_left]
  exact Nat.le_trans (Nat.mod_le _ _) (List.length_take_le n l)

/-- **WHAT IS HANDED OVER**: the start of the encoding, as long as two counters
    make it. -/
theorem encodeAndDispatch_eq_onRequest :
    encodeAndDispatch np env msgId token req = .onRequest id data
      ↔ (np.Encodes req ∧ env.Dispatches) ∧ id = msgId
        ∧ data = (np.encode req).take ((np.encode req).length % 2 ^ 16 % 2 ^ np.sizeBits) := by
  have hfails : ∀ {p : Prop}, ¬p →
      (sendFailedResponse env msgId token = .onRequest id data ↔ p ∧ id = msgId
        ∧ data = (np.encode req).take ((np.encode req).length % 2 ^ 16 % 2 ^ np.sizeBits)) :=
    fun hp => iff_of_false sendFailedResponse_ne_onRequest fun h => hp h.1
  rw [encodeAndDispatch]
  cases hsize : np.pb_get_encoded_size req with
  | none =>
      refine hfails ?_
      rintro ⟨⟨n, hn, -⟩, -⟩
      rw [hsize] at hn
      exact nomatch hn
  | some n =>
      dsimp only
      cases hbuffer : env.buffer with
      | false =>
          refine hfails ?_
          rintro ⟨-, h, -⟩
          rw [hbuffer] at h
          exact nomatch h
      | true =>
          cases hencode : np.pb_encode n req with
          | none =>
              refine hfails ?_
              rintro ⟨⟨k, hk, henc⟩, -⟩
              rw [hsize] at hk
              obtain rfl := Option.some.inj hk
              rw [hencode] at henc
              exact nomatch henc
          | some buffer =>
              obtain rfl := np.encode_eq n req buffer hencode
              have hencodes : np.Encodes req := ⟨n, hsize, by rw [hencode]; rfl⟩
              dsimp only
              rw [Bool.not_true, if_neg Bool.false_ne_true, addPayloadAndDispatchRequest]
              cases hpayload : env.payload with
              | false =>
                  refine hfails ?_
                  rintro ⟨-, -, h, -⟩
                  rw [hpayload] at h
                  exact nomatch h
              | true =>
                  cases hsocket : env.sapSocket with
                  | false =>
                      refine hfails ?_
                      rintro ⟨-, -, -, h, -⟩
                      rw [hsocket] at h
                      exact nomatch h
                  | true =>
                      have hdata : (np.bytesArray ((np.encode req).take
                            (UInt16.ofNat (np.encode req).length).toNat)).data
                          = (np.encode req).take
                              ((np.encode req).length % 2 ^ 16 % 2 ^ np.sizeBits) := by
                        rw [PbBytes.data, Nanopb.bytesArray, take_mod_length, List.length_take,
                          UInt16.toNat_ofNat', Nat.min_eq_left (Nat.mod_le _ _)]
                      refine dispatchRequest_eq_onRequest.trans ?_
                      rw [hdata]
                      refine and_congr_left fun _ => ?_
                      exact ⟨fun h => ⟨hencodes, hbuffer, hpayload, hsocket, h⟩,
                        fun h => h.2.2.2.2⟩

theorem take_mod_eq_self {l : List UInt8} {k m : Nat} (hk : 0 < k) (hm : 0 < m) :
    l.take (l.length % k % m) = l ↔ l.length < k ∧ l.length < m := by
  rw [List.take_eq_self_iff]
  constructor
  · intro h
    have hleft := Nat.mod_le (l.length % k) m
    have hright := Nat.mod_le l.length k
    have hlt := Nat.mod_lt l.length hk
    have hlt' := Nat.mod_lt (l.length % k) hm
    omega
  · rintro ⟨hleft, hright⟩
    have heq : l.length % k % m = l.length := by
      rw [Nat.mod_eq_of_lt hleft, Nat.mod_eq_of_lt hright]
    exact Nat.le_of_eq heq.symm

/-- An encoded request gets to the vendor as a whole, exactly if it fits. -/
theorem encodeAndDispatch_delivers :
    Delivers (encodeAndDispatch np env msgId token req) (np.encode req)
      ↔ (np.Encodes req → env.Dispatches → np.Fits (np.encode req).length) := by
  have hwhole := take_mod_eq_self (l := np.encode req) (Nat.two_pow_pos 16)
    (Nat.two_pow_pos np.sizeBits)
  constructor
  · intro h hencodes hdispatches
    exact hwhole.mp (h _ _ (encodeAndDispatch_eq_onRequest.mpr
      ⟨⟨hencodes, hdispatches⟩, rfl, rfl⟩))
  · intro hfits id data hsent
    obtain ⟨⟨hencodes, hdispatches⟩, -, rfl⟩ := encodeAndDispatch_eq_onRequest.mp hsent
    exact hwhole.mpr (hfits hencodes hdispatches)

theorem delivers_sendFailedResponse : Delivers (sendFailedResponse env msgId token) bytes :=
  fun _ _ h => absurd h sendFailedResponse_ne_onRequest

/-- A plain request gets to the vendor as a whole, exactly if it fits. -/
theorem plainReq_delivers :
    Delivers (plainReq np env msgId token req) (np.encode req)
      ↔ (env.header = true → np.Encodes req → env.Dispatches → np.Fits (np.encode req).length) := by
  rw [plainReq]
  cases env.header with
  | false => exact iff_of_true delivers_sendFailedResponse fun h => nomatch h
  | true => exact encodeAndDispatch_delivers.trans ⟨fun h _ => h, fun h => h rfl⟩

theorem bytesArray_data_of_lt (h : command.length < 2 ^ np.sizeBits) :
    (np.bytesArray command).data = command := by
  rw [PbBytes.data, Nanopb.bytesArray, Nat.mod_eq_of_lt h, List.take_length]

theorem bytesArray_data_length_lt (h : 2 ^ np.sizeBits ≤ command.length) :
    (np.bytesArray command).data.length < command.length := by
  have hlt := Nat.mod_lt command.length (Nat.two_pow_pos np.sizeBits)
  exact Nat.lt_of_le_of_lt (List.length_take_le _ command) (Nat.lt_of_lt_of_le hlt h)

/-- The request that `apduReq` fills in. -/
def Nanopb.apduMessage (np : Nanopb) (type : Int32) (command : List UInt8) : Request :=
  .apdu type (if command = [] then none else some (np.bytesArray command).data)

theorem apduReq_eq (hheader : env.header = true) (hcommand : command ≠ [] → env.command = true) :
    apduReq np env token type command
      = encodeAndDispatch np env .simSapApdu token (np.apduMessage type command) := by
  rw [apduReq, hheader, Nanopb.apduMessage]
  cases command with
  | nil => rfl
  | cons b rest =>
      rw [hcommand (List.cons_ne_nil b rest)]
      rfl

theorem apduReq_failed (h : ¬(env.header = true ∧ (command ≠ [] → env.command = true))) :
    apduReq np env token type command = sendFailedResponse env .simSapApdu token := by
  rw [apduReq]
  cases hheader : env.header with
  | false => rfl
  | true =>
      obtain ⟨hne, hcommand⟩ := not_forall.mp fun hcommand => h ⟨hheader, hcommand⟩
      rw [(Bool.not_eq_true _).mp hcommand]
      exact if_pos (List.length_pos_iff.mpr hne)

theorem apduMessage_of_lt (h : command.length < 2 ^ np.sizeBits) :
    np.apduMessage type command = apduRequest type command := by
  rw [Nanopb.apduMessage, bytesArray_data_of_lt h, apduRequest]

theorem encode_apduMessage_lt (type : Int32) (h : 2 ^ np.sizeBits ≤ command.length) :
    (np.encode (np.apduMessage type command)).length
      < (np.encode (apduRequest type command)).length := by
  have hne : command ≠ [] := by
    rintro rfl
    exact absurd (Nat.two_pow_pos np.sizeBits) (Nat.not_lt.mpr h)
  rw [Nanopb.apduMessage, apduRequest, if_neg hne, if_neg hne]
  exact np.encode_apdu_lt type _ _ (bytesArray_data_length_lt h)

/-- **COMMANDS** get to the vendor as a whole, exactly if something else stops them
    or the command and its encoding fit. -/
theorem apduReq_delivers :
    Delivers (apduReq np env token type command) (np.encode (apduRequest type command))
      ↔ (env.header = true ∧ (command ≠ [] → env.command = true) →
          np.Encodes (np.apduMessage type command) → env.Dispatches →
          command.length < 2 ^ np.sizeBits
            ∧ np.Fits (np.encode (apduRequest type command)).length) := by
  by_cases hmemory : env.header = true ∧ (command ≠ [] → env.command = true)
  · rw [apduReq_eq hmemory.1 hmemory.2]
    rcases Nat.lt_or_ge command.length (2 ^ np.sizeBits) with hlt | hge
    · rw [apduMessage_of_lt hlt]
      refine encodeAndDispatch_delivers.trans ?_
      constructor
      · intro hfits _ hencodes hdispatches
        exact ⟨hlt, hfits hencodes hdispatches⟩
      · intro h hencodes hdispatches
        exact (h hmemory hencodes hdispatches).2
    · have hshort := encode_apduMessage_lt type hge
      constructor
      · intro h _ hencodes hdispatches
        -- the vendor gets no more than the encoding of the shorter command
        have hdata := h _ _ (encodeAndDispatch_eq_onRequest.mpr
          ⟨⟨hencodes, hdispatches⟩, rfl, rfl⟩)
        have hlen := List.length_take_le' ((np.encode (np.apduMessage type command)).length
          % 2 ^ 16 % 2 ^ np.sizeBits) (np.encode (np.apduMessage type command))
        rw [hdata] at hlen
        exact absurd hshort (Nat.not_lt.mpr hlen)
      · intro h id data hsent
        obtain ⟨⟨hencodes, hdispatches⟩, -⟩ := encodeAndDispatch_eq_onRequest.mp hsent
        exact absurd (h hmemory hencodes hdispatches).1 (Nat.not_lt.mpr hge)
  · rw [apduReq_failed hmemory]
    exact iff_of_true delivers_sendFailedResponse fun h => absurd h hmemory

end Requests

-- ── Responses to the client ──────────────────────────────────────────────────

section Responses

variable {np : Nanopb} {malloc isOk sapCallback : Bool} {rsp : MsgHeader} {msgType : MsgType}
  {msgId : MsgId} {token : Int32} {payload : List UInt8} {callback : Callback} {fields : Fields}

/-- A case that looks at the message is clean exactly if the message is there. -/
theorem withMessage_ne_nullMessage :
    withMessage token fields (decodeCase np malloc payload (some fields)) ≠ .nullMessage
      ↔ malloc = true ∧ (np.pb_decode fields payload).isSome = true := by
  rw [decodeCase]
  cases malloc with
  | false => exact iff_of_false (fun h => h rfl) fun h => nomatch h.1
  | true =>
      cases hdecode : np.pb_decode fields payload with
      | none => exact iff_of_false (fun h => h rfl) fun h => nomatch h.2
      | some m => exact iff_of_true Outcome.noConfusion ⟨rfl, rfl⟩

theorem withMessage_called
    (h : withMessage token fields (decodeCase np malloc payload (some fields)) = .called callback) :
    ∃ m, malloc = true ∧ np.pb_decode fields payload = some m
      ∧ callback = toCallback token fields m := by
  rw [decodeCase] at h
  cases malloc with
  | false => exact nomatch h
  | true =>
      cases hdecode : np.pb_decode fields payload with
      | none =>
          rw [hdecode] at h
          exact nomatch h
      | some m =>
          rw [hdecode] at h
          injection h with h
          exact ⟨m, rfl, rfl, h.symm⟩

/-- The cases that look at the message. -/
theorem handleMessage_of_fields (hfields : fieldsOf msgId msgType = some fields)
    (htoken : ¬TokenOnly msgId msgType) :
    handleMessage token msgId msgType (sapDecodeMessage np malloc msgId msgType payload)
      = withMessage token fields (decodeCase np malloc payload (some fields)) := by
  cases msgId with
  | simSapDisconnect =>
      cases msgType with
      | response => exact absurd (Or.inl ⟨rfl, rfl⟩) htoken
      | unsolResponse =>
          obtain rfl := Option.some.inj hfields
          rfl
  | simSapErrorResp => exact absurd (Or.inr rfl) htoken
  | other n => exact nomatch hfields
  | _ =>
      obtain rfl := Option.some.inj hfields
      rfl

/-- The cases that do not. -/
theorem handleMessage_of_tokenOnly (hfields : fieldsOf msgId msgType = some fields)
    (htoken : TokenOnly msgId msgType) (m : Message fields)
    (messagePtr : Option (Pointee (fieldsOf msgId msgType))) :
    handleMessage token msgId msgType messagePtr = .called (toCallback token fields m) := by
  rcases htoken with ⟨rfl, rfl⟩ | rfl
  · obtain rfl := Option.some.inj hfields
    rfl
  · obtain rfl := Option.some.inj hfields
    rfl

theorem handleMessage_tokenOnly_called (token : Int32) (htoken : TokenOnly msgId msgType)
    (messagePtr : Option (Pointee (fieldsOf msgId msgType))) :
    ∃ callback, handleMessage token msgId msgType messagePtr = .called callback := by
  rcases htoken with ⟨rfl, rfl⟩ | rfl
  · exact ⟨_, rfl⟩
  · exact ⟨_, rfl⟩

theorem handleMessage_of_none (hfields : fieldsOf msgId msgType = none)
    (messagePtr : Option (Pointee (fieldsOf msgId msgType))) :
    handleMessage token msgId msgType messagePtr = .returned := by
  cases msgId with
  | simSapDisconnect =>
      cases msgType with
      | response => exact nomatch hfields
      | unsolResponse => exact nomatch hfields
  | other n => rfl
  | _ => exact nomatch hfields

theorem processResponse_outcome :
    (processResponse np malloc isOk sapCallback rsp msgType).1
      = if sapCallback = true then
          handleMessage rsp.token rsp.id msgType
            (sapDecodeMessage np malloc rsp.id msgType rsp.payload.data)
        else .returned := by
  rw [processResponse]
  cases sapCallback with
  | false => rfl
  | true =>
      cases handleMessage rsp.token rsp.id msgType
          (sapDecodeMessage np malloc rsp.id msgType rsp.payload.data) with
      | returned => rfl
      | called callback => rfl
      | nullMessage => rfl

/-- **A MESSAGE THAT IS NOT THERE** is used, exactly if a client waits for a
    callback that says more than the token. -/
theorem processResponse_ne_nullMessage :
    (processResponse np malloc isOk sapCallback rsp msgType).1 ≠ .nullMessage
      ↔ (sapCallback = true → ¬TokenOnly rsp.id msgType → Decodes np malloc rsp msgType) := by
  rw [processResponse_outcome]
  cases sapCallback with
  | false => exact iff_of_true Outcome.noConfusion fun h => nomatch h
  | true =>
      rw [if_pos rfl]
      cases hfields : fieldsOf rsp.id msgType with
      | none =>
          rw [handleMessage_of_none hfields]
          refine iff_of_true Outcome.noConfusion fun _ _ fields h => ?_
          rw [hfields] at h
          exact nomatch h
      | some fields =>
          by_cases htoken : TokenOnly rsp.id msgType
          · obtain ⟨callback, hcalled⟩ := handleMessage_tokenOnly_called rsp.token htoken
              (sapDecodeMessage np malloc rsp.id msgType rsp.payload.data)
            rw [hcalled]
            exact iff_of_true Outcome.noConfusion fun _ h => absurd htoken h
          · rw [handleMessage_of_fields hfields htoken, withMessage_ne_nullMessage]
            constructor
            · intro h _ _ fields' hfields'
              obtain rfl := Option.some.inj (hfields.symm.trans hfields')
              exact h
            · intro h
              exact h rfl htoken fields hfields

/-- **RESPONSES** are handled cleanly exactly if there is no callback, or a message
    comes out. -/
theorem processResponse_clean :
    Clean np malloc rsp msgType (processResponse np malloc isOk sapCallback rsp msgType).1
      ↔ (sapCallback = true → Decodes np malloc rsp msgType) := by
  constructor
  · rintro ⟨hnull, hcalled⟩ hcallback
    by_cases htoken : TokenOnly rsp.id msgType
    · obtain ⟨callback, hc⟩ := handleMessage_tokenOnly_called rsp.token htoken
        (sapDecodeMessage np malloc rsp.id msgType rsp.payload.data)
      rw [processResponse_outcome, if_pos hcallback] at hcalled
      obtain ⟨fields, m, ⟨hfields, hmalloc, hdecode⟩, -⟩ := hcalled callback hc
      intro fields' hfields'
      obtain rfl := Option.some.inj (hfields.symm.trans hfields')
      rw [hdecode]
      exact ⟨hmalloc, rfl⟩
    · exact processResponse_ne_nullMessage.mp hnull hcallback htoken
  · intro hdecodes
    refine ⟨processResponse_ne_nullMessage.mpr fun h _ => hdecodes h, ?_⟩
    rw [processResponse_outcome]
    cases sapCallback with
    | false => exact fun callback hcalled => Outcome.noConfusion hcalled
    | true =>
        rw [if_pos rfl]
        intro callback hcalled
        cases hfields : fieldsOf rsp.id msgType with
        | none =>
            rw [handleMessage_of_none hfields] at hcalled
            exact nomatch hcalled
        | some fields =>
            obtain ⟨hmalloc, hsome⟩ := hdecodes rfl fields hfields
            by_cases htoken : TokenOnly rsp.id msgType
            · obtain ⟨m, hm⟩ := Option.isSome_iff_exists.mp hsome
              rw [handleMessage_of_tokenOnly hfields htoken m] at hcalled
              injection hcalled with hcalled
              exact ⟨fields, m, ⟨hfields, hmalloc, hm⟩, hcalled.symm⟩
            · rw [handleMessage_of_fields hfields htoken] at hcalled
              obtain ⟨m, -, hm, rfl⟩ := withMessage_called hcalled
              exact ⟨fields, m, ⟨hfields, hmalloc, hm⟩, rfl⟩

end Responses

/-- **PAYLOADS**: a request that gets to the vendor is complete exactly if its
    command and its encoding fit their counters, and a response is handled
    cleanly exactly if a message comes out of it or nobody waits for one. -/
theorem payload_integrity (np : Nanopb) :
    (∀ (env : Env) (token type : Int32) (command : List UInt8),
        Delivers (apduReq np env token type command) (np.encode (apduRequest type command))
          ↔ (env.header = true ∧ (command ≠ [] → env.command = true) →
              np.Encodes (np.apduMessage type command) → env.Dispatches →
              command.length < 2 ^ np.sizeBits
                ∧ np.Fits (np.encode (apduRequest type command)).length))
      ∧ ∀ (malloc isOk sapCallback : Bool) (rsp : MsgHeader) (msgType : MsgType),
          Clean np malloc rsp msgType (processResponse np malloc isOk sapCallback rsp msgType).1
            ↔ (sapCallback = true → Decodes np malloc rsp msgType) :=
  ⟨fun _ _ _ _ => apduReq_delivers, fun _ _ _ _ _ => processResponse_clean⟩

-- ── A command that is too long ───────────────────────────────────────────────

/-- A varint of at most so many continued bytes. -/
def varint : Nat → Nat → List UInt8
  | 0, n => [UInt8.ofNat n]
  | k + 1, n =>
      if n < 128 then [UInt8.ofNat n]
      else UInt8.ofNat (128 + n % 128) :: varint k (n / 128)

theorem varint_length_le : ∀ (k : Nat) {n m : Nat}, n ≤ m →
    (varint k n).length ≤ (varint k m).length := by
  intro k
  induction k with
  | zero => exact fun _ => Nat.le_refl _
  | succ k ih =>
      intro n m h
      rw [varint, varint]
      split
      · split
        · exact Nat.le_refl _
        · exact Nat.succ_le_succ (Nat.zero_le _)
      · rename_i hn
        rw [if_neg fun hm => hn (Nat.lt_of_le_of_lt h hm)]
        exact Nat.succ_le_succ (ih (Nat.div_le_div_right h))

/-- The wire format, as far as commands need it. -/
def apduWire : Request → List UInt8
  | .apdu type none => 0x08 :: varint 4 type.toUInt32.toNat
  | .apdu type (some command) =>
      0x08 :: varint 4 type.toUInt32.toNat ++ 0x12 :: varint 4 command.length ++ command
  | _ => []

/-- An encoder that never fails, and a decoder that was given what is malformed. -/
def apduNanopb : Nanopb where
  sizeBits := 32
  encode := apduWire
  pb_get_encoded_size req := some (apduWire req).length
  pb_encode _ req := some (apduWire req)
  pb_decode _ _ := none
  size_eq _ _ h := (Option.some.inj h).symm
  encode_eq _ _ _ h := (Option.some.inj h).symm
  encode_apdu_lt type command command' h := by
    have hvarint := varint_length_le 4 (Nat.le_of_lt h)
    simp only [apduWire, List.length_append, List.length_cons]
    omega

/-- With a command of 65535 bytes the vendor gets five bytes; and a payload that
    ends within its first number is used as a message. -/
theorem long_command_cut :
    let env : Env := ⟨true, true, true, true, true, true, true, true⟩
    let rsp : MsgHeader := ⟨.simSapConnect, 1, ⟨1, [0xff]⟩⟩
    ¬Delivers (apduReq apduNanopb env 1 0 (List.replicate 65535 0))
        (apduNanopb.encode (apduRequest 0 (List.replicate 65535 0)))
      ∧ (processResponse apduNanopb true true true rsp .response).1 = .nullMessage := by
  intro env rsp
  refine ⟨fun h => ?_, rfl⟩
  have hne : (List.replicate 65535 (0 : UInt8)) ≠ [] := by
    rw [Ne, List.replicate_eq_nil_iff]
    decide
  obtain ⟨-, hfits, -⟩ := apduReq_delivers.mp h ⟨rfl, fun _ => rfl⟩ ⟨_, rfl, rfl⟩
    ⟨rfl, rfl, rfl, rfl, rfl⟩
  have hlen : 2 ^ 16 ≤ (apduNanopb.encode (apduRequest 0 (List.replicate 65535 0))).length := by
    rw [apduRequest, if_neg hne]
    simp only [apduNanopb, apduWire, List.length_append, List.length_cons, List.length_replicate]
    omega
  exact absurd hfits (Nat.not_lt.mpr hlen)

end SapPayload

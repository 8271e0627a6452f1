import Universal7580.PageBytesProofs
import Universal7580.RunProofs
import Universal7580.SlotPoolProofs

/-! # The RIL client of `secril-client.cpp`

    One client of the modem daemon: a 32-bit pool of tokens, a table with the
    request each token was used for, and two tables of handlers.  Requests go
    out through `sendOemRequestHookRaw`, records from the daemon come in
    through `processRxBuffer`.

    The parcels are marshalled by a library outside the repository, so
    `ParcelApi` stands for it, with no promise attached.

    The second half is the accounting of tokens.  `Accounting` ties the pool
    to the history table; every send keeps it (`Accounting.send`), and so does
    every record whose token is a single bit.  A record with a token of
    several outstanding bits passes `isValidToken` and breaks it. -/

namespace RilClient

open PageBytes SlotPool

-- ── Constants ────────────────────────────────────────────────────────────────

/-- `TOKEN_POOL_SIZE`. -/
def tokenPoolSize : Nat := 32

/-- `REQ_POOL_SIZE`. -/
def reqPoolSize : Nat := 32

/-- `RESPONSE_SOLICITED`. -/
def responseSolicited : BitVec 32 := 0

/-- `RESPONSE_UNSOLICITED`. -/
def responseUnsolicited : BitVec 32 := 1

/-- `RIL_REQUEST_OEM_HOOK_RAW`. -/
def rilRequestOemHookRaw : BitVec 32 := 59

/-- The `RIL_CLIENT_ERR_*` codes, in the order of their values. -/
inductive Err where
  | success
  | again
  | init
  | inval
  | connect
  | io
  | resource
  | unknown
  deriving DecidableEq

/-- The value of a code. -/
def Err.code : Err → BitVec 32
  | .success => 0
  | .again => 1
  | .init => 2
  | .inval => 3
  | .connect => 4
  | .io => 5
  | .resource => 6
  | .unknown => 7

/-- The `errno` values the client looks at. -/
def eintr : Nat := 4
def epipe : Nat := 32
def ebadfd : Nat := 77

-- ── Data model ───────────────────────────────────────────────────────────────

/-- `ReqHistory`; a zero token marks a free slot. -/
structure ReqHistory where
  token : BitVec 32 := 0
  id : BitVec 32 := 0
  deriving DecidableEq

/-- `ReqRespHandler` and `UnsolHandler`, which have the same fields.  A
    handler is known by its address; `none` is `NULL`. -/
structure HandlerSlot where
  id : BitVec 32 := 0
  handler : Option Nat := none
  deriving DecidableEq

/-- `RilClientPrv`. -/
structure RilClientPrv where
  bConnect : Bool := false
  sock : Int := -1
  pipefd : Int × Int := (0, 0)
  pRs : Bool := false
  tokenPool : BitVec 32 := 0
  history : List ReqHistory := List.replicate tokenPoolSize {}
  reqHandlers : List HandlerSlot := List.replicate reqPoolSize {}
  unsolHandlers : List HandlerSlot := List.replicate reqPoolSize {}
  errCb : Option Nat := none
  bDelHandler : Bool := false

/-- `OpenClient_RILD`: zeroed memory, and no socket. -/
def openClientRild : RilClientPrv := {}

/-- `android::Parcel`, as far as the client uses it.  A failed read answers
    `none`; `readInplace` answers the offset of the data in the record. -/
structure ParcelApi where
  Parcel : Type
  empty : Parcel
  writeInt32 : Parcel → BitVec 32 → Parcel
  write : Parcel → Bytes → Parcel
  data : Parcel → Bytes
  setData : Bytes → Parcel
  readInt32 : Parcel → Option (BitVec 32) × Parcel
  readInplace : Parcel → Int → Option Nat × Parcel

/-- What the client calls in its user. -/
inductive Callback where
  | complete (handler : Nat) (reqId : BitVec 32) (data : Option Nat) (len : BitVec 32)
  | unsolicited (handler : Nat) (data : Option Nat) (len : BitVec 32)
  | error (handler : Nat) (code : BitVec 32)

-- ── Connecting ───────────────────────────────────────────────────────────────

/-- The calls the client makes on its descriptors. -/
inductive Syscall where
  | write (fd : Int) (offered : Bytes)
  | read (fd : Int)
  | select (fds : List Int)
  | close (fd : Int)
  deriving DecidableEq

/-- What the system answers while a client connects. -/
structure ConnectOutcome where
  sock : Int
  nonblock : Bool := true
  stream : Bool := true
  pipe : Option (Int × Int) := some (0, 0)
  pipeNonblock : Bool := true
  thread : Bool := true

/-- `Connect_RILD`, `Connect_QRILD` and `Connect_RILD_Second`, which differ in
    the socket's name only. -/
def connectRild (prv : RilClientPrv) (o : ConnectOutcome) :
    RilClientPrv × Err × List Syscall :=
  let prv := { prv with sock := o.sock }
  if o.sock < 0 then (prv, .connect, [])
  else
    let prv := { prv with bConnect := true }
    if o.nonblock = false then (prv, .io, [.close o.sock])
    else
      let prv := { prv with pRs := o.stream }
      match o.pipe with
      | none => (prv, .io, [.close o.sock])
      | some pipefd =>
        let prv := { prv with pipefd := pipefd }
        let closes : List Syscall := [.close o.sock, .close pipefd.1, .close pipefd.2]
        if o.pipeNonblock = false then (prv, .io, closes)
        -- the whole structure is zeroed here
        else if o.thread = false then (openClientRild, .connect, closes)
        else (prv, .success, [])

-- ── Handler tables ───────────────────────────────────────────────────────────

/-- The loop both registration functions start with: the last slot with the
    id, and the first empty slot. -/
def scanSlots (table : List HandlerSlot) (id : BitVec 32) : Option Nat × Option Nat :=
  table.zipIdx.foldl
    (fun found slot =>
      (if slot.1.id = id then some slot.2 else found.1,
       if found.2 = none ∧ slot.1.id = 0 then some slot.2 else found.2))
    (none, none)

/-- The body both registration functions share. -/
def registerHandler (table : List HandlerSlot) (id : BitVec 32) (handler : Option Nat) :
    List HandlerSlot × Err :=
  match handler, scanSlots table id with
  -- unregister
  | none, (some i, _) => (table.set i {}, .success)
  | none, (none, _) => (table, .success)
  -- register
  | some h, (some i, _) => (table.modify i (fun slot => { slot with handler := some h }), .success)
  | some h, (none, some i) => (table.set i { id := id, handler := some h }, .success)
  | some _, (none, none) => (table, .resource)

/-- `RegisterUnsolicitedHandler`. -/
def registerUnsolicitedHandler (prv : RilClientPrv) (id : BitVec 32) (handler : Option Nat) :
    RilClientPrv × Err :=
  let r := registerHandler prv.unsolHandlers id handler
  ({ prv with unsolHandlers := r.1 }, r.2)

/-- `RegisterRequestCompleteHandler`. -/
def registerRequestCompleteHandler (prv : RilClientPrv) (id : BitVec 32)
    (handler : Option Nat) : RilClientPrv × Err :=
  let r := registerHandler prv.reqHandlers id handler
  ({ prv with reqHandlers := r.1 }, r.2)

/-- `FindReqHandler`: the slot of the handler table for the request that the
    token was used for. -/
def findReqHandler (prv : RilClientPrv) (token : BitVec 32) : Option HandlerSlot :=
  prv.history.findSome? (fun h =>
    if h.token = token then prv.reqHandlers.find? (fun slot => slot.id == h.id) else none)

/-- `FindUnsolHandler`. -/
def findUnsolHandler (prv : RilClientPrv) (id : BitVec 32) : Option Nat :=
  (prv.unsolHandlers.find? (fun slot => slot.id == id)).bind HandlerSlot.handler

-- ── Tokens ───────────────────────────────────────────────────────────────────

/-- `AllocateToken`: the token, `0` for none, and the new pool. -/
def allocateToken (pool : BitVec 32) : BitVec 32 × BitVec 32 :=
  if pool = 0xFFFFFFFF#32 then (0, pool)
  else match firstFree pool with
  | some i => (1#32 <<< i, pool ||| (1#32 <<< i))
  | none => (0, pool)

/-- `FreeToken`. -/
def freeToken (pool token : BitVec 32) : BitVec 32 := pool &&& ~~~token

/-- `IsValidToken`. -/
def isValidToken (pool token : BitVec 32) : Bool :=
  if token = 0 then false else pool &&& token = token

/-- `RecordReqHistory`: the first free slot takes the request. -/
def recordReqHistory (history : List ReqHistory) (token id : BitVec 32) :
    List ReqHistory × Err :=
  if history.any (fun h => h.token == 0) then
    (putFirst (fun h => h.token == 0) { token := token, id := id } history, .success)
  else (history, .resource)

/-- `ClearReqHistory`: the first slot with the token is zeroed. -/
def clearReqHistory (history : List ReqHistory) (token : BitVec 32) : List ReqHistory :=
  putFirst (fun h => h.token == token) {} history

-- ── Writing ──────────────────────────────────────────────────────────────────

/-- What one `write` answers. -/
inductive WriteResult where
  | wrote (n : Nat)
  | failed (errno : Nat)

/-- How a `blockingWrite` ended: what it returned, the calls it made, and the
    results that are left for the next write. -/
structure Written where
  ret : Int
  calls : List Syscall
  results : List WriteResult

/-- `blockingWrite` of the bytes that are still to be written.  `none` when the
    results end before the loop does. -/
def blockingWrite (fd : Int) : Bytes → List WriteResult → Option Written
  | [], results => some { ret := 0, calls := [], results := results }
  | _ :: _, [] => none
  | b :: rest, .wrote n :: results =>
      (blockingWrite fd ((b :: rest).drop n) results).map
        (fun r => { r with calls := .write fd (b :: rest) :: r.calls })
  | b :: rest, .failed errno :: results =>
      if errno = eintr then
        (blockingWrite fd (b :: rest) results).map
          (fun r => { r with calls := .write fd (b :: rest) :: r.calls })
      else
        some { ret := -errno, calls := [.write fd (b :: rest), .close fd], results := results }

/-- `htonl`, as the bytes that are sent. -/
def htonl (n : Nat) : Bytes :=
  [UInt8.ofNat (n / 16777216), UInt8.ofNat (n / 65536), UInt8.ofNat (n / 256), UInt8.ofNat n]

/-- The request parcel. -/
def requestParcel (api : ParcelApi) (token : BitVec 32) (data : Bytes) : Bytes :=
  let p := api.writeInt32 api.empty rilRequestOemHookRaw
  let p := api.writeInt32 p token
  let p := api.writeInt32 p (BitVec.ofNat 32 data.length)
  api.data (api.write p data)

/-- How a send ended.  `token` is the token of a request that was written out
    completely. -/
structure SendResult where
  prv : RilClientPrv
  ret : Err
  calls : List Syscall := []
  token : Option (BitVec 32) := none

/-- The token goes back to the pool and its slot is cleared. -/
def releaseToken (prv : RilClientPrv) (token : BitVec 32) : RilClientPrv :=
  { prv with
    tokenPool := freeToken prv.tokenPool token
    history := clearReqHistory prv.history token }

/-- The `error:` exit of `SendOemRequestHookRaw`. -/
def sendError (prv : RilClientPrv) (token : BitVec 32) (ret : Int) (calls : List Syscall) :
    SendResult :=
  let prv := releaseToken prv token
  if ret = -(epipe : Int) ∨ ret = -(ebadfd : Int) then
    { prv := { prv with sock := -1, bConnect := false }, ret := .unknown,
      calls := calls ++ [.close prv.sock] }
  else { prv := prv, ret := .unknown, calls := calls }

/-- The successful exit.  A request whose id has no handler gives its token
    back at once, while the answer is still to come. -/
def sendDone (prv : RilClientPrv) (token : BitVec 32) (calls : List Syscall) : SendResult :=
  match (findReqHandler prv token).bind HandlerSlot.handler with
  | some _ => { prv := prv, ret := .success, calls := calls, token := some token }
  | none => { prv := releaseToken prv token, ret := .success, calls := calls, token := some token }

/-- The two writes of `SendOemRequestHookRaw`, header and parcel.  The second
    is not tried when the first failed. -/
def sendParcel (sock : Int) (parcel : Bytes) (results : List WriteResult) : Option Written :=
  match blockingWrite sock (htonl parcel.length) results with
  | none => none
  | some head =>
      if head.ret < 0 then some head
      else (blockingWrite sock parcel head.results).map
        (fun body => { body with calls := head.calls ++ body.calls })

/-- `SendOemRequestHookRaw`.  `none` when it is still writing as the results
    end. -/
def sendOemRequestHookRaw (api : ParcelApi) (prv : RilClientPrv) (reqId : BitVec 32)
    (data : Bytes) (results : List WriteResult) : Option SendResult :=
  let (token, pool) := allocateToken prv.tokenPool
  let prv := { prv with tokenPool := pool }
  if token = 0 then some { prv := prv, ret := .again }
  else
    let (history, ret) := recordReqHistory prv.history token reqId
    let prv := { prv with history := history }
    if ret ≠ .success then some (sendError prv token 0 [])
    else match sendParcel prv.sock (requestParcel api token data) results with
    | none => none
    | some w =>
        if w.ret < 0 then some (sendError prv token w.ret w.calls)
        else some (sendDone prv token w.calls)

-- ── The request functions ────────────────────────────────────────────────────

/-- What the request functions of the API differ in. -/
structure Call where
  reqId : BitVec 32
  data : Bytes
  /-- the check of the arguments -/
  valid : Bool := true
  /-- the handler registered before sending; `none` when nothing is -/
  registers : Option (Option Nat) := some none
  /-- whether `b_del_handler` is set -/
  delHandler : Bool := false

/-- `isValidSoundType`. -/
def isValidSoundType (type : Nat) : Bool := type ≤ 3

/-- `isValidAudioPath`; the upper bound is a code of the modem, not of the
    enumeration. -/
def isValidAudioPath (path : Nat) : Bool := path ≤ 0x0D

/-- `isValidSoundClockCondition`. -/
def isValidSoundClockCondition (condition : Nat) : Bool := condition ≤ 1

/-- `isValidCallRecCondition`. -/
def isValidCallRecCondition (condition : Nat) : Bool := condition ≤ 1

/-- `isValidMuteCondition`. -/
def isValidMuteCondition (condition : Nat) : Bool := condition ≤ 5

/-- `isValidTwoMicCtrl`. -/
def isValidTwoMicCtrl (device report : Nat) : Bool := device ≤ 1 && report ≤ 1

/-- `ConvertSoundType`. -/
def convertSoundType (type : Nat) : UInt8 :=
  match type with
  | 0 => 0x01
  | 1 => 0x11
  | 2 => 0x31
  | 3 => 0x41
  | _ => 0x01

/-- `ConvertAudioPath`, with the codes of `SAMSUNG_NEXT_GEN_MODEM`. -/
def convertAudioPath (path : Nat) : UInt8 :=
  match path with
  | 0 => 0x01
  | 1 => 0x02
  | 2 => 0x07
  | 3 => 0x04
  | 4 => 0x05
  | 5 => 0x08
  | 6 => 0x09
  | 7 => 0x0A
  | 8 => 0x0B
  | 9 => 0x0C
  | 10 => 0x0D
  | _ => 0x01

/-- `SetCallVolume`. -/
def setCallVolume (type : Nat) (volLevel : Int) : Call :=
  { reqId := 101, valid := isValidSoundType type,
    data := [0x08, 0x03, 0x00, 0x06, convertSoundType type, UInt8.ofInt volLevel] }

/-- `SetCallAudioPath`. -/
def setCallAudioPath (path : Nat) : Call :=
  { reqId := 102, valid := isValidAudioPath path,
    data := [0x08, 0x05, 0x00, 0x06, convertAudioPath path, 0x00] }

/-- `SetCallClockSync`. -/
def setCallClockSync (condition : Nat) : Call :=
  { reqId := 103, valid := isValidSoundClockCondition condition,
    data := [0x08, 0x0A, 0x00, 0x05, UInt8.ofNat condition] }

/-- `SetVideoCallClockSync`. -/
def setVideoCallClockSync (condition : Nat) : Call :=
  { reqId := 107, valid := isValidSoundClockCondition condition,
    data := [0x08, 0x07, 0x00, 0x05, UInt8.ofNat condition] }

/-- `SetCallRecord`. -/
def setCallRecord (condition : Nat) : Call :=
  { reqId := 104, valid := isValidCallRecCondition condition,
    data := [0x08, 0x09, 0x00, 0x05, UInt8.ofNat condition] }

/-- `SetMute`. -/
def setMute (condition : Nat) : Call :=
  { reqId := 105, valid := isValidMuteCondition condition,
    data := [0x08, 0x0B, 0x00, 0x05, UInt8.ofNat condition] }

/-- `GetMute`, the only one with a handler of the caller. -/
def getMute (handler : Option Nat) : Call :=
  { reqId := 106, registers := some handler, delHandler := true,
    data := [0x08, 0x0C, 0x00, 0x04] }

/-- `SetTwoMicControl`. -/
def setTwoMicControl (device report : Nat) : Call :=
  { reqId := 108, valid := isValidTwoMicCtrl device report,
    data := [0x08, 0x0D, 0x00, 0x06, UInt8.ofNat device, UInt8.ofNat report] }

/-- `SetDhaSolution`; `parameter` are the 24 bytes it copies. -/
def setDhaSolution (mode select : Nat) (parameter : Bytes) : Call :=
  { reqId := 109,
    data := [0x08, 0x0E, 0x00, 0x1E, UInt8.ofNat mode, UInt8.ofNat select] ++ parameter.take 24 }

/-- `SetLoopbackTest`. -/
def setLoopbackTest (mode path : Nat) : Call :=
  { reqId := 110, data := [0x08, 0x08, 0x00, 0x06, UInt8.ofNat mode, convertAudioPath path] }

/-- `InvokeOemRequestHookRaw`, which registers nothing. -/
def invokeOemRequestHookRaw (data : Bytes) : Call :=
  { reqId := rilRequestOemHookRaw, data := data, registers := none }

/-- What a request function sets up before it sends. -/
def prepare (prv : RilClientPrv) (call : Call) : RilClientPrv :=
  let prv := if call.delHandler then { prv with bDelHandler := true } else prv
  match call.registers with
  | none => prv
  | some handler => (registerRequestCompleteHandler prv call.reqId handler).1

/-- After a failed send the registration is taken back. -/
def unregisterFailed (call : Call) (r : SendResult) : SendResult :=
  if call.registers.isSome ∧ r.ret ≠ .success then
    { r with prv := (registerRequestCompleteHandler r.prv call.reqId none).1 }
  else r

/-- The body the request functions share. -/
def request (api : ParcelApi) (prv : RilClientPrv) (call : Call)
    (results : List WriteResult) : Option SendResult :=
  if prv.sock < 0 then some { prv := prv, ret := .connect }
  else if call.valid = false then some { prv := prv, ret := .inval }
  else
    (sendOemRequestHookRaw api (prepare prv call) call.reqId call.data results).map
      (unregisterFailed call)

-- ── Receiving ────────────────────────────────────────────────────────────────

/-- `processSolicited` up to the call of the handler: an early return, or the
    result, the token to release, the request id `FindReqHandler` stored, and
    the calls made. -/
inductive Lookup where
  | reject (ret : Err)
  | found (ret : Err) (token : BitVec 32) (reqId : Option (BitVec 32)) (calls : List Callback)

/-- What `processSolicited` reads and calls once the token is accepted. -/
def answerSolicited (api : ParcelApi) (prv : RilClientPrv) (token : BitVec 32)
    (p : api.Parcel) : Lookup :=
  match api.readInt32 p with
  | (none, _) => .found .io token none []
  | (some err, p) =>
    if err ≠ Err.success.code then
      .found .success token none (prv.errCb.toList.map (Callback.error · err))
    else
      let (len, p) :=
        match api.readInt32 p with
        | (some len, p) => (len, p)
        -- no length field
        | (none, p) => (0, p)
      let data := if len = 0 then none else (api.readInplace p len.toInt).1
      match findReqHandler prv token with
      | some { id := id, handler := some h } =>
          .found .success token (some id) [.complete h id data len]
      | _ => .found .success token none []

/-- The first part of `processSolicited`. -/
def lookupSolicited (api : ParcelApi) (prv : RilClientPrv) (p : api.Parcel) : Lookup :=
  match api.readInt32 p with
  | (none, _) => .reject .io
  | (some token, p) =>
    if isValidToken prv.tokenPool token = false then .reject .inval
    else answerSolicited api prv token p

/-- The rest of `processSolicited`, after the handler has returned. -/
def finishSolicited (prv : RilClientPrv) (token : BitVec 32) (reqId : Option (BitVec 32)) :
    RilClientPrv :=
  let prv :=
    match reqId with
    | none => prv
    | some id =>
        if prv.bDelHandler then
          (registerRequestCompleteHandler { prv with bDelHandler := false } id none).1
        else prv
  releaseToken prv token

/-- `processSolicited`. -/
def processSolicited (api : ParcelApi) (prv : RilClientPrv) (p : api.Parcel) :
    RilClientPrv × Err × List Callback :=
  match lookupSolicited api prv p with
  | .reject ret => (prv, ret, [])
  | .found ret token reqId calls => (finishSolicited prv token reqId, ret, calls)

/-- `processUnsolicited`. -/
def processUnsolicited (api : ParcelApi) (prv : RilClientPrv) (p : api.Parcel) :
    Err × List Callback :=
  match api.readInt32 p with
  | (none, _) => (.io, [])
  | (some respId, p) =>
    let (len, p) :=
      match api.readInt32 p with
      | (some len, p) => (len, p)
      | (none, p) => (0, p)
    let data := if len = 0 then none else (api.readInplace p len.toInt).1
    (.success, (findUnsolHandler prv respId).toList.map (Callback.unsolicited · data len))

/-- A failed `processSolicited` is reported to the error callback. -/
def reportErr (prv : RilClientPrv) (ret : Err) : List Callback :=
  if ret = .success then [] else prv.errCb.toList.map (Callback.error · ret.code)

/-- `processRxBuffer`. -/
def processRxBuffer (api : ParcelApi) (prv : RilClientPrv) (buffer : Bytes) :
    RilClientPrv × Err × List Callback :=
  match api.readInt32 (api.setData buffer) with
  | (none, _) => (prv, .io, [])
  | (some responseType, p) =>
    if responseType = responseUnsolicited then (prv, processUnsolicited api prv p)
    else if responseType = responseSolicited then
      let r := processSolicited api prv p
      (r.1, r.2.1, r.2.2 ++ reportErr r.1 r.2.1)
    else (prv, .inval, [])

-- ── Steps of a client ────────────────────────────────────────────────────────

/-- What can happen to a client: its user connects, sends or registers, the
    daemon delivers a record. -/
inductive Act where
  | connect (outcome : ConnectOutcome)
  | send (reqId : BitVec 32) (data : Bytes) (results : List WriteResult)
  | request (call : Call) (results : List WriteResult)
  | register (id : BitVec 32) (handler : Option Nat)
  | receive (buffer : Bytes)

/-- One step. -/
def step (api : ParcelApi) (prv : RilClientPrv) : Act → Option RilClientPrv
  | .connect outcome => some (connectRild prv outcome).1
  | .send reqId data results =>
      (sendOemRequestHookRaw api prv reqId data results).map SendResult.prv
  | .request call results => (request api prv call results).map SendResult.prv
  | .register id handler => some (registerRequestCompleteHandler prv id handler).1
  | .receive buffer => some (processRxBuffer api prv buffer).1

-- ── Accounting ───────────────────────────────────────────────────────────────

/-- A slot in use. -/
def ReqHistory.live (h : ReqHistory) : Bool := h.token != 0

/-- The slots in use. -/
def RilClientPrv.outstanding (prv : RilClientPrv) : List ReqHistory :=
  prv.history.filter ReqHistory.live

/-- The nonzero tokens of the history. -/
def RilClientPrv.tokens (prv : RilClientPrv) : List (BitVec 32) :=
  prv.outstanding.map ReqHistory.token

/-- **TOKEN ACCOUNTING**: the recorded tokens are distinct single bits and the
    pool is their union; so a free token means a free slot, and a full pool
    means 32 requests. -/
structure Accounted (prv : RilClientPrv) : Prop where
  single : ∀ t ∈ prv.tokens, Single t
  distinct : prv.tokens.Nodup
  pool : prv.tokenPool = union prv.tokens
  free_slot : prv.tokenPool ≠ BitVec.allOnes 32 → ∃ h ∈ prv.history, h.token = 0
  full : prv.tokenPool = BitVec.allOnes 32 → prv.outstanding.length = 32

/-- The inductive form: the table has its 32 slots and the pool tracks them. -/
structure Accounting (prv : RilClientPrv) : Prop where
  size : prv.history.length = tokenPoolSize
  tracks : Tracks prv.tokenPool prv.tokens

theorem Accounting.openClientRild : Accounting openClientRild where
  size := rfl
  tracks := Tracks.empty

section Tokens

variable {prv : RilClientPrv} {api : ParcelApi}

/-- A live slot has a token. -/
theorem live_iff {h : ReqHistory} : h.live = true ↔ h.token ≠ 0 := bne_iff_ne

/-- A free bit of the pool leaves a free slot. -/
theorem Accounting.free_slot (hacc : Accounting prv)
    (hpool : prv.tokenPool ≠ BitVec.allOnes 32) :
    ∃ h ∈ prv.history, (h.token == 0) = true := by
  refine Decidable.byContradiction fun hno => hpool ?_
  have hall : prv.outstanding = prv.history := by
    refine List.filter_eq_self.mpr fun h hh => live_iff.mpr fun h0 => ?_
    exact hno ⟨h, hh, beq_iff_eq.mpr h0⟩
  refine hacc.tracks.length_eq_width_iff.mp ?_
  rw [RilClientPrv.tokens, List.length_map, hall]
  exact hacc.size

theorem Accounting.accounted (hacc : Accounting prv) : Accounted prv where
  single := hacc.tracks.single
  distinct := hacc.tracks.nodup
  pool := hacc.tracks.eq_union
  free_slot := fun hpool =>
    (hacc.free_slot hpool).imp fun _ h => ⟨h.1, eq_of_beq h.2⟩
  full := fun hpool => by
    rw [← hacc.tracks.length_eq_width_iff.mpr hpool, RilClientPrv.tokens, List.length_map]

/-- `AllocateToken` answers zero on a full pool and the lowest free bit
    otherwise. -/
theorem allocateToken_cases (pool : BitVec 32) :
    (pool = BitVec.allOnes 32 ∧ allocateToken pool = (0, pool))
      ∨ ∃ i, i < 32 ∧ pool.getLsbD i = false
        ∧ allocateToken pool = (BitVec.twoPow 32 i, pool ||| BitVec.twoPow 32 i) := by
  rw [allocateToken]
  by_cases hfull : pool = 0xFFFFFFFF#32
  · rw [if_pos hfull]
    exact Or.inl ⟨hfull, rfl⟩
  · rw [if_neg hfull]
    cases hfree : firstFree pool with
    | none => exact absurd (firstFree_eq_none hfree) hfull
    | some i =>
        obtain ⟨hi, hb⟩ := firstFree_eq_some hfree
        exact Or.inr ⟨i, hi, hb, by rw [BitVec.twoPow_eq]⟩

/-- The state after a token was taken and its request recorded. -/
def recorded (prv : RilClientPrv) (token reqId : BitVec 32) : RilClientPrv :=
  { prv with
    tokenPool := prv.tokenPool ||| token
    history := (recordReqHistory prv.history token reqId).1 }

/-- Recording fills a free slot with the request. -/
theorem outstanding_recorded (token reqId : BitVec 32) (htok : token ≠ 0)
    (hfree : ∃ h ∈ prv.history, (h.token == 0) = true) :
    (recorded prv token reqId).outstanding.Perm
      ({ token := token, id := reqId } :: prv.outstanding) := by
  have hany : prv.history.any (fun h => h.token == 0) = true := List.any_eq_true.mpr hfree
  show ((recordReqHistory prv.history token reqId).1.filter ReqHistory.live).Perm _
  rw [recordReqHistory, if_pos hany]
  refine filter_putFirst_fill ?_ (live_iff.mpr htok) hfree
  intro h h0
  rw [ReqHistory.live, bne, h0]
  rfl

/-- Clearing a token takes its slot out of use and leaves the others. -/
theorem outstanding_releaseToken (token : BitVec 32) (htok : token ≠ 0) :
    (releaseToken prv token).outstanding
      = prv.outstanding.eraseP (fun h => h.token == token) := by
  refine filter_putFirst_clear prv.history ?_ rfl
  intro h heq
  exact live_iff.mpr (by rw [eq_of_beq heq]; exact htok)

theorem tokens_releaseToken (token : BitVec 32) (htok : token ≠ 0) :
    (releaseToken prv token).tokens = prv.tokens.erase token := by
  rw [RilClientPrv.tokens, outstanding_releaseToken token htok, RilClientPrv.tokens,
    List.erase_eq_eraseP', List.eraseP_map]
  rfl

/-- Taking a token. -/
theorem Accounting.recorded (hacc : Accounting prv) (reqId : BitVec 32) {i : Nat} (hi : i < 32)
    (hb : prv.tokenPool.getLsbD i = false) :
    Accounting (recorded prv (BitVec.twoPow 32 i) reqId)
      ∧ (recordReqHistory prv.history (BitVec.twoPow 32 i) reqId).2 = .success := by
  have hpool : prv.tokenPool ≠ BitVec.allOnes 32 := by
    intro hfull
    rw [hfull, BitVec.getLsbD_allOnes, decide_eq_true hi] at hb
    exact nomatch hb
  have hfree := hacc.free_slot hpool
  refine ⟨⟨?_, ?_⟩, ?_⟩
  · show (recordReqHistory _ _ _).1.length = _
    rw [recordReqHistory, if_pos (List.any_eq_true.mpr hfree), length_putFirst, hacc.size]
  · exact (hacc.tracks.cons hi hb).perm
      ((outstanding_recorded _ reqId (twoPow_ne_zero hi) hfree).map ReqHistory.token)
  · rw [recordReqHistory, if_pos (List.any_eq_true.mpr hfree)]

/-- Giving a single-bit token back, outstanding or not. -/
theorem Accounting.releaseToken (hacc : Accounting prv) {token : BitVec 32}
    (htok : Single token) : Accounting (releaseToken prv token) where
  size := by
    show (putFirst _ _ prv.history).length = _
    rw [length_putFirst, hacc.size]
  tracks := by
    rw [tokens_releaseToken token htok.ne_zero]
    exact hacc.tracks.erase htok

/-- Accounting only looks at the pool and the history. -/
theorem Accounting.of_eq {prv' : RilClientPrv} (hacc : Accounting prv)
    (hpool : prv'.tokenPool = prv.tokenPool) (hhist : prv'.history = prv.history) :
    Accounting prv' where
  size := hhist ▸ hacc.size
  tracks := by
    rw [RilClientPrv.tokens, RilClientPrv.outstanding, hpool, hhist]
    exact hacc.tracks

-- ── What a send does ─────────────────────────────────────────────────────────

/-- **THE OUTCOMES OF A SEND** from an accounted state: no token is left, the
    writing failed, or the request is out. -/
theorem send_cases (hacc : Accounting prv) {reqId : BitVec 32} {data : Bytes}
    {results : List WriteResult} {r : SendResult}
    (h : sendOemRequestHookRaw api prv reqId data results = some r) :
    r = { prv := prv, ret := .again }
      ∨ ∃ i w, i < 32 ∧ prv.tokenPool.getLsbD i = false
        ∧ (allocateToken prv.tokenPool).1 = BitVec.twoPow 32 i
        ∧ sendParcel prv.sock (requestParcel api (BitVec.twoPow 32 i) data) results = some w
        ∧ ((w.ret < 0
              ∧ r = sendError (recorded prv (BitVec.twoPow 32 i) reqId) (BitVec.twoPow 32 i)
                w.ret w.calls)
          ∨ (¬ w.ret < 0
              ∧ r = sendDone (recorded prv (BitVec.twoPow 32 i) reqId) (BitVec.twoPow 32 i)
                w.calls)) := by
  rw [sendOemRequestHookRaw] at h
  rcases allocateToken_cases prv.tokenPool with ⟨-, halloc⟩ | ⟨i, hi, hb, halloc⟩
  · rw [halloc] at h
    dsimp only at h
    rw [if_pos rfl] at h
    exact Or.inl (Option.some.inj h).symm
  · obtain ⟨-, hret⟩ := hacc.recorded reqId hi hb
    have hne : BitVec.twoPow 32 i ≠ (0 : BitVec 32) := twoPow_ne_zero hi
    rw [halloc] at h
    dsimp only at h
    rw [if_neg hne, if_neg (by rw [hret]; exact fun h => h rfl)] at h
    refine Or.inr ⟨i, ?_⟩
    cases hw : sendParcel prv.sock (requestParcel api (BitVec.twoPow 32 i) data) results with
    | none =>
        rw [hw] at h
        exact nomatch h
    | some w =>
        rw [hw] at h
        dsimp only at h
        refine ⟨w, hi, hb, by rw [halloc], rfl, ?_⟩
        by_cases hneg : w.ret < 0
        · rw [if_pos hneg] at h
          exact Or.inl ⟨hneg, (Option.some.inj h).symm⟩
        · rw [if_neg hneg] at h
          exact Or.inr ⟨hneg, (Option.some.inj h).symm⟩

/-- A request that is out keeps its token exactly when its id has a handler. -/
theorem sendDone_prv (prv : RilClientPrv) (token : BitVec 32) (calls : List Syscall) :
    (((findReqHandler prv token).bind HandlerSlot.handler).isSome = true
        ∧ (sendDone prv token calls).prv = prv)
      ∨ (((findReqHandler prv token).bind HandlerSlot.handler).isSome = false
        ∧ (sendDone prv token calls).prv = releaseToken prv token) := by
  rw [sendDone]
  cases (findReqHandler prv token).bind HandlerSlot.handler with
  | none => exact Or.inr ⟨rfl, rfl⟩
  | some handler => exact Or.inl ⟨rfl, rfl⟩

theorem Accounting.sendError (hacc : Accounting prv) {token : BitVec 32} (htok : Single token)
    (ret : Int) (calls : List Syscall) :
    Accounting (sendError prv token ret calls).prv := by
  have hrel := hacc.releaseToken htok
  unfold RilClient.sendError
  dsimp only
  split
  · exact hrel.of_eq rfl rfl
  · exact hrel

/-- **EVERY SEND KEEPS THE ACCOUNTS**, whatever the writes answer. -/
theorem Accounting.send (hacc : Accounting prv) {reqId : BitVec 32} {data : Bytes}
    {results : List WriteResult} {r : SendResult}
    (h : sendOemRequestHookRaw api prv reqId data results = some r) : Accounting r.prv := by
  rcases send_cases hacc h with rfl | ⟨i, w, hi, hb, -, -, hout⟩
  · exact hacc
  · have hrec := (hacc.recorded reqId hi hb).1
    have hsingle : Single (BitVec.twoPow 32 i) := ⟨i, hi, rfl⟩
    rcases hout with ⟨-, rfl⟩ | ⟨-, rfl⟩
    · exact hrec.sendError hsingle w.ret w.calls
    · rcases sendDone_prv (RilClient.recorded prv (BitVec.twoPow 32 i) reqId)
        (BitVec.twoPow 32 i) w.calls with ⟨-, hprv⟩ | ⟨-, hprv⟩
      · rw [hprv]
        exact hrec
      · rw [hprv]
        exact hrec.releaseToken hsingle

/-- Two clients with the same descriptors and connection flag. -/
structure SameConn (a b : RilClientPrv) : Prop where
  sock : a.sock = b.sock
  bConnect : a.bConnect = b.bConnect
  pipefd : a.pipefd = b.pipefd

theorem SameConn.refl (a : RilClientPrv) : SameConn a a := ⟨rfl, rfl, rfl⟩

theorem SameConn.trans {a b c : RilClientPrv} (h : SameConn a b) (h' : SameConn b c) :
    SameConn a c :=
  ⟨h.sock.trans h'.sock, h.bConnect.trans h'.bConnect, h.pipefd.trans h'.pipefd⟩

/-- Setting up a request leaves pool, history and connection. -/
theorem prepare_eq (prv : RilClientPrv) (call : Call) :
    (prepare prv call).tokenPool = prv.tokenPool ∧ (prepare prv call).history = prv.history
      ∧ SameConn (prepare prv call) prv := by
  unfold prepare
  dsimp only
  split <;> split <;> exact ⟨rfl, rfl, rfl, rfl, rfl⟩

/-- Taking a registration back changes the handler table only. -/
theorem unregisterFailed_eq (call : Call) (r : SendResult) :
    (unregisterFailed call r).prv.tokenPool = r.prv.tokenPool
      ∧ (unregisterFailed call r).prv.history = r.prv.history
      ∧ SameConn (unregisterFailed call r).prv r.prv
      ∧ (unregisterFailed call r).token = r.token
      ∧ (unregisterFailed call r).calls = r.calls := by
  rw [unregisterFailed]
  split <;> exact ⟨rfl, rfl, ⟨rfl, rfl, rfl⟩, rfl, rfl⟩

/-- **THE OUTCOMES OF A REQUEST**: it is refused before anything happens, or it
    is a send from the prepared state. -/
theorem request_cases {call : Call} {results : List WriteResult} {r : SendResult}
    (h : request api prv call results = some r) :
    (r.prv = prv ∧ r.token = none ∧ r.calls = [])
      ∨ ∃ r', ¬ prv.sock < 0
        ∧ sendOemRequestHookRaw api (prepare prv call) call.reqId call.data results = some r'
        ∧ r = unregisterFailed call r' := by
  rw [request] at h
  split at h
  · rw [← Option.some.inj h]
    exact Or.inl ⟨rfl, rfl, rfl⟩
  rename_i hsock
  split at h
  · rw [← Option.some.inj h]
    exact Or.inl ⟨rfl, rfl, rfl⟩
  obtain ⟨r', hr', heq⟩ := Option.map_eq_some_iff.mp h
  exact Or.inr ⟨r', hsock, hr', heq.symm⟩

/-- The request functions only add registrations around a send. -/
theorem Accounting.request (hacc : Accounting prv) {call : Call}
    {results : List WriteResult} {r : SendResult}
    (h : request api prv call results = some r) : Accounting r.prv := by
  rcases request_cases h with ⟨hprv, -, -⟩ | ⟨r', -, hsend, rfl⟩
  · rw [hprv]
    exact hacc
  · have hprep := hacc.of_eq (prepare_eq prv call).1 (prepare_eq prv call).2.1
    exact (hprep.send hsend).of_eq (unregisterFailed_eq call r').1
      (unregisterFailed_eq call r').2.1

/-- Connecting leaves the accounts alone or starts them afresh. -/
theorem Accounting.connect (hacc : Accounting prv) (o : ConnectOutcome) :
    Accounting (connectRild prv o).1 := by
  rw [connectRild]
  dsimp only
  split
  · exact hacc.of_eq rfl rfl
  split
  · exact hacc.of_eq rfl rfl
  split
  · exact hacc.of_eq rfl rfl
  split
  · exact hacc.of_eq rfl rfl
  split
  · exact Accounting.openClientRild
  · exact hacc.of_eq rfl rfl

-- ── What a record does ───────────────────────────────────────────────────────

/-- The token of a solicited record. -/
def solicitedToken (api : ParcelApi) (buffer : Bytes) : Option (BitVec 32) :=
  match api.readInt32 (api.setData buffer) with
  | (some responseType, p) =>
      if responseType = responseSolicited then (api.readInt32 p).1 else none
  | (none, _) => none

/-- Once the token is accepted, it is the token that is released. -/
theorem answerSolicited_eq (prv : RilClientPrv) (token : BitVec 32) (p : api.Parcel) :
    ∃ ret reqId calls, answerSolicited api prv token p = .found ret token reqId calls := by
  rw [answerSolicited]
  split
  · exact ⟨_, _, _, rfl⟩
  · split
    · exact ⟨_, _, _, rfl⟩
    · dsimp only
      split
      · exact ⟨_, _, _, rfl⟩
      · exact ⟨_, _, _, rfl⟩

/-- `processSolicited` drops the record or releases the valid token it
    carries. -/
theorem processSolicited_cases (prv : RilClientPrv) (p : api.Parcel) :
    ((processSolicited api prv p).1 = prv
        ∧ ∀ token, (api.readInt32 p).1 = some token →
          isValidToken prv.tokenPool token = false)
      ∨ ∃ token reqId, (api.readInt32 p).1 = some token
        ∧ isValidToken prv.tokenPool token = true
        ∧ (processSolicited api prv p).1 = finishSolicited prv token reqId := by
  rw [processSolicited, lookupSolicited]
  rcases api.readInt32 p with ⟨_ | token, p'⟩
  · exact Or.inl ⟨rfl, fun _ h => (nomatch h)⟩
  dsimp only
  cases hval : isValidToken prv.tokenPool token with
  | false =>
      refine Or.inl ⟨rfl, fun t ht => ?_⟩
      rw [← Option.some.inj ht]
      exact hval
  | true =>
      obtain ⟨ret, reqId, calls, hans⟩ := @answerSolicited_eq api prv token p'
      rw [if_neg (by decide), hans]
      exact Or.inr ⟨token, reqId, rfl, hval, rfl⟩

/-- **THE OUTCOMES OF A RECORD**: it is dropped, or it releases the valid token
    it carries. -/
theorem processRxBuffer_cases (api : ParcelApi) (prv : RilClientPrv) (buffer : Bytes) :
    ((processRxBuffer api prv buffer).1 = prv
        ∧ ∀ token, solicitedToken api buffer = some token →
          isValidToken prv.tokenPool token = false)
      ∨ ∃ token reqId, solicitedToken api buffer = some token
        ∧ isValidToken prv.tokenPool token = true
        ∧ (processRxBuffer api prv buffer).1 = finishSolicited prv token reqId := by
  rw [processRxBuffer, solicitedToken]
  rcases api.readInt32 (api.setData buffer) with ⟨_ | responseType, p⟩
  · exact Or.inl ⟨rfl, fun _ h => (nomatch h)⟩
  dsimp only
  by_cases hsol : responseType = responseSolicited
  · have hun : responseType ≠ responseUnsolicited := by
      rw [hsol]
      decide
    rw [if_neg hun, if_pos hsol, if_pos hsol]
    exact processSolicited_cases prv p
  · rw [if_neg hsol, if_neg hsol]
    refine Or.inl ⟨?_, fun _ h => (nomatch h)⟩
    split <;> rfl

/-- Finishing a record is releasing its token, as far as the accounts see. -/
theorem finishSolicited_accounts (prv : RilClientPrv) (token : BitVec 32)
    (reqId : Option (BitVec 32)) :
    (finishSolicited prv token reqId).tokenPool = (releaseToken prv token).tokenPool
      ∧ (finishSolicited prv token reqId).history = (releaseToken prv token).history := by
  unfold finishSolicited
  cases reqId with
  | none => exact ⟨rfl, rfl⟩
  | some id =>
      dsimp only
      split
      · exact ⟨rfl, rfl⟩
      · exact ⟨rfl, rfl⟩

theorem Accounting.finishSolicited (hacc : Accounting prv) {token : BitVec 32}
    (htok : Single token) (reqId : Option (BitVec 32)) :
    Accounting (finishSolicited prv token reqId) :=
  (hacc.releaseToken htok).of_eq (finishSolicited_accounts prv token reqId).1
    (finishSolicited_accounts prv token reqId).2

/-- What `IsValidToken` lets through is a nonempty part of the pool. -/
theorem isValidToken_iff {pool token : BitVec 32} :
    isValidToken pool token = true ↔ token ≠ 0 ∧ pool &&& token = token := by
  rw [isValidToken]
  by_cases h0 : token = 0
  · rw [if_pos h0]
    exact ⟨fun h => (nomatch h), fun h => absurd h0 h.1⟩
  · rw [if_neg h0, decide_eq_true_iff]
    exact ⟨fun h => ⟨h0, h⟩, fun h => h.2⟩

/-- A token with several bits is in no slot, so releasing it changes the pool
    and leaves the table. -/
theorem Accounting.release_multi (hacc : Accounting prv) {token : BitVec 32}
    (hval : isValidToken prv.tokenPool token = true) (hmulti : ¬ Single token) :
    ¬ Accounted (RilClient.releaseToken prv token) := by
  obtain ⟨h0, hsub⟩ := isValidToken_iff.mp hval
  have hnone : token ∉ prv.tokens := fun hmem => hmulti (hacc.tracks.single token hmem)
  intro hbad
  refine hacc.tracks.not_clear h0 hsub ?_
  have htoks := @tokens_releaseToken prv token h0
  rw [List.erase_of_not_mem hnone] at htoks
  have hpool := hbad.pool
  rw [htoks] at hpool
  exact ⟨hacc.tracks.single, hacc.tracks.nodup, hpool⟩

/-- The accounts only depend on the pool and the history. -/
theorem Accounted.of_eq {prv' : RilClientPrv} (hacc : Accounted prv)
    (hpool : prv'.tokenPool = prv.tokenPool) (hhist : prv'.history = prv.history) :
    Accounted prv' := by
  have hout : prv'.outstanding = prv.outstanding := by
    rw [RilClientPrv.outstanding, hhist]
    rfl
  have htok : prv'.tokens = prv.tokens := by
    rw [RilClientPrv.tokens, hout]
    rfl
  refine ⟨?_, ?_, ?_, ?_, ?_⟩
  · rw [htok]
    exact hacc.single
  · rw [htok]
    exact hacc.distinct
  · rw [htok, hpool]
    exact hacc.pool
  · rw [hpool, hhist]
    exact hacc.free_slot
  · rw [hpool, hout]
    exact hacc.full

-- ── Whole runs ───────────────────────────────────────────────────────────────

/-- The condition on a step: a record that carries a nonempty part of the pool
    as its token carries a single bit. -/
def SingleBitRecord (api : ParcelApi) (prv : RilClientPrv) : Act → Prop
  | .receive buffer => ∀ token, solicitedToken api buffer = some token →
      isValidToken prv.tokenPool token = true → Single token
  | _ => True

/-- Under the condition one step keeps the accounts. -/
theorem Accounting.step {act : Act} {prv' : RilClientPrv} (hacc : Accounting prv)
    (hok : SingleBitRecord api prv act) (h : step api prv act = some prv') :
    Accounting prv' := by
  cases act with
  | connect outcome =>
      rw [← Option.some.inj h]
      exact hacc.connect outcome
  | send reqId data results =>
      obtain ⟨r, hr, rfl⟩ := Option.map_eq_some_iff.mp h
      exact hacc.send hr
  | request call results =>
      obtain ⟨r, hr, rfl⟩ := Option.map_eq_some_iff.mp h
      exact hacc.request hr
  | register id handler =>
      rw [← Option.some.inj h]
      exact hacc.of_eq rfl rfl
  | receive buffer =>
      rw [← Option.some.inj h]
      rcases processRxBuffer_cases api prv buffer with ⟨hsame, -⟩ | ⟨token, reqId, htok, hval, hfin⟩
      · rw [hsame]
        exact hacc
      · rw [hfin]
        exact hacc.finishSolicited (hok token htok hval) reqId

/-- A record outside the condition breaks the accounts. -/
theorem Accounting.step_break {act : Act} {prv' : RilClientPrv} (hacc : Accounting prv)
    (h : RilClient.step api prv act = some prv') (hstill : Accounted prv') :
    SingleBitRecord api prv act := by
  cases act with
  | connect outcome => trivial
  | send reqId data results => trivial
  | request call results => trivial
  | register id handler => trivial
  | receive buffer =>
      intro token htok hval
      rw [← Option.some.inj h] at hstill
      rcases processRxBuffer_cases api prv buffer with ⟨-, hinv⟩ | ⟨token', reqId, htok', -, hfin⟩
      · rw [hinv token htok] at hval
        exact nomatch hval
      · obtain rfl : token = token' := Option.some.inj (htok.symm.trans htok')
        refine Classical.byContradiction fun hmulti => hacc.release_multi hval hmulti ?_
        rw [hfin] at hstill
        exact hstill.of_eq (finishSolicited_accounts prv token reqId).1.symm
          (finishSolicited_accounts prv token reqId).2.symm

end Tokens

/-- **TOKENS STAY ACCOUNTED FOR** along a run exactly when no record of the run
    carries several outstanding bits as one token. -/
theorem accounted_iff_singleBitRecords (api : ParcelApi) (acts : List Act) :
    Run.Always (step api) Accounted openClientRild acts
      ↔ Run.StepsMeet (step api) (SingleBitRecord api) openClientRild acts :=
  Run.always_iff_stepsMeet (fun _ (h : Accounting _) => h.accounted)
    (fun _ _ _ hacc hok h => hacc.step hok h)
    (fun _ _ _ hacc h hstill => hacc.step_break h hstill)
    acts Accounting.openClientRild

/-- Parcels as a byte string with a read position: words are little-endian and
    data is padded to four bytes. -/
def bytesParcel : ParcelApi where
  Parcel := Bytes × Nat
  empty := ([], 0)
  writeInt32 p x := (p.1 ++ le32 (UInt32.ofBitVec x), p.2)
  write p b := (p.1 ++ b ++ zeros (padLen 4 b.length), p.2)
  data p := p.1
  setData b := (b, 0)
  readInt32 p :=
    if p.2 + 4 ≤ p.1.length then (some (le32At p.1 p.2).toBitVec, (p.1, p.2 + 4)) else (none, p)
  readInplace p len :=
    if 0 ≤ len ∧ p.2 + roundUp 4 len.toNat ≤ p.1.length then
      (some p.2, (p.1, p.2 + roundUp 4 len.toNat))
    else (none, p)

/-- An answer record: the type, the token, and no error. -/
def answerRecord (token : UInt32) : Bytes := le32 0 ++ le32 token ++ le32 0

/-- Two mute queries are out with the tokens 1 and 2, and a record with token 3
    arrives: the pool is emptied while both requests stay recorded. -/
theorem accounted_fails_multiBit :
    ∃ prv, Run.run (step bytesParcel) openClientRild
        [.connect { sock := 5, pipe := some (6, 7) },
         .request (getMute (some 1)) [.wrote 4, .wrote 16],
         .request (getMute (some 1)) [.wrote 4, .wrote 16],
         .receive (answerRecord 3)] = some prv
      ∧ prv.tokens = [1, 2] ∧ prv.tokenPool = 0 ∧ ¬ Accounted prv := by
  have hrun : (Run.run (step bytesParcel) openClientRild
        [.connect { sock := 5, pipe := some (6, 7) },
         .request (getMute (some 1)) [.wrote 4, .wrote 16],
         .request (getMute (some 1)) [.wrote 4, .wrote 16],
         .receive (answerRecord 3)]).map (fun prv => (prv.tokens, prv.tokenPool))
      = some ([1, 2], 0) := by
    decide +kernel
  obtain ⟨prv, hprv, heq⟩ := Option.map_eq_some_iff.mp hrun
  obtain ⟨htok, hpool⟩ := Prod.mk.inj heq
  refine ⟨prv, hprv, htok, hpool, ?_⟩
  intro hacc
  have := hacc.pool
  rw [htok, hpool] at this
  exact absurd this (by decide)

end RilClient

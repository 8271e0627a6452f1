import Universal7580.OwnedSlotsProofs
import Universal7580.RilRadioProofs

/-! # The memory of the requests (`ril_service.cpp`)

    A method of `RadioImpl` copies the strings of its arguments for the vendor RIL
    and frees the copies after `onRequest`.  When it gives up halfway, at an
    allocation that fails, a string that does not fit or an argument that is
    refused, it frees what it has so far: each place where it can give up has a
    list of its own.

    Here a method is modelled with these lists.  `freed_once`: whatever fails,
    every block is freed exactly once, no element of an array is looked at after
    the array is freed, and the vendor RIL sees only blocks that are there.  The
    exception is a string that turns out longer than its `size()`: its copy is
    lost, unless it is for `setDataProfile`.  `blocks_accounted` is the same for
    everything the service is asked for, one request after the other. -/

namespace RilRequestHeap

open Lifetime OwnedSlots RilRadio

-- ── Slots ─────────────────────────────────────────────────────────────────

/-- The strings of a data profile. -/
inductive ProfileMember where
  | apn | protocol | roamingProtocol | user | password | mvnoMatchData
  deriving DecidableEq

/-- Where the methods keep pointers: variables, members of structures on the
    stack, and elements of arrays. -/
inductive Slot where
  | pString | pInts | number | data | address | uusData | path | pin2 | aidPtr | pdu | smsc
  | apn | protocol | roamingProtocol | username | password | mvnoMatchData
  | value | authData | aid
  | allowedCarriers | excludedCarriers
  | pStrings | pStringsAt (i : Nat)
  | dataProfiles | dataProfilePtrs | dataProfilesAt (j : Nat) (member : ProfileMember)
  deriving DecidableEq

/-- The array that an element is in. -/
def home : Slot → Option Slot
  | .pStringsAt _ => some .pStrings
  | .dataProfilesAt _ _ => some .dataProfiles
  | _ => none

def Slot.isArray : Slot → Bool
  | .pStrings | .dataProfiles => true
  | _ => false

theorem home_ne {k : Slot} (hk : k.isArray = false) (k' : Slot) : home k' ≠ some k := by
  rintro hhome
  cases k' <;> cases hhome <;> cases hk

-- ── Methods ───────────────────────────────────────────────────────────────

/-- What a method does on the way to `onRequest`: it sets a member, allocates an
    array, copies a string, or checks an argument.  `onFail` is what it frees when
    it gives up there. -/
inductive Stmt where
  | set (v : Value)
  | calloc (array : Slot) (onFail : List Slot)
  | copy (dest : Slot) (src : HidlString) (allowEmpty : Bool) (onFail : List Slot)
  | require (ok : Bool) (err : Int) (onFail : List Slot)

/-- `cleanup` is what a method frees after `onRequest`. -/
structure Script where
  stmts : List Stmt
  cleanup : List Slot := []

/-- The member that a statement builds. -/
def Stmt.field : Stmt → Field
  | .set (.int n) => .int n
  | .set (.str s) => .str s
  | .set (.bytes b) => .bytes b
  | .calloc _ _ => .calloc
  | .copy _ src allowEmpty _ => .copy src allowEmpty
  | .require ok err _ => .require ok err

/-- The slot that a statement fills. -/
def Stmt.slot : Stmt → Option Slot
  | .calloc array _ => some array
  | .copy dest _ _ _ => some dest
  | _ => none

/-- One more member in front. -/
def withValue (v : Value) (out : Outcome × Mem Slot) : Outcome × Mem Slot :=
  (out.1.cons v, out.2)

/-- The way to `onRequest`; `heap n` says whether the `n`-th `calloc` succeeds.
    The case of `copy` is `copyHidlStringToRil`. -/
def build (heap : Nat → Bool) : Nat → Mem Slot → List Stmt → Outcome × Mem Slot
  | _, m, [] => (.ready [], m)
  | n, m, .set v :: rest => withValue v (build heap n m rest)
  | n, m, .calloc array onFail :: rest =>
      if heap n then build heap (n + 1) (m.calloc home array) rest
      else (.refused rilENoMemory, (m.put home array none).freeAll home onFail)
  | n, m, .copy dest src allowEmpty onFail :: rest =>
      if src.size = 0 ∧ !allowEmpty then
        withValue (.str none) (build heap n (m.put home dest none) rest)
      else if !heap n then (.refused rilENoMemory, (m.put home dest none).freeAll home onFail)
      -- the copy is cut off, and stays where it is
      else if src.cStr.length ≥ src.size + 1 then
        (.dropped, (m.calloc home dest).freeAll home onFail)
      else withValue (.str (some src.cStr)) (build heap (n + 1) (m.calloc home dest) rest)
  | n, m, .require ok err onFail :: rest =>
      if ok then build heap n m rest else (.refused err, m.freeAll home onFail)

/-- A method, its request added, on a heap with the blocks of others.  The vendor
    RIL reads whatever the method has built. -/
def Script.exec (s : Script) (heap : Nat → Bool) (c : Cells) : Outcome × Mem Slot :=
  match build heap 0 { cells := c } s.stmts with
  | (.ready data, m) =>
      (.ready data, (m.readAll home (s.stmts.filterMap Stmt.slot)).freeAll home s.cleanup)
  | out => out

-- ── The dispatch functions ────────────────────────────────────────────────

/-- A method that allocates nothing, such as `dispatchVoid` and `dispatchRaw`. -/
def plainStmt : Field → Stmt
  | .int n => .set (.int n)
  | .str s => .set (.str s)
  | .bytes b => .set (.bytes b)
  | .copy src allowEmpty => .copy .pString src allowEmpty []
  | .calloc => .calloc .pString []
  | .require ok err => .require ok err []

/-- `dispatchString`. -/
def dispatchString (str : HidlString) : Script :=
  { stmts := [.copy .pString str false []], cleanup := [.pString] }

/-- The first elements of `pStrings`. -/
def firstStrings (n : Nat) : List Slot := (List.range n).map .pStringsAt

/-- The loop of `dispatchStrings`, from `i` on. -/
def copyStrings (allowEmpty : Bool) : Nat → List HidlString → List Stmt
  | _, [] => []
  | i, str :: strs =>
      .copy (.pStringsAt i) str allowEmpty (firstStrings i ++ [.pStrings])
        :: copyStrings allowEmpty (i + 1) strs

/-- Both functions `dispatchStrings`. -/
def dispatchStrings (allowEmpty : Bool) (strs : List HidlString) : Script :=
  { stmts := .calloc .pStrings [] :: copyStrings allowEmpty 0 strs
    cleanup := firstStrings strs.length ++ [.pStrings] }

/-- `dispatchInts`. -/
def dispatchInts (ints : List Field) : Script :=
  { stmts := .calloc .pInts [] :: ints.map plainStmt, cleanup := [.pInts] }

/-- The strings among the members. -/
def copied : List Field → List HidlString := List.filterMap fun
  | .copy src _ => some src
  | _ => none

/-- A method that calls one of the dispatch functions with these members. -/
def dispatch : List Field → Script
  | [.copy str _] => dispatchString str
  | .calloc :: .copy str allowEmpty :: fields => dispatchStrings allowEmpty (str :: copied fields)
  | .calloc :: fields => dispatchInts fields
  | fields => { stmts := fields.map plainStmt }

-- ── Methods with a body of their own ──────────────────────────────────────

/-- `dispatchCallForwardStatus`. -/
def dispatchCallForwardStatus (callInfo : CallForwardInfo) : Script :=
  { stmts :=
      [.set (.int callInfo.status), .set (.int callInfo.reason), .set (.int callInfo.serviceClass),
       .set (.int callInfo.toa), .set (.int callInfo.timeSeconds),
       .copy .number callInfo.number false []]
    cleanup := [.number] }

/-- `dispatchIccApdu`. -/
def dispatchIccApdu (message : SimApdu) : Script :=
  { stmts :=
      [.set (.int message.sessionId), .set (.int message.cla), .set (.int message.instruction),
       .set (.int message.p1), .set (.int message.p2), .set (.int message.p3),
       .copy .data message.data false []]
    cleanup := [.data] }

/-- `RadioImpl::dial`. -/
def dial (dialInfo : Dial) : Script :=
  { stmts := [.copy .address dialInfo.address false [], .set (.int dialInfo.clir)]
      ++ match dialInfo.uusInfo with
        | [] => []
        | uus :: _ =>
            [.set (.int uus.uusType), .set (.int uus.uusDcs)]
              ++ if uus.uusData.size = 0 then [.set (.str none), .set (.int 0)]
                else [.copy .uusData uus.uusData false [.address],
                  .set (.int uus.uusData.size)]
    cleanup := [.address, .uusData] }

/-- `RadioImpl::iccIOForApp`. -/
def iccIOForApp (iccIo : IccIo) : Script :=
  { stmts :=
      [.set (.int iccIo.command), .set (.int iccIo.fileId), .copy .path iccIo.path false [],
       .set (.int iccIo.p1), .set (.int iccIo.p2), .set (.int iccIo.p3),
       .copy .data iccIo.data false [.path], .copy .pin2 iccIo.pin2 false [.path, .data],
       .copy .aidPtr iccIo.aid false [.path, .data, .pin2]]
    cleanup := [.path, .data, .pin2, .aidPtr] }

/-- `RadioImpl::writeSmsToSim`. -/
def writeSmsToSim (args : SmsWriteArgs) : Script :=
  { stmts := [.set (.int args.status), .copy .pdu args.pdu false [],
      .copy .smsc args.smsc false [.pdu]]
    cleanup := [.smsc, .pdu] }

/-- `RadioImpl::setInitialAttachApn`. -/
def setInitialAttachApn (vendor : Vendor) (info : DataProfileInfo)
    (modemCognitive isRoaming : Bool) : Script :=
  if vendor.version ≤ 14 then
    let protocol := if isRoaming then info.roamingProtocol else info.protocol
    { stmts :=
        [.copy .apn info.apn true [], .copy .protocol protocol false [.apn],
         .set (.int info.authType), .copy .username info.user false [.apn, .protocol],
         .copy .password info.password false [.apn, .protocol, .username]]
          ++ (if vendor.needsRoamingProtocolField then
            [.copy .roamingProtocol info.roamingProtocol false
              [.apn, .protocol, .username, .password]] else [])
          ++ (if vendor.needsImsTypeField then [.set (.int 0)] else [])
      cleanup :=
        if vendor.needsRoamingProtocolField then
          [.apn, .protocol, .username, .password, .roamingProtocol]
        else [.apn, .protocol, .username, .password] }
  else
    { stmts :=
        [.copy .apn info.apn true [], .copy .protocol info.protocol false [.apn],
         .copy .roamingProtocol info.roamingProtocol false [.apn, .protocol],
         .set (.int info.authType),
         .copy .username info.user false [.apn, .protocol, .roamingProtocol],
         .copy .password info.password false [.apn, .protocol, .roamingProtocol, .username],
         .set (.int info.supportedApnTypesBitmap), .set (.int info.bearerBitmap),
         .set (.int (boolToInt modemCognitive)), .set (.int info.mtu),
         .require (convertMvnoTypeToString info.mvnoType).isSome rilEInvalidArguments
           [.apn, .protocol, .roamingProtocol, .username, .password],
         .set (.str (convertMvnoTypeToString info.mvnoType)),
         .copy .mvnoMatchData info.mvnoMatchData false
           [.apn, .protocol, .roamingProtocol, .username, .password]]
      cleanup := [.apn, .protocol, .roamingProtocol, .username, .password, .mvnoMatchData] }

/-- `dispatchImsGsmSms`. -/
def dispatchImsGsmSms (message : ImsSmsMessage) : Script :=
  { stmts :=
      [.set (.int 1), .set (.int (boolToInt message.retry)), .set (.int message.messageRef)]
        ++ match message.gsmMessage with
          | [gsm] =>
              [.calloc .pStrings [], .copy (.pStringsAt 0) gsm.smscPdu false [.pStrings],
               .copy (.pStringsAt 1) gsm.pdu false [.pStringsAt 0, .pStrings]]
          | _ => [.require false rilEInvalidArguments []]
    cleanup :=
      match message.gsmMessage with
      | [_] => [.pStringsAt 0, .pStringsAt 1, .pStrings]
      | _ => [] }

/-- `RadioImpl::sendImsSms`; `dispatchImsCdmaSms` allocates nothing. -/
def sendImsSms (message : ImsSmsMessage) : Script :=
  if message.tech = 1 then dispatchImsGsmSms message
  else { stmts := (RilRadio.sendImsSms message).fields.map plainStmt }

/-- `RadioImpl::iccOpenLogicalChannel`. -/
def iccOpenLogicalChannel (vendor : Vendor) (aid : HidlString) (p2 : Int) : Script :=
  if vendor.version < 15 then dispatchString (.ofCStr aid.cStr)
  else { stmts := [.set (.int p2), .copy .aidPtr aid false []], cleanup := [.aidPtr] }

/-- `RadioImpl::nvWriteItem`. -/
def nvWriteItem (itemId : Int) (value : HidlString) : Script :=
  { stmts := [.set (.int itemId), .copy .value value false []], cleanup := [.value] }

/-- `RadioImpl::requestIccSimAuthentication`. -/
def requestIccSimAuthentication (authContext : Int) (authData aid : HidlString) : Script :=
  { stmts := [.set (.int authContext), .copy .authData authData false [],
      .copy .aid aid false [.authData]]
    cleanup := [.authData, .aid] }

/-- `freeSetDataProfileData`: a member of every profile, then the next member. -/
def freeSetDataProfileData (numProfiles : Nat) (members : List ProfileMember) : List Slot :=
  members.flatMap (fun member => (List.range numProfiles).map fun j => .dataProfilesAt j member)
    ++ [.dataProfiles, .dataProfilePtrs]

/-- The members that `setDataProfile` frees. -/
def profileMembers (vendor : Vendor) : List ProfileMember :=
  if vendor.version ≤ 14 then [.apn, .protocol, .user, .password]
  else [.apn, .protocol, .roamingProtocol, .user, .password, .mvnoMatchData]

/-- The `i`-th profile of `RadioImpl::setDataProfile`. -/
def dataProfile (vendor : Vendor) (isRoaming : Bool) (onFail : List Slot) (i : Nat)
    (info : DataProfileInfo) : List Stmt :=
  let common : List Stmt :=
    [.set (.int info.profileId), .set (.int info.authType), .set (.int info.type),
     .set (.int info.maxConnsTime), .set (.int info.maxConns), .set (.int info.waitTime),
     .set (.int (boolToInt info.enabled))]
  if vendor.version ≤ 14 then
    let protocol := if isRoaming then info.roamingProtocol else info.protocol
    [.copy (.dataProfilesAt i .apn) info.apn true onFail,
     .copy (.dataProfilesAt i .protocol) protocol true onFail,
     .copy (.dataProfilesAt i .user) info.user true onFail,
     .copy (.dataProfilesAt i .password) info.password true onFail] ++ common
  else
    [.copy (.dataProfilesAt i .apn) info.apn true onFail,
     .copy (.dataProfilesAt i .protocol) info.protocol false onFail,
     .copy (.dataProfilesAt i .roamingProtocol) info.roamingProtocol true onFail,
     .copy (.dataProfilesAt i .user) info.user true onFail,
     .copy (.dataProfilesAt i .password) info.password true onFail,
     .copy (.dataProfilesAt i .mvnoMatchData) info.mvnoMatchData true onFail,
     .require (convertMvnoTypeToString info.mvnoType).isSome rilEInvalidArguments onFail,
     .set (.str (convertMvnoTypeToString info.mvnoType))] ++ common
      ++ [.set (.int info.supportedApnTypesBitmap), .set (.int info.bearerBitmap),
        .set (.int info.mtu)]

/-- The loop of `RadioImpl::setDataProfile`, from `i` on. -/
def dataProfilesFrom (vendor : Vendor) (isRoaming : Bool) (onFail : List Slot) :
    Nat → List DataProfileInfo → List Stmt
  | _, [] => []
  | i, info :: infos =>
      dataProfile vendor isRoaming onFail i info
        ++ dataProfilesFrom vendor isRoaming onFail (i + 1) infos

/-- `RadioImpl::setDataProfile`. -/
def setDataProfile (vendor : Vendor) (profiles : List DataProfileInfo) (isRoaming : Bool) :
    Script :=
  let all := freeSetDataProfileData profiles.length (profileMembers vendor)
  { stmts := [.calloc .dataProfiles [], .calloc .dataProfilePtrs [.dataProfiles]]
      ++ dataProfilesFrom vendor isRoaming all 0 profiles
    cleanup := all }

/-- `RadioImpl::setAllowedCarriers`. -/
def setAllowedCarriers (carriers : CarrierRestrictions) : Script :=
  { stmts :=
      [.set (.int carriers.allowedCarriers.length), .calloc .allowedCarriers [],
       .set (.int carriers.excludedCarriers.length),
       .calloc .excludedCarriers [.allowedCarriers]]
        ++ (carriers.allowedCarriers.flatMap carrier).map plainStmt
        ++ (carriers.excludedCarriers.flatMap carrier).map plainStmt
    cleanup := [.allowedCarriers, .excludedCarriers] }

/-- **WHAT EACH METHOD ALLOCATES AND FREES**: those with a body of their own that
    allocates, and the others, which leave it to a dispatch function. -/
def script (vendor : Vendor) : RadioRequest → Script
  | .dial dialInfo => dial dialInfo
  | .iccIOForApp iccIo => iccIOForApp iccIo
  | .getCallForwardStatus callInfo | .setCallForward callInfo => dispatchCallForwardStatus callInfo
  | .writeSmsToSim args => writeSmsToSim args
  | .setInitialAttachApn info modemCognitive isRoaming =>
      setInitialAttachApn vendor info modemCognitive isRoaming
  | .sendImsSms message => sendImsSms message
  | .iccTransmitApduBasicChannel message | .iccTransmitApduLogicalChannel message =>
      dispatchIccApdu message
  | .iccOpenLogicalChannel aid p2 => iccOpenLogicalChannel vendor aid p2
  | .nvWriteItem itemId value => nvWriteItem itemId value
  | .requestIccSimAuthentication authContext authData aid =>
      requestIccSimAuthentication authContext authData aid
  | .setDataProfile profiles isRoaming => setDataProfile vendor profiles isRoaming
  | .setAllowedCarriers _ carriers => setAllowedCarriers carriers
  | .sendRequestStrings data => dispatchStrings false data
  | request => dispatch (radioImpl vendor request).fields

/-- `setDataProfile` frees the slot of the copy that failed, too. -/
def freesItsOwn : RadioRequest → Bool
  | .setDataProfile _ _ => true
  | _ => false

-- ── The members are those of the request ──────────────────────────────────

@[simp] theorem plainStmt_field (f : Field) : (plainStmt f).field = f := by
  cases f <;> rfl

@[simp] theorem map_plainStmt_field (fields : List Field) :
    (fields.map plainStmt).map Stmt.field = fields := by
  rw [List.map_map]
  exact List.map_id'' plainStmt_field fields

theorem copyStrings_field (allowEmpty : Bool) : ∀ (strs : List HidlString) (i : Nat),
    (copyStrings allowEmpty i strs).map Stmt.field = strs.map (fun str => .copy str allowEmpty) := by
  intro strs
  induction strs with
  | nil => exact fun _ => rfl
  | cons str strs ih =>
      intro i
      rw [copyStrings, List.map_cons, List.map_cons, ih]
      rfl

theorem copied_map (allowEmpty : Bool) (strs : List HidlString) :
    copied (strs.map (fun str => .copy str allowEmpty)) = strs := by
  induction strs with
  | nil => rfl
  | cons str strs ih =>
      show str :: copied _ = _
      rw [ih]

/-- A member that allocates nothing. -/
def isPlain : Field → Bool
  | .copy _ _ | .calloc => false
  | _ => true

theorem dispatch_plain {fields : List Field} (h : ∀ f ∈ fields, isPlain f = true) :
    dispatch fields = { stmts := fields.map plainStmt } := by
  cases fields with
  | nil => rfl
  | cons f rest =>
      have hf := h f List.mem_cons_self
      cases f with
      | copy src allowEmpty => cases hf
      | calloc => cases hf
      | int n => rfl
      | str s => rfl
      | bytes b => rfl
      | require ok err => rfl

/-- `dispatchStrings` in its own words. -/
theorem dispatch_strings (request : Nat) (allowEmpty : Bool) (str : CStr) (strs : List CStr) :
    dispatch (RilRadio.dispatchStrings request allowEmpty (str :: strs)).fields
      = dispatchStrings allowEmpty ((str :: strs).map .ofCStr) := by
  show dispatchStrings allowEmpty (.ofCStr str :: copied _) = _
  have hmap : strs.map (fun s => Field.copy (.ofCStr s) allowEmpty)
      = (strs.map HidlString.ofCStr).map (fun s => .copy s allowEmpty) := by
    rw [List.map_map]
    rfl
  rw [hmap, copied_map, List.map_cons]

theorem dispatchStrings_field (allowEmpty : Bool) (strs : List HidlString) :
    (dispatchStrings allowEmpty strs).stmts.map Stmt.field
      = .calloc :: strs.map (fun str => .copy str allowEmpty) := by
  rw [dispatchStrings, List.map_cons, copyStrings_field]
  rfl

theorem dispatch_strings_field (request : Nat) (allowEmpty : Bool) (str : CStr)
    (strs : List CStr) :
    (dispatch (RilRadio.dispatchStrings request allowEmpty (str :: strs)).fields).stmts.map
      Stmt.field = (RilRadio.dispatchStrings request allowEmpty (str :: strs)).fields := by
  rw [dispatch_strings, dispatchStrings_field, List.map_map]
  rfl

section Members

variable {vendor : Vendor}

theorem setInitialAttachApn_field (info : DataProfileInfo) (modemCognitive isRoaming : Bool) :
    (setInitialAttachApn vendor info modemCognitive isRoaming).stmts.map Stmt.field
      = (RilRadio.setInitialAttachApn vendor info modemCognitive isRoaming).fields := by
  rw [setInitialAttachApn, RilRadio.setInitialAttachApn]
  dsimp only
  split
  · cases vendor.needsRoamingProtocolField <;> cases vendor.needsImsTypeField <;> rfl
  · rfl

theorem sendImsSms_field (message : ImsSmsMessage) :
    (sendImsSms message).stmts.map Stmt.field = (RilRadio.sendImsSms message).fields := by
  rw [sendImsSms]
  split
  · rename_i htech
    rw [RilRadio.sendImsSms]
    dsimp only
    rw [if_pos htech]
    obtain ⟨_, _, _, _, gsmMessage⟩ := message
    cases gsmMessage with
    | nil => rfl
    | cons gsm rest => cases rest <;> rfl
  · exact map_plainStmt_field _

theorem dial_field (dialInfo : Dial) :
    (dial dialInfo).stmts.map Stmt.field = (RilRadio.dial dialInfo).fields := by
  obtain ⟨_, _, uusInfo⟩ := dialInfo
  cases uusInfo with
  | nil => rfl
  | cons uus rest =>
      rw [dial, RilRadio.dial]
      dsimp only
      split <;> rfl

theorem iccOpenLogicalChannel_field (aid : HidlString) (p2 : Int) :
    (iccOpenLogicalChannel vendor aid p2).stmts.map Stmt.field
      = (RilRadio.iccOpenLogicalChannel vendor aid p2).fields := by
  rw [iccOpenLogicalChannel, RilRadio.iccOpenLogicalChannel]
  split <;> rfl

theorem dataProfile_field (isRoaming : Bool) (onFail : List Slot) (i : Nat)
    (info : DataProfileInfo) :
    (dataProfile vendor isRoaming onFail i info).map Stmt.field
      = RilRadio.dataProfile vendor isRoaming info := by
  rw [dataProfile, RilRadio.dataProfile]
  dsimp only
  split <;> rfl

theorem dataProfilesFrom_field (isRoaming : Bool) (onFail : List Slot) :
    ∀ (infos : List DataProfileInfo) (i : Nat),
      (dataProfilesFrom vendor isRoaming onFail i infos).map Stmt.field
        = infos.flatMap (RilRadio.dataProfile vendor isRoaming) := by
  intro infos
  induction infos with
  | nil => exact fun _ => rfl
  | cons info infos ih =>
      intro i
      rw [dataProfilesFrom, List.map_append, dataProfile_field, ih, List.flatMap_cons]

theorem setAllowedCarriers_field (carriers : CarrierRestrictions) :
    (setAllowedCarriers carriers).stmts.map Stmt.field
      = (RilRadio.setAllowedCarriers carriers).fields := by
  rw [setAllowedCarriers, RilRadio.setAllowedCarriers]
  simp only [List.map_append, map_plainStmt_field]
  rfl

theorem setupDataCall_field (radioTechnology : Int) (info : DataProfileInfo)
    (modemCognitive roamingAllowed isRoaming : Bool) :
    (dispatch (setupDataCall vendor radioTechnology info modemCognitive roamingAllowed
        isRoaming).fields).stmts.map Stmt.field
      = (setupDataCall vendor radioTechnology info modemCognitive roamingAllowed
        isRoaming).fields := by
  rw [setupDataCall]
  dsimp only
  split
  · exact dispatch_strings_field _ _ _ _
  split
  · split
    · rfl
    · exact dispatch_strings_field _ _ _ _
  · rfl

theorem plain_field {fields : List Field} (h : ∀ f ∈ fields, isPlain f = true) :
    (dispatch fields).stmts.map Stmt.field = fields := by
  rw [dispatch_plain h]
  exact map_plainStmt_field fields

theorem plain_flatMap {α : Type} {l : List α} {g : α → List Field}
    (h : ∀ x ∈ l, ∀ f ∈ g x, isPlain f = true) : ∀ f ∈ l.flatMap g, isPlain f = true := by
  intro f hf
  obtain ⟨x, hx, hf⟩ := List.mem_flatMap.mp hf
  exact h x hx f hf

/-- **THE SAME MEMBERS** in the same order as the request has. -/
theorem script_field (request : RadioRequest) :
    (script vendor request).stmts.map Stmt.field = (radioImpl vendor request).fields := by
  cases request with
  | dial dialInfo => exact dial_field dialInfo
  | setInitialAttachApn info modemCognitive isRoaming =>
      exact setInitialAttachApn_field info modemCognitive isRoaming
  | sendImsSms message => exact sendImsSms_field message
  | iccOpenLogicalChannel aid p2 => exact iccOpenLogicalChannel_field aid p2
  | setDataProfile profiles isRoaming =>
      show .calloc :: .calloc :: (dataProfilesFrom vendor isRoaming _ 0 profiles).map Stmt.field = _
      rw [dataProfilesFrom_field]
      rfl
  | setAllowedCarriers allAllowed carriers => exact setAllowedCarriers_field carriers
  | sendRequestStrings data => exact dispatchStrings_field false data
  | setupDataCall radioTechnology info modemCognitive roamingAllowed isRoaming =>
      exact setupDataCall_field radioTechnology info modemCognitive roamingAllowed isRoaming
  | setGsmBroadcastConfig configInfo =>
      exact plain_field (plain_flatMap fun config _ => by simp [isPlain])
  | setCdmaBroadcastConfig configInfo =>
      exact plain_field (plain_flatMap fun config _ => by simp [isPlain])
  | sendDeviceState deviceStateType state =>
      show (dispatch (sendDeviceState vendor deviceStateType state).fields).stmts.map _
        = (sendDeviceState vendor deviceStateType state).fields
      rw [sendDeviceState]
      split
      · split <;> rfl
      · rfl
  | setIndicationFilter indicationFilter =>
      show (dispatch (setIndicationFilter vendor indicationFilter).fields).stmts.map _
        = (setIndicationFilter vendor indicationFilter).fields
      rw [setIndicationFilter]
      split <;> rfl
  | _ => rfl

end Members

-- ── Building is the same ──────────────────────────────────────────────────

theorem build_fst (heap : Nat → Bool) : ∀ (stmts : List Stmt) (n : Nat) (m : Mem Slot),
    (build heap n m stmts).1 = marshal heap n (stmts.map Stmt.field) := by
  intro stmts
  induction stmts with
  | nil => exact fun _ _ => rfl
  | cons stmt rest ih =>
      intro n m
      rw [List.map_cons]
      cases stmt with
      | set v =>
          cases v <;> exact congrArg (Outcome.cons _) (ih n m)
      | calloc array onFail =>
          rw [build, Stmt.field, marshal]
          split
          · exact ih (n + 1) _
          · rfl
      | copy dest src allowEmpty onFail =>
          rw [build, Stmt.field, marshal]
          split
          · exact congrArg (Outcome.cons _) (ih n _)
          split
          · rfl
          split
          · rfl
          · exact congrArg (Outcome.cons _) (ih (n + 1) _)
      | require ok err onFail =>
          rw [build, Stmt.field, marshal]
          split
          · exact ih n m
          · rfl

theorem exec_fst (s : Script) (heap : Nat → Bool) (c : Cells) :
    (s.exec heap c).1 = marshal heap 0 (s.stmts.map Stmt.field) := by
  rw [← build_fst heap s.stmts 0 { cells := c }, Script.exec]
  split
  · rename_i data m hout
    rw [hout]
  · rfl

-- ── Methods that free what they have ──────────────────────────────────────

/-- Freeing `l` is right and frees all there is. -/
def Cleans (ks l : List Slot) : Prop := Orderly home ks l ∧ ∀ k ∈ ks, k ∈ l

/-- **CHECKED**: wherever the method gives up, and at its end, it frees the slots
    filled so far, `ks` at the start.  `own` says whether it frees the slot of a
    copy that failed. -/
def Checked (own : Bool) (cleanup : List Slot) : List Slot → List Stmt → Prop
  | ks, [] => Cleans ks cleanup
  | ks, .set _ :: rest => Checked own cleanup ks rest
  | ks, .calloc array onFail :: rest =>
      array ∉ ks ∧ home array = none ∧ Cleans ks onFail ∧ Checked own cleanup (array :: ks) rest
  | ks, .copy dest _ _ onFail :: rest =>
      dest ∉ ks ∧ dest.isArray = false ∧ (∀ a ∈ home dest, a ∈ ks)
        ∧ (if own = true then Cleans (dest :: ks) onFail else Cleans ks onFail ∧ dest ∉ onFail)
        ∧ Checked own cleanup (dest :: ks) rest
  | ks, .require _ _ onFail :: rest => Cleans ks onFail ∧ Checked own cleanup ks rest

instance decidableCleans (ks l : List Slot) : Decidable (Cleans ks l) :=
  inferInstanceAs (Decidable (Orderly home ks l ∧ ∀ k ∈ ks, k ∈ l))

instance decidableChecked (own : Bool) (cleanup : List Slot) :
    ∀ (ks : List Slot) (stmts : List Stmt), Decidable (Checked own cleanup ks stmts)
  | ks, [] => decidableCleans ks cleanup
  | ks, .set _ :: rest => decidableChecked own cleanup ks rest
  | ks, .calloc array onFail :: rest =>
      have := decidableChecked own cleanup (array :: ks) rest
      inferInstanceAs (Decidable (array ∉ ks ∧ home array = none ∧ Cleans ks onFail
        ∧ Checked own cleanup (array :: ks) rest))
  | ks, .copy dest _ _ onFail :: rest =>
      have := decidableChecked own cleanup (dest :: ks) rest
      inferInstanceAs (Decidable (dest ∉ ks ∧ dest.isArray = false ∧ (∀ a ∈ home dest, a ∈ ks)
        ∧ (if own = true then Cleans (dest :: ks) onFail else Cleans ks onFail ∧ dest ∉ onFail)
        ∧ Checked own cleanup (dest :: ks) rest))
  | ks, .require _ _ onFail :: rest =>
      have := decidableChecked own cleanup ks rest
      inferInstanceAs (Decidable (Cleans ks onFail ∧ Checked own cleanup ks rest))

section Soundness

variable {own : Bool} {cleanup ks onFail : List Slot} {others : Nat → Prop} {m : Mem Slot}
  {heap : Nat → Bool}

/-- The copy that was cut off is lost. -/
def Lost (own : Bool) (out : Outcome) : Prop := own = false ∧ out = .dropped

/-- How building ends: with the data, and all of it owned, or with nothing owned
    and at most the last block lost. -/
def Ends (own : Bool) (cleanup slots : List Slot) (others : Nat → Prop)
    (out : Outcome × Mem Slot) : Prop :=
  match out.1 with
  | .ready _ =>
      ∃ ks, Owns home others out.2 ks ∧ Cleans ks cleanup ∧ (∀ k ∈ slots, k ∈ ks)
        ∧ ∀ k, k ∉ ks → out.2.ptr k = none
  | _ => Proper out.2.cells
      (fun r => others r ∨ Lost own out.1 ∧ r + 1 = out.2.cells.created)

/-- Freeing all there is. -/
theorem owns_cleans (h : Owns home others m ks) (hc : Cleans ks onFail)
    (hnull : ∀ k ∈ onFail, k ∉ ks → m.ptr k = none) :
    Proper (m.freeAll home onFail).cells others := by
  have hfreed := owns_freeAll onFail h hc.1 hnull
  have hnil : ks.filter (· ∉ onFail) = [] := by
    rw [List.filter_eq_nil_iff]
    intro k hk
    rw [decide_eq_true_iff, not_not]
    exact hc.2 k hk
  rw [hnil] at hfreed
  exact proper_of_owns_nil hfreed

theorem ends_refused {slots : List Slot} {err : Int} (h : Proper m.cells others) :
    Ends own cleanup slots others (.refused err, m) := by
  refine proper_congr h fun r => ⟨?_, .inl⟩
  rintro (hr | ⟨⟨-, hlost⟩, -⟩)
  · exact hr
  · cases hlost

theorem ends_withValue {slots : List Slot} (v : Value) {out : Outcome × Mem Slot}
    (h : Ends own cleanup slots others out) :
    Ends own cleanup slots others (withValue v out) := by
  obtain ⟨outcome, m⟩ := out
  cases outcome with
  | ready data => exact h
  | refused err => exact h
  | dropped => exact h

/-- A copy that is cut off. -/
theorem ends_dropped {slots : List Slot} {dest : Slot} (h : Owns home others m ks)
    (hclear : ∀ k, k ∉ ks → m.ptr k = none) (hnew : dest ∉ ks)
    (hhome : ∀ a, home dest = some a → a ∈ ks)
    (hcleans : if own = true then Cleans (dest :: ks) onFail
      else Cleans ks onFail ∧ dest ∉ onFail) :
    Ends own cleanup slots others (.dropped, (m.calloc home dest).freeAll home onFail) := by
  cases own with
  | true =>
      have hproper := owns_cleans (owns_calloc h hnew hhome) hcleans fun k _ hk => ?_
      · refine proper_congr hproper fun r => ⟨?_, .inl⟩
        rintro (hr | ⟨⟨hown, -⟩, -⟩)
        · exact hr
        · cases hown
      · rw [List.mem_cons, not_or] at hk
        rw [calloc_ptr_of_ne hk.1]
        exact hclear k hk.2
  | false =>
      obtain ⟨hclean, hkeep⟩ := hcleans
      have hproper := owns_cleans (owns_leak h hnew hhome) hclean fun k hk hnot => ?_
      · refine proper_congr hproper fun r => or_congr Iff.rfl ?_
        rw [freeAll_created, calloc_created, Nat.add_right_cancel_iff]
        exact ⟨fun hr => hr.2, fun hr => ⟨⟨rfl, rfl⟩, hr⟩⟩
      · have hne : k ≠ dest := fun heq => hkeep (heq ▸ hk)
        rw [calloc_ptr_of_ne hne]
        exact hclear k hnot

/-- **BUILDING** what was checked. -/
theorem build_ends : ∀ (stmts : List Stmt) {n : Nat} {m : Mem Slot} {ks slots : List Slot},
    Owns home others m ks → (∀ k, k ∉ ks → m.ptr k = none) → Checked own cleanup ks stmts →
    (∀ k ∈ slots, k ∈ ks ∨ k ∈ stmts.filterMap Stmt.slot) →
    Ends own cleanup slots others (build heap n m stmts) := by
  intro stmts
  induction stmts with
  | nil =>
      intro n m ks slots h hclear hc hslots
      refine ⟨ks, h, hc, fun k hk => ?_, hclear⟩
      rcases hslots k hk with hk | hk
      · exact hk
      · cases hk
  | cons stmt rest ih =>
      intro n m ks slots h hclear hc hslots
      cases stmt with
      | set v => exact ends_withValue v (ih h hclear hc hslots)
      | calloc array onFail =>
          obtain ⟨hnew, hhome, hcleans, hrest⟩ := hc
          have hin : ∀ a, home array = some a → a ∈ ks := by
            rw [hhome]
            exact fun _ ha => by cases ha
          rw [build]
          split
          · refine ih (owns_calloc h hnew hin) ?_ hrest ?_
            · intro k hk
              rw [List.mem_cons, not_or] at hk
              rw [calloc_ptr_of_ne hk.1]
              exact hclear k hk.2
            · intro k hk
              rcases hslots k hk with hk | hk
              · exact .inl (List.mem_cons_of_mem array hk)
              · obtain rfl | hk := List.mem_cons.mp hk
                · exact .inl List.mem_cons_self
                · exact .inr hk
          · rw [put_none h (hclear array hnew) hin]
            exact ends_refused (owns_cleans h hcleans fun k _ hk => hclear k hk)
      | copy dest src allowEmpty onFail =>
          obtain ⟨hnew, hleaf, hin, hcleans, hrest⟩ := hc
          have hnull := hclear dest hnew
          have hmore : ∀ k ∈ slots, k ∈ dest :: ks ∨ k ∈ rest.filterMap Stmt.slot := by
            intro k hk
            rcases hslots k hk with hk | hk
            · exact .inl (List.mem_cons_of_mem dest hk)
            · obtain rfl | hk := List.mem_cons.mp hk
              · exact .inl List.mem_cons_self
              · exact .inr hk
          have hcons := owns_cons_null h hnull hin (home_ne hleaf)
          have hclear' : ∀ k, k ∉ dest :: ks → m.ptr k = none :=
            fun k hk => hclear k fun hks => hk (List.mem_cons_of_mem dest hks)
          rw [build]
          split
          · rw [put_none h hnull hin]
            exact ends_withValue _ (ih hcons hclear' hrest hmore)
          split
          · rw [put_none h hnull hin]
            refine ends_refused ?_
            cases own with
            | true => exact owns_cleans hcons hcleans fun k _ hk => hclear' k hk
            | false => exact owns_cleans h hcleans.1 fun k _ hk => hclear k hk
          split
          · exact ends_dropped h hclear hnew hin hcleans
          · refine ends_withValue _ (ih (owns_calloc h hnew hin) ?_ hrest hmore)
            intro k hk
            rw [List.mem_cons, not_or] at hk
            rw [calloc_ptr_of_ne hk.1]
            exact hclear k hk.2
      | require ok err onFail =>
          obtain ⟨hcleans, hrest⟩ := hc
          rw [build]
          split
          · exact ih h hclear hrest hslots
          · exact ends_refused (owns_cleans h hcleans fun k _ hk => hclear k hk)

/-- **WHAT WAS CHECKED IS FREED**, but for a copy that was cut off. -/
theorem exec_proper {s : Script} {c : Cells} (hc : Checked own s.cleanup [] s.stmts)
    (hproper : Proper c others) :
    Proper (s.exec heap c).2.cells (fun r => others r
      ∨ Lost own (s.exec heap c).1 ∧ r + 1 = (s.exec heap c).2.cells.created) := by
  have hends : Ends own s.cleanup (s.stmts.filterMap Stmt.slot) others
      (build heap 0 { cells := c } s.stmts) :=
    build_ends s.stmts (owns_start hproper) (fun _ _ => rfl) hc fun _ hk => .inr hk
  rw [Script.exec]
  split
  · rename_i data m hout
    rw [hout] at hends
    obtain ⟨ks, howns, hcleans, hslots, hclear⟩ := hends
    rw [readAll_eq howns _ fun k hk => .inl (hslots k hk)]
    refine proper_congr (owns_cleans howns hcleans fun k _ hk => hclear k hk) fun r => ⟨?_, .inl⟩
    rintro (hr | ⟨⟨-, hlost⟩, -⟩)
    · exact hr
    · cases hlost
  · rename_i hnot
    generalize build heap 0 { cells := c } s.stmts = out at hends hnot
    obtain ⟨outcome, m⟩ := out
    cases outcome with
    | ready data => exact absurd rfl (hnot data m)
    | refused err => exact hends
    | dropped => exact hends

end Soundness

-- ── Every method is checked ───────────────────────────────────────────────

/-- A script that is checked from its start. -/
def Script.Ok (s : Script) (own : Bool) : Prop := Checked own s.cleanup [] s.stmts

instance (s : Script) (own : Bool) : Decidable (s.Ok own) :=
  inferInstanceAs (Decidable (Checked own s.cleanup [] s.stmts))

/-- A member that only has to be set. -/
def isSet : Field → Bool
  | .int _ | .str _ | .bytes _ => true
  | _ => false

section Checks

variable {own : Bool} {cleanup ks : List Slot} {vendor : Vendor}

theorem checked_sets {rest : List Stmt} : ∀ {fields : List Field},
    (∀ f ∈ fields, isSet f = true) → Checked own cleanup ks rest →
    Checked own cleanup ks (fields.map plainStmt ++ rest) := by
  intro fields
  induction fields with
  | nil => exact fun _ h => h
  | cons f fields ih =>
      intro hall h
      have hf := hall f List.mem_cons_self
      have hrest := ih (fun g hg => hall g (List.mem_cons_of_mem f hg)) h
      cases f with
      | int n => exact hrest
      | str s => exact hrest
      | bytes b => exact hrest
      | copy src allowEmpty => cases hf
      | calloc => cases hf
      | require ok err => cases hf

/-- With nothing allocated there is nothing to free. -/
theorem checked_plain : ∀ {fields : List Field}, (∀ f ∈ fields, isPlain f = true) →
    Checked own [] [] (fields.map plainStmt) := by
  intro fields
  induction fields with
  | nil => exact fun _ => of_decide_eq_true rfl
  | cons f fields ih =>
      intro hall
      have hf := hall f List.mem_cons_self
      have hrest := ih fun g hg => hall g (List.mem_cons_of_mem f hg)
      cases f with
      | int n => exact hrest
      | str s => exact hrest
      | bytes b => exact hrest
      | copy src allowEmpty => cases hf
      | calloc => cases hf
      | require ok err => exact ⟨of_decide_eq_true rfl, hrest⟩

theorem ok_plain {fields : List Field} (h : ∀ f ∈ fields, isPlain f = true) :
    (dispatch fields).Ok own := by
  rw [dispatch_plain h]
  exact checked_plain h

-- ── Arrays of strings ─────────────────────────────────────────────────────

@[simp] theorem mem_firstStrings {i : Nat} {k : Slot} :
    k ∈ firstStrings i ↔ ∃ j < i, k = .pStringsAt j := by
  rw [firstStrings, List.mem_map]
  constructor
  · rintro ⟨j, hj, rfl⟩
    exact ⟨j, List.mem_range.mp hj, rfl⟩
  · rintro ⟨j, hj, rfl⟩
    exact ⟨j, List.mem_range.mpr hj, rfl⟩

theorem nodup_firstStrings (i : Nat) : (firstStrings i).Nodup := by
  refine List.Nodup.map ?_ List.nodup_range
  intro j j' hjj
  exact Slot.pStringsAt.inj hjj

/-- The array with its first strings is freed from the inside out. -/
theorem cleans_strings {i : Nat} (hks : ∀ k, k ∈ ks ↔ k = .pStrings ∨ k ∈ firstStrings i) :
    Cleans ks (firstStrings i ++ [.pStrings]) := by
  have hleaf : ∀ k ∈ firstStrings i, k.isArray = false ∧ home k = some .pStrings := by
    intro k hk
    obtain ⟨j, -, rfl⟩ := mem_firstStrings.mp hk
    exact ⟨rfl, rfl⟩
  refine ⟨orderly_append _ ?_ ?_ ?_, ?_⟩
  · refine orderly_leaves _ (nodup_firstStrings i) (fun k hk => home_ne (hleaf k hk).1) ?_
    intro k hk a ha
    rw [(hleaf k hk).2] at ha
    exact (hks a).mpr (.inl (Option.some.inj ha).symm)
  · intro k hk hin
    rw [List.mem_singleton] at hin
    rw [hin] at hk
    cases (hleaf _ hk).1
  · refine ⟨fun a ha => (by cases ha), ?_, List.not_mem_nil, trivial⟩
    intro k hk hhome
    rw [List.mem_filter, decide_eq_true_iff] at hk
    rcases (hks k).mp hk.1 with rfl | hin
    · cases hhome
    · exact hk.2 hin
  · intro k hk
    rw [List.mem_append, List.mem_singleton]
    exact ((hks k).mp hk).symm

theorem checked_copyStrings (allowEmpty : Bool) : ∀ (strs : List HidlString) {i : Nat}
    {ks : List Slot}, (∀ k, k ∈ ks ↔ k = .pStrings ∨ k ∈ firstStrings i) →
    Checked false (firstStrings (i + strs.length) ++ [.pStrings]) ks
      (copyStrings allowEmpty i strs) := by
  intro strs
  induction strs with
  | nil => exact fun hks => cleans_strings hks
  | cons str strs ih =>
      intro i ks hks
      have hnew : Slot.pStringsAt i ∉ firstStrings i := by
        rw [mem_firstStrings]
        rintro ⟨j, hj, heq⟩
        exact absurd (Slot.pStringsAt.inj heq) (Nat.ne_of_gt hj)
      refine ⟨?_, rfl, ?_, ⟨cleans_strings hks, ?_⟩, ?_⟩
      · rw [hks, not_or]
        exact ⟨Slot.noConfusion, hnew⟩
      · intro a ha
        exact (hks a).mpr (.inl (Option.some.inj ha).symm)
      · rw [List.mem_append, List.mem_singleton, not_or]
        exact ⟨hnew, Slot.noConfusion⟩
      · rw [List.length_cons, ← Nat.add_assoc, Nat.add_right_comm]
        refine ih fun k => ?_
        rw [List.mem_cons, hks, mem_firstStrings, mem_firstStrings, Nat.exists_lt_succ_right,
          or_left_comm, or_comm (b := ∃ j < i, k = .pStringsAt j)]

theorem ok_dispatchStrings (allowEmpty : Bool) (strs : List HidlString) :
    (dispatchStrings allowEmpty strs).Ok false := by
  refine ⟨List.not_mem_nil, rfl, of_decide_eq_true rfl, ?_⟩
  have hstart : ∀ k, k ∈ [Slot.pStrings] ↔ k = .pStrings ∨ k ∈ firstStrings 0 := by
    intro k
    simp
  have h := checked_copyStrings allowEmpty strs hstart
  rw [Nat.zero_add] at h
  exact h

theorem ok_dispatch_strings (request : Nat) (allowEmpty : Bool) (str : CStr) (strs : List CStr) :
    (dispatch (RilRadio.dispatchStrings request allowEmpty (str :: strs)).fields).Ok false := by
  rw [dispatch_strings]
  exact ok_dispatchStrings allowEmpty _

-- ── Data profiles ─────────────────────────────────────────────────────────

/-- The slots that `setDataProfile` fills, its first array among them. -/
def Within (n : Nat) (members : List ProfileMember) (ks : List Slot) : Prop :=
  .dataProfiles ∈ ks ∧ ∀ k ∈ ks, k = .dataProfiles ∨ k = .dataProfilePtrs
    ∨ ∃ member ∈ members, ∃ j < n, k = .dataProfilesAt j member

theorem within_cons {n i : Nat} {members : List ProfileMember} {member : ProfileMember}
    (h : Within n members ks) (hi : i < n) (hmember : member ∈ members) :
    Within n members (.dataProfilesAt i member :: ks) := by
  refine ⟨List.mem_cons_of_mem _ h.1, ?_⟩
  intro k hk
  obtain rfl | hk := List.mem_cons.mp hk
  · exact .inr (.inr ⟨member, hmember, i, hi, rfl⟩)
  · exact h.2 k hk

/-- The strings of the profiles, as `freeSetDataProfileData` goes through them. -/
def profileStrings (n : Nat) (members : List ProfileMember) : List Slot :=
  members.flatMap fun member => (List.range n).map fun j => .dataProfilesAt j member

theorem mem_profileStrings {n : Nat} {members : List ProfileMember} {k : Slot} :
    k ∈ profileStrings n members ↔ ∃ member ∈ members, ∃ j < n, k = .dataProfilesAt j member := by
  rw [profileStrings, List.mem_flatMap]
  refine exists_congr fun member => and_congr_right fun _ => ?_
  rw [List.mem_map]
  constructor
  · rintro ⟨j, hj, rfl⟩
    exact ⟨j, List.mem_range.mp hj, rfl⟩
  · rintro ⟨j, hj, rfl⟩
    exact ⟨j, List.mem_range.mpr hj, rfl⟩

theorem nodup_profileStrings (n : Nat) {members : List ProfileMember} (h : members.Nodup) :
    (profileStrings n members).Nodup := by
  rw [profileStrings, List.nodup_flatMap]
  refine ⟨fun member _ => ?_, h.imp ?_⟩
  · refine List.Nodup.map ?_ List.nodup_range
    intro j j' hjj
    exact (Slot.dataProfilesAt.inj hjj).1
  · intro member member' hne k hk hk'
    obtain ⟨j, -, rfl⟩ := List.mem_map.mp hk
    obtain ⟨j', -, heq⟩ := List.mem_map.mp hk'
    exact hne (Slot.dataProfilesAt.inj heq).2.symm

/-- `freeSetDataProfileData` is right however far the loop got. -/
theorem cleans_profiles {n : Nat} {members : List ProfileMember} (hmembers : members.Nodup)
    (h : Within n members ks) : Cleans ks (freeSetDataProfileData n members) := by
  have hstring : ∀ k ∈ profileStrings n members, k.isArray = false ∧ home k = some .dataProfiles
      := by
    intro k hk
    obtain ⟨member, -, j, -, rfl⟩ := mem_profileStrings.mp hk
    exact ⟨rfl, rfl⟩
  refine ⟨orderly_append (profileStrings n members) ?_ ?_ ?_, ?_⟩
  · refine orderly_leaves _ (nodup_profileStrings n hmembers)
      (fun k hk => home_ne (hstring k hk).1) ?_
    intro k hk a ha
    rw [(hstring k hk).2] at ha
    exact Option.some.inj ha ▸ h.1
  · intro k hk hin
    obtain ⟨member, -, j, -, rfl⟩ := mem_profileStrings.mp hk
    simp at hin
  · refine ⟨fun a ha => (by cases ha), ?_, by simp, fun a ha => (by cases ha),
      fun k _ => home_ne rfl k, List.not_mem_nil, trivial⟩
    intro k hk hhome
    rw [List.mem_filter, decide_eq_true_iff] at hk
    rcases h.2 k hk.1 with rfl | rfl | hin
    · cases hhome
    · cases hhome
    · exact hk.2 (mem_profileStrings.mpr hin)
  · intro k hk
    show k ∈ profileStrings n members ++ [.dataProfiles, .dataProfilePtrs]
    rw [List.mem_append, mem_profileStrings]
    rcases h.2 k hk with rfl | rfl | hin
    · exact .inr List.mem_cons_self
    · exact .inr (List.mem_cons_of_mem _ List.mem_cons_self)
    · exact .inl hin

/-- The strings of one profile, one after the other. -/
theorem checked_profileCopies {n i : Nat} {members : List ProfileMember} {rest : List Stmt}
    (hmembers : members.Nodup) (hi : i < n) :
    ∀ (copies : List (ProfileMember × HidlString × Bool)) {ks : List Slot},
    Within n members ks → (copies.map Prod.fst).Nodup →
    (∀ c ∈ copies, c.1 ∈ members ∧ .dataProfilesAt i c.1 ∉ ks) →
    (∀ ks', Within n members ks' → (∀ k ∈ ks', k ∈ ks ∨ ∃ member, k = .dataProfilesAt i member) →
      Checked true (freeSetDataProfileData n members) ks' rest) →
    Checked true (freeSetDataProfileData n members) ks
      (copies.map (fun c => .copy (.dataProfilesAt i c.1) c.2.1 c.2.2
        (freeSetDataProfileData n members)) ++ rest) := by
  intro copies
  induction copies with
  | nil => exact fun h _ _ hrest => hrest _ h fun _ hk => .inl hk
  | cons c copies ih =>
      intro ks h hnodup hall hrest
      obtain ⟨hmember, hnew⟩ := hall c List.mem_cons_self
      rw [List.map_cons, List.nodup_cons] at hnodup
      have hwithin := within_cons h hi hmember
      refine ⟨hnew, rfl, ?_, cleans_profiles hmembers hwithin, ?_⟩
      · intro a ha
        exact Option.some.inj ha ▸ h.1
      · refine ih hwithin hnodup.2 ?_ ?_
        · intro c' hc'
          obtain ⟨hmember', hnew'⟩ := hall c' (List.mem_cons_of_mem c hc')
          refine ⟨hmember', ?_⟩
          rw [List.mem_cons, not_or]
          refine ⟨fun heq => hnodup.1 ?_, hnew'⟩
          exact (Slot.dataProfilesAt.inj heq).2 ▸ List.mem_map_of_mem hc'
        · intro ks' hks' hold
          refine hrest ks' hks' fun k hk => ?_
          rcases hold k hk with hk | hk
          · obtain rfl | hk := List.mem_cons.mp hk
            · exact .inr ⟨c.1, rfl⟩
            · exact .inl hk
          · exact .inr hk

theorem nodup_profileMembers (vendor : Vendor) : (profileMembers vendor).Nodup := by
  rw [profileMembers]
  split <;> decide

/-- One profile: its strings, a check of its type, and members that are set. -/
theorem checked_dataProfile {n i : Nat} {isRoaming : Bool} {info : DataProfileInfo}
    {rest : List Stmt} (hi : i < n) (h : Within n (profileMembers vendor) ks)
    (hnew : ∀ member, .dataProfilesAt i member ∉ ks)
    (hrest : ∀ ks', Within n (profileMembers vendor) ks' →
      (∀ k ∈ ks', k ∈ ks ∨ ∃ member, k = .dataProfilesAt i member) →
      Checked true (freeSetDataProfileData n (profileMembers vendor)) ks' rest) :
    Checked true (freeSetDataProfileData n (profileMembers vendor)) ks
      (dataProfile vendor isRoaming (freeSetDataProfileData n (profileMembers vendor)) i info
        ++ rest) := by
  have hmembers := nodup_profileMembers vendor
  rw [dataProfile]
  dsimp only
  split
  · rename_i hversion
    have hlist : profileMembers vendor = [.apn, .protocol, .user, .password] := if_pos hversion
    have hall : ∀ member ∈ [ProfileMember.apn, .protocol, .user, .password],
        member ∈ profileMembers vendor := fun member hmember => hlist ▸ hmember
    exact checked_profileCopies hmembers hi
      [(.apn, info.apn, true),
       (.protocol, if isRoaming then info.roamingProtocol else info.protocol, true),
       (.user, info.user, true), (.password, info.password, true)]
      h (of_decide_eq_true rfl) (fun c hc => ⟨hall c.1 (List.mem_map_of_mem hc), hnew c.1⟩) hrest
  · rename_i hversion
    have hlist : profileMembers vendor
        = [.apn, .protocol, .roamingProtocol, .user, .password, .mvnoMatchData] :=
      if_neg hversion
    have hall : ∀ member ∈ [ProfileMember.apn, .protocol, .roamingProtocol, .user, .password,
        .mvnoMatchData], member ∈ profileMembers vendor := fun member hmember => hlist ▸ hmember
    refine checked_profileCopies hmembers hi
      [(.apn, info.apn, true), (.protocol, info.protocol, false),
       (.roamingProtocol, info.roamingProtocol, true), (.user, info.user, true),
       (.password, info.password, true), (.mvnoMatchData, info.mvnoMatchData, true)]
      h (of_decide_eq_true rfl) (fun c hc => ⟨hall c.1 (List.mem_map_of_mem hc), hnew c.1⟩) ?_
    intro ks' hks' hold
    exact ⟨cleans_profiles hmembers hks', hrest ks' hks' hold⟩

theorem checked_dataProfilesFrom {n : Nat} (isRoaming : Bool) :
    ∀ (infos : List DataProfileInfo) {i : Nat} {ks : List Slot}, i + infos.length ≤ n →
      Within n (profileMembers vendor) ks →
      (∀ j member, i ≤ j → .dataProfilesAt j member ∉ ks) →
      Checked true (freeSetDataProfileData n (profileMembers vendor)) ks
        (dataProfilesFrom vendor isRoaming
          (freeSetDataProfileData n (profileMembers vendor)) i infos) := by
  intro infos
  induction infos with
  | nil => exact fun _ h _ => cleans_profiles (nodup_profileMembers vendor) h
  | cons info infos ih =>
      intro i ks hlen h hnew
      rw [List.length_cons] at hlen
      refine checked_dataProfile (by omega) h (fun member => hnew i member (Nat.le_refl i)) ?_
      intro ks' hks' hold
      refine ih (by omega) hks' fun j member hj hin => ?_
      rcases hold _ hin with hin | ⟨member', heq⟩
      · exact hnew j member (by omega) hin
      · have := (Slot.dataProfilesAt.inj heq).1
        omega

theorem ok_setDataProfile (profiles : List DataProfileInfo) (isRoaming : Bool) :
    (setDataProfile vendor profiles isRoaming).Ok true := by
  refine ⟨List.not_mem_nil, rfl, of_decide_eq_true rfl, by decide, rfl, of_decide_eq_true rfl, ?_⟩
  refine checked_dataProfilesFrom isRoaming profiles (Nat.le_of_eq (Nat.zero_add _)) ?_ ?_
  · refine ⟨by decide, fun k hk => ?_⟩
    simp only [List.mem_cons, List.not_mem_nil, or_false] at hk
    rcases hk with rfl | rfl
    · exact .inr (.inl rfl)
    · exact .inl rfl
  · intro j member _ hin
    simp at hin

-- ── The other bodies ──────────────────────────────────────────────────────

theorem ok_setInitialAttachApn (info : DataProfileInfo) (modemCognitive isRoaming : Bool) :
    (setInitialAttachApn vendor info modemCognitive isRoaming).Ok false := by
  rw [setInitialAttachApn]
  split
  · cases vendor.needsRoamingProtocolField <;> cases vendor.needsImsTypeField <;>
      exact of_decide_eq_true rfl
  · exact of_decide_eq_true rfl

theorem ok_dial (dialInfo : Dial) : (dial dialInfo).Ok false := by
  obtain ⟨_, _, uusInfo⟩ := dialInfo
  cases uusInfo with
  | nil => exact of_decide_eq_true rfl
  | cons uus rest =>
      rw [dial]
      dsimp only
      split <;> exact of_decide_eq_true rfl

theorem ok_sendImsSms (message : ImsSmsMessage) : (sendImsSms message).Ok false := by
  rw [sendImsSms]
  split
  · obtain ⟨_, _, _, _, gsmMessage⟩ := message
    cases gsmMessage with
    | nil => exact of_decide_eq_true rfl
    | cons gsm rest => cases rest <;> exact of_decide_eq_true rfl
  · rename_i htech
    refine checked_plain ?_
    rw [RilRadio.sendImsSms]
    dsimp only
    rw [if_neg htech]
    split
    · rw [dispatchImsCdmaSms]
      split
      · simp [constructCdmaSms, isPlain]
      · simp [isPlain]
    · simp [isPlain]

theorem ok_iccOpenLogicalChannel (aid : HidlString) (p2 : Int) :
    (iccOpenLogicalChannel vendor aid p2).Ok false := by
  rw [iccOpenLogicalChannel]
  split <;> exact of_decide_eq_true rfl

theorem ok_setAllowedCarriers (carriers : CarrierRestrictions) :
    (setAllowedCarriers carriers).Ok false := by
  have hset : ∀ l : List Carrier, ∀ f ∈ l.flatMap carrier, isSet f = true := by
    intro l f hf
    obtain ⟨c, -, hf⟩ := List.mem_flatMap.mp hf
    simp only [carrier, List.mem_cons, List.not_mem_nil, or_false] at hf
    rcases hf with rfl | rfl | rfl | rfl <;> rfl
  refine ⟨by decide, rfl, of_decide_eq_true rfl, by decide, rfl, of_decide_eq_true rfl, ?_⟩
  show Checked false _ _ ((carriers.allowedCarriers.flatMap carrier).map plainStmt
    ++ (carriers.excludedCarriers.flatMap carrier).map plainStmt)
  refine checked_sets (hset _) ?_
  rw [← List.append_nil ((carriers.excludedCarriers.flatMap carrier).map plainStmt)]
  exact checked_sets (hset _) (of_decide_eq_true rfl)

theorem ok_setupDataCall (radioTechnology : Int) (info : DataProfileInfo)
    (modemCognitive roamingAllowed isRoaming : Bool) :
    (dispatch (setupDataCall vendor radioTechnology info modemCognitive roamingAllowed
      isRoaming).fields).Ok false := by
  rw [setupDataCall]
  dsimp only
  split
  · exact ok_dispatch_strings _ _ _ _
  split
  · split
    · exact of_decide_eq_true rfl
    · exact ok_dispatch_strings _ _ _ _
  · exact of_decide_eq_true rfl

/-- **EVERY METHOD IS CHECKED.** -/
theorem script_ok (request : RadioRequest) :
    (script vendor request).Ok (freesItsOwn request) := by
  cases request with
  | dial dialInfo => exact ok_dial dialInfo
  | setInitialAttachApn info modemCognitive isRoaming =>
      exact ok_setInitialAttachApn info modemCognitive isRoaming
  | sendImsSms message => exact ok_sendImsSms message
  | iccOpenLogicalChannel aid p2 => exact ok_iccOpenLogicalChannel aid p2
  | setDataProfile profiles isRoaming => exact ok_setDataProfile profiles isRoaming
  | setAllowedCarriers allAllowed carriers => exact ok_setAllowedCarriers carriers
  | sendRequestStrings data => exact ok_dispatchStrings false data
  | setupDataCall radioTechnology info modemCognitive roamingAllowed isRoaming =>
      exact ok_setupDataCall radioTechnology info modemCognitive roamingAllowed isRoaming
  | setGsmBroadcastConfig configInfo =>
      exact ok_plain (plain_flatMap fun config _ => by simp [isPlain])
  | setCdmaBroadcastConfig configInfo =>
      exact ok_plain (plain_flatMap fun config _ => by simp [isPlain])
  | sendDeviceState deviceStateType state =>
      show (dispatch (sendDeviceState vendor deviceStateType state).fields).Ok false
      rw [sendDeviceState]
      split
      · split <;> exact of_decide_eq_true rfl
      · exact of_decide_eq_true rfl
  | setIndicationFilter indicationFilter =>
      show (dispatch (setIndicationFilter vendor indicationFilter).fields).Ok false
      rw [setIndicationFilter]
      split <;> exact of_decide_eq_true rfl
  | _ => exact of_decide_eq_true rfl

end Checks

-- ── Each request, and all of them ─────────────────────────────────────────

theorem withValue_dropped {v : Value} {out : Outcome × Mem Slot}
    (h : (withValue v out).1 = .dropped) : out.1 = .dropped := by
  obtain ⟨outcome, m⟩ := out
  cases outcome with
  | ready data => cases h
  | refused err => cases h
  | dropped => rfl

/-- Only a method that has allocated gives up without an answer. -/
theorem build_created (heap : Nat → Bool) : ∀ (stmts : List Stmt) (n : Nat) (m : Mem Slot),
    (build heap n m stmts).1 = .dropped →
    m.cells.created < (build heap n m stmts).2.cells.created := by
  intro stmts
  induction stmts with
  | nil => exact fun _ _ h => by cases h
  | cons stmt rest ih =>
      intro n m
      cases stmt with
      | set v => exact fun h => ih n m (withValue_dropped h)
      | calloc array onFail =>
          rw [build]
          split
          · intro h
            have hlt := ih (n + 1) _ h
            rw [calloc_created] at hlt
            omega
          · exact fun h => by cases h
      | copy dest src allowEmpty onFail =>
          rw [build]
          split
          · intro h
            have hlt := ih n _ (withValue_dropped h)
            rwa [put_created] at hlt
          split
          · exact fun h => by cases h
          split
          · intro _
            rw [freeAll_created, calloc_created]
            exact Nat.lt_succ_self _
          · intro h
            have hlt := ih (n + 1) _ (withValue_dropped h)
            rw [calloc_created] at hlt
            exact Nat.lt_of_succ_lt hlt
      | require ok err onFail =>
          rw [build]
          split
          · exact ih n m
          · exact fun h => by cases h

theorem exec_created {s : Script} {heap : Nat → Bool} {c : Cells}
    (h : (s.exec heap c).1 = .dropped) : c.created < (s.exec heap c).2.cells.created := by
  have hlt := build_created heap s.stmts 0 { cells := c }
  rw [Script.exec] at h ⊢
  split at h
  · cases h
  · exact hlt h

section Requests

variable (vendor : Vendor)

/-- A request is carried out on a heap. -/
def serve (request : RadioRequest) (heap : Nat → Bool) (c : Cells) : Cells :=
  ((script vendor request).exec heap c).2.cells

def isDropped : Outcome → Bool
  | .dropped => true
  | _ => false

/-- A copy of the request is lost. -/
def loses (request : RadioRequest) (heap : Nat → Bool) : Bool :=
  !freesItsOwn request && isDropped (marshal heap 0 (radioImpl vendor request).fields)

theorem lost_iff {request : RadioRequest} {heap : Nat → Bool} {c : Cells} :
    Lost (freesItsOwn request) ((script vendor request).exec heap c).1
      ↔ loses vendor request heap = true := by
  rw [exec_fst, script_field, loses, Bool.and_eq_true, Bool.not_eq_true']
  refine and_congr Iff.rfl ?_
  cases marshal heap 0 (radioImpl vendor request).fields <;> simp [isDropped]

/-- A request among blocks of others. -/
theorem serve_proper (request : RadioRequest) (heap : Nat → Bool) {c : Cells}
    {others : Nat → Prop} (h : Proper c others) :
    Proper (serve vendor request heap c) (fun b => others b
      ∨ loses vendor request heap = true ∧ b + 1 = (serve vendor request heap c).created) := by
  have hok : (script vendor request).Ok (freesItsOwn request) := script_ok request
  refine proper_congr (exec_proper hok h) fun b => ?_
  exact or_congr Iff.rfl (and_congr (lost_iff vendor).symm Iff.rfl)

/-- A request that was made, and the memory there was for it. -/
structure Call where
  request : RadioRequest
  heap : Nat → Bool

/-- All requests of a client, on one heap. -/
def serveAll (c : Cells) (calls : List Call) : Cells :=
  calls.foldl (fun c call => serve vendor call.request call.heap c) c

/-- Nobody owns a block but the copies that were lost. -/
theorem serveAll_proper : ∀ (calls : List Call) {c : Cells} {rs : List Nat},
    Proper c (· ∈ rs) → rs.Nodup →
    ∃ rs' : List Nat, Proper (serveAll vendor c calls) (· ∈ rs') ∧ rs'.Nodup
      ∧ rs'.length = rs.length + calls.countP (fun call => loses vendor call.request call.heap) := by
  intro calls
  induction calls with
  | nil => exact fun {c rs} h hnodup => ⟨rs, h, hnodup, rfl⟩
  | cons call calls ih =>
      intro c rs h hnodup
      have hone := serve_proper vendor call.request call.heap h
      rw [List.countP_cons]
      cases hloses : loses vendor call.request call.heap with
      | false =>
          have hsame : Proper (serve vendor call.request call.heap c) (· ∈ rs) := by
            refine proper_congr hone fun b => ⟨.inl, ?_⟩
            rintro (hb | ⟨hlost, -⟩)
            · exact hb
            · cases hloses.symm.trans hlost
          exact ih hsame hnodup
      | true =>
          -- the lost block is a new one
          have hlt : c.created < (serve vendor call.request call.heap c).created :=
            exec_created ((lost_iff vendor).mpr hloses).2
          obtain ⟨b, hb⟩ := Nat.exists_eq_succ_of_ne_zero (Nat.ne_of_gt (Nat.zero_lt_of_lt hlt))
          have hnew : b ∉ rs := fun hmem => by
            have hold := h.lt_created hmem
            omega
          have hmore : Proper (serve vendor call.request call.heap c) (· ∈ b :: rs) := by
            refine proper_congr hone fun q => ?_
            rw [List.mem_cons, or_comm]
            refine or_congr Iff.rfl ?_
            rw [hb, Nat.succ_eq_add_one, Nat.add_right_cancel_iff]
            exact ⟨fun hq => ⟨hloses, hq⟩, fun hq => hq.2⟩
          obtain ⟨rs', hproper, hnodup', hlen⟩ := ih hmore (List.nodup_cons.mpr ⟨hnew, hnodup⟩)
          refine ⟨rs', hproper, hnodup', ?_⟩
          rw [hlen, List.length_cons, if_pos rfl]
          omega

/-- `c_str()` ends where `size()` says, or before. -/
def Terminated : Field → Prop
  | .copy src _ => src.cStr.length ≤ src.size
  | _ => True

theorem marshal_not_dropped (heap : Nat → Bool) : ∀ (fields : List Field) (n : Nat),
    (∀ f ∈ fields, Terminated f) → marshal heap n fields ≠ .dropped := by
  have hcons : ∀ {v : Value} {o : Outcome}, o.cons v = .dropped → o = .dropped := by
    intro v o h
    cases o with
    | ready data => cases h
    | refused err => cases h
    | dropped => rfl
  intro fields
  induction fields with
  | nil => exact fun _ _ h => by cases h
  | cons f rest ih =>
      intro n hall h
      have hrest : ∀ k, marshal heap k rest ≠ .dropped :=
        fun k => ih k fun g hg => hall g (List.mem_cons_of_mem f hg)
      cases f with
      | int v => exact hrest n (hcons h)
      | str s => exact hrest n (hcons h)
      | bytes b => exact hrest n (hcons h)
      | copy src allowEmpty =>
          have hfits : src.cStr.length ≤ src.size := hall _ List.mem_cons_self
          rw [marshal] at h
          split at h
          · exact hrest n (hcons h)
          split at h
          · cases h
          split at h
          · omega
          · exact hrest (n + 1) (hcons h)
      | calloc =>
          rw [marshal] at h
          split at h
          · exact hrest (n + 1) h
          · cases h
      | require ok err =>
          rw [marshal] at h
          split at h
          · exact hrest n h
          · cases h

/-- **ALL BLOCKS ARE ACCOUNTED FOR**: however many requests are made and wherever
    memory runs out, no block is misused or freed twice, and the blocks that are
    not freed are as many as requests that lost a copy.  There are none when no
    string is longer than its `size()`. -/
theorem blocks_accounted (calls : List Call) :
    (serveAll vendor Cells.empty calls).misused = false
      ∧ (serveAll vendor Cells.empty calls).released.Nodup
      ∧ (serveAll vendor Cells.empty calls).created
          = (serveAll vendor Cells.empty calls).released.length
            + calls.countP (fun call => loses vendor call.request call.heap)
      ∧ ((∀ call ∈ calls, ∀ f ∈ (radioImpl vendor call.request).fields, Terminated f) →
          (serveAll vendor Cells.empty calls).created
            = (serveAll vendor Cells.empty calls).released.length) := by
  obtain ⟨rs, hproper, hnodup, hlen⟩ := serveAll_proper vendor calls
    (proper_empty fun r => List.not_mem_nil) List.nodup_nil
  have hcreated := created_eq_length hproper hnodup
  rw [hlen, List.length_nil, Nat.zero_add] at hcreated
  refine ⟨hproper.unmisused, hproper.once, hcreated, fun hall => ?_⟩
  have hnone : calls.countP (fun call => loses vendor call.request call.heap) = 0 := by
    rw [List.countP_eq_zero]
    intro call hcall hloses
    have hdropped := ((lost_iff vendor (c := Cells.empty)).mpr hloses).2
    rw [exec_fst, script_field] at hdropped
    exact marshal_not_dropped call.heap _ 0 (hall call hcall) hdropped
  rw [hcreated, hnone, Nat.add_zero]

end Requests

end RilRequestHeap

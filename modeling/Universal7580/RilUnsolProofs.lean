import Mathlib.Algebra.Group.Int.Defs
import Mathlib.Data.List.Basic

/-! # Unsolicited responses

    `RIL_onUnsolicitedResponse` finds the row of a response code in one of two
    tables: in the table of `ril.h`'s codes by the distance from the first one,
    in the vendor's table by a search.  The row's function sends the indication
    to the client.

    A code that no row belongs to only leaves a line in the log, and the pointer
    at the table's first row.  `unsol_dispatched` says for which codes the right
    thing happens. -/

namespace RilUnsol

-- ── The tables ───────────────────────────────────────────────────────────────

inductive WakeType where
  | dontWake
  | wakePartial
  deriving DecidableEq, Repr

/-- The functions of `ril_service.cpp` that the tables name. -/
inductive Indication where
  | radioStateChangedInd
  | callStateChangedInd
  | networkStateChangedInd
  | newSmsInd
  | newSmsStatusReportInd
  | newSmsOnSimInd
  | onUssdInd
  | nitzTimeReceivedInd
  | currentSignalStrengthInd
  | dataCallListChangedInd
  | suppSvcNotifyInd
  | stkSessionEndInd
  | stkProactiveCommandInd
  | stkEventNotifyInd
  | stkCallSetupInd
  | simSmsStorageFullInd
  | simRefreshInd
  | callRingInd
  | simStatusChangedInd
  | cdmaNewSmsInd
  | newBroadcastSmsInd
  | cdmaRuimSmsStorageFullInd
  | restrictedStateChangedInd
  | enterEmergencyCallbackModeInd
  | cdmaCallWaitingInd
  | cdmaOtaProvisionStatusInd
  | cdmaInfoRecInd
  | oemHookRawInd
  | indicateRingbackToneInd
  | resendIncallMuteInd
  | cdmaSubscriptionSourceChangedInd
  | cdmaPrlChangedInd
  | exitEmergencyCallbackModeInd
  | rilConnectedInd
  | voiceRadioTechChangedInd
  | cellInfoListInd
  | imsNetworkStateChangedInd
  | subscriptionStatusChangedInd
  | srvccStateNotifyInd
  | hardwareConfigChangedInd
  | radioCapabilityIndicationInd
  | onSupplementaryServiceIndicationInd
  | stkCallControlAlphaNotifyInd
  | lceDataInd
  | pcoDataInd
  | modemResetInd
  deriving DecidableEq, Repr

structure UnsolResponseInfo where
  requestNumber : Int
  responseFunction : Option Indication
  wakeType : WakeType
  deriving DecidableEq, Repr

def rilUnsolResponseBase : Int := 1000

def rilUnsolNitzTimeReceived : Int := 1008

/-- As the vendor's table says that it should be defined. -/
def samsungUnsolResponseBase : Int := 11000

/-- `s_unsolResponses`. -/
def sUnsolResponses : List UnsolResponseInfo :=
  [⟨1000, some .radioStateChangedInd, .wakePartial⟩,
   ⟨1001, some .callStateChangedInd, .wakePartial⟩,
   ⟨1002, some .networkStateChangedInd, .wakePartial⟩,
   ⟨1003, some .newSmsInd, .wakePartial⟩,
   ⟨1004, some .newSmsStatusReportInd, .wakePartial⟩,
   ⟨1005, some .newSmsOnSimInd, .wakePartial⟩,
   ⟨1006, some .onUssdInd, .wakePartial⟩,
   ⟨1007, some .onUssdInd, .dontWake⟩,
   ⟨1008, some .nitzTimeReceivedInd, .wakePartial⟩,
   ⟨1009, some .currentSignalStrengthInd, .dontWake⟩,
   ⟨1010, some .dataCallListChangedInd, .wakePartial⟩,
   ⟨1011, some .suppSvcNotifyInd, .wakePartial⟩,
   ⟨1012, some .stkSessionEndInd, .wakePartial⟩,
   ⟨1013, some .stkProactiveCommandInd, .wakePartial⟩,
   ⟨1014, some .stkEventNotifyInd, .wakePartial⟩,
   ⟨1015, some .stkCallSetupInd, .wakePartial⟩,
   ⟨1016, some .simSmsStorageFullInd, .wakePartial⟩,
   ⟨1017, some .simRefreshInd, .wakePartial⟩,
   ⟨1018, some .callRingInd, .wakePartial⟩,
   ⟨1019, some .simStatusChangedInd, .wakePartial⟩,
   ⟨1020, some .cdmaNewSmsInd, .wakePartial⟩,
   ⟨1021, some .newBroadcastSmsInd, .wakePartial⟩,
   ⟨1022, some .cdmaRuimSmsStorageFullInd, .wakePartial⟩,
   ⟨1023, some .restrictedStateChangedInd, .wakePartial⟩,
   ⟨1024, some .enterEmergencyCallbackModeInd, .wakePartial⟩,
   ⟨1025, some .cdmaCallWaitingInd, .wakePartial⟩,
   ⟨1026, some .cdmaOtaProvisionStatusInd, .wakePartial⟩,
   ⟨1027, some .cdmaInfoRecInd, .wakePartial⟩,
   ⟨1028, some .oemHookRawInd, .wakePartial⟩,
   ⟨1029, some .indicateRingbackToneInd, .wakePartial⟩,
   ⟨1030, some .resendIncallMuteInd, .wakePartial⟩,
   ⟨1031, some .cdmaSubscriptionSourceChangedInd, .wakePartial⟩,
   ⟨1032, some .cdmaPrlChangedInd, .wakePartial⟩,
   ⟨1033, some .exitEmergencyCallbackModeInd, .wakePartial⟩,
   ⟨1034, some .rilConnectedInd, .wakePartial⟩,
   ⟨1035, some .voiceRadioTechChangedInd, .wakePartial⟩,
   ⟨1036, some .cellInfoListInd, .wakePartial⟩,
   ⟨1037, some .imsNetworkStateChangedInd, .wakePartial⟩,
   ⟨1038, some .subscriptionStatusChangedInd, .wakePartial⟩,
   ⟨1039, some .srvccStateNotifyInd, .wakePartial⟩,
   ⟨1040, some .hardwareConfigChangedInd, .wakePartial⟩,
   ⟨1041, none, .wakePartial⟩,
   ⟨1042, some .radioCapabilityIndicationInd, .wakePartial⟩,
   ⟨1043, some .onSupplementaryServiceIndicationInd, .wakePartial⟩,
   ⟨1044, some .stkCallControlAlphaNotifyInd, .wakePartial⟩,
   ⟨1045, some .lceDataInd, .wakePartial⟩,
   ⟨1046, some .pcoDataInd, .wakePartial⟩,
   ⟨1047, some .modemResetInd, .wakePartial⟩]

/-- `s_unsolResponses_v`: 33 rows from `SAMSUNG_UNSOL_RESPONSE_BASE` on, and two
    more where their codes are defined.  None has a function. -/
def sUnsolResponsesV (wbAmrReport clockCtrl : Bool) : List UnsolResponseInfo :=
  ((List.range 33).map fun i => ⟨samsungUnsolResponseBase + i, none, .wakePartial⟩)
    ++ (if wbAmrReport then [⟨20017, none, .wakePartial⟩] else [])
    ++ (if clockCtrl then [⟨20022, none, .wakePartial⟩] else [])

-- ── RIL_onUnsolicitedResponse ────────────────────────────────────────────────

/-- What the function finds: whether `RIL_register` was called, the version of
    the vendor RIL, which optional rows are there, what the response function
    returns, and whether there is memory for the wake timer and for the copy of
    the network time. -/
structure Env where
  registerCalled : Bool
  version : Int
  wbAmrReport : Bool
  clockCtrl : Bool
  ret : Int
  timer : Bool
  calloc : Bool
  deriving DecidableEq, Repr

def Env.vendorTable (env : Env) : List UnsolResponseInfo :=
  sUnsolResponsesV env.wbAmrReport env.clockCtrl

/-- What the function does, in order. -/
inductive Effect where
  | grabPartialWakeLock
  | rdlock
  | wrlock
  | setNitzTimeReceived
  | call (f : Indication) (responseType : Nat)
  | unlock
  | wakeTimer (added : Bool)
  | copyNitz (copied : Bool)
  | releaseWakeLock
  deriving DecidableEq, Repr

def responseUnsolicited : Nat := 1

def responseUnsolicitedAckExp : Nat := 4

/-- The loop over the vendor's table; `index` is what the variable held. -/
def vendorIndex (table : List UnsolResponseInfo) (unsolResponse index : Int) : Int :=
  table.zipIdx.foldl
    (fun index row => if row.1.requestNumber = unsolResponse then (row.2 : Int) else index) index

/-- The row that the pointer is at when the index was used: the table's first
    for an index outside of the table. -/
def rowAt (table : List UnsolResponseInfo) (index : Int) : Option UnsolResponseInfo :=
  if 0 ≤ index ∧ index < table.length then table[index.toNat]? else table[0]?

def selectRow (vendor : List UnsolResponseInfo) (unsolResponse : Int) : Option UnsolResponseInfo :=
  let index := unsolResponse - rilUnsolResponseBase
  if unsolResponse > samsungUnsolResponseBase then
    rowAt vendor (vendorIndex vendor unsolResponse index)
  else rowAt sUnsolResponses index

/-- The end of the function: without a client, the network time is kept. -/
def keepNitz (env : Env) (unsolResponse : Int) (wakes : Bool) : List Effect :=
  if env.ret ≠ 0 ∧ unsolResponse = rilUnsolNitzTimeReceived then
    .copyNitz env.calloc
      :: if env.calloc = false ∧ wakes = true then [.releaseWakeLock] else []
  else []

/-- From the wake lock on, with the row's function. -/
def dispatch (env : Env) (unsolResponse : Int) (f : Indication) (wakeType : WakeType) :
    List Effect :=
  let wakes : Bool := wakeType = .wakePartial
  let responseType :=
    if env.version ≥ 13 ∧ wakes = true then responseUnsolicitedAckExp else responseUnsolicited
  (if wakes then [.grabPartialWakeLock] else [])
    ++ (if unsolResponse = rilUnsolNitzTimeReceived then [.wrlock, .setNitzTimeReceived]
        else [.rdlock])
    ++ [.call f responseType, .unlock]
    ++ if env.version < 13 ∧ wakes = true then
        if env.timer then .wakeTimer true :: keepNitz env unsolResponse wakes
        else [.wakeTimer false, .releaseWakeLock]
      else keepNitz env unsolResponse wakes

/-- `RIL_onUnsolicitedResponse`.  The build has `LOCAL_SANITIZE := integer`: where
    the difference to the first code does not fit, the function aborts. -/
def onUnsolicitedResponse (env : Env) (unsolResponse : BitVec 32) : Option (List Effect) :=
  if env.registerCalled = false then some []
  else if unsolResponse.toInt - rilUnsolResponseBase < -2 ^ 31 then none
  else
    match selectRow env.vendorTable unsolResponse.toInt with
    | none => some []
    | some row =>
        match row.responseFunction with
        | none => some []
        | some f => some (dispatch env unsolResponse.toInt f row.wakeType)

-- ── What is asked of it ──────────────────────────────────────────────────────

/-- The function an effect calls. -/
def Effect.called : Effect → Option Indication
  | .call f _ => some f
  | _ => none

/-- The rows of both tables. -/
def Env.rows (env : Env) : List UnsolResponseInfo := sUnsolResponses ++ env.vendorTable

/-- **DISPATCHED**: a function is called exactly if a row has the code and a
    function; that row's function is called, and once, with its wake type; and
    for any other code nothing is done at all. -/
structure Dispatched (env : Env) (unsolResponse : BitVec 32) (done : Option (List Effect)) :
    Prop where
  invoked : (∃ effects, done = some effects ∧ effects.filterMap Effect.called ≠ [])
    ↔ ∃ row ∈ env.rows, row.requestNumber = unsolResponse.toInt ∧ row.responseFunction ≠ none
  entry : ∀ row ∈ env.rows, row.requestNumber = unsolResponse.toInt →
    ∀ f, row.responseFunction = some f → ∃ effects, done = some effects
      ∧ effects.filterMap Effect.called = [f]
      ∧ (.grabPartialWakeLock ∈ effects ↔ row.wakeType = .wakePartial)
  dropped : (∀ row ∈ env.rows, row.requestNumber = unsolResponse.toInt →
    row.responseFunction = none) → done = some []

-- ── Which row is selected ────────────────────────────────────────────────────

/-- The table's codes are consecutive, as `RIL_register` asserts. -/
theorem sUnsolResponses_consecutive : ∀ i : Fin 48,
    (sUnsolResponses[i.val]?).map UnsolResponseInfo.requestNumber
      = some (rilUnsolResponseBase + i.val) := by
  decide

theorem sUnsolResponses_at : ∀ row ∈ sUnsolResponses,
    rilUnsolResponseBase ≤ row.requestNumber ∧ row.requestNumber < rilUnsolResponseBase + 48
      ∧ sUnsolResponses[(row.requestNumber - rilUnsolResponseBase).toNat]? = some row := by
  decide

theorem sUnsolResponsesV_rows (wbAmrReport clockCtrl : Bool) :
    ∀ row ∈ sUnsolResponsesV wbAmrReport clockCtrl,
      row.responseFunction = none ∧ samsungUnsolResponseBase ≤ row.requestNumber := by
  cases wbAmrReport <;> cases clockCtrl <;> decide

section Select

variable {env : Env} {code : Int}

theorem rowAt_mem {table : List UnsolResponseInfo} {index : Int} {row : UnsolResponseInfo}
    (h : rowAt table index = some row) : row ∈ table := by
  rw [rowAt] at h
  split at h
  · exact List.mem_of_getElem? h
  · exact List.mem_of_getElem? h

/-- A vendor's code selects a row without a function. -/
theorem selectRow_vendor (hcode : samsungUnsolResponseBase < code) {row : UnsolResponseInfo}
    (h : selectRow env.vendorTable code = some row) : row.responseFunction = none := by
  rw [selectRow, if_pos hcode] at h
  exact (sUnsolResponsesV_rows _ _ row (rowAt_mem h)).1

/-- A code of the first table selects its row. -/
theorem selectRow_in_range (hlow : rilUnsolResponseBase ≤ code)
    (hhigh : code < rilUnsolResponseBase + 48) :
    ∃ row, selectRow env.vendorTable code = some row ∧ row ∈ sUnsolResponses
      ∧ row.requestNumber = code := by
  have hindex : (code - rilUnsolResponseBase).toNat < 48 := by
    rw [rilUnsolResponseBase] at *
    omega
  obtain ⟨row, hrow, hnumber⟩ := Option.map_eq_some_iff.mp
    (sUnsolResponses_consecutive ⟨(code - rilUnsolResponseBase).toNat, hindex⟩)
  refine ⟨row, ?_, List.mem_of_getElem? hrow, ?_⟩
  · rw [selectRow, if_neg, rowAt, if_pos]
    · exact hrow
    · rw [show sUnsolResponses.length = 48 from rfl]
      rw [rilUnsolResponseBase] at *
      omega
    · rw [rilUnsolResponseBase] at hhigh
      rw [samsungUnsolResponseBase]
      omega
  · rw [hnumber]
    show rilUnsolResponseBase + ((code - rilUnsolResponseBase).toNat : Int) = code
    omega

/-- Any other code is taken for the first row's. -/
theorem selectRow_out_of_range (hvendor : ¬ samsungUnsolResponseBase < code)
    (hrange : ¬ (rilUnsolResponseBase ≤ code ∧ code < rilUnsolResponseBase + 48)) :
    selectRow env.vendorTable code
      = some ⟨rilUnsolResponseBase, some .radioStateChangedInd, .wakePartial⟩ := by
  rw [selectRow, if_neg hvendor, rowAt, if_neg]
  · rfl
  · rw [show sUnsolResponses.length = 48 from rfl]
    rw [rilUnsolResponseBase] at *
    omega

/-- A row with a function is a row of the first table, and the only one with its
    code. -/
theorem row_with_function {row : UnsolResponseInfo} (hrow : row ∈ env.rows) {f : Indication}
    (hf : row.responseFunction = some f) : row ∈ sUnsolResponses := by
  rcases List.mem_append.mp hrow with hrow | hrow
  · exact hrow
  · have hnone := (sUnsolResponsesV_rows _ _ row hrow).1
    rw [hf] at hnone
    cases hnone

theorem row_unique {row row' : UnsolResponseInfo} (hrow : row ∈ sUnsolResponses)
    (hrow' : row' ∈ sUnsolResponses) (h : row.requestNumber = row'.requestNumber) : row = row' := by
  have hat := (sUnsolResponses_at row hrow).2.2
  have hat' := (sUnsolResponses_at row' hrow').2.2
  rw [h, hat'] at hat
  exact (Option.some.inj hat).symm

end Select

-- ── The dispatch ─────────────────────────────────────────────────────────────

section Dispatch

variable {env : Env} {code : BitVec 32}

theorem called_dispatch (env : Env) (code : Int) (f : Indication) (wakeType : WakeType) :
    (dispatch env code f wakeType).filterMap Effect.called = [f] := by
  cases wakeType with
  | dontWake =>
      simp [dispatch, keepNitz]
      split_ifs <;> rfl
  | wakePartial =>
      simp [dispatch, keepNitz]
      split_ifs <;> rfl

theorem grab_mem_dispatch (env : Env) (code : Int) (f : Indication) (wakeType : WakeType) :
    .grabPartialWakeLock ∈ dispatch env code f wakeType ↔ wakeType = .wakePartial := by
  cases wakeType with
  | dontWake =>
      simp [dispatch, keepNitz]
      split_ifs <;> simp
  | wakePartial => simp [dispatch, keepNitz]

/-- Where no row with the code has a function, doing nothing is right. -/
theorem dispatched_nothing
    (h : ∀ row ∈ env.rows, row.requestNumber = code.toInt → row.responseFunction = none) :
    Dispatched env code (some []) where
  invoked := by
    constructor
    · rintro ⟨effects, hdone, hcalled⟩
      exact absurd (by rw [← Option.some.inj hdone]; rfl) hcalled
    · rintro ⟨row, hrow, hnumber, hf⟩
      exact absurd (h row hrow hnumber) hf
  entry := by
    intro row hrow hnumber f hf
    rw [h row hrow hnumber] at hf
    cases hf
  dropped := fun _ => rfl

/-- Where there is such a row, dispatching it is right. -/
theorem dispatched_row {row : UnsolResponseInfo} {f : Indication} (hrow : row ∈ sUnsolResponses)
    (hnumber : row.requestNumber = code.toInt) (hf : row.responseFunction = some f) :
    Dispatched env code (some (dispatch env code.toInt f row.wakeType)) where
  invoked := by
    refine iff_of_true ⟨_, rfl, ?_⟩ ⟨row, List.mem_append_left _ hrow, hnumber, ?_⟩
    · rw [called_dispatch]
      exact List.cons_ne_nil f []
    · rw [hf]
      exact Option.some_ne_none f
  entry := by
    intro row' hrow' hnumber' f' hf'
    obtain rfl := row_unique (row_with_function hrow' hf') hrow (hnumber'.trans hnumber.symm)
    obtain rfl := Option.some.inj (hf.symm.trans hf')
    exact ⟨_, rfl, called_dispatch .., grab_mem_dispatch ..⟩
  dropped := by
    intro hnone
    rw [hnone row (List.mem_append_left _ hrow) hnumber] at hf
    cases hf

/-- A code outside of the first table has no row with a function. -/
theorem no_function_outside {row : UnsolResponseInfo} (hrow : row ∈ env.rows)
    (hnumber : row.requestNumber = code.toInt)
    (hrange : ¬ (rilUnsolResponseBase ≤ code.toInt ∧ code.toInt < rilUnsolResponseBase + 48)) :
    row.responseFunction = none := by
  cases hf : row.responseFunction with
  | none => rfl
  | some f =>
      have hin := sUnsolResponses_at row (row_with_function hrow hf)
      rw [hnumber] at hin
      exact absurd ⟨hin.1, hin.2.1⟩ hrange

/-- The vendor's rows have no function, and no other row has a vendor's code. -/
theorem dispatched_vendor (hregistered : ¬ env.registerCalled = false)
    (hvendor : samsungUnsolResponseBase < code.toInt) :
    Dispatched env code (onUnsolicitedResponse env code) := by
  have hhigh : rilUnsolResponseBase + 48 ≤ code.toInt := by
    rw [samsungUnsolResponseBase] at hvendor
    rw [rilUnsolResponseBase]
    omega
  have hfits : ¬ code.toInt - rilUnsolResponseBase < -2 ^ 31 := by omega
  have hnone : ∀ row ∈ env.rows, row.requestNumber = code.toInt → row.responseFunction = none :=
    fun row hrow hnumber => no_function_outside hrow hnumber (by omega)
  rw [onUnsolicitedResponse, if_neg hregistered, if_neg hfits]
  cases hselect : selectRow env.vendorTable code.toInt with
  | none => exact dispatched_nothing hnone
  | some row =>
      dsimp only
      rw [selectRow_vendor hvendor hselect]
      exact dispatched_nothing hnone

/-- The row of a code of the first table is the only one with a function. -/
theorem dispatched_in_range (hregistered : ¬ env.registerCalled = false)
    (hlow : rilUnsolResponseBase ≤ code.toInt) (hhigh : code.toInt < rilUnsolResponseBase + 48) :
    Dispatched env code (onUnsolicitedResponse env code) := by
  have hfits : ¬ code.toInt - rilUnsolResponseBase < -2 ^ 31 := by omega
  obtain ⟨row, hselect, hrow, hnumber⟩ := @selectRow_in_range env _ hlow hhigh
  rw [onUnsolicitedResponse, if_neg hregistered, if_neg hfits, hselect]
  dsimp only
  cases hf : row.responseFunction with
  | none =>
      refine dispatched_nothing fun row' hrow' hnumber' => ?_
      cases hf' : row'.responseFunction with
      | none => rfl
      | some f =>
          obtain rfl := row_unique (row_with_function hrow' hf') hrow
            (hnumber'.trans hnumber.symm)
          cases hf.symm.trans hf'
  | some f => exact dispatched_row hrow hnumber hf

/-- Any other code is taken for the first row's. -/
theorem not_dispatched_elsewhere (hregistered : ¬ env.registerCalled = false)
    (hvendor : ¬ samsungUnsolResponseBase < code.toInt)
    (hrange : ¬ (rilUnsolResponseBase ≤ code.toInt ∧ code.toInt < rilUnsolResponseBase + 48)) :
    ¬ Dispatched env code (onUnsolicitedResponse env code) := by
  intro hright
  have hdropped := hright.dropped fun row hrow hnumber => no_function_outside hrow hnumber hrange
  rw [onUnsolicitedResponse, if_neg hregistered] at hdropped
  split at hdropped
  · cases hdropped
  · rw [selectRow_out_of_range hvendor hrange] at hdropped
    have hcalled := called_dispatch env code.toInt .radioStateChangedInd .wakePartial
    rw [Option.some.inj hdropped] at hcalled
    cases hcalled

/-- **UNSOLICITED DISPATCH** is right exactly for the vendor's codes and the codes
    of the first table. -/
theorem unsol_dispatched (env : Env) (code : BitVec 32) (hregistered : env.registerCalled = true) :
    Dispatched env code (onUnsolicitedResponse env code)
      ↔ samsungUnsolResponseBase < code.toInt
        ∨ (rilUnsolResponseBase ≤ code.toInt ∧ code.toInt < rilUnsolResponseBase + 48) := by
  have hregistered' : ¬ env.registerCalled = false := by
    rw [hregistered]
    exact fun h => by cases h
  by_cases hvendor : samsungUnsolResponseBase < code.toInt
  · exact iff_of_true (dispatched_vendor hregistered' hvendor) (Or.inl hvendor)
  by_cases hrange : rilUnsolResponseBase ≤ code.toInt ∧ code.toInt < rilUnsolResponseBase + 48
  · exact iff_of_true (dispatched_in_range hregistered' hrange.1 hrange.2) (Or.inr hrange)
  · exact iff_of_false (not_dispatched_elsewhere hregistered' hvendor hrange)
      (fun h => h.elim hvendor hrange)

/-- A registered vendor RIL of version 12, with a connected client. -/
def registered : Env where
  registerCalled := true
  version := 12
  wbAmrReport := true
  clockCtrl := true
  ret := 0
  timer := true
  calloc := true

/-- `RIL_UNSOL_RESPONSE_NEW_SMS`. -/
theorem unsol_dispatched_newSms :
    Dispatched registered 1003 (onUnsolicitedResponse registered 1003) :=
  (unsol_dispatched registered 1003 rfl).mpr (Or.inr (by decide))

/-- `RIL_UNSOL_CARRIER_INFO_IMSI_ENCRYPTION`, the first code of `ril.h` behind
    the table, is sent as a change of the radio state. -/
theorem sent_as_radio_state :
    ¬ ∀ (env : Env) (code : BitVec 32), env.registerCalled = true →
      Dispatched env code (onUnsolicitedResponse env code) := by
  intro hclaim
  have hright := hclaim registered 1048 rfl
  have hdropped := hright.dropped (by decide)
  revert hdropped
  decide

end Dispatch

end RilUnsol

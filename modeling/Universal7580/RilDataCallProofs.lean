import Mathlib.Data.Nat.GCD.Basic
import Universal7580.RilResponseProofs

/-! # Lists of data calls (`ril_service.cpp`)

    A vendor RIL reports its data calls as an array of structures, of which there
    are three versions, each with one member more than the one before.  Nothing
    says which version an array is of: `convertRilDataCallListToHal` tries the
    newest first and takes the one whose size divides the length.

    `recognised_iff`: an array is read as the version that it is of exactly when
    no newer version's size divides its length.  `lists_inside`: whatever the
    pointer and the length, only the response is read, but for
    `setupDataCallResponse`, which reads a structure where the length is zero. -/

namespace RilDataCall

open ByteLoad ByteLoad.Load RilResponse

-- ── The structures ────────────────────────────────────────────────────────

/-- `RIL_Data_Call_Response_v6`, `_v9` and `_v11`. -/
inductive Version where
  | v6
  | v9
  | v11
  deriving DecidableEq, Repr

/-- How many pointers would fill the space of a structure: four ints, the
    pointers, and in the last version another int. -/
def units : Abi → Version → Nat
  | .arm, .v6 => 9
  | .arm, .v9 => 10
  | .arm, .v11 => 11
  | .arm64, .v6 => 7
  | .arm64, .v9 => 8
  | .arm64, .v11 => 9

/-- `sizeof`. -/
def size (abi : Abi) (version : Version) : Nat := units abi version * abi.pointerSize

/-- `DataCallFailCause::ERROR_UNSPECIFIED`. -/
def errorUnspecified : Int := 65535

structure SetupDataCallResult where
  status : Int := 0
  suggestedRetryTime : Int := 0
  cid : Int := 0
  active : Int := 0
  type : String := ""
  ifname : String := ""
  addresses : String := ""
  dnses : String := ""
  gateways : String := ""
  pcscf : String := ""
  mtu : Int := 0
  deriving DecidableEq, Repr

/-- The build, and the strings in the vendor's memory.  `xmm` is
    `MODEM_TYPE_XMM6262` or `MODEM_TYPE_XMM6260`. -/
structure Vendor where
  abi : Abi
  text : Nat → String
  xmm : Bool := false

-- ── Reading ───────────────────────────────────────────────────────────────

/-- The `k`-th of the pointers that come after the four ints. -/
def string (vendor : Vendor) (dcResponse k : Nat) : Load String := do
  let ptr ← nat (dcResponse + 16 + k * vendor.abi.pointerSize) vendor.abi.pointerSize
  pure (convertCharPtrToHidlString vendor.text ptr)

/-- The members that all versions have. -/
def convertCommon (vendor : Vendor) (dcResponse : Nat) : Load SetupDataCallResult := do
  let status ← int32 dcResponse
  let suggestedRetryTime ← int32 (dcResponse + 4)
  let cid ← int32 (dcResponse + 8)
  let active ← int32 (dcResponse + 12)
  let type ← string vendor dcResponse 0
  let ifname ← string vendor dcResponse 1
  let addresses ← string vendor dcResponse 2
  let dnses ← string vendor dcResponse 3
  pure { status := status, suggestedRetryTime := suggestedRetryTime, cid := cid
         active := active, type := type, ifname := ifname, addresses := addresses
         dnses := dnses }

/-- The three functions `convertRilDataCallToHal`. -/
def convertRilDataCallToHal (vendor : Vendor) (version : Version) (dcResponse : Nat) :
    Load SetupDataCallResult := do
  let dcResult ← convertCommon vendor dcResponse
  match version with
  | .v6 =>
      let gateways ← string vendor dcResponse (if vendor.xmm then 2 else 4)
      pure { dcResult with gateways := gateways }
  | .v9 =>
      let gateways ← string vendor dcResponse 4
      let pcscf ← string vendor dcResponse 5
      pure { dcResult with gateways := gateways, pcscf := pcscf }
  | .v11 =>
      let gateways ← string vendor dcResponse 4
      let pcscf ← string vendor dcResponse 5
      let mtu ← int32 (dcResponse + 16 + 6 * vendor.abi.pointerSize)
      pure { dcResult with gateways := gateways, pcscf := pcscf, mtu := mtu }

/-- An array of `num` structures. -/
def convertArray (vendor : Vendor) (version : Version) (response num : Nat) :
    Load (List SetupDataCallResult) :=
  collect (fun i => convertRilDataCallToHal vendor version
    (response + i * size vendor.abi version)) 0 num

/-- The version whose size divides a length; the newest one, if several do. -/
def versionOf (abi : Abi) (responseLen : Nat) : Option Version :=
  if responseLen % size abi .v11 = 0 then some .v11
  else if responseLen % size abi .v9 = 0 then some .v9
  else if responseLen % size abi .v6 = 0 then some .v6
  else none

def convertRilDataCallListToHal (vendor : Vendor) (response responseLen : Nat) :
    Load (List SetupDataCallResult) :=
  match versionOf vendor.abi responseLen with
  | some version =>
      convertArray vendor version response (responseLen / size vendor.abi version)
  | none => pure []

-- ── The functions ─────────────────────────────────────────────────────────

/-- What a list response passes to the client, if there is one. -/
def getDataCallListResponse (vendor : Vendor) (service : RadioService)
    (responseType serial e : Int) (response : Option Nat) (responseLen : Nat) :
    Load (Option (RadioResponseInfo × List SetupDataCallResult)) :=
  if service.mRadioResponse then
    let responseInfo := populateResponseInfo ⟨.solicited, 0, 0⟩ serial responseType e
    match response with
    | none =>
        if responseLen ≠ 0 ∨ versionOf vendor.abi responseLen = none then
          pure (some (responseInfo.refuse e, []))
        else do
          let ret ← convertRilDataCallListToHal vendor 0 responseLen
          pure (some (responseInfo, ret))
    | some p =>
        if versionOf vendor.abi responseLen = none then
          pure (some (responseInfo.refuse e, []))
        else do
          let ret ← convertRilDataCallListToHal vendor p responseLen
          pure (some (responseInfo, ret))
  else pure none

def dataCallListChangedInd (vendor : Vendor) (service : Option RadioService)
    (indicationType : Int) (response : Option Nat) (responseLen : Nat) :
    Load (Option (RadioIndicationType × List SetupDataCallResult)) :=
  match service with
  | none => pure none
  | some service =>
      if service.mRadioIndication then
        match response with
        | none =>
            if responseLen ≠ 0 ∨ versionOf vendor.abi responseLen = none then pure none
            else do
              let dcList ← convertRilDataCallListToHal vendor 0 responseLen
              pure (some (convertIntToRadioIndicationType indicationType, dcList))
        | some p =>
            if versionOf vendor.abi responseLen = none then pure none
            else do
              let dcList ← convertRilDataCallListToHal vendor p responseLen
              pure (some (convertIntToRadioIndicationType indicationType, dcList))
      else pure none

/-- One data call, though the length may be that of several.  A missing response
    is no error. -/
def setupDataCallResponse (vendor : Vendor) (service : RadioService)
    (responseType serial e : Int) (response : Option Nat) (responseLen : Nat) :
    Load (Option (RadioResponseInfo × SetupDataCallResult)) :=
  if service.mRadioResponse then
    let responseInfo := populateResponseInfo ⟨.solicited, 0, 0⟩ serial responseType e
    match response with
    | none => pure (some (responseInfo, { status := errorUnspecified }))
    | some p =>
        match versionOf vendor.abi responseLen with
        | none => pure (some (responseInfo.refuse e, { status := errorUnspecified }))
        | some version => do
            let result ← convertRilDataCallToHal vendor version p
            pure (some (responseInfo, result))
  else pure none

-- ── What a structure's reading touches ────────────────────────────────────

section Reads

variable {vendor : Vendor} {m : Memory} {p : Nat}

theorem pointerSize_cases (abi : Abi) : abi.pointerSize = 4 ∨ abi.pointerSize = 8 := by
  cases abi with
  | arm => exact .inl rfl
  | arm64 => exact .inr rfl

/-- A size is that of four ints and of the pointers, the last int rounded up. -/
theorem size_eq (abi : Abi) (version : Version) :
    size abi version = 16 + abi.pointerSize *
      (match version with
        | .v6 => 5
        | .v9 => 6
        | .v11 => 7) := by
  cases abi <;> cases version <;> rfl

theorem size_pos (abi : Abi) (version : Version) : 0 < size abi version := by
  cases abi <;> cases version <;> decide

@[simp] theorem reads_string (k : Nat) :
    (string vendor p k).reads m
      = List.range' (p + 16 + k * vendor.abi.pointerSize) vendor.abi.pointerSize := by
  rw [string, reads_bind, reads_nat, reads_pure, List.append_nil]

theorem mem_reads_common {address : Nat} :
    address ∈ (convertCommon vendor p).reads m
      ↔ p ≤ address ∧ address < p + 16 + 4 * vendor.abi.pointerSize := by
  have hpointer := pointerSize_cases vendor.abi
  simp only [convertCommon, reads_bind, reads_int32, reads_string, reads_pure, List.mem_append,
    List.mem_range'_1, List.not_mem_nil, or_false]
  rcases hpointer with h | h <;> rw [h] <;> omega

/-- **A STRUCTURE** is read inside its own bytes, the first of them among these. -/
theorem reads_convert (version : Version) :
    (∀ address ∈ (convertRilDataCallToHal vendor version p).reads m,
      p ≤ address ∧ address < p + size vendor.abi version)
      ∧ p ∈ (convertRilDataCallToHal vendor version p).reads m := by
  have hsize := size_eq vendor.abi version
  have hpointer := pointerSize_cases vendor.abi
  have hfirst : p ∈ (convertRilDataCallToHal vendor version p).reads m := by
    rw [convertRilDataCallToHal, reads_bind, List.mem_append, mem_reads_common]
    exact .inl ⟨Nat.le_refl p, by omega⟩
  refine ⟨fun address haddress => ?_, hfirst⟩
  rw [convertRilDataCallToHal, reads_bind, List.mem_append, mem_reads_common] at haddress
  rw [hsize]
  rcases haddress with haddress | haddress
  · cases version <;> dsimp only <;> omega
  · cases version with
    | v6 =>
        simp only [reads_bind, reads_string, reads_pure, List.append_nil, List.mem_range'_1]
          at haddress
        dsimp only
        split at haddress <;> omega
    | v9 =>
        simp only [reads_bind, reads_string, reads_pure, List.append_nil, List.mem_append,
          List.mem_range'_1] at haddress
        dsimp only
        omega
    | v11 =>
        simp only [reads_bind, reads_string, reads_int32, reads_pure, List.append_nil,
          List.mem_append, List.mem_range'_1] at haddress
        dsimp only
        omega

theorem reads_convertArray (version : Version) {num : Nat} :
    ∀ address ∈ (convertArray vendor version p num).reads m,
      p ≤ address ∧ address < p + num * size vendor.abi version :=
  collect_inside fun _ _ => (reads_convert version).1

/-- **AN ARRAY** is read inside the response. -/
theorem reads_convertList {responseLen : Nat} :
    ∀ address ∈ (convertRilDataCallListToHal vendor p responseLen).reads m,
      p ≤ address ∧ address < p + responseLen := by
  intro address haddress
  rw [convertRilDataCallListToHal] at haddress
  split at haddress
  · rename_i version _
    obtain ⟨hle, hlt⟩ := reads_convertArray version address haddress
    have hdiv := Nat.div_mul_le_self responseLen (size vendor.abi version)
    exact ⟨hle, by omega⟩
  · exact absurd haddress List.not_mem_nil

end Reads

-- ── Which version it is ───────────────────────────────────────────────────

section Recognition

variable {abi : Abi} {version : Version} {n : Nat}

/-- The versions that are tried before. -/
def newer : Version → List Version
  | .v6 => [.v11, .v9]
  | .v9 => [.v11]
  | .v11 => []

/-- **RECOGNISED**: no newer version fits as well. -/
def Recognised (abi : Abi) (version : Version) (n : Nat) : Prop :=
  n = 0 ∨ ∀ other ∈ newer version, ¬units abi other ∣ n

instance : Decidable (Recognised abi version n) :=
  inferInstanceAs (Decidable (n = 0 ∨ ∀ other ∈ newer version, ¬units abi other ∣ n))

theorem coprime_units (abi : Abi) (version : Version) :
    ∀ other ∈ newer version, Nat.Coprime (units abi other) (units abi version) := by
  cases abi <;> cases version <;> decide

theorem size_lt_newer (abi : Abi) (version : Version) :
    ∀ other ∈ newer version, size abi version < size abi other := by
  cases abi <;> cases version <;> decide

/-- A newer structure fits into an array of older ones in its own number only. -/
theorem fits_iff {other : Version} (hother : other ∈ newer version) :
    n * size abi version % size abi other = 0 ↔ units abi other ∣ n := by
  have hpos : abi.pointerSize ≠ 0 := by
    cases abi <;> decide
  rw [size, size, ← Nat.mul_assoc, Nat.mul_mod_mul_right, Nat.mul_eq_zero, or_iff_left hpos,
    ← Nat.dvd_iff_mod_eq_zero]
  exact Nat.Coprime.dvd_mul_right (coprime_units abi version other hother)

/-- **THE VERSION FOUND** for an array is its own, or a newer one that fits. -/
theorem versionOf_array (abi : Abi) (version : Version) (n : Nat) :
    (versionOf abi (n * size abi version) = some version
        ∧ ∀ other ∈ newer version, ¬units abi other ∣ n)
      ∨ ∃ other ∈ newer version, versionOf abi (n * size abi version) = some other
        ∧ units abi other ∣ n := by
  have hself : n * size abi version % size abi version = 0 := Nat.mul_mod_left _ _
  cases version with
  | v11 =>
      refine .inl ⟨?_, fun _ h => by cases h⟩
      rw [versionOf, if_pos hself]
  | v9 =>
      have h11 := @fits_iff abi .v9 n .v11 (by decide)
      by_cases hfit : units abi .v11 ∣ n
      · refine .inr ⟨.v11, by decide, ?_, hfit⟩
        rw [versionOf, if_pos (h11.mpr hfit)]
      · refine .inl ⟨?_, ?_⟩
        · rw [versionOf, if_neg (fun h => hfit (h11.mp h)), if_pos hself]
        · intro other hother
          obtain rfl := List.mem_singleton.mp hother
          exact hfit
  | v6 =>
      have h11 := @fits_iff abi .v6 n .v11 (by decide)
      have h9 := @fits_iff abi .v6 n .v9 (by decide)
      by_cases hfit : units abi .v11 ∣ n
      · refine .inr ⟨.v11, by decide, ?_, hfit⟩
        rw [versionOf, if_pos (h11.mpr hfit)]
      by_cases hfit' : units abi .v9 ∣ n
      · refine .inr ⟨.v9, by decide, ?_, hfit'⟩
        rw [versionOf, if_neg (fun h => hfit (h11.mp h)), if_pos (h9.mpr hfit')]
      · refine .inl ⟨?_, ?_⟩
        · rw [versionOf, if_neg (fun h => hfit (h11.mp h)), if_neg (fun h => hfit' (h9.mp h)),
            if_pos hself]
        · intro other hother
          simp only [newer, List.mem_cons, List.not_mem_nil, or_false] at hother
          rcases hother with rfl | rfl
          · exact hfit
          · exact hfit'

variable (vendor : Vendor) (version : Version) (response n : Nat) (m : Memory)

theorem length_convertArray (num : Nat) :
    ((convertArray vendor version response num).run m).length = num := by
  rw [convertArray, run_collect, List.length_map, List.length_range']

/-- One data call is always recognised. -/
theorem versionOf_one (abi : Abi) (version : Version) :
    versionOf abi (size abi version) = some version := by
  have hone : Recognised abi version 1 := by
    cases abi <;> cases version <;> decide
  rcases versionOf_array abi version 1 with ⟨hversion, -⟩ | ⟨other, hother, -, hfit⟩
  · rwa [Nat.one_mul] at hversion
  · rcases hone with h | h
    · cases h
    · exact absurd hfit (h other hother)

end Recognition

-- ── What the functions read and pass on ───────────────────────────────────

section Functions

variable (vendor : Vendor) (service : RadioService) (responseType serial e indicationType : Int)
  (response : Option Nat) (responseLen : Nat) (m : Memory)

/-- All that is read is in the response. -/
def Inside {α : Type} (p : Load α) : Prop :=
  ∀ address ∈ p.reads m, ∃ a, response = some a ∧ a ≤ address ∧ address < a + responseLen

/-- A list that is not there is not read. -/
theorem reads_null (h : ¬(responseLen ≠ 0 ∨ versionOf vendor.abi responseLen = none)) :
    (convertRilDataCallListToHal vendor 0 responseLen).reads m = [] := by
  obtain ⟨hzero, -⟩ := not_or.mp h
  obtain rfl := not_not.mp hzero
  refine List.eq_nil_iff_forall_not_mem.mpr fun address haddress => ?_
  obtain ⟨-, hlt⟩ := reads_convertList address haddress
  exact Nat.not_lt_zero address hlt

theorem inside_pure {α : Type} (a : α) : Inside response responseLen m (pure a) :=
  fun _ h => absurd h List.not_mem_nil

theorem inside_list {α : Type} {a : Nat} (f : List SetupDataCallResult → α) :
    Inside (some a) responseLen m (do
      let ret ← convertRilDataCallListToHal vendor a responseLen
      pure (f ret)) := by
  intro address haddress
  rw [reads_bind, reads_pure, List.append_nil] at haddress
  exact ⟨a, rfl, reads_convertList address haddress⟩

theorem inside_null {α : Type} (f : List SetupDataCallResult → α)
    (h : ¬(responseLen ≠ 0 ∨ versionOf vendor.abi responseLen = none)) :
    Inside response responseLen m (do
      let ret ← convertRilDataCallListToHal vendor 0 responseLen
      pure (f ret)) := by
  intro address haddress
  rw [reads_bind, reads_pure, List.append_nil, reads_null vendor responseLen m h] at haddress
  exact absurd haddress List.not_mem_nil

theorem inside_getDataCallList : Inside response responseLen m
    (getDataCallListResponse vendor service responseType serial e response responseLen) := by
  rw [getDataCallListResponse]
  split
  · cases response with
    | none =>
        dsimp only
        split
        · exact inside_pure _ _ _ _
        · rename_i h
          exact inside_null _ _ _ _ _ h
    | some a =>
        dsimp only
        split
        · exact inside_pure _ _ _ _
        · exact inside_list _ _ _ _
  · exact inside_pure _ _ _ _

theorem inside_dataCallListChanged (service : Option RadioService) :
    Inside response responseLen m
      (dataCallListChangedInd vendor service indicationType response responseLen) := by
  unfold dataCallListChangedInd
  split
  · exact inside_pure _ _ _ _
  split
  · cases response with
    | none =>
        dsimp only
        split
        · exact inside_pure _ _ _ _
        · rename_i h
          exact inside_null _ _ _ _ _ h
    | some a =>
        dsimp only
        split
        · exact inside_pure _ _ _ _
        · exact inside_list _ _ _ _
  · exact inside_pure _ _ _ _

/-- A length that is found to be of a version is that of whole structures. -/
theorem dvd_of_versionOf {abi : Abi} {version : Version} {len : Nat}
    (h : versionOf abi len = some version) : size abi version ∣ len := by
  rw [versionOf] at h
  split at h
  · obtain rfl := Option.some.inj h
    exact Nat.dvd_of_mod_eq_zero ‹_›
  split at h
  · obtain rfl := Option.some.inj h
    exact Nat.dvd_of_mod_eq_zero ‹_›
  split at h
  · obtain rfl := Option.some.inj h
    exact Nat.dvd_of_mod_eq_zero ‹_›
  · cases h

/-- One data call is read inside the response, if that is not empty. -/
theorem inside_setupDataCall : Inside response responseLen m
      (setupDataCallResponse vendor service responseType serial e response responseLen)
    ↔ ¬(service.mRadioResponse = true ∧ response.isSome = true ∧ responseLen = 0) := by
  rw [setupDataCallResponse]
  split
  · rename_i hclient
    cases response with
    | none => exact iff_of_true (inside_pure _ _ _ _) fun h => by cases h.2.1
    | some a =>
        dsimp only
        split
        · rename_i hversion
          refine iff_of_true (inside_pure _ _ _ _) ?_
          rintro ⟨-, -, rfl⟩
          rw [versionOf, Nat.zero_mod, if_pos rfl] at hversion
          cases hversion
        · rename_i version hversion
          have hreads := @reads_convert vendor m a version
          constructor
          · rintro hinside ⟨-, -, rfl⟩
            have hmem : a ∈ (convertRilDataCallToHal vendor version a >>= fun result =>
                pure (some (populateResponseInfo ⟨.solicited, 0, 0⟩ serial responseType e,
                  result))).reads m := by
              rw [reads_bind, List.mem_append]
              exact .inl hreads.2
            obtain ⟨b, hb, hle, hlt⟩ := hinside a hmem
            obtain rfl := Option.some.inj hb
            omega
          · intro hlen address haddress
            rw [reads_bind, reads_pure, List.append_nil] at haddress
            obtain ⟨hle, hlt⟩ := hreads.1 address haddress
            have hpos : 0 < responseLen :=
              Nat.pos_of_ne_zero fun h => hlen ⟨hclient, rfl, h⟩
            have hroom := Nat.le_of_dvd hpos (dvd_of_versionOf hversion)
            exact ⟨a, rfl, hle, by omega⟩
  · rename_i hclient
    exact iff_of_true (inside_pure _ _ _ _) fun h => hclient h.1

/-- A new data call is passed on as the version that it is of. -/
theorem setup_one (version : Version) {a : Nat} (hclient : service.mRadioResponse = true) :
    (setupDataCallResponse vendor service responseType serial e (some a)
        (size vendor.abi version)).run m
      = some (populateResponseInfo ⟨.solicited, 0, 0⟩ serial responseType e,
          (convertRilDataCallToHal vendor version a).run m) := by
  rw [setupDataCallResponse, if_pos hclient]
  dsimp only
  rw [versionOf_one]
  dsimp only
  rw [run_bind, run_pure]

end Functions

end RilDataCall

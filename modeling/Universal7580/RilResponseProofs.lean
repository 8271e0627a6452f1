import Universal7580.ByteLoadProofs

/-! # Responses of one int

    The vendor's side passes a response as a pointer and a number of bytes.
    Four functions of `ril_service.cpp` expect an array of ints there, and each
    checks the pointer and the length in its own way.

    `lengths_respected` says for which responses each of them reads inside the
    buffer, delivers the first int of an array of ints, and refuses the rest. -/

namespace RilResponse

open ByteLoad ByteLoad.Load

-- ── What the client gets ─────────────────────────────────────────────────────

def rilESuccess : Int := 0

/-- `RIL_E_INVALID_RESPONSE`, and `RadioError::INVALID_RESPONSE`. -/
def invalidResponse : Int := 66

inductive RadioResponseType where
  | solicited
  | solicitedAck
  | solicitedAckExp
  deriving DecidableEq, Repr

inductive RadioIndicationType where
  | unsolicited
  | unsolicitedAckExp
  deriving DecidableEq, Repr

structure RadioResponseInfo where
  type : RadioResponseType
  serial : Int
  error : Int
  deriving DecidableEq, Repr

structure LastCallFailCauseInfo where
  causeCode : Int
  vendorCause : String
  deriving DecidableEq, Repr

/-- A client has registered for the responses, for the indications. -/
structure RadioService where
  mRadioResponse : Bool
  mRadioIndication : Bool
  deriving DecidableEq, Repr

/-- `RESPONSE_SOLICITED` is 0, `RESPONSE_SOLICITED_ACK_EXP` is 3; for any other
    number the type stays. -/
def populateResponseInfo (responseInfo : RadioResponseInfo)
    (serial responseType e : Int) : RadioResponseInfo :=
  { type :=
      if responseType = 0 then .solicited
      else if responseType = 3 then .solicitedAckExp
      else responseInfo.type
    serial := serial
    error := e }

/-- An error that the vendor reported stays. -/
def RadioResponseInfo.refuse (responseInfo : RadioResponseInfo) (e : Int) :
    RadioResponseInfo :=
  if e = rilESuccess then { responseInfo with error := invalidResponse }
  else responseInfo

/-- `RESPONSE_UNSOLICITED` is 1. -/
def convertIntToRadioIndicationType (indicationType : Int) :
    RadioIndicationType :=
  if indicationType = 1 then .unsolicited else .unsolicitedAckExp

-- ── The functions ────────────────────────────────────────────────────────────

def responseIntOrEmpty (responseInfo : RadioResponseInfo)
    (serial responseType e : Int) (response : Option Nat) (responseLen : Nat) :
    Load (Int × RadioResponseInfo) :=
  let responseInfo := populateResponseInfo responseInfo serial responseType e
  match response with
  | none =>
      if responseLen = 0 then pure (-1, responseInfo)
      else pure (-1, responseInfo.refuse e)
  | some pInt =>
      if responseLen % 4 ≠ 0 then pure (-1, responseInfo.refuse e)
      else do
        let ret ← int32 pInt
        pure (ret, responseInfo)

def responseInt (responseInfo : RadioResponseInfo)
    (serial responseType e : Int) (response : Option Nat) (responseLen : Nat) :
    Load (Int × RadioResponseInfo) :=
  let responseInfo := populateResponseInfo responseInfo serial responseType e
  match response with
  | none => pure (-1, responseInfo.refuse e)
  | some pInt =>
      if responseLen % 4 ≠ 0 then pure (-1, responseInfo.refuse e)
      else do
        let ret ← int32 pInt
        pure (ret, responseInfo)

/-- The builds of the library, by the size of a pointer. -/
inductive Abi where
  | arm
  | arm64
  deriving DecidableEq, Repr

def Abi.pointerSize : Abi → Nat
  | .arm => 4
  | .arm64 => 8

/-- `sizeof(RIL_LastCallFailCauseInfo)`: an enumeration and a pointer, which is
    aligned to its own size. -/
def Abi.failCauseSize (abi : Abi) : Nat := 2 * abi.pointerSize

/-- The string at an address is the caller's, `text` says what stands there. -/
def convertCharPtrToHidlString (text : Nat → String) (ptr : Nat) : String :=
  if ptr = 0 then "" else text ptr

/-- What is sent, if anything is. -/
def getLastCallFailCauseResponse (abi : Abi) (text : Nat → String)
    (service : RadioService) (responseType serial e : Int)
    (response : Option Nat) (responseLen : Nat) :
    Load (Option (RadioResponseInfo × LastCallFailCauseInfo)) :=
  if service.mRadioResponse then
    let responseInfo :=
      populateResponseInfo ⟨.solicited, 0, 0⟩ serial responseType e
    let info : LastCallFailCauseInfo := ⟨0, ""⟩
    match response with
    | none => pure (some (responseInfo.refuse e, info))
    | some pFailCauseInfo =>
        if responseLen = abi.failCauseSize then do
          let causeCode ← int32 pFailCauseInfo
          let vendorCause ←
            bytes (pFailCauseInfo + abi.pointerSize) abi.pointerSize
          pure (some (responseInfo,
            ⟨causeCode,
              convertCharPtrToHidlString text (littleEndian vendorCause)⟩))
        -- The other checks of this kind ask for a remainder of zero here.
        else if responseLen % 4 ≠ 0 then do
          let causeCode ← int32 pFailCauseInfo
          pure (some (responseInfo, { info with causeCode := causeCode }))
        else pure (some (responseInfo.refuse e, info))
  else pure none

def newSmsOnSimInd (service : Option RadioService) (indicationType : Int)
    (response : Option Nat) (responseLen : Nat) :
    Load (Option (RadioIndicationType × Int)) :=
  match service with
  | none => pure none
  | some service =>
      if service.mRadioIndication then
        match response with
        | none => pure none
        | some p =>
            if responseLen % 4 ≠ 0 then pure none
            else do
              let recordNumber ← int32 p
              pure (some
                (convertIntToRadioIndicationType indicationType, recordNumber))
      else pure none

-- ── The discipline ───────────────────────────────────────────────────────────

/-- A function reads inside the buffer; when somebody listens it delivers the
    first int of an array of ints, and refuses every other response that is
    not empty without having looked at it. -/
structure Disciplined {α : Type} (response : Option Nat) (responseLen : Nat)
    (m : Memory) (listening : Prop) (delivers : Int → α → Prop)
    (refuses : α → Prop) (p : Load α) : Prop where
  inside : ∀ i ∈ p.reads m,
    ∃ a, response = some a ∧ a ≤ i ∧ i < a + responseLen
  first : ∀ a, response = some a → 0 < responseLen → 4 ∣ responseLen →
    listening →
      (∀ i < 4, a + i ∈ p.reads m) ∧ delivers (intAt m a) (p.run m)
  rest : 0 < responseLen →
    (∀ a, response = some a → ¬ 4 ∣ responseLen) → listening →
      p.reads m = [] ∧ refuses (p.run m)

/-- Memory behind the buffer has no influence where the discipline holds. -/
theorem Disciplined.run_congr {α : Type} {response : Option Nat}
    {responseLen : Nat} {m m' : Memory} {listening : Prop}
    {delivers : Int → α → Prop} {refuses : α → Prop} {p : Load α}
    (h : Disciplined response responseLen m listening delivers refuses p)
    (hsame : ∀ a, response = some a →
      ∀ i, a ≤ i → i < a + responseLen → m i = m' i) :
    p.run m = p.run m' := by
  refine Load.run_congr ?_
  intro i hi
  obtain ⟨a, ha, hle, hlt⟩ := h.inside i hi
  exact hsame a ha i hle hlt

/-- The error of a response that is refused. -/
def refusedError (e : Int) : Int :=
  if e = rilESuccess then invalidResponse else e

theorem refuse_error (responseInfo : RadioResponseInfo)
    (serial responseType e : Int) :
    ((populateResponseInfo responseInfo serial responseType e).refuse e).error
      = refusedError e := by
  rw [RadioResponseInfo.refuse, refusedError]
  split
  · rfl
  · rfl

section

variable {α : Type} {response : Option Nat} {responseLen : Nat} {m : Memory}
  {listening : Prop} {delivers : Int → α → Prop} {refuses : α → Prop}
  {p : Load α}

/-- A function that reads nothing and refuses is right about all that is no
    array of ints. -/
theorem disciplined_of_silent (hreads : p.reads m = [])
    (hints : ∀ a, response = some a → 0 < responseLen → 4 ∣ responseLen →
      ¬ listening)
    (hrest : 0 < responseLen → listening → refuses (p.run m)) :
    Disciplined response responseLen m listening delivers refuses p where
  inside _ hi := absurd (hreads ▸ hi) List.not_mem_nil
  first a ha hpos hdvd hl := absurd hl (hints a ha hpos hdvd)
  rest hpos _ hl := ⟨hreads, hrest hpos hl⟩

/-- A function that reads the first int, and perhaps more of the buffer. -/
theorem disciplined_of_reads {a : Nat} (others : List Nat)
    (ha : response = some a)
    (hreads : p.reads m = List.range' a 4 ++ others)
    (hothers : ∀ i ∈ others, a ≤ i ∧ i < a + responseLen)
    (hdelivers : delivers (intAt m a) (p.run m))
    (hpos : 0 < responseLen) (hdvd : 4 ∣ responseLen) :
    Disciplined response responseLen m listening delivers refuses p where
  inside i hi := by
    refine ⟨a, ha, ?_⟩
    rw [hreads, List.mem_append, List.mem_range'_1] at hi
    rcases hi with hi | hi
    · omega
    · exact hothers i hi
  first b hb _ _ _ := by
    have hab : b = a := Option.some.inj (hb.symm.trans ha)
    subst hab
    refine ⟨?_, hdelivers⟩
    intro i hi
    rw [hreads, List.mem_append, List.mem_range'_1]
    exact Or.inl ⟨Nat.le_add_right b i, Nat.add_lt_add_left hi b⟩
  rest _ hnone _ := absurd hdvd (hnone a ha)

/-- Reading the first int of a buffer whose length is zero leaves it. -/
theorem not_disciplined_of_empty {a : Nat} (ha : response = some a)
    (hlen : responseLen = 0) (hread : a ∈ p.reads m) :
    ¬ Disciplined response responseLen m listening delivers refuses p := by
  intro h
  obtain ⟨b, hb, _, hlt⟩ := h.inside a hread
  have hab : b = a := Option.some.inj (hb.symm.trans ha)
  omega

end

-- ── One int ──────────────────────────────────────────────────────────────────

section

variable {α : Type} {listening : Prop} {delivers : Int → α → Prop}
  {refuses : α → Prop}

/-- **ONE INT**: the check that three of the functions make.  It lets a buffer
    of length zero pass. -/
theorem checked_disciplined (response : Option Nat) (responseLen : Nat)
    (m : Memory) (p : Load α)
    (hnull : response = none → p.reads m = [] ∧
      (0 < responseLen → refuses (p.run m)))
    (hodd : ∀ a, response = some a → responseLen % 4 ≠ 0 →
      p.reads m = [] ∧ refuses (p.run m))
    (hints : ∀ a, response = some a → responseLen % 4 = 0 →
      p.reads m = List.range' a 4 ∧ delivers (intAt m a) (p.run m)) :
    Disciplined response responseLen m listening delivers refuses p ↔
      (response = none ∨ responseLen ≠ 0) := by
  cases hr : response with
  | none =>
      obtain ⟨hreads, href⟩ := hnull hr
      refine iff_of_true ?_ (Or.inl rfl)
      exact disciplined_of_silent hreads (fun a ha => by cases ha)
        (fun hpos _ => href hpos)
  | some a =>
      by_cases hmod : responseLen % 4 = 0
      · obtain ⟨hreads, hdel⟩ := hints a hr hmod
        by_cases hlen : responseLen = 0
        · refine iff_of_false ?_ ?_
          · refine not_disciplined_of_empty rfl hlen ?_
            rw [hreads]
            exact List.mem_range'_1.mpr ⟨Nat.le_refl a, by omega⟩
          · rintro (h | h)
            · cases h
            · exact h hlen
        · refine iff_of_true ?_ (Or.inr hlen)
          refine disciplined_of_reads [] rfl ?_ ?_ hdel
            (Nat.pos_of_ne_zero hlen) (Nat.dvd_of_mod_eq_zero hmod)
          · rw [hreads, List.append_nil]
          · intro i hi
            exact absurd hi List.not_mem_nil
      · obtain ⟨hreads, href⟩ := hodd a hr hmod
        refine iff_of_true ?_ (Or.inr (fun h => hmod (by rw [h])))
        refine disciplined_of_silent hreads ?_ (fun _ _ => href)
        intro b _ _ hdvd
        exact absurd (Nat.mod_eq_zero_of_dvd hdvd) hmod

end

section

variable (responseInfo : RadioResponseInfo) (serial responseType e : Int)
  (response : Option Nat) (responseLen : Nat) (m : Memory)

/-- A first int and the error the vendor gave, or a refusal. -/
def DeliversInt (x : Int) (r : Int × RadioResponseInfo) : Prop :=
  r.1 = x ∧ r.2.error = e

def RefusesInt (r : Int × RadioResponseInfo) : Prop :=
  r.1 = -1 ∧ r.2.error = refusedError e

theorem responseInt_disciplined :
    Disciplined response responseLen m True (DeliversInt e) (RefusesInt e)
        (responseInt responseInfo serial responseType e response responseLen) ↔
      (response = none ∨ responseLen ≠ 0) := by
  refine checked_disciplined response responseLen m _ ?_ ?_ ?_
  · rintro rfl
    exact ⟨rfl, fun _ => ⟨rfl, refuse_error responseInfo serial responseType e⟩⟩
  · rintro a rfl hmod
    rw [responseInt, if_pos hmod]
    exact ⟨rfl, rfl, refuse_error responseInfo serial responseType e⟩
  · rintro a rfl hmod
    rw [responseInt, if_neg (not_not_intro hmod), reads_bind, run_bind,
      reads_int32, run_int32]
    exact ⟨List.append_nil _, rfl, rfl⟩

/-- The empty response that it lets pass has no buffer. -/
theorem responseIntOrEmpty_disciplined :
    Disciplined response responseLen m True (DeliversInt e) (RefusesInt e)
        (responseIntOrEmpty responseInfo serial responseType e response
          responseLen) ↔
      (response = none ∨ responseLen ≠ 0) := by
  refine checked_disciplined response responseLen m _ ?_ ?_ ?_
  · rintro rfl
    simp only [responseIntOrEmpty]
    split
    · rename_i hlen
      exact ⟨rfl, fun hpos => absurd hlen (Nat.ne_of_gt hpos)⟩
    · exact ⟨rfl, fun _ =>
        ⟨rfl, refuse_error responseInfo serial responseType e⟩⟩
  · rintro a rfl hmod
    rw [responseIntOrEmpty, if_pos hmod]
    exact ⟨rfl, rfl, refuse_error responseInfo serial responseType e⟩
  · rintro a rfl hmod
    rw [responseIntOrEmpty, if_neg (not_not_intro hmod), reads_bind, run_bind,
      reads_int32, run_int32]
    exact ⟨List.append_nil _, rfl, rfl⟩

end

section

variable (response : Option Nat) (responseLen : Nat) (m : Memory)

/-- There is a client, and it listens to indications. -/
def Listens (service : Option RadioService) : Prop :=
  ∃ s, service = some s ∧ s.mRadioIndication = true

instance (service : Option RadioService) : Decidable (Listens service) :=
  match service with
  | none => isFalse (fun ⟨_, h, _⟩ => by cases h)
  | some s =>
      if h : s.mRadioIndication = true then isTrue ⟨s, rfl, h⟩
      else isFalse (fun ⟨_, hs, ht⟩ => h (Option.some.inj hs ▸ ht))

def DeliversRecord (indicationType x : Int)
    (r : Option (RadioIndicationType × Int)) : Prop :=
  r = some (convertIntToRadioIndicationType indicationType, x)

theorem newSmsOnSimInd_deaf {service : Option RadioService}
    (h : ¬ Listens service) (indicationType : Int) :
    newSmsOnSimInd service indicationType response responseLen = pure none := by
  cases service with
  | none => rfl
  | some s =>
      have hs : ¬ s.mRadioIndication = true := fun hs => h ⟨s, rfl, hs⟩
      simp only [newSmsOnSimInd, if_neg hs]

theorem newSmsOnSimInd_disciplined (service : Option RadioService)
    (indicationType : Int) :
    Disciplined response responseLen m (Listens service)
        (DeliversRecord indicationType) (fun r => r = none)
        (newSmsOnSimInd service indicationType response responseLen) ↔
      (¬ Listens service ∨ response = none ∨ responseLen ≠ 0) := by
  by_cases hl : Listens service
  · obtain ⟨s, rfl, hs⟩ := id hl
    rw [or_iff_right (not_not_intro hl)]
    refine checked_disciplined response responseLen m _ ?_ ?_ ?_
    · rintro rfl
      rw [newSmsOnSimInd, if_pos hs]
      exact ⟨rfl, fun _ => rfl⟩
    · rintro a rfl hmod
      rw [newSmsOnSimInd, if_pos hs]
      simp only [if_pos hmod]
      exact ⟨rfl, rfl⟩
    · rintro a rfl hmod
      rw [newSmsOnSimInd, if_pos hs]
      simp only [if_neg (not_not_intro hmod)]
      rw [reads_bind, run_bind, reads_int32, run_int32]
      exact ⟨List.append_nil _, rfl⟩
  · refine iff_of_true ?_ (Or.inl hl)
    rw [newSmsOnSimInd_deaf response responseLen hl]
    exact disciplined_of_silent rfl (fun _ _ _ _ => hl)
      (fun _ h => absurd h hl)

-- ── The cause of a failed call ───────────────────────────────────────────────

def DeliversCause (e x : Int)
    (r : Option (RadioResponseInfo × LastCallFailCauseInfo)) : Prop :=
  ∃ info cause, r = some (info, cause) ∧ info.error = e ∧ cause.causeCode = x

def RefusesCause (e : Int)
    (r : Option (RadioResponseInfo × LastCallFailCauseInfo)) : Prop :=
  ∃ info, r = some (info, ⟨0, ""⟩) ∧ info.error = refusedError e

/-- The structure is an array of ints as well. -/
theorem failCauseSize_mod (abi : Abi) : abi.failCauseSize % 4 = 0 := by
  cases abi with
  | arm => rfl
  | arm64 => rfl

theorem pointer_inside (abi : Abi) {a i : Nat}
    (h : i ∈ List.range' (a + abi.pointerSize) abi.pointerSize) :
    a ≤ i ∧ i < a + abi.failCauseSize := by
  rw [List.mem_range'_1] at h
  rw [Abi.failCauseSize]
  omega

/-- **THE TURNED CHECK**: apart from the structure it takes the lengths that
    are no multiple of an int's, and refuses those that are. -/
theorem getLastCallFailCauseResponse_disciplined (abi : Abi)
    (text : Nat → String) (service : RadioService)
    (responseType serial e : Int) :
    Disciplined response responseLen m (service.mRadioResponse = true)
        (DeliversCause e) (RefusesCause e)
        (getLastCallFailCauseResponse abi text service responseType serial e
          response responseLen) ↔
      (service.mRadioResponse = false ∨ response = none ∨
        responseLen = abi.failCauseSize ∨ responseLen = 0) := by
  cases hs : service.mRadioResponse with
  | false =>
      refine iff_of_true ?_ (Or.inl rfl)
      rw [getLastCallFailCauseResponse, hs]
      exact disciplined_of_silent rfl (fun _ _ _ _ h => by cases h)
        (fun _ h => by cases h)
  | true =>
      rw [getLastCallFailCauseResponse, if_pos hs]
      cases response with
      | none =>
          refine iff_of_true ?_ (Or.inr (Or.inl rfl))
          refine disciplined_of_silent rfl (fun a ha => by cases ha) ?_
          intro _ _
          exact ⟨_, rfl, refuse_error _ serial responseType e⟩
      | some a =>
          by_cases hsize : responseLen = abi.failCauseSize
          · refine iff_of_true ?_ (Or.inr (Or.inr (Or.inl hsize)))
            have hmod : responseLen % 4 = 0 := hsize ▸ failCauseSize_mod abi
            have hpos : 0 < responseLen := by
              rw [hsize]
              cases abi with
              | arm => decide
              | arm64 => decide
            simp only [if_pos hsize]
            refine disciplined_of_reads
              (List.range' (a + abi.pointerSize) abi.pointerSize) rfl ?_ ?_ ?_
              hpos (Nat.dvd_of_mod_eq_zero hmod)
            · simp only [reads_bind, reads_int32, reads_bytes, reads_pure,
                List.append_nil]
            · intro i hi
              rw [hsize]
              exact pointer_inside abi hi
            · simp only [run_bind, run_pure, run_int32]
              exact ⟨_, _, rfl, rfl, rfl⟩
          · by_cases hmod : responseLen % 4 = 0
            · simp only [if_neg hsize, if_neg (not_not_intro hmod)]
              by_cases hlen : responseLen = 0
              · refine iff_of_true ?_ (Or.inr (Or.inr (Or.inr hlen)))
                refine disciplined_of_silent rfl ?_ ?_
                · intro _ _ hpos
                  omega
                · intro hpos
                  omega
              · refine iff_of_false ?_ (by simp [hsize, hlen])
                intro h
                obtain ⟨hread, _⟩ := h.first a rfl (Nat.pos_of_ne_zero hlen)
                  (Nat.dvd_of_mod_eq_zero hmod) trivial
                exact absurd (hread 0 (by decide)) List.not_mem_nil
            · simp only [if_neg hsize, if_pos hmod]
              refine iff_of_false ?_ ?_
              · intro h
                have hpos : 0 < responseLen := by omega
                obtain ⟨hread, _⟩ := h.rest hpos
                  (fun _ _ hdvd => hmod (Nat.mod_eq_zero_of_dvd hdvd)) trivial
                rw [reads_bind, reads_int32] at hread
                cases hread
              · have hlen : responseLen ≠ 0 := fun h => hmod (by rw [h])
                simp [hsize, hlen]

end

-- ── The four together ────────────────────────────────────────────────────────

/-- **RESPONSE LENGTHS**: three of the functions are right except about a
    buffer of length zero, from which they read an int.  The cause of a failed
    call is right only where there is nothing to decide: without a client,
    without a buffer, at the size of its structure, and at length zero. -/
theorem lengths_respected (abi : Abi) (text : Nat → String)
    (responseInfo : RadioResponseInfo) (service : RadioService)
    (indications : Option RadioService)
    (indicationType serial responseType e : Int)
    (response : Option Nat) (responseLen : Nat) (m : Memory) :
    (Disciplined response responseLen m True (DeliversInt e) (RefusesInt e)
        (responseInt responseInfo serial responseType e response responseLen) ↔
      (response = none ∨ responseLen ≠ 0)) ∧
    (Disciplined response responseLen m True (DeliversInt e) (RefusesInt e)
        (responseIntOrEmpty responseInfo serial responseType e response
          responseLen) ↔
      (response = none ∨ responseLen ≠ 0)) ∧
    (Disciplined response responseLen m (Listens indications)
        (DeliversRecord indicationType) (fun r => r = none)
        (newSmsOnSimInd indications indicationType response responseLen) ↔
      (¬ Listens indications ∨ response = none ∨ responseLen ≠ 0)) ∧
    (Disciplined response responseLen m (service.mRadioResponse = true)
        (DeliversCause e) (RefusesCause e)
        (getLastCallFailCauseResponse abi text service responseType serial e
          response responseLen) ↔
      (service.mRadioResponse = false ∨ response = none ∨
        responseLen = abi.failCauseSize ∨ responseLen = 0)) :=
  ⟨responseInt_disciplined responseInfo serial responseType e response
      responseLen m,
    responseIntOrEmpty_disciplined responseInfo serial responseType e response
      responseLen m,
    newSmsOnSimInd_disciplined response responseLen m indications
      indicationType,
    getLastCallFailCauseResponse_disciplined response responseLen m abi text
      service responseType serial e⟩

/-- A buffer of length zero is read by `responseInt`, and a cause that comes as
    one int is refused. -/
theorem empty_buffer_read :
    (0 ∈ (responseInt ⟨.solicited, 0, 0⟩ 0 0 0 (some 0) 0).reads (fun _ => 0)) ∧
    ¬ Disciplined (some 0) 0 (fun _ => 0) True (DeliversInt 0) (RefusesInt 0)
      (responseInt ⟨.solicited, 0, 0⟩ 0 0 0 (some 0) 0) ∧
    ¬ Disciplined (some 0) 4 (fun _ => 16) (true = true) (DeliversCause 0)
      (RefusesCause 0)
      (getLastCallFailCauseResponse .arm (fun _ => "") ⟨true, true⟩ 0 0 0
        (some 0) 4) := by
  refine ⟨by decide, ?_, ?_⟩
  · rw [responseInt_disciplined]
    decide
  · intro h
    obtain ⟨hread, _⟩ := h.first 0 rfl (by decide) (by decide) rfl
    exact absurd (hread 0 (by decide)) List.not_mem_nil

end RilResponse

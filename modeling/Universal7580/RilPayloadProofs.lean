import Universal7580.RilClientProofs

/-! # What the RIL client's handlers are given

    A record names the length of its payload, and the client asks the parcel for
    that many bytes.  Where the parcel has fewer, or the length is negative, it
    answers `NULL`, which the client hands on together with the length.

    `payload_in_record`: a handler is given a payload that lies in the record
    exactly if the record's length field is absent or zero, or the parcel has
    the bytes. -/

namespace RilClient

open PageBytes

/-- What is relied on of the parcels: reading a word stays in the record, and
    data that are read in place lie in it.  `size` is the size of the record. -/
structure ParcelReads (api : ParcelApi) (size : api.Parcel → Nat) : Prop where
  setData : ∀ b, size (api.setData b) = b.length
  readInt32 : ∀ p, size (api.readInt32 p).2 = size p
  readInplace : ∀ p n o, (api.readInplace p n).1 = some o → 0 ≤ n ∧ o + n.toNat ≤ size p

/-- A payload: no bytes, or a slice of the record. -/
def InRecord (record : Bytes) (data : Option Nat) (len : BitVec 32) : Prop :=
  0 ≤ len.toInt ∧ (len = 0 ∨ ∃ o, data = some o ∧ o + len.toInt.toNat ≤ record.length)

/-- The registered handlers that are called get payloads of the record. -/
def PayloadInRecord (record : Bytes) : Callback → Prop
  | .complete _ _ data len => InRecord record data len
  | .unsolicited _ data len => InRecord record data len
  | .error _ _ => True

-- ── The length field ─────────────────────────────────────────────────────────

/-- What follows the head of a solicited record that has a handler: the token is
    valid, the error is none, and its request has a handler. -/
def solicitedPayload (api : ParcelApi) (prv : RilClientPrv) (p : api.Parcel) :
    Option api.Parcel :=
  match api.readInt32 p with
  | (none, _) => none
  | (some token, p) =>
      match api.readInt32 p with
      | (none, _) => none
      | (some err, p) =>
          if isValidToken prv.tokenPool token = true ∧ err = Err.success.code
              ∧ ((findReqHandler prv token).bind HandlerSlot.handler).isSome = true then some p
          else none

/-- What follows the head of an unsolicited record that has a handler. -/
def unsolicitedPayload (api : ParcelApi) (prv : RilClientPrv) (p : api.Parcel) :
    Option api.Parcel :=
  match api.readInt32 p with
  | (none, _) => none
  | (some respId, p) => if (findUnsolHandler prv respId).isSome = true then some p else none

/-- The payload of a record for which there is a handler. -/
def payload (api : ParcelApi) (prv : RilClientPrv) (record : Bytes) : Option api.Parcel :=
  match api.readInt32 (api.setData record) with
  | (none, _) => none
  | (some responseType, p) =>
      if responseType = responseUnsolicited then unsolicitedPayload api prv p
      else if responseType = responseSolicited then solicitedPayload api prv p
      else none

/-- The length field is absent or zero, or the parcel has that many bytes. -/
def LengthHolds (api : ParcelApi) (p : api.Parcel) : Prop :=
  match api.readInt32 p with
  | (none, _) => True
  | (some len, p) => len = 0 ∨ (api.readInplace p len.toInt).1 ≠ none

variable {api : ParcelApi} {size : api.Parcel → Nat} {prv : RilClientPrv} {record : Bytes}

/-- The length that is handed on, and the data. -/
def handedOn (api : ParcelApi) (p : api.Parcel) : Option Nat × BitVec 32 :=
  match api.readInt32 p with
  | (some len, p) => (if len = 0 then none else (api.readInplace p len.toInt).1, len)
  | (none, _) => (none, 0)

/-- **HANDED ON**: what is handed on lies in the record exactly if the length
    holds. -/
theorem inRecord_iff (hreads : ParcelReads api size) {p : api.Parcel}
    (hsize : size p = record.length) :
    InRecord record (handedOn api p).1 (handedOn api p).2 ↔ LengthHolds api p := by
  have hkeep := hreads.readInt32 p
  rw [handedOn, LengthHolds]
  cases hread : api.readInt32 p with
  | mk read rest =>
    rw [hread] at hkeep
    cases read with
    | none => exact ⟨fun _ => trivial, fun _ => ⟨Int.le_refl 0, Or.inl rfl⟩⟩
    | some len =>
      dsimp only
      by_cases hlen : len = 0
      · subst hlen
        exact ⟨fun _ => Or.inl rfl, fun _ => ⟨Int.le_refl 0, Or.inl rfl⟩⟩
      · rw [if_neg hlen]
        cases hdata : (api.readInplace rest len.toInt).1 with
        | none =>
            constructor
            · rintro ⟨-, hzero | ⟨o, ho, -⟩⟩
              · exact absurd hzero hlen
              · exact nomatch ho
            · rintro (hzero | hsome)
              · exact absurd hzero hlen
              · exact absurd rfl hsome
        | some o =>
            obtain ⟨hnonneg, hinside⟩ := hreads.readInplace rest len.toInt o hdata
            rw [hkeep, hsize] at hinside
            constructor
            · exact fun _ => Or.inr fun h => nomatch h
            · exact fun _ => ⟨hnonneg, Or.inr ⟨o, rfl, hinside⟩⟩

theorem unsolicited_eq (prv : RilClientPrv) (p : api.Parcel) :
    (processUnsolicited api prv p).2
      = match api.readInt32 p with
        | (none, _) => []
        | (some respId, p) => (findUnsolHandler prv respId).toList.map fun h =>
            Callback.unsolicited h (handedOn api p).1 (handedOn api p).2 := by
  rw [processUnsolicited]
  cases api.readInt32 p with
  | mk read rest =>
    cases read with
    | none => rfl
    | some respId =>
      dsimp only
      rw [handedOn]
      cases api.readInt32 rest with
      | mk read' rest' => cases read' <;> rfl

theorem unsolicited_iff (hreads : ParcelReads api size) {p : api.Parcel}
    (hsize : size p = record.length) :
    (∀ c ∈ (processUnsolicited api prv p).2, PayloadInRecord record c)
      ↔ ∀ q, unsolicitedPayload api prv p = some q → LengthHolds api q := by
  have hkeep := hreads.readInt32 p
  rw [unsolicited_eq, unsolicitedPayload]
  cases hread : api.readInt32 p with
  | mk read rest =>
    rw [hread] at hkeep
    cases read with
    | none => exact ⟨fun _ _ h => (nomatch h), fun _ _ h => (nomatch h)⟩
    | some respId =>
      have hiff := inRecord_iff hreads (hkeep.trans hsize)
      dsimp only
      cases findUnsolHandler prv respId with
      | none => exact ⟨fun _ _ h => (nomatch h), fun _ _ h => (nomatch h)⟩
      | some h =>
          constructor
          · intro hall q hq
            obtain rfl := Option.some.inj hq
            exact hiff.mp (hall _ (List.mem_singleton.mpr rfl))
          · intro hlength c hc
            rw [List.mem_singleton.mp hc]
            exact hiff.mpr (hlength rest rfl)

/-- The calls made for a valid token: the error callback, or the handler of the
    request. -/
theorem answer_cases (prv : RilClientPrv) (token : BitVec 32) (p : api.Parcel) :
    (∃ ret calls, answerSolicited api prv token p = .found ret token none calls
        ∧ (∀ c ∈ calls, PayloadInRecord record c)
        ∧ ∀ err q, api.readInt32 p = (some err, q) → err = Err.success.code →
          (findReqHandler prv token).bind HandlerSlot.handler = none)
      ∨ ∃ id h q, api.readInt32 p = (some Err.success.code, q)
        ∧ findReqHandler prv token = some { id := id, handler := some h }
        ∧ answerSolicited api prv token p
          = .found .success token (some id) [.complete h id (handedOn api q).1 (handedOn api q).2]
    := by
  rw [answerSolicited]
  cases hread : api.readInt32 p with
  | mk read q =>
    cases read with
    | none =>
        refine Or.inl ⟨_, _, rfl, fun c hc => absurd hc List.not_mem_nil, ?_⟩
        intro err q' heq
        cases heq
    | some err =>
      dsimp only
      by_cases herr : err = Err.success.code
      · rw [if_neg (not_not.mpr herr)]
        cases hfind : findReqHandler prv token with
        | none =>
            exact Or.inl ⟨_, _, rfl, fun c hc => absurd hc List.not_mem_nil, fun _ _ _ _ => rfl⟩
        | some slot =>
            cases slot with
            | mk id handler =>
              cases handler with
              | none => exact Or.inl ⟨_, _, rfl, fun c hc => absurd hc List.not_mem_nil, fun _ _ _ _ => rfl⟩
              | some h =>
                  refine Or.inr ⟨id, h, q, by rw [herr], rfl, ?_⟩
                  rw [handedOn]
                  cases api.readInt32 q with
                  | mk read' rest => cases read' <;> rfl
      · rw [if_pos herr]
        refine Or.inl ⟨_, _, rfl, ?_, ?_⟩
        · intro c hc
          obtain ⟨h, -, rfl⟩ := List.mem_map.mp hc
          trivial
        · intro err' q' heq herr'
          have hsame := Option.some.inj (Prod.mk.inj heq).1
          exact absurd (hsame.trans herr') herr

theorem solicited_iff (hreads : ParcelReads api size) {p : api.Parcel}
    (hsize : size p = record.length) :
    (∀ c ∈ (processSolicited api prv p).2.2, PayloadInRecord record c)
      ↔ ∀ q, solicitedPayload api prv p = some q → LengthHolds api q := by
  have hkeep := hreads.readInt32 p
  rw [processSolicited, lookupSolicited, solicitedPayload]
  cases hread : api.readInt32 p with
  | mk read rest =>
    rw [hread] at hkeep
    cases read with
    | none => exact ⟨fun _ _ h => (by cases h), fun _ _ h => by cases h⟩
    | some token =>
      dsimp only
      cases hvalid : isValidToken prv.tokenPool token with
      | false =>
          rw [if_pos rfl]
          constructor
          · intro _ q hq
            split at hq
            · cases hq
            · rw [if_neg (fun h => by cases h.1)] at hq
              cases hq
          · exact fun _ _ h => by cases h
      | true =>
          rw [if_neg Bool.noConfusion]
          rcases @answer_cases api record prv token rest with
            ⟨ret, calls, hans, hcalls, hnone⟩ | ⟨id, h, q, hread', hfind, hans⟩
          · rw [hans]
            refine ⟨fun _ q hq => ?_, fun _ => hcalls⟩
            split at hq
            · cases hq
            · rename_i err q' heq
              split at hq
              · rename_i hpayload
                rw [hnone err q' heq hpayload.2.1] at hpayload
                cases hpayload.2.2
              · cases hq
          · have hkeep' := hreads.readInt32 rest
            rw [hread'] at hkeep'
            have hiff := inRecord_iff hreads (hkeep'.trans (hkeep.trans hsize))
            rw [hans, hread']
            dsimp only
            rw [if_pos ⟨rfl, rfl, by rw [hfind]; rfl⟩]
            constructor
            · intro hall q' hq'
              obtain rfl := Option.some.inj hq'
              exact hiff.mp (hall _ (List.mem_singleton.mpr rfl))
            · intro hlength c hc
              rw [List.mem_singleton.mp hc]
              exact hiff.mpr (hlength q rfl)

theorem reportErr_inRecord (prv : RilClientPrv) (ret : Err) :
    ∀ c ∈ reportErr prv ret, PayloadInRecord record c := by
  intro c hc
  rw [reportErr] at hc
  split at hc
  · exact nomatch hc
  · obtain ⟨h, -, rfl⟩ := List.mem_map.mp hc
    trivial

/-- **PAYLOAD IN RECORD**: the handlers that a record calls are given payloads
    that lie in it, exactly if there is no handler for it, or its length field
    is absent or zero, or the parcel has that many bytes. -/
theorem payload_in_record (hreads : ParcelReads api size) (prv : RilClientPrv)
    (record : Bytes) :
    (∀ c ∈ (processRxBuffer api prv record).2.2, PayloadInRecord record c)
      ↔ ∀ q, payload api prv record = some q → LengthHolds api q := by
  have hsize := hreads.setData record
  have hkeep := hreads.readInt32 (api.setData record)
  rw [processRxBuffer, payload]
  cases hread : api.readInt32 (api.setData record) with
  | mk read rest =>
    rw [hread] at hkeep
    cases read with
    | none => exact ⟨fun _ _ h => (by cases h), fun _ _ h => by cases h⟩
    | some responseType =>
      dsimp only
      by_cases hun : responseType = responseUnsolicited
      · rw [if_pos hun, if_pos hun]
        exact unsolicited_iff hreads (hkeep.trans hsize)
      · rw [if_neg hun, if_neg hun]
        by_cases hsol : responseType = responseSolicited
        · rw [if_pos hsol, if_pos hsol, ← solicited_iff hreads (hkeep.trans hsize)]
          constructor
          · exact fun hall c hc => hall c (List.mem_append_left _ hc)
          · intro hall c hc
            rcases List.mem_append.mp hc with hcalls | hreport
            · exact hall c hcalls
            · exact reportErr_inRecord _ _ c hreport
        · rw [if_neg hsol, if_neg hsol]
          exact ⟨fun _ _ h => (by cases h), fun _ _ h => by cases h⟩

/-- The parcels of bytes are read so. -/
theorem bytesParcel_reads : ParcelReads bytesParcel fun p => p.1.length where
  setData := fun _ => rfl
  readInt32 := by
    intro p
    show (if _ then _ else _ : Option (BitVec 32) × (Bytes × Nat)).2.1.length = _
    split <;> rfl
  readInplace := by
    intro p n o h
    change (if _ then _ else _ : Option Nat × (Bytes × Nat)).1 = some o at h
    split at h
    · rename_i hfits
      obtain rfl := Option.some.inj h
      have hpad : n.toNat ≤ roundUp 4 n.toNat := le_roundUp (by decide) _
      exact ⟨hfits.1, by omega⟩
    · exact nomatch h

deriving instance DecidableEq for Callback

/-- `RIL_UNSOL_SNDMGR_WB_AMR_REPORT`. -/
def wbAmrReport : UInt32 := 20017

/-- A client with a handler for that report. -/
def wbAmrClient : RilClientPrv :=
  (registerUnsolicitedHandler openClientRild wbAmrReport.toBitVec (some 1)).1

/-- A report that ends after its length, `len`. -/
def cutReport (len : UInt32) : Bytes := le32 1 ++ le32 wbAmrReport ++ le32 len

theorem payload_in_record_cut :
    (∀ c ∈ (processRxBuffer bytesParcel wbAmrClient (cutReport 0)).2.2,
        PayloadInRecord (cutReport 0) c)
      ↔ ∀ q, payload bytesParcel wbAmrClient (cutReport 0) = some q →
        LengthHolds bytesParcel q :=
  payload_in_record bytesParcel_reads wbAmrClient (cutReport 0)

/-- **CUT REPORT**: the report names one byte and ends there; its handler gets a
    null pointer with the length 1. -/
theorem payload_missing :
    ¬∀ c ∈ (processRxBuffer bytesParcel wbAmrClient (cutReport 1)).2.2,
      PayloadInRecord (cutReport 1) c := by
  intro h
  have hcall : (processRxBuffer bytesParcel wbAmrClient (cutReport 1)).2.2
      = [.unsolicited 1 none 1] := by
    decide +kernel
  rw [hcall] at h
  rcases (h _ (List.mem_singleton.mpr rfl)).2 with hzero | ⟨o, ho, -⟩
  · exact absurd hzero (by decide)
  · exact nomatch ho

end RilClient

import Universal7580.RilClientProofs

/-! # Matching answers with requests

    A client and the daemon it talks to.  The daemon receives the requests in
    order and answers each of them once, in order, with the request's token.
    Between the call of a completion handler and the end of
    `processSolicited` the client may do anything else, as a handler that
    sends requests of its own does.

    A request whose id has no handler gives its token back while its answer is
    still to come, so the next request may take the same token.  Answers are
    matched by token alone.  `Inv.step` is the invariant that saves the
    matching: whatever is on the way with a recorded token has the recorded
    id.  It needs that a request with a handler does not take a token that is
    still on the way for another id. -/

namespace RilClientMatch

open PageBytes SlotPool RilClient

-- ── The client and the daemon ────────────────────────────────────────────────

/-- A request the daemon has received and not answered yet. -/
structure Sent where
  token : BitVec 32
  id : BitVec 32
  deriving DecidableEq

/-- A call of a completion handler: the handler, the id it was registered for,
    and the request whose answer it was given. -/
structure Called where
  handler : Nat
  registeredId : BitVec 32
  answered : Sent
  deriving DecidableEq

/-- Client, requests on the way, the record in work, and the calls so far. -/
structure Net where
  prv : RilClientPrv := openClientRild
  wire : List Sent := []
  inHandler : Option (BitVec 32 × Option (BitVec 32)) := none
  calls : List Called := []

/-- What can happen next. -/
inductive Act where
  | connect (outcome : ConnectOutcome)
  | send (reqId : BitVec 32) (data : Bytes) (results : List WriteResult)
  | request (call : Call) (results : List WriteResult)
  | register (id : BitVec 32) (handler : Option Nat)
  | answer (buffer : Bytes)
  | handlerReturned

/-- The state after a send: a request that was written out is on the way. -/
def Net.sent (net : Net) (reqId : BitVec 32) (r : SendResult) : Net :=
  { net with
    prv := r.prv
    wire := net.wire ++ r.token.toList.map (fun t => { token := t, id := reqId }) }

/-- The completion calls among the callbacks of a record that answers `s`. -/
def completions (s : Sent) (calls : List Callback) : List Called :=
  calls.filterMap (fun c =>
    match c with
    | .complete h id _ _ => some { handler := h, registeredId := id, answered := s }
    | _ => none)

/-- A record that answers `token`: solicited, with that token. -/
def answers (api : ParcelApi) (buffer : Bytes) (token : BitVec 32) : Prop :=
  solicitedToken api buffer = some token

instance (api : ParcelApi) (buffer : Bytes) (token : BitVec 32) :
    Decidable (answers api buffer token) :=
  inferInstanceAs (Decidable (_ = _))

/-- One step.  The daemon answers the oldest request on the way, and the
    reader takes no new record while a handler runs. -/
def step (api : ParcelApi) (net : Net) : Act → Option Net
  | .connect outcome => some { net with prv := (connectRild net.prv outcome).1 }
  | .send reqId data results =>
      (sendOemRequestHookRaw api net.prv reqId data results).map (net.sent reqId)
  | .request call results => (request api net.prv call results).map (net.sent call.reqId)
  | .register id handler =>
      some { net with prv := (registerRequestCompleteHandler net.prv id handler).1 }
  | .answer buffer =>
      match net.wire, net.inHandler with
      | s :: rest, none =>
          if answers api buffer s.token then
            match lookupSolicited api net.prv (api.readInt32 (api.setData buffer)).2 with
            | .reject _ => some { net with wire := rest }
            | .found _ token reqId calls =>
                some { net with
                  wire := rest
                  inHandler := some (token, reqId)
                  calls := net.calls ++ completions s calls }
          else none
      | _, _ => none
  | .handlerReturned =>
      match net.inHandler with
      | none => none
      | some (token, reqId) =>
          some { net with prv := finishSolicited net.prv token reqId, inHandler := none }

/-- **MATCHED**: every handler was called with the answer to a request of the
    id it was registered for. -/
def Matched (net : Net) : Prop := ∀ c ∈ net.calls, c.answered.id = c.registeredId

/-- Whether an id has a completion handler. -/
def hasHandler (prv : RilClientPrv) (id : BitVec 32) : Bool :=
  ((prv.reqHandlers.find? (fun slot => slot.id == id)).bind HandlerSlot.handler).isSome

/-- The token the next request will get is not on the way for another id. -/
def NotOnTheWay (net : Net) (reqId : BitVec 32) : Prop :=
  ∀ s ∈ net.wire, s.token = (allocateToken net.prv.tokenPool).1 → s.id = reqId

/-- The condition on a step: a request whose id has a handler takes a token
    that is not on the way for another id. -/
def FreshToken (net : Net) : Act → Prop
  | .send reqId _ _ => hasHandler net.prv reqId = true → NotOnTheWay net reqId
  | .request call _ =>
      hasHandler (prepare net.prv call) call.reqId = true → NotOnTheWay net call.reqId
  | _ => True

-- ── A record in two steps is `processRxBuffer` ───────────────────────────────

/-- A record that is answered and finished with nothing in between leaves the
    client as `processRxBuffer` does. -/
theorem answer_handlerReturned {api : ParcelApi} {net net₁ net₂ : Net} {buffer : Bytes}
    (h₁ : step api net (.answer buffer) = some net₁)
    (h₂ : step api net₁ .handlerReturned = some net₂) :
    net₂.prv = (processRxBuffer api net.prv buffer).1 := by
  unfold step at h₁
  dsimp only at h₁
  split at h₁
  · rename_i s rest hwire hidle
    split at h₁
    · rename_i hans
      rw [answers, solicitedToken] at hans
      rw [processRxBuffer]
      rcases hread : api.readInt32 (api.setData buffer) with ⟨_ | responseType, p⟩
      · rw [hread] at hans
        cases hans
      rw [hread] at hans h₁
      dsimp only at hans h₁ ⊢
      by_cases hsol : responseType = responseSolicited
      · have hun : responseType ≠ responseUnsolicited := by
          rw [hsol]
          decide
        rw [if_neg hun, if_pos hsol]
        dsimp only [processSolicited]
        cases hlook : lookupSolicited api net.prv p with
        | reject ret =>
            rw [hlook] at h₁
            rw [← Option.some.inj h₁] at h₂
            rw [step] at h₂
            rw [show ({ net with wire := rest } : Net).inHandler = none from hidle] at h₂
            cases h₂
        | found ret token reqId calls =>
            rw [hlook] at h₁
            rw [← Option.some.inj h₁] at h₂
            rw [← Option.some.inj h₂]
      · rw [if_neg hsol] at hans
        cases hans
    · cases h₁
  · cases h₁

-- ── The handler that is found ────────────────────────────────────────────────

section Find

variable {prv : RilClientPrv}

/-- Two recorded requests with one token are one request. -/
theorem outstanding_inj (hacc : Accounting prv) {a b : ReqHistory}
    (ha : a ∈ prv.outstanding) (hb : b ∈ prv.outstanding) (h : a.token = b.token) : a = b :=
  List.inj_on_of_nodup_map hacc.tracks.nodup ha hb h

/-- For a recorded token `FindReqHandler` is a lookup of the recorded id. -/
theorem findReqHandler_eq (hacc : Accounting prv) {h : ReqHistory}
    (hmem : h ∈ prv.outstanding) :
    findReqHandler prv h.token = prv.reqHandlers.find? (fun slot => slot.id == h.id) := by
  obtain ⟨hin, hlive⟩ := List.mem_filter.mp hmem
  have huniq : ∀ a ∈ prv.history, a.token = h.token → a = h := by
    intro a ha heq
    refine outstanding_inj hacc (List.mem_filter.mpr ⟨ha, live_iff.mpr ?_⟩) hmem heq
    rw [heq]
    exact live_iff.mp hlive
  rw [findReqHandler]
  cases hfind : prv.reqHandlers.find? (fun slot => slot.id == h.id) with
  | none =>
      refine List.findSome?_eq_none_iff.mpr fun a ha => ?_
      by_cases heq : a.token = h.token
      · rw [if_pos heq, huniq a ha heq]
        exact hfind
      · rw [if_neg heq]
  | some slot =>
      have hsome : (prv.history.findSome? (fun a =>
          if a.token = h.token then prv.reqHandlers.find? (fun slot => slot.id == a.id)
          else none)).isSome = true := by
        refine List.findSome?_isSome_iff.mpr ⟨h, hin, ?_⟩
        rw [if_pos rfl, hfind]
        rfl
      obtain ⟨slot', hslot'⟩ := Option.isSome_iff_exists.mp hsome
      obtain ⟨a, ha, hfa⟩ := List.exists_of_findSome?_eq_some hslot'
      by_cases heq : a.token = h.token
      · rw [if_pos heq, huniq a ha heq, hfind] at hfa
        rw [hslot', hfa]
      · rw [if_neg heq] at hfa
        exact nomatch hfa

/-- A valid single-bit token is recorded. -/
theorem exists_outstanding (hacc : Accounting prv) {token : BitVec 32} (htok : Single token)
    (hval : isValidToken prv.tokenPool token = true) :
    ∃ h ∈ prv.outstanding, h.token = token := by
  obtain ⟨i, hi, rfl⟩ := htok
  obtain ⟨-, hsub⟩ := isValidToken_iff.mp hval
  have hbit : prv.tokenPool.getLsbD i = true := by
    have := congrArg (fun b => b.getLsbD i) hsub
    simpa [hi] using this
  exact List.mem_map.mp ((hacc.tracks.getLsbD_iff hi).mp hbit)

/-- A handler that is found was registered for the recorded id. -/
theorem findReqHandler_id (hacc : Accounting prv) {h : ReqHistory}
    (hmem : h ∈ prv.outstanding) {slot : HandlerSlot}
    (hfind : findReqHandler prv h.token = some slot) : slot.id = h.id := by
  rw [findReqHandler_eq hacc hmem] at hfind
  have := List.find?_some (p := fun slot : HandlerSlot => slot.id == h.id) hfind
  exact eq_of_beq this

end Find

-- ── The invariant ────────────────────────────────────────────────────────────

/-- What every reachable state satisfies while the condition is met. -/
structure Inv (net : Net) : Prop where
  acc : Accounting net.prv
  wire_single : ∀ s ∈ net.wire, Single s.token
  /-- what is on the way with a recorded token has the recorded id -/
  same_id : ∀ h ∈ net.prv.outstanding, ∀ s ∈ net.wire, s.token = h.token → s.id = h.id
  in_work : ∀ token reqId, net.inHandler = some (token, reqId) → Single token
  matched : Matched net

theorem Inv.init : Inv {} where
  acc := Accounting.openClientRild
  wire_single := fun _ h => nomatch h
  same_id := fun _ _ _ h => nomatch h
  in_work := fun _ _ h => nomatch h
  matched := fun _ h => nomatch h

section Steps

variable {api : ParcelApi} {net net' : Net}

/-- The invariant only looks at the pool and the history of the client. -/
theorem Inv.of_prv (hinv : Inv net) {prv : RilClientPrv} (hacc : Accounting prv)
    (hsub : ∀ h ∈ prv.outstanding, h ∈ net.prv.outstanding) :
    Inv { net with prv := prv } where
  acc := hacc
  wire_single := hinv.wire_single
  same_id := fun h hh => hinv.same_id h (hsub h hh)
  in_work := hinv.in_work
  matched := hinv.matched

theorem mem_outstanding_of_eq {prv prv' : RilClientPrv} (hhist : prv'.history = prv.history)
    {h : ReqHistory} (hh : h ∈ prv'.outstanding) : h ∈ prv.outstanding := by
  rw [RilClientPrv.outstanding, hhist] at hh
  exact hh

/-- Releasing a token records nothing new. -/
theorem mem_outstanding_release {prv : RilClientPrv} {token : BitVec 32} (htok : token ≠ 0)
    {h : ReqHistory} (hh : h ∈ (releaseToken prv token).outstanding) : h ∈ prv.outstanding := by
  rw [outstanding_releaseToken token htok] at hh
  exact List.mem_of_mem_eraseP hh

/-- Connecting records nothing new. -/
theorem mem_outstanding_connect (prv : RilClientPrv) (o : ConnectOutcome) {h : ReqHistory}
    (hh : h ∈ (connectRild prv o).1.outstanding) : h ∈ prv.outstanding := by
  rw [connectRild] at hh
  dsimp only at hh
  split at hh
  · exact hh
  split at hh
  · exact hh
  split at hh
  · exact hh
  split at hh
  · exact hh
  split at hh
  · cases (show h ∈ ([] : List ReqHistory) from hh)
  · exact hh

section Taken

variable {prv : RilClientPrv} {i : Nat} {reqId : BitVec 32}

/-- What is recorded after a token was taken: the new request and the old
    ones. -/
theorem outstanding_taken (hacc : Accounting prv) (hi : i < 32)
    (hb : prv.tokenPool.getLsbD i = false) (reqId : BitVec 32) :
    (recorded prv (BitVec.twoPow 32 i) reqId).outstanding.Perm
      ({ token := BitVec.twoPow 32 i, id := reqId } :: prv.outstanding) := by
  have hpool : prv.tokenPool ≠ BitVec.allOnes 32 := by
    intro hfull
    rw [hfull, BitVec.getLsbD_allOnes, decide_eq_true hi] at hb
    exact nomatch hb
  exact outstanding_recorded _ _ (twoPow_ne_zero hi) (hacc.free_slot hpool)

theorem mem_outstanding_recorded (hacc : Accounting prv) (hi : i < 32)
    (hb : prv.tokenPool.getLsbD i = false) {h : ReqHistory}
    (hh : h ∈ (recorded prv (BitVec.twoPow 32 i) reqId).outstanding) :
    h = { token := BitVec.twoPow 32 i, id := reqId } ∨ h ∈ prv.outstanding :=
  List.mem_cons.mp ((outstanding_taken hacc hi hb reqId).mem_iff.mp hh)

/-- A free token is not recorded. -/
theorem token_ne_of_free (hacc : Accounting prv) (hi : i < 32)
    (hb : prv.tokenPool.getLsbD i = false) {h : ReqHistory} (hh : h ∈ prv.outstanding) :
    h.token ≠ BitVec.twoPow 32 i := by
  intro heq
  have hmem : BitVec.twoPow 32 i ∈ prv.tokens := List.mem_map.mpr ⟨h, hh, heq⟩
  rw [(hacc.tracks.getLsbD_iff hi).mpr hmem] at hb
  exact nomatch hb

/-- Taking a token and giving it back records nothing new. -/
theorem mem_outstanding_undone (hacc : Accounting prv) (hi : i < 32)
    (hb : prv.tokenPool.getLsbD i = false) {h : ReqHistory}
    (hh : h ∈ (releaseToken (recorded prv (BitVec.twoPow 32 i) reqId)
      (BitVec.twoPow 32 i)).outstanding) : h ∈ prv.outstanding := by
  have hrec := (hacc.recorded reqId hi hb).1
  rcases mem_outstanding_recorded hacc hi hb
    (mem_outstanding_release (twoPow_ne_zero hi) hh) with heq | hold
  · have hmem : BitVec.twoPow 32 i ∈ (releaseToken (recorded prv (BitVec.twoPow 32 i) reqId)
        (BitVec.twoPow 32 i)).tokens := List.mem_map.mpr ⟨h, hh, by rw [heq]⟩
    rw [tokens_releaseToken _ (twoPow_ne_zero hi), hrec.tracks.nodup.mem_erase_iff] at hmem
    exact absurd rfl hmem.1
  · exact hold

end Taken

/-- **A SEND KEEPS THE MATCHING** when a token that will be kept is not on the
    way for another id. -/
theorem Inv.sent {prv : RilClientPrv} {reqId : BitVec 32} {data : Bytes}
    {results : List WriteResult} {r : SendResult} (hinv : Inv { net with prv := prv })
    (hfresh : hasHandler prv reqId = true → NotOnTheWay { net with prv := prv } reqId)
    (h : sendOemRequestHookRaw api prv reqId data results = some r) :
    Inv (net.sent reqId r) := by
  have hacc : Accounting prv := hinv.acc
  rcases send_cases hacc h with rfl | ⟨i, w, hi, hb, halloc, -, hout⟩
  · -- no token: nothing is recorded and nothing goes out
    refine ⟨hacc, ?_, ?_, hinv.in_work, hinv.matched⟩
    · intro s hs
      rw [Net.sent, Option.toList_none, List.map_nil, List.append_nil] at hs
      exact hinv.wire_single s hs
    · intro g hg s hs
      rw [Net.sent, Option.toList_none, List.map_nil, List.append_nil] at hs
      exact hinv.same_id g hg s hs
  rcases hout with ⟨-, rfl⟩ | ⟨-, rfl⟩
  · -- failed: the token is given back and nothing is on the way
    have hsingle : Single (BitVec.twoPow 32 i) := ⟨i, hi, rfl⟩
    have hrec := (hacc.recorded reqId hi hb).1
    have hhist : (sendError (recorded prv (BitVec.twoPow 32 i) reqId) (BitVec.twoPow 32 i)
        w.ret w.calls).prv.history
        = (releaseToken (recorded prv (BitVec.twoPow 32 i) reqId) (BitVec.twoPow 32 i)).history := by
      unfold sendError
      dsimp only
      split <;> rfl
    have hnone : (sendError (recorded prv (BitVec.twoPow 32 i) reqId) (BitVec.twoPow 32 i)
        w.ret w.calls).token = none := by
      unfold sendError
      dsimp only
      split <;> rfl
    have hkeep := hinv.of_prv (hrec.sendError hsingle w.ret w.calls)
      (fun g hg => mem_outstanding_undone hacc hi hb (mem_outstanding_of_eq hhist hg))
    rw [Net.sent, hnone, Option.toList_none, List.map_nil, List.append_nil]
    exact hkeep
  · -- sent: the new request joins the ones on the way
    have htoken : (sendDone (recorded prv (BitVec.twoPow 32 i) reqId) (BitVec.twoPow 32 i)
        w.calls).token = some (BitVec.twoPow 32 i) := by
      rw [sendDone]
      split <;> rfl
    rw [Net.sent, htoken]
    have hrec := (hacc.recorded reqId hi hb).1
    have hwire : ∀ s ∈ net.wire ++ [({ token := BitVec.twoPow 32 i, id := reqId } : Sent)],
        s ∈ net.wire ∨ s = { token := BitVec.twoPow 32 i, id := reqId } := by
      intro s hs
      rcases List.mem_append.mp hs with hold | hnew
      · exact Or.inl hold
      · exact Or.inr (List.mem_singleton.mp hnew)
    have hsingle : ∀ s ∈ net.wire ++ [({ token := BitVec.twoPow 32 i, id := reqId } : Sent)],
        Single s.token := by
      intro s hs
      rcases hwire s hs with hold | rfl
      · exact hinv.wire_single s hold
      · exact ⟨i, hi, rfl⟩
    -- an old record never has the new token
    have hold_same : ∀ g ∈ prv.outstanding,
        ∀ s ∈ net.wire ++ [({ token := BitVec.twoPow 32 i, id := reqId } : Sent)],
        s.token = g.token → s.id = g.id := by
      intro g hg s hs heq
      rcases hwire s hs with hold | rfl
      · exact hinv.same_id g hg s hold heq
      · exact absurd heq.symm (token_ne_of_free hacc hi hb hg)
    rcases sendDone_prv (recorded prv (BitVec.twoPow 32 i) reqId) (BitVec.twoPow 32 i) w.calls
      with ⟨hfound, hprv⟩ | ⟨-, hprv⟩
    · -- the token is kept, so the id has a handler
      have hnew : ({ token := BitVec.twoPow 32 i, id := reqId } : ReqHistory)
          ∈ (recorded prv (BitVec.twoPow 32 i) reqId).outstanding :=
        (outstanding_taken hacc hi hb reqId).mem_iff.mpr List.mem_cons_self
      have hhandler : hasHandler prv reqId = true := by
        have heq := findReqHandler_eq hrec hnew
        dsimp only at heq
        rw [heq] at hfound
        exact hfound
      rw [hprv]
      refine ⟨hrec, hsingle, ?_, hinv.in_work, hinv.matched⟩
      intro g hg s hs heq
      rcases mem_outstanding_recorded hacc hi hb hg with rfl | hold
      · rcases hwire s hs with hwold | rfl
        · exact hfresh hhandler s hwold (heq.trans halloc.symm)
        · rfl
      · exact hold_same g hold s hs heq
    · rw [hprv]
      refine ⟨hrec.releaseToken ⟨i, hi, rfl⟩, hsingle, ?_, hinv.in_work, hinv.matched⟩
      intro g hg s hs heq
      exact hold_same g (mem_outstanding_undone hacc hi hb hg) s hs heq

/-- The request functions: what they prepare and take back does not show. -/
theorem Inv.request {call : Call} {results : List WriteResult} {r : SendResult}
    (hinv : Inv net)
    (hfresh : hasHandler (prepare net.prv call) call.reqId = true → NotOnTheWay net call.reqId)
    (h : RilClient.request api net.prv call results = some r) :
    Inv (net.sent call.reqId r) := by
  rcases request_cases h with ⟨hprv, htoken, -⟩ | ⟨r', -, hsend, rfl⟩
  · rw [Net.sent, hprv, htoken, Option.toList_none, List.map_nil, List.append_nil]
    exact hinv
  · obtain ⟨hpool, hhist, -⟩ := prepare_eq net.prv call
    obtain ⟨hpool', hhist', -, htoken, -⟩ := unregisterFailed_eq call r'
    have hprep : Inv { net with prv := prepare net.prv call } :=
      hinv.of_prv (hinv.acc.of_eq hpool hhist) (fun g hg => mem_outstanding_of_eq hhist hg)
    have hfresh' : hasHandler (prepare net.prv call) call.reqId = true →
        NotOnTheWay { net with prv := prepare net.prv call } call.reqId := by
      intro hhas s hs heq
      rw [show ({ net with prv := prepare net.prv call } : Net).prv.tokenPool
        = net.prv.tokenPool from hpool] at heq
      exact hfresh hhas s hs heq
    have hsent := hprep.sent hfresh' hsend
    have hkeep := hsent.of_prv (hsent.acc.of_eq hpool' hhist')
      (fun g hg => mem_outstanding_of_eq hhist' hg)
    rw [Net.sent, htoken]
    exact hkeep

/-- The handler that an answer calls was registered for the id of the request
    that is answered. -/
theorem completions_matched {s : Sent} {p : api.Parcel} {ret : Err} {token : BitVec 32}
    {reqId : Option (BitVec 32)} {calls : List Callback} (hacc : Accounting net.prv)
    (hsingle : Single s.token)
    (hsame : ∀ h ∈ net.prv.outstanding, s.token = h.token → s.id = h.id)
    (hread : (api.readInt32 p).1 = some s.token)
    (hlook : lookupSolicited api net.prv p = .found ret token reqId calls) :
    token = s.token ∧ ∀ c ∈ completions s calls, c.answered.id = c.registeredId := by
  rw [lookupSolicited] at hlook
  rcases hpair : api.readInt32 p with ⟨_ | token', p'⟩
  · rw [hpair] at hread
    cases hread
  rw [hpair] at hread hlook
  obtain rfl : token' = s.token := Option.some.inj hread
  dsimp only at hlook
  cases hval : isValidToken net.prv.tokenPool s.token with
  | false =>
      rw [hval, if_pos rfl] at hlook
      cases hlook
  | true =>
      rw [hval, if_neg (by decide)] at hlook
      obtain ⟨ret', reqId', calls', hans⟩ := @answerSolicited_eq api net.prv s.token p'
      rw [hans] at hlook
      obtain ⟨-, htok, -, rfl⟩ := Lookup.found.inj hlook
      refine ⟨htok.symm, ?_⟩
      obtain ⟨h, hmem, hhtok⟩ := exists_outstanding hacc hsingle hval
      have hid : s.id = h.id := hsame h hmem hhtok.symm
      rw [answerSolicited] at hans
      split at hans
      · obtain ⟨-, -, -, rfl⟩ := Lookup.found.inj hans
        intro c hc
        cases hc
      split at hans
      · -- an error answer calls the error callback only
        obtain ⟨-, -, -, rfl⟩ := Lookup.found.inj hans
        intro c hc
        cases hcb : net.prv.errCb with
        | none =>
            rw [hcb] at hc
            cases hc
        | some cb =>
            rw [hcb] at hc
            cases hc
      dsimp only at hans
      split at hans
      · rename_i slotId handler hfind
        obtain ⟨-, -, -, rfl⟩ := Lookup.found.inj hans
        intro c hc
        have hc' : c = { handler := handler, registeredId := slotId, answered := s } := by
          simpa [completions] using hc
        rw [← hhtok] at hfind
        have := findReqHandler_id hacc hmem hfind
        rw [hc']
        exact hid.trans this.symm
      · obtain ⟨-, -, -, rfl⟩ := Lookup.found.inj hans
        intro c hc
        cases hc

/-- **AN ANSWER IS MATCHED**: the oldest request on the way is answered to a
    handler of its own id, or to none. -/
theorem Inv.answer {buffer : Bytes} (hinv : Inv net)
    (h : RilClientMatch.step api net (.answer buffer) = some net') : Inv net' := by
  unfold RilClientMatch.step at h
  dsimp only at h
  split at h
  · rename_i s rest hwire hidle
    have hrest : ∀ x ∈ rest, x ∈ net.wire := by
      intro x hx
      rw [hwire]
      exact List.mem_cons_of_mem s hx
    have hmem : s ∈ net.wire := by
      rw [hwire]
      exact List.mem_cons_self
    split at h
    · rename_i hans
      cases hlook : lookupSolicited api net.prv (api.readInt32 (api.setData buffer)).2 with
      | reject ret =>
          rw [hlook] at h
          rw [← Option.some.inj h]
          refine ⟨hinv.acc, fun x hx => hinv.wire_single x (hrest x hx),
            fun g hg x hx => hinv.same_id g hg x (hrest x hx), hinv.in_work, hinv.matched⟩
      | found ret token reqId calls =>
          have hread : (api.readInt32 (api.readInt32 (api.setData buffer)).2).1
              = some s.token := by
            rw [answers, solicitedToken] at hans
            rcases hpair : api.readInt32 (api.setData buffer) with ⟨_ | responseType, p⟩
            · rw [hpair] at hans
              cases hans
            rw [hpair] at hans
            dsimp only at hans ⊢
            split at hans
            · exact hans
            · cases hans
          obtain ⟨htok, hcalls⟩ := completions_matched hinv.acc (hinv.wire_single s hmem)
            (fun g hg heq => hinv.same_id g hg s hmem heq) hread hlook
          rw [hlook] at h
          rw [← Option.some.inj h]
          refine ⟨hinv.acc, fun x hx => hinv.wire_single x (hrest x hx),
            fun g hg x hx => hinv.same_id g hg x (hrest x hx), ?_, ?_⟩
          · intro t i heq
            obtain ⟨rfl, -⟩ := Prod.mk.inj (Option.some.inj heq)
            rw [htok]
            exact hinv.wire_single s hmem
          · intro c hc
            rcases List.mem_append.mp hc with hold | hnew
            · exact hinv.matched c hold
            · exact hcalls c hnew
    · cases h
  · cases h

/-- Under the condition one step keeps the invariant. -/
theorem Inv.step {act : Act} (hinv : Inv net) (hok : FreshToken net act)
    (h : step api net act = some net') : Inv net' := by
  cases act with
  | connect outcome =>
      rw [← Option.some.inj h]
      refine hinv.of_prv (hinv.acc.connect outcome) ?_
      intro g hg
      exact mem_outstanding_connect net.prv outcome hg
  | send reqId data results =>
      obtain ⟨r, hr, rfl⟩ := Option.map_eq_some_iff.mp h
      exact @Inv.sent _ net net.prv _ _ _ _ hinv hok hr
  | request call results =>
      obtain ⟨r, hr, rfl⟩ := Option.map_eq_some_iff.mp h
      exact hinv.request hok hr
  | register id handler =>
      rw [← Option.some.inj h]
      exact hinv.of_prv (hinv.acc.of_eq rfl rfl) (fun g hg => mem_outstanding_of_eq rfl hg)
  | answer buffer => exact hinv.answer h
  | handlerReturned =>
      unfold RilClientMatch.step at h
      dsimp only at h
      split at h
      · exact nomatch h
      · rename_i token reqId hwork
        rw [← Option.some.inj h]
        have hsingle := hinv.in_work token reqId hwork
        have hkeep := hinv.of_prv (hinv.acc.finishSolicited hsingle reqId) (fun g hg =>
          mem_outstanding_release hsingle.ne_zero
            (mem_outstanding_of_eq (finishSolicited_accounts net.prv token reqId).2 hg))
        exact ⟨hkeep.acc, hkeep.wire_single, hkeep.same_id, fun _ _ h => (nomatch h),
          hkeep.matched⟩

end Steps

-- ── Whole runs ───────────────────────────────────────────────────────────────

/-- **EVERY HANDLER GETS ITS OWN ANSWERS** in every run in which no request
    with a handler takes a token that is on the way for another id. -/
theorem matched_of_freshTokens (api : ParcelApi) (acts : List Act)
    (hfresh : Run.StepsMeet (step api) FreshToken {} acts) :
    Run.Always (step api) Matched {} acts :=
  Run.always_of_stepsMeet (fun _ (h : Inv _) => h.matched)
    (fun _ _ _ hinv hok h => hinv.step hok h) acts Inv.init hfresh

/-- A mute query, its answer, and the handler returns: the handler is called
    once, with the answer to the query. -/
theorem matched_of_freshTokens_getMute :
    ∃ net, Run.run (step bytesParcel) {}
        [.connect { sock := 5, pipe := some (6, 7) },
         .request (getMute (some 9)) [.wrote 4, .wrote 16],
         .answer (answerRecord 1),
         .handlerReturned] = some net
      ∧ net.calls = [{ handler := 9, registeredId := 106, answered := { token := 1, id := 106 } }]
      ∧ Matched net := by
  have hrun : (Run.run (step bytesParcel) {}
        [.connect { sock := 5, pipe := some (6, 7) },
         .request (getMute (some 9)) [.wrote 4, .wrote 16],
         .answer (answerRecord 1),
         .handlerReturned]).map Net.calls
      = some [{ handler := 9, registeredId := 106, answered := { token := 1, id := 106 } }] := by
    decide +kernel
  obtain ⟨net, hnet, hcalls⟩ := Option.map_eq_some_iff.mp hrun
  refine ⟨net, hnet, hcalls, ?_⟩
  refine matched_of_freshTokens bytesParcel _ ?_ _ [] net (List.append_nil _).symm hnet
  -- nothing is on the way when the only request is made
  refine Run.stepsMeet_cons.mpr fun s₁ h₁ => ⟨trivial, Run.stepsMeet_cons.mpr fun s₂ _ => ?_⟩
  refine ⟨?_, Run.stepsMeet_cons.mpr fun s₃ _ => ⟨trivial, Run.stepsMeet_cons.mpr fun s₄ _ =>
    ⟨trivial, fun done a rest _ _ hcat => absurd hcat (by simp)⟩⟩⟩
  intro _ s hs
  rw [← Option.some.inj h₁] at hs
  exact nomatch hs

/-- `SetMute` gives token 1 back while it is on the way, `GetMute` takes it,
    and the answer to `SetMute` is handed to the handler of `GetMute`. -/
theorem matched_fails_reusedToken :
    ∃ net, Run.run (step bytesParcel) {}
        [.connect { sock := 5, pipe := some (6, 7) },
         .request (setMute 1) [.wrote 4, .wrote 20],
         .request (getMute (some 9)) [.wrote 4, .wrote 16],
         .answer (answerRecord 1)] = some net
      ∧ net.calls = [{ handler := 9, registeredId := 106, answered := { token := 1, id := 105 } }]
      ∧ ¬ Matched net := by
  have hrun : (Run.run (step bytesParcel) {}
        [.connect { sock := 5, pipe := some (6, 7) },
         .request (setMute 1) [.wrote 4, .wrote 20],
         .request (getMute (some 9)) [.wrote 4, .wrote 16],
         .answer (answerRecord 1)]).map Net.calls
      = some [{ handler := 9, registeredId := 106, answered := { token := 1, id := 105 } }] := by
    decide +kernel
  obtain ⟨net, hnet, hcalls⟩ := Option.map_eq_some_iff.mp hrun
  refine ⟨net, hnet, hcalls, ?_⟩
  intro hmatched
  have := hmatched _ (by rw [hcalls]; exact List.mem_cons_self)
  exact absurd this (by decide)

end RilClientMatch

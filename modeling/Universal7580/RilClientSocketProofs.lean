import Universal7580.RilClientProofs

/-! # Who closes the client's socket

    The reader thread, the senders and `Disconnect_RILD` share one socket.
    The model follows the calls made on descriptors: a send is one step, the
    reader is split at `select` and `Disconnect_RILD` at `pthread_join`, and
    the system may answer anything.

    The reader closes the socket in three places and resets `sock` and
    `b_connect` each time.  `blockingWrite` closes it as well, on every error
    but `EINTR`, and resets nothing; its caller then closes it a second time
    for `EPIPE` and `EBADFD` and keeps the dead descriptor for every other
    error.  So the client owns its socket exactly as long as no write of a
    send fails (`owned_iff_softWrites`). -/

namespace RilClientSocket

open PageBytes RilClient

-- ── The reader ───────────────────────────────────────────────────────────────

/-- `EAGAIN`. -/
def eagain : Nat := 11

/-- What one `record_stream_get_next` answers. -/
inductive StreamResult where
  | record (buffer : Bytes)
  | endOfStream
  | failed (errno : Nat)
  | positive

/-- What `select` answers: nothing above zero, or which descriptors are ready,
    with the records of the socket and the result of reading the pipe. -/
inductive SelectResult where
  | failed
  | ready (sock : Option (List StreamResult)) (pipe : Option Int)

/-- Where the reader thread is. -/
inductive Reader where
  | loopHead
  | inSelect
  | exited
  deriving DecidableEq

/-- The client, the descriptor its record stream was made with, the reader,
    the callers waiting in `pthread_join`, and the calls made so far. -/
structure Sys where
  prv : RilClientPrv
  fd : Int
  reader : Reader := .loopHead
  joining : Nat := 0
  calls : List Syscall := []

/-- What can happen next. -/
inductive Act where
  | request (call : Call) (results : List WriteResult)
  | readerEnter
  | readerSelect (result : SelectResult)
  | disconnect (results : List WriteResult)
  | joined

/-- The record loop of `RxReaderFunc`: the client after it, and whether the
    stream ended or failed. -/
def readRecords (api : ParcelApi) (fd : Int) :
    RilClientPrv → List StreamResult → Option (RilClientPrv × Bool × List Syscall)
  | _, [] => none
  | prv, .record buffer :: rest =>
      (readRecords api fd (processRxBuffer api prv buffer).1 rest).map
        (fun r => (r.1, r.2.1, .read fd :: r.2.2))
  | prv, .positive :: rest =>
      (readRecords api fd prv rest).map (fun r => (r.1, r.2.1, .read fd :: r.2.2))
  | prv, .endOfStream :: _ => some (prv, true, [.read fd])
  | prv, .failed errno :: _ =>
      some (prv, decide (¬ (errno = eagain ∨ errno = eintr)), [.read fd])

/-- The close of the end-of-stream and the select-failure branches. -/
def closeSocket (prv : RilClientPrv) : RilClientPrv × List Syscall :=
  if prv.sock > 0 then ({ prv with sock := -1, bConnect := false }, [.close prv.sock])
  else (prv, [])

/-- The branch of the command pipe; `n` is what its `read` answered. -/
def readCommand (prv : RilClientPrv) (n : Int) : RilClientPrv × List Syscall :=
  if n > 0 then
    ({ prv with sock := -1, bConnect := false },
     [.read prv.pipefd.1, .close prv.sock, .close prv.pipefd.1, .close prv.pipefd.2])
  else (prv, [.read prv.pipefd.1])

/-- The part of the loop body after the socket was looked at. -/
def readPipe (sys : Sys) (pipe : Option Int) : Sys :=
  match pipe with
  | none => { sys with reader := .loopHead }
  | some n =>
      let r := readCommand sys.prv n
      { sys with prv := r.1, calls := sys.calls ++ r.2, reader := .loopHead }

/-- The loop body of `RxReaderFunc` from the return of `select` on. -/
def afterSelect (api : ParcelApi) (sys : Sys) : SelectResult → Option Sys
  | .failed =>
      let r := closeSocket sys.prv
      some { sys with
        prv := r.1
        calls := sys.calls ++ r.2
        reader := if sys.prv.errCb.isSome then .exited else .loopHead }
  | .ready none pipe => some (readPipe sys pipe)
  | .ready (some results) pipe =>
      match readRecords api sys.fd sys.prv results with
      | none => none
      | some (prv, true, calls) =>
          let r := closeSocket prv
          some { sys with prv := r.1, calls := sys.calls ++ (calls ++ r.2), reader := .exited }
      | some (prv, false, calls) =>
          some (readPipe { sys with prv := prv, calls := sys.calls ++ calls } pipe)

-- ── Disconnecting ────────────────────────────────────────────────────────────

/-- The text `close`. -/
def closeCommand : Bytes := [0x63, 0x6c, 0x6f, 0x73, 0x65]

/-- The write loop of `Disconnect_RILD`, which repeats on `EINTR` only. -/
def writeCommand (fd : Int) : List WriteResult → Option (List Syscall)
  | [] => none
  | .failed errno :: rest =>
      if errno = eintr then (writeCommand fd rest).map (.write fd closeCommand :: ·)
      else some [.write fd closeCommand]
  | .wrote _ :: _ => some [.write fd closeCommand]

/-- `Disconnect_RILD` up to `pthread_join`. -/
def disconnect (sys : Sys) (results : List WriteResult) : Option Sys :=
  if sys.prv.sock = -1 then some sys
  else if sys.prv.sock > 0 then
    (writeCommand sys.prv.pipefd.2 results).map (fun calls =>
      { sys with
        prv := { sys.prv with bConnect := false }
        calls := sys.calls ++ calls
        joining := sys.joining + 1 })
  else some { sys with
    prv := { sys.prv with bConnect := false }
    joining := sys.joining + 1 }

-- ── Steps ────────────────────────────────────────────────────────────────────

/-- The number of writes among the calls. -/
def numWrites (calls : List Syscall) : Nat :=
  calls.countP (fun c => match c with | .write _ _ => true | _ => false)

/-- One step.  The results of a request are the answers to exactly the writes
    it makes. -/
def step (api : ParcelApi) (sys : Sys) : Act → Option Sys
  | .request call results =>
      match request api sys.prv call results with
      | none => none
      | some r =>
          if numWrites r.calls = results.length then
            some { sys with prv := r.prv, calls := sys.calls ++ r.calls }
          else none
  | .readerEnter =>
      if sys.reader ≠ .loopHead then none
      else if sys.prv.bConnect then
        some { sys with
          reader := .inSelect
          calls := sys.calls ++ [.select [sys.prv.sock, sys.prv.pipefd.1]] }
      else some { sys with reader := .exited }
  | .readerSelect result =>
      if sys.reader ≠ .inSelect then none else afterSelect api sys result
  | .disconnect results => disconnect sys results
  | .joined =>
      if sys.reader = .exited ∧ 0 < sys.joining then
        some { sys with joining := sys.joining - 1 }
      else none

/-- The state in which `Connect_RILD` leaves the client. -/
def connected (prv : RilClientPrv) (o : ConnectOutcome) : Sys :=
  { prv := (connectRild prv o).1, fd := o.sock }

-- ── Ownership ────────────────────────────────────────────────────────────────

/-- The descriptors a call is issued on. -/
def fdsOf : Syscall → List Int
  | .write fd _ => [fd]
  | .read fd => [fd]
  | .select fds => fds
  | .close fd => [fd]

/-- No call is issued on a descriptor that was closed before. -/
def NoUseAfterClose (calls : List Syscall) : Prop :=
  ∀ before c after, calls = before ++ c :: after → ∀ fd ∈ fdsOf c, .close fd ∉ before

/-- **OWNERSHIP**: the socket is closed at most once, nothing is used after it
    was closed, and once the socket is closed the client says so. -/
structure Owned (sys : Sys) : Prop where
  once : sys.calls.count (.close sys.fd) ≤ 1
  noUse : NoUseAfterClose sys.calls
  reset : .close sys.fd ∈ sys.calls → sys.prv.sock = -1 ∧ sys.prv.bConnect = false

/-- A write failed for good. -/
def WriteResult.hard : WriteResult → Prop
  | .wrote _ => False
  | .failed errno => errno ≠ eintr

/-- The condition on a step: no write of a request fails, except with
    `EINTR`. -/
def SoftWrites (_ : Sys) : Act → Prop
  | .request _ results => ∀ r ∈ results, ¬ WriteResult.hard r
  | _ => True

-- ── Call lists ───────────────────────────────────────────────────────────────

/-- Nothing is closed. -/
def CloseFree (calls : List Syscall) : Prop := ∀ fd, Syscall.close fd ∉ calls

theorem CloseFree.append {a b : List Syscall} (ha : CloseFree a) (hb : CloseFree b) :
    CloseFree (a ++ b) := by
  intro fd hmem
  rcases List.mem_append.mp hmem with h | h
  · exact ha fd h
  · exact hb fd h

theorem CloseFree.count_eq_zero {calls : List Syscall} (h : CloseFree calls) (fd : Int) :
    calls.count (.close fd) = 0 := List.count_eq_zero.mpr (h fd)

/-- Where nothing is closed, nothing is used after a close. -/
theorem CloseFree.noUse {calls : List Syscall} (h : CloseFree calls) :
    NoUseAfterClose calls := by
  intro before c after hcat fd _ hmem
  exact h fd (by rw [hcat]; exact List.mem_append_left _ hmem)

/-- Distinct descriptors closed one after the other at the end. -/
theorem noUse_append_closes {calls : List Syscall} (h : CloseFree calls) :
    ∀ {fds : List Int}, fds.Nodup → NoUseAfterClose (calls ++ fds.map Syscall.close) := by
  intro fds hnodup before c after hcat fd hfd hmem
  -- the earlier close is one of the appended ones, so `c` is one as well
  rcases List.append_eq_append_iff.mp hcat with ⟨mid, hbefore, hclose⟩ | ⟨mid, hcalls, -⟩
  · rw [hbefore] at hmem
    rcases List.mem_append.mp hmem with hm | hm
    · exact h fd hm
    · obtain ⟨l₁, l₂, rfl, hl₁, hl₂⟩ := List.map_eq_append_iff.mp hclose
      obtain ⟨d, l₃, rfl, hd, -⟩ := List.map_eq_cons_iff.mp hl₂
      rw [← hd] at hfd
      have heq : fd = d := List.mem_singleton.mp hfd
      rw [← hl₁] at hm
      obtain ⟨d', hd', hd'eq⟩ := List.mem_map.mp hm
      obtain rfl : d' = fd := Syscall.close.inj hd'eq
      rw [heq] at hd'
      exact List.disjoint_of_nodup_append hnodup hd' List.mem_cons_self
  · refine h fd ?_
    rw [hcalls]
    exact List.mem_append_left _ hmem

-- ── What a send does to the socket ───────────────────────────────────────────

section Send

variable {api : ParcelApi} {prv : RilClientPrv}

/-- What `blockingWrite` used of the results: no hard failure, and then it only
    wrote; or a hard failure, and then it closed the descriptor. -/
theorem blockingWrite_used {fd : Int} : ∀ {results : List WriteResult} {buf : Bytes} {w : Written},
    blockingWrite fd buf results = some w →
    ∃ used, results = used ++ w.results ∧ numWrites w.calls = used.length
      ∧ ((∀ r ∈ used, ¬ WriteResult.hard r) → w.ret = 0 ∧ CloseFree w.calls
          ∧ ∀ c ∈ w.calls, fdsOf c = [fd])
      ∧ ((∃ r ∈ used, WriteResult.hard r) → .close fd ∈ w.calls) := by
  intro results
  induction results with
  | nil =>
      intro buf w h
      cases buf with
      | nil =>
          rw [← Option.some.inj h]
          exact ⟨[], rfl, rfl, fun _ => ⟨rfl, fun _ hc => (nomatch hc), fun _ hc => (nomatch hc)⟩,
            fun ⟨_, hr, _⟩ => (nomatch hr)⟩
      | cons b rest => exact nomatch h
  | cons r rest ih =>
      intro buf w h
      cases buf with
      | nil =>
          rw [← Option.some.inj h]
          exact ⟨[], rfl, rfl, fun _ => ⟨rfl, fun _ hc => (nomatch hc), fun _ hc => (nomatch hc)⟩,
            fun ⟨_, hr, _⟩ => (nomatch hr)⟩
      | cons b buf =>
          -- a turn of the loop that goes on
          have hgo : ∀ {buf' : Bytes} {w' : Written}, ¬ WriteResult.hard r →
              blockingWrite fd buf' rest = some w' →
              w = { w' with calls := .write fd (b :: buf) :: w'.calls } →
              ∃ used, r :: rest = used ++ w.results ∧ numWrites w.calls = used.length
                ∧ ((∀ r ∈ used, ¬ WriteResult.hard r) → w.ret = 0 ∧ CloseFree w.calls
                    ∧ ∀ c ∈ w.calls, fdsOf c = [fd])
                ∧ ((∃ r ∈ used, WriteResult.hard r) → .close fd ∈ w.calls) := by
            intro buf' w' hsoft hrec hw
            obtain ⟨used, hcat, hnum, hok, hbad⟩ := ih hrec
            subst hw
            refine ⟨r :: used, by rw [hcat]; rfl, ?_, ?_, ?_⟩
            · rw [numWrites, List.countP_cons_of_pos rfl, List.length_cons, ← hnum]
              rfl
            · intro hall
              obtain ⟨hret, hfree, hfds⟩ := hok (fun x hx => hall x (List.mem_cons_of_mem _ hx))
              refine ⟨hret, ?_, ?_⟩
              · intro d hd
                rcases List.mem_cons.mp hd with hd | hd
                · exact nomatch hd
                · exact hfree d hd
              · intro c hc
                rcases List.mem_cons.mp hc with rfl | hc
                · rfl
                · exact hfds c hc
            · rintro ⟨x, hx, hhard⟩
              rcases List.mem_cons.mp hx with rfl | hx
              · exact absurd hhard hsoft
              · exact List.mem_cons_of_mem _ (hbad ⟨x, hx, hhard⟩)
          cases r with
          | wrote n =>
              obtain ⟨w', hrec, hw⟩ := Option.map_eq_some_iff.mp h
              exact hgo (fun hh => hh) hrec hw.symm
          | failed errno =>
              rw [blockingWrite] at h
              by_cases hintr : errno = eintr
              · rw [if_pos hintr] at h
                obtain ⟨w', hrec, hw⟩ := Option.map_eq_some_iff.mp h
                exact hgo (fun hh => hh hintr) hrec hw.symm
              · rw [if_neg hintr] at h
                rw [← Option.some.inj h]
                refine ⟨[.failed errno], rfl, rfl, ?_, ?_⟩
                · intro hall
                  exact absurd hintr (hall _ List.mem_cons_self)
                · intro _
                  exact List.mem_cons_of_mem _ List.mem_cons_self

/-- The same for the two writes of a send. -/
theorem sendParcel_used {sock : Int} {parcel : Bytes} {results : List WriteResult} {w : Written}
    (h : sendParcel sock parcel results = some w) :
    ∃ used, results = used ++ w.results ∧ numWrites w.calls = used.length
      ∧ ((∀ r ∈ used, ¬ WriteResult.hard r) → w.ret = 0 ∧ CloseFree w.calls
          ∧ ∀ c ∈ w.calls, fdsOf c = [sock])
      ∧ ((∃ r ∈ used, WriteResult.hard r) → .close sock ∈ w.calls) := by
  rw [sendParcel] at h
  cases hhead : blockingWrite sock (htonl parcel.length) results with
  | none =>
      rw [hhead] at h
      exact nomatch h
  | some head =>
      rw [hhead] at h
      dsimp only at h
      obtain ⟨used, hcat, hnum, hok, hbad⟩ := blockingWrite_used hhead
      by_cases hneg : head.ret < 0
      · rw [if_pos hneg] at h
        rw [← Option.some.inj h]
        exact ⟨used, hcat, hnum, hok, hbad⟩
      · rw [if_neg hneg] at h
        obtain ⟨body, hbody, rfl⟩ := Option.map_eq_some_iff.mp h
        obtain ⟨used', hcat', hnum', hok', hbad'⟩ := blockingWrite_used hbody
        refine ⟨used ++ used', ?_, ?_, ?_, ?_⟩
        · rw [hcat, hcat', List.append_assoc]
        · rw [numWrites, List.countP_append, List.length_append, ← hnum, ← hnum']
          rfl
        · intro hall
          obtain ⟨-, hfree, hfds⟩ := hok (fun x hx => hall x (List.mem_append_left _ hx))
          obtain ⟨hret, hfree', hfds'⟩ := hok' (fun x hx => hall x (List.mem_append_right _ hx))
          refine ⟨hret, hfree.append hfree', ?_⟩
          intro c hc
          rcases List.mem_append.mp hc with hc | hc
          · exact hfds c hc
          · exact hfds' c hc
        · rintro ⟨x, hx, hhard⟩
          rcases List.mem_append.mp hx with hx | hx
          · exact List.mem_append_left _ (hbad ⟨x, hx, hhard⟩)
          · exact List.mem_append_right _ (hbad' ⟨x, hx, hhard⟩)

/-- What a request leaves of the connection: the same socket, or a second
    close after a failed write. -/
structure SocketEffect (prv : RilClientPrv) (results : List WriteResult) (r : SendResult) :
    Prop where
  soft : (∀ x ∈ results, ¬ WriteResult.hard x) → SameConn r.prv prv ∧ CloseFree r.calls
  hard : (∃ x ∈ results, WriteResult.hard x) →
    (.close prv.sock ∈ r.calls ∧ r.prv.sock = prv.sock)
      ∨ 2 ≤ r.calls.count (.close prv.sock)

/-- A request that made no call leaves the connection. -/
theorem SocketEffect.of_quiet {results : List WriteResult} {r : SendResult}
    (hcalls : r.calls = []) (hsame : SameConn r.prv prv)
    (hnum : numWrites r.calls = results.length) : SocketEffect prv results r where
  soft := fun _ => ⟨hsame, by rw [hcalls]; exact fun _ h => (nomatch h)⟩
  hard := by
    rw [hcalls] at hnum
    rw [List.eq_nil_of_length_eq_zero hnum.symm]
    rintro ⟨x, hx, -⟩
    exact nomatch hx

/-- The error exit of a send. -/
theorem SocketEffect.sendError {token : BitVec 32} {results : List WriteResult} {w : Written}
    (hneg : w.ret < 0)
    (hok : (∀ r ∈ results, ¬ WriteResult.hard r) → w.ret = 0 ∧ CloseFree w.calls
      ∧ ∀ c ∈ w.calls, fdsOf c = [prv.sock])
    (hbad : (∃ r ∈ results, WriteResult.hard r) → .close prv.sock ∈ w.calls) :
    SocketEffect prv results (sendError prv token w.ret w.calls) where
  soft := by
    intro hall
    have := (hok hall).1
    omega
  hard := by
    intro hhard
    have hclose := hbad hhard
    unfold RilClient.sendError
    dsimp only
    split
    · refine Or.inr ?_
      rw [List.count_append]
      have h1 : 0 < w.calls.count (.close prv.sock) := List.count_pos_iff.mpr hclose
      have h2 : [Syscall.close (releaseToken prv token).sock].count (.close prv.sock) = 1 :=
        List.count_singleton_self
      omega
    · exact Or.inl ⟨hclose, rfl⟩

/-- A send is a `SocketEffect`. -/
theorem SocketEffect.send {reqId : BitVec 32} {data : Bytes} {results : List WriteResult}
    {r : SendResult} (h : sendOemRequestHookRaw api prv reqId data results = some r)
    (hnum : numWrites r.calls = results.length) : SocketEffect prv results r := by
  rw [sendOemRequestHookRaw] at h
  rcases halloc : allocateToken prv.tokenPool with ⟨token, pool⟩
  rw [halloc] at h
  dsimp only at h
  split at h
  · rw [← Option.some.inj h] at hnum ⊢
    exact SocketEffect.of_quiet rfl ⟨rfl, rfl, rfl⟩ hnum
  rcases hrec : recordReqHistory prv.history token reqId with ⟨history, ret⟩
  rw [hrec] at h
  dsimp only at h
  split at h
  · -- no slot was free: the error exit without a write
    have hr := (Option.some.inj h).symm
    have hquiet : r.calls = [] ∧ SameConn r.prv prv := by
      rw [hr]
      unfold RilClient.sendError
      dsimp only
      rw [if_neg (by decide)]
      exact ⟨rfl, rfl, rfl, rfl⟩
    exact SocketEffect.of_quiet hquiet.1 hquiet.2 hnum
  cases hw : sendParcel prv.sock (requestParcel api token data) results with
  | none =>
      rw [hw] at h
      cases h
  | some w =>
      rw [hw] at h
      dsimp only at h
      obtain ⟨used, hcat, hnum', hok, hbad⟩ := sendParcel_used hw
      -- every result was used, since each write took one
      have hall : numWrites r.calls = numWrites w.calls → used = results := by
        intro heq
        have hlen := congrArg List.length hcat
        rw [List.length_append] at hlen
        have : w.results = [] := List.eq_nil_of_length_eq_zero (by omega)
        rw [hcat, this, List.append_nil]
      split at h
      · rename_i hneg
        have hr := (Option.some.inj h).symm
        have hcalls : numWrites r.calls = numWrites w.calls := by
          rw [hr]
          unfold RilClient.sendError
          dsimp only
          split
          · rw [numWrites, List.countP_append]
            rfl
          · rfl
        rw [hr]
        rw [hall hcalls] at hok hbad
        have heff := @SocketEffect.sendError
          { prv with tokenPool := pool, history := history } token _ _ hneg hok hbad
        refine ⟨fun hsoft => ?_, heff.hard⟩
        obtain ⟨hsame, hfree⟩ := heff.soft hsoft
        exact ⟨hsame.trans ⟨rfl, rfl, rfl⟩, hfree⟩
      · have hr := (Option.some.inj h).symm
        have hdone : (sendDone { prv with tokenPool := pool, history := history } token
              w.calls).calls = w.calls
            ∧ SameConn (sendDone { prv with tokenPool := pool, history := history } token
              w.calls).prv prv := by
          rw [sendDone]
          split <;> exact ⟨rfl, rfl, rfl, rfl⟩
        obtain ⟨hcalls, hsame⟩ := hdone
        rw [hr]
        rw [hall (by rw [hr, hcalls])] at hok hbad
        refine ⟨?_, ?_⟩
        · intro hsoft
          refine ⟨hsame, ?_⟩
          rw [hcalls]
          exact (hok hsoft).2.1
        · intro hhard
          refine Or.inl ⟨?_, hsame.sock⟩
          rw [hcalls]
          exact hbad hhard

/-- A request is a `SocketEffect`. -/
theorem SocketEffect.request {call : Call} {results : List WriteResult} {r : SendResult}
    (h : RilClient.request api prv call results = some r)
    (hnum : numWrites r.calls = results.length) : SocketEffect prv results r := by
  rcases request_cases h with ⟨hprv, -, hcalls⟩ | ⟨r', -, hsend, rfl⟩
  · exact SocketEffect.of_quiet hcalls (by rw [hprv]; exact SameConn.refl prv) hnum
  · obtain ⟨-, -, hprep⟩ := prepare_eq prv call
    obtain ⟨-, -, hback, -, hcalls⟩ := unregisterFailed_eq call r'
    have heff := SocketEffect.send hsend (by rw [← hcalls]; exact hnum)
    refine ⟨?_, ?_⟩
    · intro hsoft
      obtain ⟨hsame, hfree⟩ := heff.soft hsoft
      rw [hcalls]
      exact ⟨hback.trans (hsame.trans hprep), hfree⟩
    · intro hhard
      rw [hback.sock, hcalls, ← hprep.sock]
      exact heff.hard hhard

/-- A request to a client without a socket makes no call. -/
theorem request_refused {call : Call} {results : List WriteResult} {r : SendResult}
    (h : RilClient.request api prv call results = some r) (hsock : prv.sock < 0) :
    r.prv = prv ∧ r.calls = [] := by
  rcases request_cases h with ⟨hprv, -, hcalls⟩ | ⟨_, hnot, _⟩
  · exact ⟨hprv, hcalls⟩
  · exact absurd hsock hnot

end Send

-- ── What a record does to the connection ─────────────────────────────────────

/-- A record leaves the connection. -/
theorem sameConn_processRxBuffer (api : ParcelApi) (prv : RilClientPrv) (buffer : Bytes) :
    SameConn (processRxBuffer api prv buffer).1 prv := by
  rcases processRxBuffer_cases api prv buffer with ⟨hsame, -⟩ | ⟨token, reqId, -, -, hfin⟩
  · rw [hsame]
    exact SameConn.refl prv
  · rw [hfin]
    unfold finishSolicited
    cases reqId with
    | none => exact ⟨rfl, rfl, rfl⟩
    | some id =>
        dsimp only
        split
        · exact ⟨rfl, rfl, rfl⟩
        · exact ⟨rfl, rfl, rfl⟩

/-- The record loop reads the stream's descriptor and leaves the connection. -/
theorem readRecords_sameConn {api : ParcelApi} {fd : Int} :
    ∀ {results : List StreamResult} {prv prv' : RilClientPrv} {fatal : Bool}
      {calls : List Syscall}, readRecords api fd prv results = some (prv', fatal, calls) →
      SameConn prv' prv ∧ CloseFree calls := by
  have hread : ∀ {calls : List Syscall}, CloseFree calls → CloseFree (.read fd :: calls) := by
    intro calls hfree d hd
    rcases List.mem_cons.mp hd with hd | hd
    · exact nomatch hd
    · exact hfree d hd
  intro results
  induction results with
  | nil => intro prv prv' fatal calls h; exact nomatch h
  | cons r rest ih =>
      intro prv prv' fatal calls h
      cases r with
      | record buffer =>
          obtain ⟨⟨p, f, cs⟩, hrec, heq⟩ := Option.map_eq_some_iff.mp h
          obtain ⟨rfl, hrest⟩ := Prod.mk.inj heq
          obtain ⟨-, rfl⟩ := Prod.mk.inj hrest
          obtain ⟨hsame, hfree⟩ := ih hrec
          exact ⟨hsame.trans (sameConn_processRxBuffer api prv buffer), hread hfree⟩
      | positive =>
          obtain ⟨⟨p, f, cs⟩, hrec, heq⟩ := Option.map_eq_some_iff.mp h
          obtain ⟨rfl, hrest⟩ := Prod.mk.inj heq
          obtain ⟨-, rfl⟩ := Prod.mk.inj hrest
          obtain ⟨hsame, hfree⟩ := ih hrec
          exact ⟨hsame, hread hfree⟩
      | endOfStream =>
          obtain ⟨rfl, hrest⟩ := Prod.mk.inj (Option.some.inj h)
          obtain ⟨-, rfl⟩ := Prod.mk.inj hrest
          exact ⟨SameConn.refl _, hread (fun _ hc => (nomatch hc))⟩
      | failed errno =>
          obtain ⟨rfl, hrest⟩ := Prod.mk.inj (Option.some.inj h)
          obtain ⟨-, rfl⟩ := Prod.mk.inj hrest
          exact ⟨SameConn.refl _, hread (fun _ hc => (nomatch hc))⟩

theorem writeCommand_closeFree {fd : Int} : ∀ {results : List WriteResult} {calls : List Syscall},
    writeCommand fd results = some calls → CloseFree calls := by
  have hwrite : ∀ {calls : List Syscall}, CloseFree calls →
      CloseFree (.write fd closeCommand :: calls) := by
    intro calls hfree d hd
    rcases List.mem_cons.mp hd with hd | hd
    · exact nomatch hd
    · exact hfree d hd
  intro results
  induction results with
  | nil => intro calls h; exact nomatch h
  | cons r rest ih =>
      intro calls h
      cases r with
      | wrote n =>
          rw [← Option.some.inj h]
          exact hwrite (fun _ hc => (nomatch hc))
      | failed errno =>
          rw [writeCommand] at h
          split at h
          · obtain ⟨calls', hrec, rfl⟩ := Option.map_eq_some_iff.mp h
            exact hwrite (ih hrec)
          · rw [← Option.some.inj h]
            exact hwrite (fun _ hc => (nomatch hc))

-- ── The invariant ────────────────────────────────────────────────────────────

/-- The descriptors of a connected client. -/
def Distinct (fd : Int) (pipefd : Int × Int) : Prop := [fd, pipefd.1, pipefd.2].Nodup

/-- Nothing was closed yet and the client has its socket. -/
structure Open (sys : Sys) : Prop where
  nonneg : 0 ≤ sys.fd
  distinct : Distinct sys.fd sys.prv.pipefd
  sock : sys.prv.sock = sys.fd
  closeFree : CloseFree sys.calls

/-- The socket is closed, the client says so, and the reader is on its way
    out. -/
structure Closed (sys : Sys) : Prop where
  sock : sys.prv.sock = -1
  bConnect : sys.prv.bConnect = false
  reader : sys.reader ≠ .inSelect
  once : sys.calls.count (.close sys.fd) ≤ 1
  noUse : NoUseAfterClose sys.calls

/-- What every reachable state satisfies while the condition is met. -/
def Inv (sys : Sys) : Prop := Open sys ∨ Closed sys

theorem Inv.owned {sys : Sys} (h : Inv sys) : Owned sys := by
  rcases h with ho | hc
  · refine ⟨?_, ho.closeFree.noUse, ?_⟩
    · rw [ho.closeFree.count_eq_zero]
      omega
    · intro hmem
      exact absurd hmem (ho.closeFree _)
  · exact ⟨hc.once, hc.noUse, fun _ => ⟨hc.sock, hc.bConnect⟩⟩

/-- Calls that close nothing, made while the connection stays. -/
theorem Open.extend {sys sys' : Sys} (ho : Open sys) (hsame : SameConn sys'.prv sys.prv)
    (hfd : sys'.fd = sys.fd) {calls : List Syscall} (hcalls : sys'.calls = sys.calls ++ calls)
    (hfree : CloseFree calls) : Open sys' where
  nonneg := by rw [hfd]; exact ho.nonneg
  distinct := by rw [hfd, hsame.pipefd]; exact ho.distinct
  sock := by rw [hfd, hsame.sock]; exact ho.sock
  closeFree := by rw [hcalls]; exact ho.closeFree.append hfree

/-- The reader closes the socket, and possibly the pipe, at the end of a
    step. -/
theorem Closed.of_closes {sys : Sys} {before : List Syscall} {fds : List Int}
    (hsock : sys.prv.sock = -1) (hconn : sys.prv.bConnect = false)
    (hreader : sys.reader ≠ .inSelect) (hfree : CloseFree before) (hnodup : fds.Nodup)
    (hcalls : sys.calls = before ++ fds.map Syscall.close) : Closed sys where
  sock := hsock
  bConnect := hconn
  reader := hreader
  once := by
    rw [hcalls, List.count_append, hfree.count_eq_zero, Nat.zero_add]
    have hmap : (fds.map Syscall.close).Nodup :=
      hnodup.map (fun _ _ h => Syscall.close.inj h)
    exact List.nodup_iff_count_le_one.mp hmap _
  noUse := by
    rw [hcalls]
    exact noUse_append_closes hfree hnodup

section Reader

variable {api : ParcelApi} {sys : Sys}

/-- `closeSocket` closes the socket for good, or does nothing to descriptor
    zero. -/
theorem Open.closeSocket {prv : RilClientPrv} (hsame : SameConn prv sys.prv) (ho : Open sys)
    {calls : List Syscall} (hfree : CloseFree calls) {reader : Reader}
    (hreader : reader ≠ .inSelect) :
    Inv { sys with prv := (closeSocket prv).1, calls := sys.calls ++ (calls ++ (closeSocket prv).2),
                   reader := reader } := by
  rw [RilClientSocket.closeSocket]
  split
  · rw [hsame.sock, ho.sock, ← List.append_assoc]
    exact Or.inr (@Closed.of_closes _ _ [sys.fd] rfl rfl hreader
      (ho.closeFree.append hfree) (List.nodup_singleton _) rfl)
  · rw [List.append_nil]
    exact Or.inl (ho.extend hsame rfl rfl hfree)

/-- The pipe branch closes all three descriptors, or nothing. -/
theorem Open.readPipe (ho : Open sys) (pipe : Option Int) : Inv (readPipe sys pipe) := by
  unfold RilClientSocket.readPipe
  cases pipe with
  | none => exact Or.inl (ho.extend (SameConn.refl _) rfl (List.append_nil _).symm
      (fun _ h => (nomatch h)))
  | some n =>
      have hread : CloseFree [Syscall.read sys.prv.pipefd.1] := by
        intro d hd
        rcases List.mem_cons.mp hd with hd | hd
        · exact nomatch hd
        · exact nomatch hd
      dsimp only
      rw [readCommand]
      split
      · refine Or.inr (@Closed.of_closes _ (sys.calls ++ [.read sys.prv.pipefd.1])
          [sys.fd, sys.prv.pipefd.1, sys.prv.pipefd.2] rfl rfl (fun h => (nomatch h))
          (ho.closeFree.append hread) ho.distinct ?_)
        rw [List.append_assoc, ho.sock]
        rfl
      · exact Or.inl (ho.extend (SameConn.refl _) rfl rfl hread)

/-- Whatever `select` and the stream answer, the reader closes at most once and
    resets the client when it does. -/
theorem Open.afterSelect (ho : Open sys) {result : SelectResult} {sys' : Sys}
    (h : afterSelect api sys result = some sys') : Inv sys' := by
  cases result with
  | failed =>
      rw [← Option.some.inj h]
      have := @Open.closeSocket _ _ (SameConn.refl _) ho [] (fun _ hc => (nomatch hc))
        (if sys.prv.errCb.isSome then .exited else .loopHead) (by split <;> decide)
      exact this
  | ready sock pipe =>
      cases sock with
      | none =>
          rw [← Option.some.inj h]
          exact ho.readPipe pipe
      | some results =>
          rw [RilClientSocket.afterSelect] at h
          dsimp only at h
          split at h
          · exact nomatch h
          · rename_i prv calls hread
            obtain ⟨hsame, hfree⟩ := readRecords_sameConn hread
            rw [← Option.some.inj h]
            exact Open.closeSocket hsame ho hfree (by decide)
          · rename_i prv calls hread
            obtain ⟨hsame, hfree⟩ := readRecords_sameConn hread
            rw [← Option.some.inj h]
            exact (ho.extend hsame rfl rfl hfree :
              Open { sys with prv := prv, calls := sys.calls ++ calls }).readPipe pipe

end Reader

section Steps

variable {api : ParcelApi} {sys sys' : Sys}

/-- What a request changes. -/
theorem step_request {call : Call} {results : List WriteResult}
    (h : step api sys (.request call results) = some sys') :
    ∃ r, RilClient.request api sys.prv call results = some r ∧ numWrites r.calls = results.length
      ∧ sys' = { sys with prv := r.prv, calls := sys.calls ++ r.calls } := by
  unfold RilClientSocket.step at h
  dsimp only at h
  cases hr : RilClient.request api sys.prv call results with
  | none =>
      rw [hr] at h
      cases h
  | some r =>
      rw [hr] at h
      dsimp only at h
      split at h
      · rename_i hnum
        exact ⟨r, rfl, hnum, (Option.some.inj h).symm⟩
      · cases h

/-- An open client keeps its socket, or the reader closes it. -/
theorem Open.step {act : Act} (ho : Open sys) (hok : SoftWrites sys act)
    (h : step api sys act = some sys') : Inv sys' := by
  cases act with
  | request call results =>
      obtain ⟨r, hr, hnum, rfl⟩ := step_request h
      obtain ⟨hsame, hfree⟩ := (SocketEffect.request hr hnum).soft hok
      exact Or.inl (ho.extend hsame rfl rfl hfree)
  | readerEnter =>
      unfold RilClientSocket.step at h
      dsimp only at h
      split at h
      · exact nomatch h
      split at h
      · rw [← Option.some.inj h]
        refine Or.inl (ho.extend (SameConn.refl _) rfl rfl ?_)
        intro d hd
        rcases List.mem_cons.mp hd with hd | hd
        · exact nomatch hd
        · exact nomatch hd
      · rw [← Option.some.inj h]
        exact Or.inl (ho.extend (SameConn.refl _) rfl (List.append_nil _).symm
          (fun _ hc => (nomatch hc)))
  | readerSelect result =>
      unfold RilClientSocket.step at h
      dsimp only at h
      split at h
      · exact nomatch h
      · exact ho.afterSelect h
  | disconnect results =>
      rw [RilClientSocket.step, RilClientSocket.disconnect] at h
      dsimp only at h
      split at h
      · rw [← Option.some.inj h]
        exact Or.inl ho
      split at h
      · obtain ⟨calls, hcalls, rfl⟩ := Option.map_eq_some_iff.mp h
        exact Or.inl ⟨ho.nonneg, ho.distinct, ho.sock,
          ho.closeFree.append (writeCommand_closeFree hcalls)⟩
      · rw [← Option.some.inj h]
        exact Or.inl ⟨ho.nonneg, ho.distinct, ho.sock, ho.closeFree⟩
  | joined =>
      unfold RilClientSocket.step at h
      dsimp only at h
      split at h
      · rw [← Option.some.inj h]
        exact Or.inl ⟨ho.nonneg, ho.distinct, ho.sock, ho.closeFree⟩
      · exact nomatch h

/-- A closed client makes no call any more. -/
theorem Closed.step {act : Act} (hc : Closed sys)
    (h : RilClientSocket.step api sys act = some sys') : Closed sys' := by
  cases act with
  | request call results =>
      obtain ⟨r, hr, -, rfl⟩ := step_request h
      obtain ⟨hprv, hcalls⟩ := request_refused hr (by rw [hc.sock]; decide)
      rw [hprv, hcalls, List.append_nil]
      exact hc
  | readerEnter =>
      unfold RilClientSocket.step at h
      dsimp only at h
      split at h
      · exact nomatch h
      rw [hc.bConnect, if_neg (by decide)] at h
      rw [← Option.some.inj h]
      exact ⟨hc.sock, hc.bConnect, fun h => (nomatch h), hc.once, hc.noUse⟩
  | readerSelect result =>
      unfold RilClientSocket.step at h
      dsimp only at h
      rw [if_pos hc.reader] at h
      exact nomatch h
  | disconnect results =>
      rw [RilClientSocket.step, RilClientSocket.disconnect] at h
      dsimp only at h
      rw [if_pos hc.sock] at h
      rw [← Option.some.inj h]
      exact hc
  | joined =>
      unfold RilClientSocket.step at h
      dsimp only at h
      split at h
      · rw [← Option.some.inj h]
        exact ⟨hc.sock, hc.bConnect, hc.reader, hc.once, hc.noUse⟩
      · exact nomatch h

/-- A write that fails for good leaves a closed socket in `sock`, or closes it
    twice. -/
theorem Inv.step_break {act : Act} (hinv : Inv sys)
    (h : RilClientSocket.step api sys act = some sys') (hstill : Owned sys') :
    SoftWrites sys act := by
  cases act with
  | request call results =>
      intro x hx hhard
      obtain ⟨r, hr, hnum, rfl⟩ := step_request h
      have heff := (SocketEffect.request hr hnum).hard ⟨x, hx, hhard⟩
      rcases hinv with ho | hc
      · rw [ho.sock] at heff
        rcases heff with ⟨hclose, hsock⟩ | htwice
        · have hreset := (hstill.reset (List.mem_append_right _ hclose)).1
          have hnonneg := ho.nonneg
          rw [show ({ sys with prv := r.prv, calls := sys.calls ++ r.calls } : Sys).prv.sock
            = sys.fd from hsock] at hreset
          omega
        · have honce := hstill.once
          rw [show ({ sys with prv := r.prv, calls := sys.calls ++ r.calls } : Sys).calls
            = sys.calls ++ r.calls from rfl, List.count_append] at honce
          have hle : 2 ≤ r.calls.count (.close sys.fd) := htwice
          simp only at honce
          omega
      · obtain ⟨-, hcalls⟩ := request_refused hr (by rw [hc.sock]; decide)
        rw [hcalls] at hnum
        rw [List.eq_nil_of_length_eq_zero hnum.symm] at hx
        cases hx
  | readerEnter => trivial
  | readerSelect result => trivial
  | disconnect results => trivial
  | joined => trivial

end Steps

/-- `Connect_RILD` leaves an open client. -/
theorem open_connected {prv : RilClientPrv} {o : ConnectOutcome}
    (hconn : (connectRild prv o).2.1 = .success)
    (hdist : ∀ pipefd, o.pipe = some pipefd → Distinct o.sock pipefd) :
    Open (connected prv o) := by
  rw [connected]
  rw [connectRild] at hconn ⊢
  dsimp only at hconn ⊢
  split at hconn
  · cases hconn
  rename_i hsock
  rw [if_neg hsock]
  split at hconn
  · cases hconn
  rename_i hnon
  rw [if_neg hnon]
  split at hconn
  · cases hconn
  rename_i pipefd hpipe
  split at hconn
  · cases hconn
  rename_i hpnon
  split at hconn
  · cases hconn
  rename_i hthread
  rw [if_neg hpnon, if_neg hthread]
  exact ⟨Int.not_lt.mp hsock, hdist pipefd hpipe, rfl, fun _ h => by cases h⟩

/-- **THE CLIENT OWNS ITS SOCKET** along a run after a successful connect
    exactly when no write of a request fails, `EINTR` aside. -/
theorem owned_iff_softWrites (api : ParcelApi) (prv : RilClientPrv) (o : ConnectOutcome)
    (hconn : (connectRild prv o).2.1 = .success)
    (hdist : ∀ pipefd, o.pipe = some pipefd → Distinct o.sock pipefd) (acts : List Act) :
    Run.Always (step api) Owned (connected prv o) acts
      ↔ Run.StepsMeet (step api) SoftWrites (connected prv o) acts := by
  refine Run.always_iff_stepsMeet (fun _ (h : Inv _) => h.owned) ?_
    (fun _ _ _ hinv h hstill => hinv.step_break h hstill) acts
    (Or.inl (open_connected hconn hdist))
  intro sys act sys' hinv hok h
  rcases hinv with ho | hc
  · exact ho.step hok h
  · exact Or.inr (hc.step h)

/-- An interrupted write is repeated, the daemon hangs up, and the reader closes
    the socket. -/
theorem owned_iff_softWrites_hangup :
    ∃ sys, Run.run (step bytesParcel)
        (connected openClientRild { sock := 5, pipe := some (6, 7) })
        [.request (setMute 1) [.failed eintr, .wrote 4, .wrote 20],
         .readerEnter,
         .readerSelect (.ready (some [.endOfStream]) none)] = some sys
      ∧ .close 5 ∈ sys.calls ∧ Owned sys := by
  have hrun : (Run.run (step bytesParcel)
        (connected openClientRild { sock := 5, pipe := some (6, 7) })
        [.request (setMute 1) [.failed eintr, .wrote 4, .wrote 20],
         .readerEnter,
         .readerSelect (.ready (some [.endOfStream]) none)]).map
          (fun sys => decide (.close 5 ∈ sys.calls)) = some true := by
    decide +kernel
  obtain ⟨sys, hsys, hclose⟩ := Option.map_eq_some_iff.mp hrun
  refine ⟨sys, hsys, of_decide_eq_true hclose, ?_⟩
  refine (owned_iff_softWrites bytesParcel openClientRild { sock := 5, pipe := some (6, 7) }
    rfl ?_ _).mpr (Run.stepsMeet_of_forall ?_ _) _ [] sys (List.append_nil _).symm hsys
  · intro pipefd hpipe
    rw [← Option.some.inj hpipe, Distinct]
    decide
  · intro a ha s
    simp only [List.mem_cons, List.not_mem_nil, or_false] at ha
    rcases ha with rfl | rfl | rfl
    · intro r hr hhard
      simp only [List.mem_cons, List.not_mem_nil, or_false] at hr
      rcases hr with rfl | rfl | rfl
      · exact hhard rfl
      · exact hhard
      · exact hhard
    · trivial
    · trivial

/-- A full socket buffer: the write answers `EAGAIN`, the socket is closed, and
    the client still holds it. -/
theorem owned_fails_eagain :
    ∃ sys, Run.run (step bytesParcel)
        (connected openClientRild { sock := 5, pipe := some (6, 7) })
        [.request (setMute 1) [.failed eagain]] = some sys
      ∧ .close 5 ∈ sys.calls ∧ sys.prv.sock = 5 ∧ sys.prv.bConnect = true ∧ ¬ Owned sys := by
  have hrun : (Run.run (step bytesParcel)
        (connected openClientRild { sock := 5, pipe := some (6, 7) })
        [.request (setMute 1) [.failed eagain]]).map
          (fun sys => (sys.fd, decide (.close 5 ∈ sys.calls), sys.prv.sock, sys.prv.bConnect))
      = some (5, true, 5, true) := by
    decide +kernel
  obtain ⟨sys, hsys, heq⟩ := Option.map_eq_some_iff.mp hrun
  simp only [Prod.mk.injEq, decide_eq_true_eq] at heq
  obtain ⟨hfd, hclose, hsock, hconn⟩ := heq
  refine ⟨sys, hsys, hclose, hsock, hconn, ?_⟩
  intro howned
  have := (howned.reset (by rw [hfd]; exact hclose)).1
  rw [hsock] at this
  exact absurd this (by decide)

end RilClientSocket

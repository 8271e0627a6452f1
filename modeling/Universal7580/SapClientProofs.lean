import Universal7580.LedgerProofs
import Universal7580.RilClientSocketProofs

/-! # The SAP client's connections

    A connection of the SAP client has four resources: a socket, the two ends
    of a command pipe and a record stream.  Its reader thread releases them:
    the socket and the stream at the end of the stream, the socket and the pipe
    at the close command, and never all four.  `blockingWrite` closes the
    socket as well, and an unsuccessful `Connect_RILD` some of what it has made.

    Resources are numbered by connection, since a descriptor number means
    another file once it was closed.  The ledger `calls` has every call that is
    made on one of them.

    * `step` is the client with its callers and readers, and `Released` what is
      asked of it;
    * `Keeps` says what a step leaves alone that neither connects nor returns;
    * `invoke_cases`, `afterSelect_cases` and `disconnect_cases` say once what
      such a step can do. -/

namespace SapClient

open RilClient RilClientSocket Run

-- ── Resources ────────────────────────────────────────────────────────────────

inductive Kind where
  | socket
  | readEnd
  | writeEnd
  | stream
  deriving DecidableEq, Repr

/-- A resource of a connection. -/
structure Res where
  conn : Nat
  kind : Kind
  deriving DecidableEq, Repr

/-- A call on resources.  `record_stream_get_next` reads the socket that its
    stream was made with. -/
inductive Call where
  | write (r : Res)
  | read (r : Res)
  | select (rs : List Res)
  | getNext (conn : Nat)
  | release (r : Res)
  deriving DecidableEq, Repr

def Call.resources : Call → List Res
  | .write r => [r]
  | .read r => [r]
  | .select rs => rs
  | .getNext conn => [⟨conn, .stream⟩, ⟨conn, .socket⟩]
  | .release r => [r]

/-- The descriptor of a socket. -/
structure Fd where
  conn : Nat
  number : Nat
  deriving DecidableEq, Repr

-- ── The client ───────────────────────────────────────────────────────────────

/-- The fields of `RilClientPrv` that have to do with the connection.  `sock` is
    `none` for −1, and `pipefd` for the zeroes of a `memset`. -/
structure Prv where
  bConnect : Bool := false
  sock : Option Fd := none
  pipefd : Option Nat := none
  pRs : Option Nat := none
  tidReader : Option Nat := none
  deriving DecidableEq, Repr

/-- Who waits for the reader. -/
inductive Caller where
  | disconnect
  | closeClient
  deriving DecidableEq, Repr

/-- The client, its reader threads in the order of their making and the calls
    that wait in `pthread_join`.  The rest is what has happened: the connections
    and resources made, whether the last `Connect_RILD` succeeded, the calls on
    resources, the threads joined, what was to be released when
    `Disconnect_RILD` or `CloseClient_RILD` returned last, and whether the
    client was freed. -/
structure Sys where
  prv : Prv := {}
  readers : List Reader := []
  waiting : List (Caller × Option Nat) := []
  conns : Nat := 0
  made : List Res := []
  connected : Bool := false
  calls : List Call := []
  joined : List Nat := []
  due : List Res := []
  freed : Bool := false

def openClientRild : Sys := {}

/-- What the system answers to the calls of `Connect_RILD`: the number of the
    socket, and which of the others succeed. -/
structure Connecting where
  sock : Option Nat
  nonblock : Bool := true
  pipe : Bool := true
  pipeNonblock : Bool := true
  thread : Bool := true
  deriving DecidableEq, Repr

/-- Calls are made. -/
def Sys.log (sys : Sys) (calls : List Call) : Sys := { sys with calls := sys.calls ++ calls }

def Sys.newSocket (sys : Sys) (number : Nat) : Sys :=
  { sys with
    prv := { sys.prv with sock := some { conn := sys.conns, number }, bConnect := true }
    conns := sys.conns + 1
    made := sys.made ++ [(⟨sys.conns, .socket⟩ : Res)] }

def Sys.newStream (sys : Sys) (c : Nat) : Sys :=
  { sys with
    prv := { sys.prv with pRs := some c }
    made := sys.made ++ [(⟨c, .stream⟩ : Res)] }

def Sys.newPipe (sys : Sys) (c : Nat) : Sys :=
  { sys with
    prv := { sys.prv with pipefd := some c }
    made := sys.made ++ [(⟨c, .readEnd⟩ : Res), ⟨c, .writeEnd⟩] }

def Sys.newReader (sys : Sys) : Sys :=
  { sys with
    prv := { sys.prv with tidReader := some sys.readers.length }
    readers := sys.readers ++ [Reader.loopHead]
    connected := true }

def connectRild (sys : Sys) (o : Connecting) : Sys :=
  match o.sock with
  | none => { sys with prv := { sys.prv with sock := none }, connected := false }
  | some number =>
      let c := sys.conns
      let withSocket := { sys with connected := false }.newSocket number
      if o.nonblock = false then withSocket.log [.release ⟨c, .socket⟩]
      else
        let withStream := withSocket.newStream c
        if o.pipe = false then withStream.log [.release ⟨c, .socket⟩]
        else
          let withPipe := withStream.newPipe c
          let closes : List Call :=
            [.release ⟨c, .socket⟩, .release ⟨c, .readEnd⟩, .release ⟨c, .writeEnd⟩]
          if o.pipeNonblock = false then withPipe.log closes
          -- the whole structure is zeroed here
          else if o.thread = false then { withPipe.log closes with prv := {} }
          else withPipe.newReader

/-- `blockingWrite` of `len` bytes: what it returns, its calls, and the results
    that are left. -/
def blockingWrite (r : Res) : Nat → List WriteResult → Option (Int × List Call × List WriteResult)
  | 0, results => some (0, [], results)
  | _ + 1, [] => none
  | n + 1, .wrote m :: results =>
      (blockingWrite r (n + 1 - m) results).map fun w => (w.1, .write r :: w.2.1, w.2.2)
  | n + 1, .failed errno :: results =>
      if errno = eintr then
        (blockingWrite r (n + 1) results).map fun w => (w.1, .write r :: w.2.1, w.2.2)
      else some (-1, [.write r, .release r], results)

/-- The header and the `size` bytes of a request. -/
def sendOemRequestHookRaw (r : Res) (size : Nat) (results : List WriteResult) :
    Option (List Call) :=
  match blockingWrite r 4 results with
  | none => none
  | some (ret, calls, rest) =>
      if ret < 0 then if rest = [] then some calls else none
      else
        match blockingWrite r size rest with
        | some (_, calls', []) => some (calls ++ calls')
        | _ => none

/-- `token` says that a token was free and the request was recorded; without it
    nothing is written. -/
def invokeOemRequestHookRaw (sys : Sys) (token : Bool) (size : Nat) (results : List WriteResult) :
    Option Sys :=
  match sys.prv.sock, token with
  | some fd, true =>
      (sendOemRequestHookRaw ⟨fd.conn, .socket⟩ size results).map sys.log
  | _, _ => if results = [] then some sys else none

-- ── The reader ───────────────────────────────────────────────────────────────

/-- What `RxReaderFunc` puts into its set. -/
def readSet (prv : Prv) : List Res :=
  (prv.sock.toList.map fun fd => ⟨fd.conn, .socket⟩) ++ prv.pipefd.toList.map fun c => ⟨c, .readEnd⟩

/-- The record loop of `RxReaderFunc`: whether the stream ended or failed. -/
def readRecords : List StreamResult → Option Bool
  | [.endOfStream] => some true
  | [.failed errno] => some (decide (¬ (errno = eagain ∨ errno = eintr)))
  | .record _ :: rest => readRecords rest
  | .positive :: rest => readRecords rest
  | _ => none

/-- The client after its socket was closed and given up. -/
def Prv.dropSock (prv : Prv) : Prv := { prv with sock := none, bConnect := false }

def Sys.setReader (sys : Sys) (i : Nat) (r : Reader) : Sys :=
  { sys with readers := sys.readers.set i r }

/-- The end of the stream. -/
def endOfStream (sys : Sys) (i : Nat) : Sys :=
  let freeStream := sys.prv.pRs.toList.map fun c => Call.release ⟨c, .stream⟩
  match sys.prv.sock with
  | some { conn, number := _ + 1 } =>
      { sys.log (.release ⟨conn, .socket⟩ :: freeStream) with
        prv := sys.prv.dropSock }.setReader i .exited
  | _ => (sys.log freeStream).setReader i .exited

/-- The head of the loop, up to `select`. -/
def loopHead (sys : Sys) (i : Nat) : Sys :=
  if sys.prv.bConnect then (sys.log [.select (readSet sys.prv)]).setReader i .inSelect
  else sys.setReader i .exited

/-- What the close command releases. -/
def closeAll (prv : Prv) : List Call :=
  (prv.sock.toList.map fun fd => Call.release ⟨fd.conn, .socket⟩) ++
    prv.pipefd.toList.flatMap fun c => [Call.release ⟨c, .readEnd⟩, .release ⟨c, .writeEnd⟩]

/-- The part of the loop body after the socket was looked at; `pipe` is what the
    `read` of a ready pipe answered. -/
def readPipe (sys : Sys) (i : Nat) (pipe : Option Int) : Sys :=
  match pipe with
  | none => sys.setReader i .loopHead
  | some n =>
      let didRead := sys.log (sys.prv.pipefd.toList.map fun c => .read ⟨c, .readEnd⟩)
      if n > 0 then
        { didRead.log (closeAll sys.prv) with prv := sys.prv.dropSock }.setReader i .loopHead
      else didRead.setReader i .loopHead

/-- The loop body from the return of `select` on. -/
def afterSelect (sys : Sys) (i : Nat) : SelectResult → Option Sys
  | .failed => some (sys.setReader i .loopHead)
  | .ready none pipe => some (readPipe sys i pipe)
  | .ready (some results) pipe =>
      let got := sys.log (results.flatMap fun _ => sys.prv.pRs.toList.map .getNext)
      (readRecords results).map fun ended =>
        if ended then endOfStream got i else readPipe got i pipe

-- ── Disconnecting ────────────────────────────────────────────────────────────

/-- The results of the write loop of `Disconnect_RILD`, which repeats on `EINTR`
    only. -/
def writesCommand : List WriteResult → Bool
  | [.wrote _] => true
  | [.failed errno] => errno ≠ eintr
  | .failed errno :: rest => errno = eintr && writesCommand rest
  | _ => false

/-- The results that `Disconnect_RILD` can get for a socket: for descriptor zero
    it does not write. -/
def answersCommand (fd : Fd) (results : List WriteResult) : Bool :=
  if fd.number > 0 then writesCommand results else results.isEmpty

/-- `Disconnect_RILD` returns; `CloseClient_RILD` frees the client then. -/
def returned (sys : Sys) (caller : Caller) : Sys :=
  { sys with due := sys.made, freed := caller = .closeClient }

/-- `Disconnect_RILD`, for itself or for `CloseClient_RILD`, up to its
    `pthread_join`. -/
def disconnectRild (sys : Sys) (caller : Caller) (results : List WriteResult) : Option Sys :=
  match sys.prv.sock with
  | none => if results = [] then some (returned sys caller) else none
  | some fd =>
      let written := sys.log
        (results.flatMap fun _ => sys.prv.pipefd.toList.map fun c => .write ⟨c, .writeEnd⟩)
      if answersCommand fd results then
        some { written with
          prv := { sys.prv with bConnect := false }
          waiting := sys.waiting ++ [(caller, sys.prv.tidReader)] }
      else none

-- ── Steps ────────────────────────────────────────────────────────────────────

inductive Act where
  | connect (o : Connecting)
  | send (token : Bool) (size : Nat) (results : List WriteResult)
  | readerEnter (i : Nat)
  | readerSelect (i : Nat) (result : SelectResult)
  | disconnect (caller : Caller) (results : List WriteResult)
  | joined (caller : Caller) (tid : Option Nat)

/-- One step; none follows when the client was freed. -/
def step (sys : Sys) (act : Act) : Option Sys :=
  if sys.freed then none
  else
    match act with
    | .connect o => some (connectRild sys o)
    | .send token size results => invokeOemRequestHookRaw sys token size results
    | .readerEnter i =>
        if sys.readers[i]? = some .loopHead then some (loopHead sys i) else none
    | .readerSelect i result =>
        if sys.readers[i]? = some .inSelect then afterSelect sys i result else none
    | .disconnect caller results => disconnectRild sys caller results
    | .joined caller tid =>
        if (caller, tid) ∈ sys.waiting ∧ ∀ i ∈ tid, sys.readers[i]? = some .exited then
          some (returned
            { sys with
              waiting := sys.waiting.erase (caller, tid)
              joined := sys.joined ++ tid.toList } caller)
        else none

-- ── What is asked of the client ──────────────────────────────────────────────

/-- Nothing is used after it was released. -/
abbrev NoUse : List Call → Prop := Ledger.NoUse Call.resources .release

/-- Not released yet. -/
abbrev Live : List Call → Res → Prop := Ledger.Live .release

/-- Calls that may come next and release nothing. -/
abbrev Uses : List Call → List Call → Prop := Ledger.Uses Call.resources .release

theorem release_injective : Function.Injective Call.release := fun _ _ => Call.release.inj

structure Released (sys : Sys) : Prop where
  /-- When `Disconnect_RILD` or `CloseClient_RILD` has returned, what was made
      has been released once. -/
  settled : ∀ r ∈ sys.due, sys.calls.count (.release r) = 1
  noUse : NoUse sys.calls
  joined : sys.freed = true →
    ∀ i < sys.readers.length, sys.readers[i]? = some .exited ∧ i ∈ sys.joined

/-- No connection has got as far as its record stream. -/
def NoStream (sys : Sys) : Prop := ∀ c, (⟨c, .stream⟩ : Res) ∉ sys.made

/-- A step with which `Disconnect_RILD` or `CloseClient_RILD` returns. -/
def Returns (sys : Sys) : Act → Prop
  | .disconnect _ _ => sys.prv.sock = none
  | .joined _ _ => True
  | _ => False

-- ── The reader threads ───────────────────────────────────────────────────────

/-- All readers but one have exited. -/
def OthersExited (readers : List Reader) (i : Nat) : Prop :=
  ∀ j r, readers[j]? = some r → j ≠ i → r = .exited

theorem othersExited_set {readers : List Reader} {i : Nat} (h : OthersExited readers i)
    (r : Reader) : OthersExited (readers.set i r) i := by
  intro j r' hj hne
  rw [List.getElem?_set_ne hne.symm] at hj
  exact h j r' hj hne

theorem exited_set {readers : List Reader} {i : Nat} (h : OthersExited readers i) :
    ∀ r ∈ readers.set i .exited, r = .exited := by
  intro r hmem
  obtain ⟨j, hj⟩ := List.getElem?_of_mem hmem
  rw [List.getElem?_set] at hj
  split at hj
  · split at hj
    · exact (Option.some.inj hj).symm
    · exact nomatch hj
  · rename_i hne
    exact h j r hj fun heq => hne heq.symm

theorem othersExited_concat {readers : List Reader} (h : ∀ r ∈ readers, r = .exited)
    (r : Reader) : OthersExited (readers ++ [r]) readers.length := by
  intro j r' hj hne
  rw [List.getElem?_append] at hj
  split at hj
  · exact h r' (List.mem_of_getElem? hj)
  · rename_i hge
    obtain ⟨k, hk⟩ : ∃ k, j - readers.length = k + 1 := ⟨j - readers.length - 1, by omega⟩
    rw [hk] at hj
    exact nomatch hj

theorem active_eq {readers : List Reader} {i j : Nat} {r : Reader} (h : OthersExited readers i)
    (hj : readers[j]? = some r) (hr : r ≠ .exited) : j = i := by
  by_contra hne
  exact hr (h j r hj hne)

-- ── What steps leave alone ───────────────────────────────────────────────────

/-- What every step keeps that neither connects nor returns; `cs` are its
    calls. -/
structure Keeps (sys sys' : Sys) (cs : List Call) : Prop where
  calls : sys'.calls = sys.calls ++ cs
  made : sys'.made = sys.made
  due : sys'.due = sys.due
  conns : sys'.conns = sys.conns
  freed : sys'.freed = sys.freed
  connected : sys'.connected = sys.connected
  pipefd : sys'.prv.pipefd = sys.prv.pipefd
  pRs : sys'.prv.pRs = sys.prv.pRs
  readers : sys'.readers.length = sys.readers.length

theorem keeps_setReader (sys : Sys) (i : Nat) (r : Reader) : Keeps sys (sys.setReader i r) [] where
  calls := (List.append_nil _).symm
  made := rfl
  due := rfl
  conns := rfl
  freed := rfl
  connected := rfl
  pipefd := rfl
  pRs := rfl
  readers := List.length_set

theorem keeps_log (sys : Sys) (cs : List Call) : Keeps sys (sys.log cs) cs :=
  ⟨rfl, rfl, rfl, rfl, rfl, rfl, rfl, rfl, rfl⟩

theorem Keeps.trans {sys sys₁ sys' : Sys} {cs cs' : List Call} (h : Keeps sys sys₁ cs)
    (h' : Keeps sys₁ sys' cs') : Keeps sys sys' (cs ++ cs') where
  calls := by rw [h'.calls, h.calls, List.append_assoc]
  made := h'.made.trans h.made
  due := h'.due.trans h.due
  conns := h'.conns.trans h.conns
  freed := h'.freed.trans h.freed
  connected := h'.connected.trans h.connected
  pipefd := h'.pipefd.trans h.pipefd
  pRs := h'.pRs.trans h.pRs
  readers := h'.readers.trans h.readers

/-- What the end of the stream releases. -/
def endCalls (prv : Prv) : List Call :=
  let freeStream := prv.pRs.toList.map fun c => Call.release ⟨c, .stream⟩
  match prv.sock with
  | some { conn, number := _ + 1 } => .release ⟨conn, .socket⟩ :: freeStream
  | _ => freeStream

theorem keeps_endOfStream (sys : Sys) (i : Nat) :
    Keeps sys (endOfStream sys i) (endCalls sys.prv) := by
  rw [endOfStream, endCalls]
  dsimp only
  split
  · exact ⟨rfl, rfl, rfl, rfl, rfl, rfl, rfl, rfl, List.length_set⟩
  · exact ⟨rfl, rfl, rfl, rfl, rfl, rfl, rfl, rfl, List.length_set⟩

/-- The calls on the command pipe, and what follows the command. -/
def pipeCalls (prv : Prv) : Option Int → List Call
  | none => []
  | some n =>
      (prv.pipefd.toList.map fun c => .read ⟨c, .readEnd⟩) ++ if n > 0 then closeAll prv else []

theorem keeps_readPipe (sys : Sys) (i : Nat) (pipe : Option Int) :
    Keeps sys (readPipe sys i pipe) (pipeCalls sys.prv pipe) := by
  cases pipe with
  | none => exact keeps_setReader sys i .loopHead
  | some n =>
      rw [readPipe, pipeCalls]
      dsimp only
      split
      · exact ⟨List.append_assoc .., rfl, rfl, rfl, rfl, rfl, rfl, rfl, List.length_set⟩
      · rw [List.append_nil]
        exact ⟨rfl, rfl, rfl, rfl, rfl, rfl, rfl, rfl, List.length_set⟩

-- ── What steps do ────────────────────────────────────────────────────────────

theorem blockingWrite_calls {r : Res} : ∀ {results : List WriteResult} {n : Nat}
    {w : Int × List Call × List WriteResult}, blockingWrite r n results = some w →
    (∀ c ∈ w.2.1, c = .write r ∨ c = .release r ∧ ∃ x ∈ results, WriteResult.hard x) ∧
      ∀ x ∈ w.2.2, x ∈ results := by
  intro results
  induction results with
  | nil =>
      intro n w h
      cases n with
      | zero =>
          obtain rfl := Option.some.inj h
          exact ⟨fun _ hmem => (nomatch hmem), fun _ hmem => (nomatch hmem)⟩
      | succ n => exact nomatch h
  | cons result rest ih =>
      intro n w h
      -- a turn of the loop that goes on
      have hgo : ∀ {m : Nat}, (blockingWrite r m rest).map
          (fun w => (w.1, Call.write r :: w.2.1, w.2.2)) = some w →
          (∀ c ∈ w.2.1, c = .write r ∨
            c = .release r ∧ ∃ x ∈ result :: rest, WriteResult.hard x) ∧
          ∀ x ∈ w.2.2, x ∈ result :: rest := by
        intro m hmap
        obtain ⟨w', hrec, rfl⟩ := Option.map_eq_some_iff.mp hmap
        obtain ⟨hcalls, hleft⟩ := ih hrec
        refine ⟨?_, fun x hx => List.mem_cons_of_mem result (hleft x hx)⟩
        intro c hc
        rcases List.mem_cons.mp hc with rfl | hc
        · exact Or.inl rfl
        · rcases hcalls c hc with hwrite | ⟨hrel, x, hx, hhard⟩
          · exact Or.inl hwrite
          · exact Or.inr ⟨hrel, x, List.mem_cons_of_mem result hx, hhard⟩
      cases n with
      | zero =>
          obtain rfl := Option.some.inj h
          exact ⟨fun _ hmem => (nomatch hmem), fun _ hmem => hmem⟩
      | succ n =>
          cases result with
          | wrote m => exact hgo h
          | failed errno =>
              rw [blockingWrite] at h
              split at h
              · exact hgo h
              · rename_i hintr
                obtain rfl := Option.some.inj h
                refine ⟨?_, fun x hx => List.mem_cons_of_mem _ hx⟩
                intro c hc
                rcases List.mem_cons.mp hc with rfl | hc
                · exact Or.inl rfl
                · obtain rfl := List.mem_singleton.mp hc
                  exact Or.inr ⟨rfl, _, List.mem_cons_self, hintr⟩

theorem send_calls {r : Res} {size : Nat} {results : List WriteResult} {calls : List Call}
    (h : sendOemRequestHookRaw r size results = some calls) :
    ∀ c ∈ calls, c = .write r ∨ c = .release r ∧ ∃ x ∈ results, WriteResult.hard x := by
  rw [sendOemRequestHookRaw] at h
  split at h
  · exact nomatch h
  · rename_i ret head rest hhead
    obtain ⟨hcalls, hleft⟩ := blockingWrite_calls hhead
    split at h
    · split at h
      · obtain rfl := Option.some.inj h
        exact hcalls
      · exact nomatch h
    · split at h
      · rename_i body hbody
        obtain rfl := Option.some.inj h
        obtain ⟨hcalls', -⟩ := blockingWrite_calls hbody
        intro c hc
        rcases List.mem_append.mp hc with hc | hc
        · exact hcalls c hc
        · rcases hcalls' c hc with hwrite | ⟨hrel, x, hx, hhard⟩
          · exact Or.inl hwrite
          · exact Or.inr ⟨hrel, x, hleft x hx, hhard⟩
      · exact nomatch h

/-- **A REQUEST** is refused, or writes on the client's socket. -/
theorem invoke_cases {sys sys' : Sys} {token : Bool} {size : Nat} {results : List WriteResult}
    (h : invokeOemRequestHookRaw sys token size results = some sys') :
    sys' = sys ∨ ∃ fd calls, sys.prv.sock = some fd ∧ token = true ∧ sys' = sys.log calls ∧
      ∀ c ∈ calls, c = .write ⟨fd.conn, .socket⟩ ∨
        c = .release ⟨fd.conn, .socket⟩ ∧ ∃ x ∈ results, WriteResult.hard x := by
  unfold invokeOemRequestHookRaw at h
  have hrefused : ∀ {o : Option Sys}, o = (if results = [] then some sys else none) →
      o = some sys' → sys' = sys := by
    intro o ho hsome
    rw [ho] at hsome
    split at hsome
    · exact (Option.some.inj hsome).symm
    · exact nomatch hsome
  cases hsock : sys.prv.sock with
  | none =>
      rw [hsock] at h
      exact Or.inl (hrefused rfl h)
  | some fd =>
      rw [hsock] at h
      cases token with
      | false => exact Or.inl (hrefused rfl h)
      | true =>
          obtain ⟨calls, hsend, rfl⟩ := Option.map_eq_some_iff.mp h
          exact Or.inr ⟨fd, calls, rfl, rfl, rfl, send_calls hsend⟩

/-- **AFTER SELECT**: some records, and then the end of the stream or the
    pipe. -/
theorem afterSelect_cases {sys sys' : Sys} {i : Nat} {result : SelectResult}
    (h : afterSelect sys i result = some sys') :
    ∃ cs, (∀ call ∈ cs, ∃ c, sys.prv.pRs = some c ∧ call = .getNext c) ∧
      (sys' = endOfStream (sys.log cs) i ∨ ∃ pipe, sys' = readPipe (sys.log cs) i pipe) := by
  have hnil : sys.log [] = sys := by
    rw [Sys.log, List.append_nil]
  cases result with
  | failed =>
      obtain rfl := Option.some.inj h
      refine ⟨[], fun _ hmem => (nomatch hmem), Or.inr ⟨none, ?_⟩⟩
      rw [hnil]
      rfl
  | ready sock pipe =>
      cases sock with
      | none =>
          obtain rfl := Option.some.inj h
          refine ⟨[], fun _ hmem => (nomatch hmem), Or.inr ⟨pipe, ?_⟩⟩
          rw [hnil]
      | some results =>
          obtain ⟨ended, -, rfl⟩ := Option.map_eq_some_iff.mp h
          refine ⟨results.flatMap fun _ => sys.prv.pRs.toList.map .getNext, ?_, ?_⟩
          · intro call hmem
            obtain ⟨-, -, hcall⟩ := List.mem_flatMap.mp hmem
            obtain ⟨c, hc, rfl⟩ := List.mem_map.mp hcall
            exact ⟨c, Option.mem_toList.mp hc, rfl⟩
          · cases ended with
            | true => exact Or.inl rfl
            | false => exact Or.inr ⟨pipe, rfl⟩

/-- What the end of the stream releases: sockets, and the client's stream. -/
theorem mem_endCalls {prv : Prv} {r : Res} (h : Call.release r ∈ endCalls prv) :
    r.kind = .socket ∨ r.kind = .stream ∧ prv.pRs = some r.conn := by
  have hfree : Call.release r ∈ prv.pRs.toList.map (fun c => Call.release ⟨c, .stream⟩) →
      r.kind = .stream ∧ prv.pRs = some r.conn := by
    intro hmem
    obtain ⟨c, hc, heq⟩ := List.mem_map.mp hmem
    obtain rfl := Call.release.inj heq
    exact ⟨rfl, Option.mem_toList.mp hc⟩
  rw [endCalls] at h
  split at h
  · rcases List.mem_cons.mp h with heq | hmem
    · obtain rfl := Call.release.inj heq
      exact Or.inl rfl
    · exact Or.inr (hfree hmem)
  · exact Or.inr (hfree h)

/-- What the pipe's branch releases: sockets, and the client's pipe. -/
theorem mem_pipeCalls {prv : Prv} {pipe : Option Int} {r : Res}
    (h : Call.release r ∈ pipeCalls prv pipe) :
    r.kind = .socket ∨ (r.kind = .readEnd ∨ r.kind = .writeEnd) ∧ prv.pipefd = some r.conn := by
  cases pipe with
  | none => exact nomatch h
  | some n =>
      rw [pipeCalls] at h
      rcases List.mem_append.mp h with hread | hclose
      · obtain ⟨c, -, heq⟩ := List.mem_map.mp hread
        exact nomatch heq
      · split at hclose
        · rcases List.mem_append.mp hclose with hsock | hends
          · obtain ⟨fd, -, heq⟩ := List.mem_map.mp hsock
            obtain rfl := Call.release.inj heq
            exact Or.inl rfl
          · obtain ⟨c, hc, hmem⟩ := List.mem_flatMap.mp hends
            have hc := Option.mem_toList.mp hc
            rcases List.mem_cons.mp hmem with heq | hmem
            · obtain rfl := Call.release.inj heq
              exact Or.inr ⟨Or.inl rfl, hc⟩
            · obtain rfl := Call.release.inj (List.mem_singleton.mp hmem)
              exact Or.inr ⟨Or.inr rfl, hc⟩
        · exact nomatch hclose

theorem endOfStream_readers (sys : Sys) (i : Nat) :
    (endOfStream sys i).readers = sys.readers.set i .exited := by
  rw [endOfStream]
  split <;> rfl

theorem readPipe_readers (sys : Sys) (i : Nat) (pipe : Option Int) :
    (readPipe sys i pipe).readers = sys.readers.set i .loopHead := by
  cases pipe with
  | none => rfl
  | some n =>
      rw [readPipe]
      dsimp only
      split <;> rfl

/-- **DISCONNECTING**: it returns, or writes its command and waits. -/
theorem disconnect_cases {sys sys' : Sys} {caller : Caller} {results : List WriteResult}
    (h : disconnectRild sys caller results = some sys') :
    sys.prv.sock = none ∧ sys' = returned sys caller ∨
    sys.prv.sock ≠ none ∧ ∃ cs, Keeps sys sys' cs ∧
      (∀ call ∈ cs, ∃ c, sys.prv.pipefd = some c ∧ call = .write ⟨c, .writeEnd⟩) ∧
      sys'.prv.sock = sys.prv.sock ∧ sys'.readers = sys.readers ∧ sys'.prv.bConnect = false := by
  rw [disconnectRild] at h
  split at h
  · rename_i hsock
    split at h
    · exact Or.inl ⟨hsock, (Option.some.inj h).symm⟩
    · exact nomatch h
  · rename_i fd hsock
    dsimp only at h
    split at h
    · obtain rfl := Option.some.inj h
      have hne : sys.prv.sock ≠ none := by
        rw [hsock]
        exact fun hn => nomatch hn
      refine Or.inr ⟨hne,
        results.flatMap (fun _ => sys.prv.pipefd.toList.map fun c => .write ⟨c, .writeEnd⟩),
        ⟨rfl, rfl, rfl, rfl, rfl, rfl, rfl, rfl, rfl⟩, ?_, rfl, rfl, rfl⟩
      intro call hmem
      obtain ⟨_, _, hcall⟩ := List.mem_flatMap.mp hmem
      obtain ⟨c, hc, rfl⟩ := List.mem_map.mp hcall
      exact ⟨c, Option.mem_toList.mp hc, rfl⟩
    · exact nomatch h

/-- A return asks for the release of all that was made. -/
theorem returns_due {sys sys' : Sys} {act : Act} (hret : Returns sys act)
    (hstep : step sys act = some sys') : sys'.due = sys.made ∧ sys'.calls = sys.calls := by
  unfold step at hstep
  split at hstep
  · exact nomatch hstep
  · cases act with
    | disconnect caller results =>
        rcases disconnect_cases hstep with ⟨-, rfl⟩ | ⟨hne, -⟩
        · exact ⟨rfl, rfl⟩
        · exact absurd hret hne
    | joined caller tid =>
        dsimp only at hstep
        split at hstep
        · obtain rfl := Option.some.inj hstep
          exact ⟨rfl, rfl⟩
        · exact nomatch hstep
    | connect o => exact hret.elim
    | send token size results => exact hret.elim
    | readerEnter i => exact hret.elim
    | readerSelect i result => exact hret.elim

theorem conns_connectRild (sys : Sys) (o : Connecting) :
    sys.conns ≤ (connectRild sys o).conns := by
  rw [connectRild]
  split
  · exact Nat.le_refl _
  · dsimp only
    split
    · exact Nat.le_succ _
    · split
      · exact Nat.le_succ _
      · split
        · exact Nat.le_succ _
        · split <;> exact Nat.le_succ _

end SapClient

import Mathlib.Data.List.Nodup
import Mathlib.Logic.Function.Basic
import Universal7580.RunProofs

/-! # The SAP pending queue

    A SAP request has a header (`MsgHeader`, made by the service) and a record
    (`SapSocketRequest`, made by `dispatchRequest`), which waits in
    `pendingResponseQueue` until the vendor completes the request.
    `onRequestComplete` frees both: the header it was given, and the record
    that `checkAndDequeue` finds FIRST under the header's message id and
    token.  `addPayloadAndDispatchRequest` reads the header once more when
    `dispatchRequest` has returned.

    The model numbers the requests and counts how often each header and record
    is freed.  Freed memory keeps its content here, and a read of it is noted in
    `readFreed`.  `queue_exact_iff` says exactly which runs are clean. -/

namespace RilSap

/-- The message ids of the requests of `SapImpl`. -/
inductive MsgId where
  | simSapConnect
  | simSapDisconnect
  | simSapApdu
  | simSapTransferAtr
  | simSapPower
  | simSapResetSim
  | simSapTransferCardReaderStatus
  | simSapSetTransferProtocol
  deriving DecidableEq, Repr

structure MsgHeader where
  id : MsgId
  token : Int32
  deriving DecidableEq, Repr

/-- What the client is sent. -/
structure Response where
  id : MsgId
  token : Int32
  error : Int
  deriving DecidableEq, Repr

/-- How far `addPayloadAndDispatchRequest` has come with a request. -/
inductive Stage where
  | absent
  /-- The header has its payload; before `dispatchRequest`. -/
  | created
  /-- In the queue, not yet given to the vendor. -/
  | queued
  /-- Given to the vendor; `dispatchRequest` is at its end. -/
  | handed
  /-- The service is done with the request. -/
  | returned
  /-- `dispatchRequest` had no memory for the record and freed the header. -/
  | oom
  /-- The header was freed without a dispatch. -/
  | dropped
  deriving DecidableEq, Repr

/-- The request is in the hands of the queue and the vendor. -/
def Stage.dispatched : Stage → Bool
  | .queued | .handed | .returned => true
  | _ => false

/-- The vendor may have it. -/
def Stage.given : Stage → Bool
  | .handed | .returned => true
  | _ => false

/-- The header was freed by whoever found no memory or no socket. -/
def Stage.freedEarly : Stage → Bool
  | .oom | .dropped => true
  | _ => false

/-- One SAP socket.  `order` has all requests that were ever queued, the newest
    first. -/
structure State where
  created : Nat
  header : Nat → MsgHeader
  stage : Nat → Stage
  completed : Nat → Bool
  queue : List Nat
  order : List Nat
  headerFrees : Nat → Nat
  recordFrees : Nat → Nat
  readFreed : Bool
  responses : List Response

def initial : State where
  created := 0
  header := fun _ => { id := .simSapConnect, token := 0 }
  stage := fun _ => .absent
  completed := fun _ => false
  queue := []
  order := []
  headerFrees := fun _ => 0
  recordFrees := fun _ => 0
  readFreed := false
  responses := []

-- ── Memory ────────────────────────────────────────────────────────────────

def State.freeHeader (s : State) (n : Nat) : State :=
  { s with headerFrees := Function.update s.headerFrees n (s.headerFrees n + 1) }

def State.freeRecord (s : State) (n : Nat) : State :=
  { s with recordFrees := Function.update s.recordFrees n (s.recordFrees n + 1) }

def State.readHeader (s : State) (n : Nat) : State :=
  { s with readFreed := s.readFreed || s.headerFrees n != 0 }

def State.readRecord (s : State) (n : Nat) : State :=
  { s with readFreed := s.readFreed || s.recordFrees n != 0 }

def State.setStage (s : State) (n : Nat) (stage : Stage) : State :=
  { s with stage := Function.update s.stage n stage }

-- ── The queue ─────────────────────────────────────────────────────────────

/-- The queue element has this message id and token. -/
def State.Matches (s : State) (id : MsgId) (token : Int32) (n : Nat) : Bool :=
  token = (s.header n).token && id = (s.header n).id

/-- The loop of `checkAndDequeue`: the queue without the first match, the match,
    and whether a freed record or header was read.  The header is only looked at
    when the tokens agree. -/
def State.scan (s : State) (id : MsgId) (token : Int32) : List Nat → List Nat × Option Nat × Bool
  | [] => ([], none, false)
  | n :: rest =>
      let bad := s.recordFrees n != 0
        || (token = (s.header n).token && s.headerFrees n != 0)
      if s.Matches id token n then (rest, some n, bad)
      else
        let (queue, found, badRest) := s.scan id token rest
        (n :: queue, found, bad || badRest)

/-- `checkAndDequeue`: the first match leaves the queue and its record is
    freed. -/
def State.checkAndDequeue (s : State) (id : MsgId) (token : Int32) : State :=
  let (queue, found, bad) := s.scan id token s.queue
  let s' := { s with queue := queue, readFreed := s.readFreed || bad }
  match found with
  | none => s'
  | some n => s'.freeRecord n

-- ── The operations ────────────────────────────────────────────────────────

/-- A request's header is made and gets its payload, and the socket is looked
    up.  Without memory for the payload or without a socket the header is freed
    and the client is told. -/
def State.addPayload (s : State) (h : MsgHeader) (malloc socket : Bool) : State :=
  let n := s.created
  let s' := { s with
    created := s.created + 1
    header := Function.update s.header n h }
  if malloc && socket then s'.setStage n .created
  else (s'.freeHeader n).setStage n .dropped

/-- `dispatchRequest` up to the queue. -/
def State.dispatchRequest (s : State) (n : Nat) (malloc : Bool) : State :=
  if malloc then
    { s with queue := n :: s.queue, order := n :: s.order }.setStage n .queued
  else
    (s.freeHeader n).setStage n .oom

/-- `processResponse` for a header. -/
def State.processResponse (s : State) (hdr : MsgHeader) (e : Int) : State :=
  { s with responses := { id := hdr.id, token := hdr.token, error := e } :: s.responses }

/-- `onRequestComplete`.  `calloc` says whether there is memory for the
    response. -/
def State.onRequestComplete (s : State) (n : Nat) (e : Int) (calloc : Bool) : State :=
  let hdr := s.header n
  let s := (s.readRecord n).readHeader n
  let s := if calloc then s.processResponse hdr e else s
  let s := s.checkAndDequeue hdr.id hdr.token
  { s.freeHeader n with completed := Function.update s.completed n true }

/-- What can happen.  The vendor completes a request once, at any time after it
    was given the request. -/
inductive Action where
  | addPayload (h : MsgHeader) (malloc socket : Bool)
  | dispatchRequest (n : Nat) (malloc : Bool)
  /-- `uimFuncs->onRequest`, with the header's payload. -/
  | onRequest (n : Nat)
  | onRequestComplete (n : Nat) (e : Int) (calloc : Bool)
  /-- `free(msg->payload)` and `free(reqPtr)` after `dispatchRequest`. -/
  | finish (n : Nat)
  deriving DecidableEq, Repr

/-- `uimFuncs` is the vendor's table.  Without one requests only queue up. -/
def step (uimFuncs : Bool) (s : State) : Action → Option State
  | .addPayload h malloc socket => some (s.addPayload h malloc socket)
  | .dispatchRequest n malloc =>
      if s.stage n = .created then some (s.dispatchRequest n malloc) else none
  | .onRequest n =>
      if s.stage n = .queued ∧ uimFuncs = true then
        some ((s.readHeader n).setStage n .handed)
      else none
  | .onRequestComplete n e calloc =>
      if (s.stage n = .handed ∨ s.stage n = .returned ∧ uimFuncs = true)
          ∧ s.completed n = false then
        some (s.onRequestComplete n e calloc)
      else none
  | .finish n =>
      if s.stage n = .handed ∨ s.stage n = .queued ∧ uimFuncs = false then
        some ((s.readHeader n).setStage n .returned)
      else if s.stage n = .oom then some ((s.readHeader n).setStage n .dropped)
      else none

-- ── What is promised ──────────────────────────────────────────────────────

/-- The queue has the requests that are not completed, the newest first; a
    record is freed once its request is completed, a header then or when it was
    given up, each once; and nothing freed was read. -/
structure Exact (s : State) : Prop where
  queue : s.queue = s.order.filter fun n => !s.completed n
  records : ∀ n, s.recordFrees n = (s.completed n).toNat
  headers : ∀ n, s.headerFrees n = (s.completed n || (s.stage n).freedEarly).toNat
  reads : s.readFreed = false

/-- The condition on a step: a completed request is the newest one in the queue
    with its message id and token, and when the service looks at the header
    again it has not been freed, by a completion or for want of memory. -/
def Clean (s : State) : Action → Prop
  | .onRequestComplete n _ _ =>
      s.queue.find? (s.Matches (s.header n).id (s.header n).token) = some n
  | .finish n => s.completed n = false ∧ s.stage n ≠ .oom
  | _ => True

structure Inv (s : State) : Prop extends Exact s where
  nodup : s.order.Nodup
  mem : ∀ n, n ∈ s.order ↔ (s.stage n).dispatched = true
  done : ∀ n, s.completed n = true → (s.stage n).given = true
  absent : ∀ n, s.created ≤ n → s.stage n = .absent

theorem inv_initial : Inv initial where
  queue := rfl
  records := fun _ => rfl
  headers := fun _ => rfl
  reads := rfl
  nodup := List.nodup_nil
  mem := fun _ => ⟨fun h => absurd h List.not_mem_nil, fun h => nomatch h⟩
  done := fun _ h => nomatch h
  absent := fun _ _ => rfl

section Memory

variable {s : State} {n : Nat}

theorem header_live (hinv : Inv s) (hdone : s.completed n = false)
    (hstage : (s.stage n).freedEarly = false) : s.headerFrees n = 0 := by
  rw [hinv.headers, hdone, hstage]
  rfl

theorem record_live (hinv : Inv s) (hdone : s.completed n = false) : s.recordFrees n = 0 := by
  rw [hinv.records, hdone]
  rfl

theorem readHeader_eq (h : s.headerFrees n = 0) : s.readHeader n = s := by
  simp [State.readHeader, h]

theorem readRecord_eq (h : s.recordFrees n = 0) : s.readRecord n = s := by
  simp [State.readRecord, h]

theorem not_freedEarly_of_dispatched {stage : Stage} (h : stage.dispatched = true) :
    stage.freedEarly = false := by
  cases stage <;> first | rfl | exact nomatch h

@[simp]
theorem setStage_stage (s : State) (n : Nat) (stage : Stage) :
    (s.setStage n stage).stage = Function.update s.stage n stage := rfl

theorem created_of_stage (hinv : Inv s) (h : s.stage n ≠ .absent) : n < s.created := by
  by_contra hge
  exact h (hinv.absent n (Nat.not_lt.mp hge))

theorem dispatched_of_given {stage : Stage} (h : stage.given = true) :
    stage.dispatched = true := by
  cases stage <;> first | rfl | exact nomatch h

/-- Nobody has completed what the vendor does not have. -/
theorem not_completed (hinv : Inv s) (h : (s.stage n).given = false) :
    s.completed n = false := by
  cases hc : s.completed n with
  | false => rfl
  | true =>
      have hgiven := hinv.done n hc
      rw [h] at hgiven
      exact nomatch hgiven

theorem absent_setStage {stage : Stage} (hinv : Inv s) (hn : n < s.created) :
    ∀ m, s.created ≤ m → (s.setStage n stage).stage m = .absent := by
  intro m hm
  have hne : m ≠ n := by
    rintro rfl
    exact absurd hn (Nat.not_lt.mpr hm)
  rw [setStage_stage, Function.update_of_ne hne]
  exact hinv.absent m hm

theorem done_setStage {stage : Stage} (hinv : Inv s) (hdone : s.completed n = false) :
    ∀ m, s.completed m = true → ((s.setStage n stage).stage m).given = true := by
  intro m hm
  have hne : m ≠ n := by
    rintro rfl
    rw [hm] at hdone
    cases hdone
  rw [setStage_stage, Function.update_of_ne hne]
  exact hinv.done m hm

/-- A request moves on without changing hands. -/
theorem inv_setStage {stage : Stage} (hinv : Inv s) (hn : n < s.created)
    (hgiven : (s.stage n).given = true → stage.given = true)
    (hdispatched : stage.dispatched = (s.stage n).dispatched)
    (hfreed : stage.freedEarly = (s.stage n).freedEarly) : Inv (s.setStage n stage) := by
  have hsame : ∀ m, (Function.update s.stage n stage m).dispatched = (s.stage m).dispatched
      ∧ (Function.update s.stage n stage m).freedEarly = (s.stage m).freedEarly := by
    intro m
    by_cases hm : m = n
    · rw [hm, Function.update_self]
      exact ⟨hdispatched, hfreed⟩
    · rw [Function.update_of_ne hm]
      exact ⟨rfl, rfl⟩
  exact
    { queue := hinv.queue
      records := hinv.records
      headers := fun m => by
        rw [setStage_stage, (hsame m).2]
        exact hinv.headers m
      reads := hinv.reads
      nodup := hinv.nodup
      mem := fun m => by
        rw [setStage_stage, (hsame m).1]
        exact hinv.mem m
      done := fun m hm => by
        have hm' := hinv.done m hm
        rw [setStage_stage]
        by_cases hmn : m = n
        · rw [hmn] at hm' ⊢
          rw [Function.update_self]
          exact hgiven hm'
        · rw [Function.update_of_ne hmn]
          exact hm'
      absent := absent_setStage hinv hn }

/-- A header is freed for want of memory or of a socket. -/
theorem inv_freeEarly {stage : Stage} (hinv : Inv s) (hn : n < s.created)
    (hwas : (s.stage n).dispatched = false) (hlive : (s.stage n).freedEarly = false)
    (hnot : stage.dispatched = false) (hfreed : stage.freedEarly = true) :
    Inv ((s.freeHeader n).setStage n stage) := by
  have hdone : s.completed n = false := by
    refine not_completed hinv (Bool.eq_false_iff.mpr ?_)
    intro hgiven
    rw [dispatched_of_given hgiven] at hwas
    exact nomatch hwas
  have hsame : ∀ m, (Function.update s.stage n stage m).dispatched = (s.stage m).dispatched := by
    intro m
    by_cases hm : m = n
    · rw [hm, Function.update_self, hnot, hwas]
    · rw [Function.update_of_ne hm]
  exact
    { queue := hinv.queue
      records := hinv.records
      headers := fun m => by
        simp only [State.setStage, State.freeHeader]
        by_cases hm : m = n
        · rw [hm, Function.update_self, Function.update_self, hfreed,
            header_live hinv hdone hlive, Bool.or_true]
          rfl
        · rw [Function.update_of_ne hm, Function.update_of_ne hm]
          exact hinv.headers m
      reads := hinv.reads
      nodup := hinv.nodup
      mem := fun m => by
        rw [setStage_stage, State.freeHeader, hsame m]
        exact hinv.mem m
      done := done_setStage hinv hdone
      absent := absent_setStage hinv hn }

/-- The header of a new request. -/
theorem inv_create (hinv : Inv s) (h : MsgHeader) :
    Inv { s with created := s.created + 1, header := Function.update s.header s.created h } :=
  { hinv with absent := fun m hm => hinv.absent m (Nat.le_of_succ_le hm) }

theorem inv_addPayload (hinv : Inv s) (h : MsgHeader) (malloc socket : Bool) :
    Inv (s.addPayload h malloc socket) := by
  have hnew := inv_create hinv h
  have habsent : s.stage s.created = .absent := hinv.absent _ (Nat.le_refl _)
  simp only [State.addPayload]
  split
  · refine inv_setStage hnew (Nat.lt_succ_self _) ?_ ?_ ?_
    · show (s.stage s.created).given = true → _
      rw [habsent]
      exact fun h => nomatch h
    · show Stage.dispatched _ = (s.stage s.created).dispatched
      rw [habsent]
      rfl
    · show Stage.freedEarly _ = (s.stage s.created).freedEarly
      rw [habsent]
      rfl
  · refine inv_freeEarly hnew (Nat.lt_succ_self _) ?_ ?_ rfl rfl
    · show (s.stage s.created).dispatched = false
      rw [habsent]
      rfl
    · show (s.stage s.created).freedEarly = false
      rw [habsent]
      rfl

/-- A record enters the queue in front. -/
theorem inv_enqueue (hinv : Inv s) (hstage : s.stage n = .created) :
    Inv ({ s with queue := n :: s.queue, order := n :: s.order }.setStage n .queued) := by
  have hout : n ∉ s.order := by
    rw [hinv.mem, hstage]
    exact fun h => nomatch h
  have hdone : s.completed n = false := not_completed hinv (by rw [hstage]; rfl)
  have hn : n < s.created := created_of_stage hinv (by rw [hstage]; exact fun h => nomatch h)
  exact
    { queue := by
        show n :: s.queue = (n :: s.order).filter fun n => !s.completed n
        rw [List.filter_cons_of_pos (by rw [hdone]; rfl), ← hinv.queue]
      records := hinv.records
      headers := fun m => by
        simp only [State.setStage]
        by_cases hm : m = n
        · rw [hm, Function.update_self, hinv.headers, hstage]
          rfl
        · rw [Function.update_of_ne hm]
          exact hinv.headers m
      reads := hinv.reads
      nodup := List.nodup_cons.mpr ⟨hout, hinv.nodup⟩
      mem := fun m => by
        simp only [State.setStage]
        by_cases hm : m = n
        · rw [hm, Function.update_self]
          exact ⟨fun _ => rfl, fun _ => List.mem_cons_self⟩
        · rw [Function.update_of_ne hm, List.mem_cons, or_iff_right hm]
          exact hinv.mem m
      done := done_setStage hinv hdone
      absent := absent_setStage hinv hn }

theorem inv_dispatchRequest (hinv : Inv s) (hstage : s.stage n = .created) (malloc : Bool) :
    Inv (s.dispatchRequest n malloc) := by
  rw [State.dispatchRequest]
  split
  · exact inv_enqueue hinv hstage
  · have hn : n < s.created := created_of_stage hinv (by rw [hstage]; exact fun h => nomatch h)
    refine inv_freeEarly hinv hn ?_ ?_ rfl rfl
    · rw [hstage]
      rfl
    · rw [hstage]
      rfl

end Memory

-- ── Completion ────────────────────────────────────────────────────────────

section Completion

variable {s : State} {n : Nat}

/-- On a queue without freed memory the loop of `checkAndDequeue` takes out the
    first match. -/
theorem scan_eq {id : MsgId} {token : Int32} {queue : List Nat}
    (hlive : ∀ m ∈ queue, s.recordFrees m = 0 ∧ s.headerFrees m = 0) :
    s.scan id token queue
      = (queue.eraseP (s.Matches id token), queue.find? (s.Matches id token), false) := by
  induction queue with
  | nil => rfl
  | cons m rest ih =>
      obtain ⟨hrecord, hheader⟩ := hlive m List.mem_cons_self
      rw [State.scan, ih fun k hk => hlive k (List.mem_cons_of_mem m hk)]
      by_cases hm : s.Matches id token m = true
      · simp [hm, hrecord, hheader]
      · simp [hm, hrecord, hheader]

/-- Taking out the first match is taking out that element. -/
theorem eraseP_eq_erase {p : Nat → Bool} {queue : List Nat} (h : queue.find? p = some n) :
    queue.eraseP p = queue.erase n := by
  induction queue with
  | nil => exact nomatch h
  | cons m rest ih =>
      by_cases hm : p m = true
      · rw [List.find?_cons_of_pos hm] at h
        obtain rfl := Option.some.inj h
        rw [List.eraseP_cons_of_pos hm, List.erase_cons_head]
      · rw [List.find?_cons_of_neg hm] at h
        have hne : m ≠ n := by
          rintro rfl
          exact hm (List.find?_some h)
        rw [List.eraseP_cons_of_neg hm, ih h, List.erase_cons_tail (by simpa using hne)]

/-- What waits in the queue is live. -/
theorem queue_live (hinv : Inv s) :
    ∀ m ∈ s.queue, s.recordFrees m = 0 ∧ s.headerFrees m = 0 := by
  intro m hm
  rw [hinv.queue, List.mem_filter] at hm
  have hdone : s.completed m = false := by simpa using hm.2
  have hstage := not_freedEarly_of_dispatched ((hinv.mem m).mp hm.1)
  exact ⟨record_live hinv hdone, header_live hinv hdone hstage⟩

theorem checkAndDequeue_eq {id : MsgId} {token : Int32} (hinv : Inv s)
    {m : Nat} (hfirst : s.queue.find? (s.Matches id token) = some m) :
    s.checkAndDequeue id token = { s with queue := s.queue.erase m }.freeRecord m := by
  simp only [State.checkAndDequeue, scan_eq (queue_live hinv), hfirst, eraseP_eq_erase hfirst,
    Bool.or_false]

/-- A request that is being completed is in the queue and matches itself. -/
theorem find?_self (hinv : Inv s) (hstage : (s.stage n).dispatched = true)
    (hdone : s.completed n = false) :
    ∃ m, s.queue.find? (s.Matches (s.header n).id (s.header n).token) = some m := by
  have hmem : n ∈ s.queue := by
    rw [hinv.queue, List.mem_filter, hdone]
    exact ⟨(hinv.mem n).mpr hstage, rfl⟩
  have hsome : (s.queue.find? (s.Matches (s.header n).id (s.header n).token)).isSome :=
    List.find?_isSome.mpr ⟨n, hmem, by simp [State.Matches]⟩
  exact Option.isSome_iff_exists.mp hsome

/-- What `onRequestComplete` does on clean memory: the record of the first match
    is freed, and the header of the request it was given. -/
theorem onRequestComplete_eq {m : Nat} {e : Int} {calloc : Bool} (hinv : Inv s)
    (hstage : (s.stage n).dispatched = true) (hdone : s.completed n = false)
    (hfirst : s.queue.find? (s.Matches (s.header n).id (s.header n).token) = some m) :
    ∃ responses, s.onRequestComplete n e calloc =
      { s with
        queue := s.queue.erase m
        recordFrees := Function.update s.recordFrees m (s.recordFrees m + 1)
        headerFrees := Function.update s.headerFrees n (s.headerFrees n + 1)
        completed := Function.update s.completed n true
        responses := responses } := by
  have hheader := header_live hinv hdone (not_freedEarly_of_dispatched hstage)
  simp only [State.onRequestComplete, readRecord_eq (record_live hinv hdone),
    readHeader_eq hheader]
  cases calloc with
  | true =>
      have hinv' : Inv (s.processResponse (s.header n) e) := { hinv with }
      simp only [if_true]
      rw [checkAndDequeue_eq hinv' hfirst]
      exact ⟨_, rfl⟩
  | false =>
      simp only [Bool.false_eq_true, if_false]
      rw [checkAndDequeue_eq hinv hfirst]
      exact ⟨_, rfl⟩

theorem inv_onRequestComplete {e : Int} {calloc : Bool} (hinv : Inv s)
    (hgiven : (s.stage n).given = true) (hdone : s.completed n = false)
    (hfirst : s.queue.find? (s.Matches (s.header n).id (s.header n).token) = some n) :
    Inv (s.onRequestComplete n e calloc) := by
  have hstage := dispatched_of_given hgiven
  obtain ⟨responses, heq⟩ := @onRequestComplete_eq s n n e calloc hinv hstage hdone hfirst
  rw [heq]
  have hearly := not_freedEarly_of_dispatched hstage
  exact
    { queue := by
        show s.queue.erase n = s.order.filter fun m => !Function.update s.completed n true m
        rw [hinv.queue, (hinv.nodup.filter _).erase_eq_filter, List.filter_filter]
        refine List.filter_congr ?_
        intro m _
        by_cases hm : m = n
        · simp [hm]
        · simp [hm]
      records := fun m => by
        simp only
        by_cases hm : m = n
        · rw [hm, Function.update_self, Function.update_self, record_live hinv hdone]
          rfl
        · rw [Function.update_of_ne hm, Function.update_of_ne hm]
          exact hinv.records m
      headers := fun m => by
        simp only
        by_cases hm : m = n
        · rw [hm, Function.update_self, Function.update_self, header_live hinv hdone hearly,
            Bool.true_or]
          rfl
        · rw [Function.update_of_ne hm, Function.update_of_ne hm]
          exact hinv.headers m
      reads := hinv.reads
      nodup := hinv.nodup
      mem := hinv.mem
      done := fun m hm => by
        simp only at hm ⊢
        by_cases hmn : m = n
        · rw [hmn]
          exact hgiven
        · rw [Function.update_of_ne hmn] at hm
          exact hinv.done m hm
      absent := hinv.absent }

/-- If the memory is still clean, the first match was the completed request. -/
theorem first_of_exact {e : Int} {calloc : Bool} (hinv : Inv s)
    (hstage : (s.stage n).dispatched = true) (hdone : s.completed n = false)
    (hexact : Exact (s.onRequestComplete n e calloc)) :
    s.queue.find? (s.Matches (s.header n).id (s.header n).token) = some n := by
  obtain ⟨m, hfirst⟩ := find?_self hinv hstage hdone
  obtain ⟨responses, heq⟩ := @onRequestComplete_eq s n m e calloc hinv hstage hdone hfirst
  have hm : m = n := by
    by_contra hne
    -- the record of `m` was freed, and `m` has not been completed
    have hmdone : s.completed m = false := by
      have hmem := List.mem_of_find?_eq_some hfirst
      rw [hinv.queue, List.mem_filter] at hmem
      simpa using hmem.2
    have hfreed := hexact.records m
    rw [heq] at hfreed
    simp only [Function.update_self, Function.update_of_ne hne, hmdone,
      Bool.toNat_false] at hfreed
    exact absurd hfreed (Nat.succ_ne_zero _)
  rw [hfirst, hm]

end Completion

-- ── Every step, and whole runs ────────────────────────────────────────────

section Runs

variable {uimFuncs : Bool} {s s' : State} {a : Action}

/-- The vendor has what it may complete. -/
theorem given_of_completable {n : Nat}
    (h : s.stage n = .handed ∨ s.stage n = .returned ∧ uimFuncs = true) :
    (s.stage n).given = true := by
  rcases h with h | ⟨h, -⟩
  · rw [h]
    rfl
  · rw [h]
    rfl

theorem inv_step (hinv : Inv s) (hok : Clean s a) (h : step uimFuncs s a = some s') :
    Inv s' := by
  cases a with
  | addPayload hdr malloc socket =>
      obtain rfl := Option.some.inj h
      exact inv_addPayload hinv hdr malloc socket
  | dispatchRequest n malloc =>
      simp only [step] at h
      split at h
      · rename_i hstage
        obtain rfl := Option.some.inj h
        exact inv_dispatchRequest hinv hstage malloc
      · exact nomatch h
  | onRequest n =>
      simp only [step] at h
      split at h
      · rename_i hcan
        obtain rfl := Option.some.inj h
        have hdone : s.completed n = false := not_completed hinv (by rw [hcan.1]; rfl)
        have hn : n < s.created :=
          created_of_stage hinv (by rw [hcan.1]; exact fun h => nomatch h)
        rw [readHeader_eq (header_live hinv hdone (by rw [hcan.1]; rfl))]
        refine inv_setStage hinv hn (fun _ => rfl) ?_ ?_
        · rw [hcan.1]
          rfl
        · rw [hcan.1]
          rfl
      · exact nomatch h
  | onRequestComplete n e calloc =>
      simp only [step] at h
      split at h
      · rename_i hcan
        obtain rfl := Option.some.inj h
        exact inv_onRequestComplete hinv (given_of_completable hcan.1) hcan.2 hok
      · exact nomatch h
  | finish n =>
      obtain ⟨hdone, hoom⟩ := hok
      simp only [step, if_neg hoom] at h
      split at h
      · rename_i hcan
        obtain rfl := Option.some.inj h
        have hstage : (s.stage n).dispatched = true := by
          rcases hcan with hst | ⟨hst, -⟩
          · rw [hst]
            rfl
          · rw [hst]
            rfl
        have hearly := not_freedEarly_of_dispatched hstage
        have hn : n < s.created := by
          refine created_of_stage hinv ?_
          intro habsent
          rw [habsent] at hstage
          exact nomatch hstage
        rw [readHeader_eq (header_live hinv hdone hearly)]
        exact inv_setStage hinv hn (fun _ => rfl) hstage.symm hearly.symm
      · exact nomatch h

/-- A step after which the memory is clean met the condition. -/
theorem clean_of_exact (hinv : Inv s) (h : step uimFuncs s a = some s') (hexact : Exact s') :
    Clean s a := by
  cases a with
  | addPayload hdr malloc socket => trivial
  | dispatchRequest n malloc => trivial
  | onRequest n => trivial
  | onRequestComplete n e calloc =>
      simp only [step] at h
      split at h
      · rename_i hcan
        obtain rfl := Option.some.inj h
        have hstage := dispatched_of_given (given_of_completable hcan.1)
        exact first_of_exact hinv hstage hcan.2 hexact
      · exact nomatch h
  | finish n =>
      have hlive : s.headerFrees n = 0 := by
        have hreads := hexact.reads
        simp only [step] at h
        split at h
        · obtain rfl := Option.some.inj h
          simpa [State.readHeader, State.setStage, hinv.reads] using hreads
        · split at h
          · obtain rfl := Option.some.inj h
            simpa [State.readHeader, State.setStage, hinv.reads] using hreads
          · exact nomatch h
      rw [hinv.headers, Bool.toNat_eq_zero, Bool.or_eq_false_iff] at hlive
      refine ⟨hlive.1, ?_⟩
      intro hoom
      rw [hoom] at hlive
      exact nomatch hlive.2

end Runs

/-- **THE PENDING QUEUE, EXACTLY**: all along a run the queue holds the requests
    that are not completed, every record and header is freed once and nothing
    freed is read, exactly when every completion is of the newest queued request
    with its id and token, and the service gets back to each header before it is
    freed. -/
theorem queue_exact_iff (uimFuncs : Bool) (acts : List Action) :
    Run.Always (step uimFuncs) Exact initial acts
      ↔ Run.StepsMeet (step uimFuncs) Clean initial acts :=
  Run.always_iff_stepsMeet (fun _ (h : Inv _) => h.toExact)
    (fun _ _ _ h hok hstep => inv_step h hok hstep)
    (fun _ _ _ h hstep hexact => clean_of_exact h hstep hexact) acts inv_initial

/-- Two requests with one id and token: completing the older one frees the
    record of the newer one.  And one request that the vendor completes inside
    `onRequest`: its header is read after it was freed. -/
theorem queue_not_exact :
    (¬ Run.Always (step true) Exact initial
      [.addPayload ⟨.simSapApdu, 7⟩ true true, .dispatchRequest 0 true, .onRequest 0, .finish 0,
        .addPayload ⟨.simSapApdu, 7⟩ true true, .dispatchRequest 1 true, .onRequest 1, .finish 1,
        .onRequestComplete 0 0 true])
    ∧ ¬ Run.Always (step true) Exact initial
      [.addPayload ⟨.simSapPower, 3⟩ true true, .dispatchRequest 0 true, .onRequest 0,
        .onRequestComplete 0 0 true, .finish 0] := by
  constructor
  · intro h
    have hlast := (h _ [] _ (List.append_nil _).symm rfl).records 1
    revert hlast
    decide
  · intro h
    have hlast := (h _ [] _ (List.append_nil _).symm rfl).reads
    revert hlast
    decide

end RilSap

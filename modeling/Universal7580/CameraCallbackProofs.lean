import Universal7580.RunProofs
import Universal7580.MailboxProofs

/-! # The camera's callback worker (`CallbackWorkerThread.cpp`)

    The camera HAL deadlocks when it calls its client from its own threads, so
    the wrapper has the callbacks made by a worker.  Everything the worker is
    told travels in one queue: the callbacks, new functions to make them with
    (`SetCallbacks`), and the message that ends the worker (`ExitThread`).
    `stop_preview` and the autofocus calls wipe that queue, `ClearCallbacks`,
    so that no callback is made any more.

    The mailbox of `MailboxProofs` is the queue with the message that `Process`
    holds.  `callback_worker` says when the worker does what it is told: exactly
    when no wipe takes an exit message, or functions other than those the worker
    has. -/

namespace CameraCallback

open Run Mailbox

-- ── Messages ─────────────────────────────────────────────────────────────────

def CB_TYPE_NOTIFY : Int := 1
def CB_TYPE_DATA : Int := 2

/-- A callback of the vendor's HAL; pointers are numbers. -/
structure WorkerMessage where
  CbType : Int
  msg_type : Int
  data : Nat
  index : Nat
  metadata : Nat
  user : Nat
  ext1 : Int
  ext2 : Int
  deriving DecidableEq

/-- The client's functions; a null pointer is `none`. -/
structure CallbackData where
  NewUserNotifyCb : Option Nat
  NewUserDataCb : Option Nat
  deriving DecidableEq

inductive Msg where
  | MSG_EXIT_THREAD
  | MSG_EXECUTE_CALLBACK (userData : WorkerMessage)
  | MSG_UPDATE_CALLBACKS (callbackData : CallbackData)
  deriving DecidableEq

/-- `ThreadMsg`; `number` tells apart messages that say the same. -/
structure ThreadMsg where
  number : Nat
  msg : Msg
  CallerTS : Int
  deriving DecidableEq

/-- A call of one of the client's functions. -/
inductive UserCall where
  | notify (fn : Nat) (msg_type ext1 ext2 : Int) (user : Nat)
  | data (fn : Nat) (msg_type : Int) (data index metadata user : Nat)
  deriving DecidableEq

/-- The call that a callback makes, if the client's function is valid. -/
def userCall (cbs : CallbackData) (m : WorkerMessage) : Option UserCall :=
  if m.CbType = CB_TYPE_NOTIFY then
    cbs.NewUserNotifyCb.map fun fn => .notify fn m.msg_type m.ext1 m.ext2 m.user
  else if m.CbType = CB_TYPE_DATA then
    cbs.NewUserDataCb.map fun fn => .data fn m.msg_type m.data m.index m.metadata m.user
  else none

-- ── The worker and its callers ───────────────────────────────────────────────

/-- `CallbackWorkerThread`, with the local variables of `Process`: `cbs` are
    `UserNotifyCb` and `UserDataCb`, and `running` is false once it returned. -/
structure Worker where
  m_thread : Bool
  box : Box ThreadMsg
  cbs : CallbackData
  running : Bool
  invoked : List (ThreadMsg × UserCall)
  deriving DecidableEq

def noCallbacks : CallbackData :=
  { NewUserNotifyCb := none, NewUserDataCb := none }

/-- After `CreateThread`. -/
def workerInit : Worker :=
  { m_thread := true
    box := Mailbox.empty
    cbs := noCallbacks
    running := true
    invoked := [] }

/-- `m_queue.push`. -/
def push (s : Worker) (msg : Msg) (ts : Int) : Worker :=
  let threadMsg : ThreadMsg := { number := (posted s.box).length, msg := msg, CallerTS := ts }
  { s with box := post s.box threadMsg }

/-- `AddCallback`; without a thread the assertion fails. -/
def addCallback (s : Worker) (data : WorkerMessage) (ts : Int) : Option Worker :=
  if s.m_thread = true then some (push s (.MSG_EXECUTE_CALLBACK data) ts) else none

/-- `SetCallbacks`. -/
def setCallbacks (s : Worker) (data : CallbackData) (ts : Int) : Option Worker :=
  if s.m_thread = true then some (push s (.MSG_UPDATE_CALLBACKS data) ts) else none

/-- `ClearCallbacks`. -/
def clearCallbacks (s : Worker) : Option Worker :=
  if s.m_thread = true then some { s with box := wipe s.box } else none

/-- `ExitThread`, to where it joins the thread. -/
def exitThread (s : Worker) (ts : Int) : Worker :=
  if s.m_thread = true then push s .MSG_EXIT_THREAD ts else s

/-- `m_thread->join()` returns when the thread did. -/
def joinThread (s : Worker) : Option Worker :=
  if s.m_thread = true ∧ s.running = false then some { s with m_thread := false } else none

/-- `Process` takes a message. -/
def takeMessage (s : Worker) : Option Worker :=
  if s.running = true then
    match take s.box with
    | none => none
    | some box => some { s with box := box }
  else none

/-- `Process` works on the message it took; `now` is `GetTimestamp()`. -/
def processMessage (s : Worker) (m : ThreadMsg) (now : Int) : Worker :=
  match m.msg with
  | .MSG_EXECUTE_CALLBACK userData =>
      -- If the callback is not stale (newer than 5mS)
      if now - m.CallerTS < 5 then
        match userCall s.cbs userData with
        | none => { s with box := finish s.box }
        | some call => { s with box := finish s.box, invoked := s.invoked ++ [(m, call)] }
      else { s with box := finish s.box }
  | .MSG_UPDATE_CALLBACKS callbackData => { s with box := finish s.box, cbs := callbackData }
  | .MSG_EXIT_THREAD => { s with box := wipe (finish s.box), running := false }

def workOn (s : Worker) (now : Int) : Option Worker :=
  if s.running = true then
    match s.box.hand with
    | none => none
    | some m => some (processMessage s m now)
  else none

inductive Act where
  | addCallback (data : WorkerMessage) (ts : Int)
  | setCallbacks (data : CallbackData) (ts : Int)
  | clearCallbacks
  | exitThread (ts : Int)
  | joinThread
  | takeMessage
  | workOn (now : Int)

def step (s : Worker) : Act → Option Worker
  | .addCallback data ts => addCallback s data ts
  | .setCallbacks data ts => setCallbacks s data ts
  | .clearCallbacks => clearCallbacks s
  | .exitThread ts => some (exitThread s ts)
  | .joinThread => joinThread s
  | .takeMessage => takeMessage s
  | .workOn now => workOn s now

/-- The next step of `Process` itself. -/
def processAct (s : Worker) (now : Int) : Act :=
  match s.box.hand with
  | none => .takeMessage
  | some _ => .workOn now

/-- `Process` left alone for `n` steps, or until it waits or has returned; the
    step `i` before the last reads `clock i`. -/
def work (clock : Nat → Int) : Nat → Worker → Worker
  | 0, s => s
  | n + 1, s =>
      match step s (processAct s (clock n)) with
      | none => s
      | some s' => work clock n s'

-- ── What an action does ──────────────────────────────────────────────────────

section Actions

variable {s s' : Worker} {ts now : Int}

theorem addCallback_eq_some {data : WorkerMessage} (h : addCallback s data ts = some s') :
    s.m_thread = true ∧ s' = push s (.MSG_EXECUTE_CALLBACK data) ts := by
  rw [addCallback] at h
  split at h
  · rename_i hthread
    exact ⟨hthread, (Option.some.inj h).symm⟩
  · cases h

theorem setCallbacks_eq_some {data : CallbackData} (h : setCallbacks s data ts = some s') :
    s.m_thread = true ∧ s' = push s (.MSG_UPDATE_CALLBACKS data) ts := by
  rw [setCallbacks] at h
  split at h
  · rename_i hthread
    exact ⟨hthread, (Option.some.inj h).symm⟩
  · cases h

theorem clearCallbacks_eq_some (h : clearCallbacks s = some s') :
    s.m_thread = true ∧ s' = { s with box := wipe s.box } := by
  rw [clearCallbacks] at h
  split at h
  · rename_i hthread
    exact ⟨hthread, (Option.some.inj h).symm⟩
  · cases h

theorem joinThread_eq_some (h : joinThread s = some s') :
    s.m_thread = true ∧ s.running = false ∧ s' = { s with m_thread := false } := by
  rw [joinThread] at h
  split at h
  · rename_i hjoin
    exact ⟨hjoin.1, hjoin.2, (Option.some.inj h).symm⟩
  · cases h

/-- There is a message to be taken. -/
theorem takeMessage_eq_some (h : takeMessage s = some s') :
    s.running = true ∧ ∃ box, take s.box = some box ∧ s' = { s with box := box } := by
  rw [takeMessage] at h
  split at h
  · rename_i hrunning
    split at h
    · cases h
    · rename_i box htake
      exact ⟨hrunning, box, htake, (Option.some.inj h).symm⟩
  · cases h

/-- There is a message in hand. -/
theorem workOn_eq_some (h : workOn s now = some s') :
    s.running = true ∧ ∃ m, s.box.hand = some m ∧ s' = processMessage s m now := by
  rw [workOn] at h
  split at h
  · rename_i hrunning
    split at h
    · cases h
    · rename_i m hhand
      exact ⟨hrunning, m, hhand, (Option.some.inj h).symm⟩
  · cases h

end Actions

-- ── What the worker is told ──────────────────────────────────────────────────

/-- The functions after a message. -/
def applyMsg (cbs : CallbackData) (m : ThreadMsg) : CallbackData :=
  match m.msg with
  | .MSG_UPDATE_CALLBACKS callbackData => callbackData
  | _ => cbs

/-- The functions of the last `SetCallbacks` among the messages, or `cbs`. -/
def inForce (cbs : CallbackData) (msgs : List ThreadMsg) : CallbackData :=
  msgs.foldl applyMsg cbs

def IsExit (m : ThreadMsg) : Prop :=
  m.msg = .MSG_EXIT_THREAD

/-- The worker does what it was told:

    * the calls are those of some posted messages, in order, each at most once,
      and of none that was wiped;
    * a call is made with the functions that were the last to be posted before
      its message;
    * once the worker, left alone, has emptied its queue, it has the functions
      that were posted last;
    * once an exit message is posted, the worker, left alone, returns within two
      steps for each message. -/
structure Sound (s : Worker) : Prop where
  inOrder : (s.invoked.map Prod.fst).Sublist (posted s.box)
  once : (posted s.box).Nodup
  notWiped : ∀ e ∈ s.invoked, e.1 ∉ s.box.wiped
  functions : ∀ e ∈ s.invoked, ∃ before after userData, posted s.box = before ++ e.1 :: after
    ∧ e.1.msg = .MSG_EXECUTE_CALLBACK userData
    ∧ userCall (inForce noCallbacks before) userData = some e.2
  drained : ∀ clock n, (work clock n s).running = true → (work clock n s).box.queue = [] →
    (work clock n s).box.hand = none →
    (work clock n s).cbs = inForce noCallbacks (posted s.box)
  exits : (∃ m ∈ posted s.box, IsExit m) → ∀ clock n, 2 * (s.box.queue.length + 1) ≤ n →
    (work clock n s).running = false

/-- The worker is about to return. -/
def HoldsExit (s : Worker) : Prop :=
  ∃ m, s.box.hand = some m ∧ IsExit m

/-- The functions that the worker has, once it is done with what it holds. -/
def afterHand (s : Worker) : CallbackData :=
  inForce s.cbs s.box.hand.toList

/-- A wipe takes no exit message, and no functions other than the worker's;
    unless the worker is about to return, or has. -/
def KeepsControl (s : Worker) : Act → Prop
  | .clearCallbacks => s.running = true → ¬HoldsExit s →
      (∀ m ∈ s.box.queue, ¬IsExit m) ∧ inForce (afterHand s) s.box.queue = afterHand s
  | _ => True

-- ── The invariant ────────────────────────────────────────────────────────────

/-- What the worker does, in terms of what was posted. -/
structure Inv (s : Worker) : Prop where
  ordered : Ordered s.box
  numbers : (posted s.box).map ThreadMsg.number = List.range (posted s.box).length
  invoked : (s.invoked.map Prod.fst).Sublist s.box.handled
  functions : ∀ e ∈ s.invoked, ∃ before after userData, posted s.box = before ++ e.1 :: after
    ∧ e.1.msg = .MSG_EXECUTE_CALLBACK userData
    ∧ userCall (inForce noCallbacks before) userData = some e.2
  holding : s.running = true → ∀ m, s.box.hand = some m →
    ∃ before after, posted s.box = before ++ m :: after ∧ inForce noCallbacks before = s.cbs
  current : s.running = true → ¬HoldsExit s → afterHand s = inForce noCallbacks s.box.past
  exits : s.running = true → ¬HoldsExit s → (∃ m ∈ posted s.box, IsExit m) →
    ∃ m ∈ s.box.queue, IsExit m

theorem inForce_append (cbs : CallbackData) (first second : List ThreadMsg) :
    inForce cbs (first ++ second) = inForce (inForce cbs first) second :=
  List.foldl_append

theorem inv_init : Inv workerInit where
  ordered := ordered_empty
  numbers := rfl
  invoked := List.Sublist.refl _
  functions := fun _ h => (nomatch h)
  holding := fun _ _ h => (nomatch h)
  current := fun _ _ => rfl
  exits := fun _ _ ⟨_, h, _⟩ => (nomatch h)

/-- The next message has a number of its own. -/
theorem fresh_number {s : Worker} (hs : Inv s) {m : ThreadMsg}
    (hm : m.number = (posted s.box).length) : m ∉ posted s.box := by
  intro hmem
  have hnumber := List.mem_map_of_mem (f := ThreadMsg.number) hmem
  rw [hs.numbers, hm, List.mem_range] at hnumber
  exact Nat.lt_irrefl _ hnumber

/-- A message is posted, by whichever caller. -/
theorem inv_push {s : Worker} (hs : Inv s) (msg : Msg) (ts : Int) : Inv (push s msg ts) := by
  have hposted : posted (push s msg ts).box = posted s.box ++ [_] := posted_post s.box _
  refine ⟨ordered_post hs.ordered (fresh_number hs rfl), ?_, hs.invoked, ?_, ?_, hs.current, ?_⟩
  · rw [hposted, List.map_append, hs.numbers, List.length_append]
    show _ = List.range ((posted s.box).length + 1)
    rw [List.range_succ]
    rfl
  · intro e he
    obtain ⟨before, after, userData, hcat, hrest⟩ := hs.functions e he
    exact ⟨before, after ++ [_], userData, by rw [hposted, hcat, List.append_assoc]; rfl, hrest⟩
  · intro hrunning m hm
    obtain ⟨before, after, hcat, hcbs⟩ := hs.holding hrunning m hm
    exact ⟨before, after ++ [_], by rw [hposted, hcat, List.append_assoc]; rfl, hcbs⟩
  · rintro hrunning hhand ⟨m, hm, hexit⟩
    rw [hposted] at hm
    rcases List.mem_append.mp hm with hold | hnew
    · obtain ⟨m', hm', hexit'⟩ := hs.exits hrunning hhand ⟨m, hold, hexit⟩
      exact ⟨m', List.mem_append_left _ hm', hexit'⟩
    · exact ⟨m, List.mem_append_right _ hnew, hexit⟩

/-- The queue is wiped, of nothing the worker needs. -/
theorem inv_wipe {s : Worker} (hs : Inv s) (hok : KeepsControl s .clearCallbacks) :
    Inv { s with box := wipe s.box } := by
  have hposted := posted_wipe s.box
  refine ⟨ordered_wipe hs.ordered, ?_, hs.invoked, ?_, ?_, ?_, ?_⟩
  · rw [hposted]
    exact hs.numbers
  · rw [hposted]
    exact hs.functions
  · rw [hposted]
    exact hs.holding
  · intro hrunning hhand
    show afterHand s = inForce noCallbacks (s.box.past ++ s.box.queue)
    rw [inForce_append, ← hs.current hrunning hhand]
    exact (hok hrunning hhand).2.symm
  · rintro hrunning hhand ⟨m, hm, hexit⟩
    rw [hposted] at hm
    obtain ⟨m', hm', hexit'⟩ := hs.exits hrunning hhand ⟨m, hm, hexit⟩
    exact absurd hexit' ((hok hrunning hhand).1 m' hm')

/-- The worker takes a message. -/
theorem inv_take {s : Worker} (hs : Inv s) (hrunning : s.running = true)
    {box : Box ThreadMsg} (h : take s.box = some box) : Inv { s with box := box } := by
  have hposted := posted_take h
  have hordered := ordered_take hs.ordered h
  obtain ⟨m, rest, hhand, hqueue, rfl⟩ := take_cases h
  have hfree : ¬HoldsExit s := by
    rintro ⟨m', hm', -⟩
    exact nomatch hhand.symm.trans hm'
  have hcurrent : s.cbs = inForce noCallbacks s.box.past := by
    have hafter := hs.current hrunning hfree
    rw [afterHand, hhand] at hafter
    exact hafter
  refine ⟨hordered, ?_, hs.invoked, ?_, ?_, ?_, ?_⟩
  · rw [hposted]
    exact hs.numbers
  · rw [hposted]
    exact hs.functions
  · intro _ m' hm'
    obtain rfl : m = m' := Option.some.inj hm'
    refine ⟨s.box.past, rest, ?_, hcurrent.symm⟩
    show s.box.past ++ [m] ++ rest = _
    rw [List.append_assoc]
    rfl
  · intro _ _
    show inForce s.cbs [m] = inForce noCallbacks (s.box.past ++ [m])
    rw [inForce_append, hcurrent]
  · rintro _ hhand' ⟨m', hm', hexit⟩
    rw [hposted] at hm'
    obtain ⟨m'', hm'', hexit''⟩ := hs.exits hrunning hfree ⟨m', hm', hexit⟩
    rw [hqueue] at hm''
    rcases List.mem_cons.mp hm'' with rfl | hrest
    · exact absurd ⟨m'', rfl, hexit''⟩ hhand'
    · exact ⟨m'', hrest, hexit''⟩

/-- The worker is done with a message that does not end it. -/
theorem inv_finish {s : Worker} (hs : Inv s) (hrunning : s.running = true) {m : ThreadMsg}
    (hhand : s.box.hand = some m) (hm : ¬IsExit m) (calls : List UserCall)
    (hcalls : calls.length ≤ 1) (hcall : ∀ call ∈ calls, ∃ userData,
      m.msg = .MSG_EXECUTE_CALLBACK userData ∧ userCall s.cbs userData = some call) :
    Inv { s with box := finish s.box
                 cbs := applyMsg s.cbs m
                 invoked := s.invoked ++ calls.map fun call => (m, call) } := by
  have hfree : ¬HoldsExit s := by
    rintro ⟨m', hm', hexit⟩
    obtain rfl := Option.some.inj (hhand.symm.trans hm')
    exact hm hexit
  refine ⟨ordered_finish hs.ordered, hs.numbers, ?_, ?_, fun _ _ h => (nomatch h), ?_, ?_⟩
  · show ((s.invoked ++ _).map Prod.fst).Sublist (s.box.handled ++ s.box.hand.toList)
    rw [List.map_append, hhand]
    refine hs.invoked.append ?_
    match calls, hcalls with
    | [], _ => exact List.nil_sublist _
    | [call], _ => exact List.Sublist.refl _
  · intro e he
    rcases List.mem_append.mp he with hold | hnew
    · exact hs.functions e hold
    · obtain ⟨call, hmem, rfl⟩ := List.mem_map.mp hnew
      obtain ⟨userData, hmsg, husercall⟩ := hcall call hmem
      obtain ⟨before, after, hcat, hcbs⟩ := hs.holding hrunning m hhand
      exact ⟨before, after, userData, hcat, hmsg, by rw [hcbs]; exact husercall⟩
  · intro _ _
    have hafter := hs.current hrunning hfree
    rw [afterHand, hhand] at hafter
    exact hafter
  · intro _ _
    exact hs.exits hrunning hfree

/-- The worker returns. -/
theorem inv_return {s : Worker} (hs : Inv s) :
    Inv { s with box := wipe (finish s.box), running := false } := by
  refine ⟨ordered_wipe (ordered_finish hs.ordered), ?_, ?_, ?_, fun h => (nomatch h),
    fun h => (nomatch h), fun h => (nomatch h)⟩
  · rw [posted_wipe, posted_finish]
    exact hs.numbers
  · exact hs.invoked.trans (List.sublist_append_left ..)
  · rw [posted_wipe, posted_finish]
    exact hs.functions

/-- The worker works on the message it holds. -/
theorem inv_processMessage {s : Worker} (hs : Inv s) (hrunning : s.running = true)
    {m : ThreadMsg} (hhand : s.box.hand = some m) (now : Int) :
    Inv (processMessage s m now) := by
  rw [processMessage]
  split
  · rename_i userData hmsg
    have hm : ¬IsExit m := by
      rw [IsExit, hmsg]
      exact fun h => nomatch h
    have hcbs : applyMsg s.cbs m = s.cbs := by
      rw [applyMsg, hmsg]
    have hsilent := inv_finish hs hrunning hhand hm [] (by simp) (by simp)
    rw [hcbs, List.map_nil, List.append_nil] at hsilent
    split
    · split
      · exact hsilent
      · rename_i call hcall
        have hinvoked := inv_finish hs hrunning hhand hm [call] (by simp) (by
          intro c hc
          rw [List.mem_singleton.mp hc]
          exact ⟨userData, hmsg, hcall⟩)
        rw [hcbs] at hinvoked
        exact hinvoked
    · exact hsilent
  · rename_i callbackData hmsg
    have hm : ¬IsExit m := by
      rw [IsExit, hmsg]
      exact fun h => nomatch h
    have hcbs : applyMsg s.cbs m = callbackData := by
      rw [applyMsg, hmsg]
    have hsilent := inv_finish hs hrunning hhand hm [] (by simp) (by simp)
    rw [hcbs, List.map_nil, List.append_nil] at hsilent
    exact hsilent
  · exact inv_return hs

/-- **STEP**: the worker and its callers keep the invariant, if no wipe takes
    what the worker needs. -/
theorem inv_step (s : Worker) (a : Act) (s' : Worker) (hs : Inv s) (hok : KeepsControl s a)
    (h : step s a = some s') : Inv s' := by
  cases a with
  | addCallback data ts =>
      obtain ⟨-, rfl⟩ := addCallback_eq_some h
      exact inv_push hs _ ts
  | setCallbacks data ts =>
      obtain ⟨-, rfl⟩ := setCallbacks_eq_some h
      exact inv_push hs _ ts
  | clearCallbacks =>
      obtain ⟨-, rfl⟩ := clearCallbacks_eq_some h
      exact inv_wipe hs hok
  | exitThread ts =>
      obtain rfl := Option.some.inj h
      rw [exitThread]
      split
      · exact inv_push hs _ ts
      · exact hs
  | joinThread =>
      obtain ⟨-, -, rfl⟩ := joinThread_eq_some h
      exact ⟨hs.ordered, hs.numbers, hs.invoked, hs.functions, hs.holding, hs.current, hs.exits⟩
  | takeMessage =>
      obtain ⟨hrunning, box, htake, rfl⟩ := takeMessage_eq_some h
      exact inv_take hs hrunning htake
  | workOn now =>
      obtain ⟨hrunning, m, hhand, rfl⟩ := workOn_eq_some h
      exact inv_processMessage hs hrunning hhand now

-- ── The worker left alone ────────────────────────────────────────────────────

theorem processMessage_m_thread (w : Worker) (m : ThreadMsg) (now : Int) :
    (processMessage w m now).m_thread = w.m_thread := by
  rw [processMessage]
  split
  · split
    · split <;> rfl
    · rfl
  · rfl
  · rfl

/-- What is left in the mailbox when the worker is done with a message. -/
theorem processMessage_cases (s : Worker) (m : ThreadMsg) (now : Int) :
    (IsExit m ∧ (processMessage s m now).running = false
        ∧ (processMessage s m now).box = wipe (finish s.box))
      ∨ (¬IsExit m ∧ (processMessage s m now).running = s.running
        ∧ (processMessage s m now).box = finish s.box
        ∧ (processMessage s m now).cbs = applyMsg s.cbs m) := by
  rw [processMessage, IsExit, applyMsg]
  cases hmsg : m.msg with
  | MSG_EXECUTE_CALLBACK userData =>
      refine Or.inr ⟨fun h => (nomatch h), ?_⟩
      dsimp only
      split
      · split <;> exact ⟨rfl, rfl, rfl⟩
      · exact ⟨rfl, rfl, rfl⟩
  | MSG_UPDATE_CALLBACKS callbackData =>
      exact Or.inr ⟨fun h => (nomatch h), rfl, rfl, rfl⟩
  | MSG_EXIT_THREAD => exact Or.inl ⟨rfl, rfl, rfl⟩

theorem step_take {s : Worker} (hrunning : s.running = true) (hhand : s.box.hand = none)
    {m : ThreadMsg} {rest : List ThreadMsg} (hqueue : s.box.queue = m :: rest) (now : Int) :
    step s (processAct s now)
      = some { s with box := { s.box with past := s.box.past ++ [m]
                                          queue := rest
                                          hand := some m } } := by
  simp only [processAct, hhand, step, takeMessage, if_pos hrunning, take_of_queue hhand hqueue]

theorem step_process {s : Worker} (hrunning : s.running = true) {m : ThreadMsg}
    (hhand : s.box.hand = some m) (now : Int) :
    step s (processAct s now) = some (processMessage s m now) := by
  simp only [processAct, hhand, step, workOn, if_pos hrunning]

/-- With nothing to do the worker waits. -/
theorem step_wait {s : Worker} (hhand : s.box.hand = none) (hqueue : s.box.queue = [])
    (now : Int) : step s (processAct s now) = none := by
  simp [processAct, hhand, step, takeMessage, take, hqueue]

/-- A worker that returned takes no step. -/
theorem step_returned {s : Worker} (h : s.running = false) (now : Int) :
    step s (processAct s now) = none := by
  rw [processAct]
  split
  · simp [step, takeMessage, h]
  · simp [step, workOn, h]

/-- Working on a message posts nothing. -/
theorem posted_processMessage (w : Worker) {m : ThreadMsg} (now : Int) :
    posted (processMessage w m now).box = posted w.box := by
  rcases processMessage_cases w m now with ⟨-, -, hbox⟩ | ⟨-, -, hbox, -⟩
  · rw [hbox, posted_wipe, posted_finish]
  · rw [hbox, posted_finish]

theorem work_of_none {clock : Nat → Int} {s : Worker}
    (h : ∀ now, step s (processAct s now) = none) (n : Nat) : work clock n s = s := by
  cases n with
  | zero => rfl
  | succ n => rw [work, h]

theorem work_of_step {clock : Nat → Int} {s s' : Worker} {n : Nat}
    (h : step s (processAct s (clock n)) = some s') :
    work clock (n + 1) s = work clock n s' := by
  rw [work, h]

/-- The worker posts nothing. -/
theorem posted_step {s s' : Worker} {now : Int} (h : step s (processAct s now) = some s') :
    posted s'.box = posted s.box := by
  rw [processAct] at h
  split at h
  · obtain ⟨-, box, htake, rfl⟩ := takeMessage_eq_some h
    exact posted_take htake
  · obtain ⟨-, m, -, rfl⟩ := workOn_eq_some h
    exact posted_processMessage s now

theorem keepsControl_processAct (s : Worker) (now : Int) : KeepsControl s (processAct s now) := by
  rw [processAct]
  split <;> trivial

/-- The worker alone keeps the invariant, and what was posted. -/
theorem inv_work (clock : Nat → Int) :
    ∀ (n : Nat) {s : Worker}, Inv s →
      Inv (work clock n s) ∧ posted (work clock n s).box = posted s.box := by
  intro n
  induction n with
  | zero =>
      intro s hs
      exact ⟨hs, rfl⟩
  | succ n ih =>
      intro s hs
      cases hstep : step s (processAct s (clock n)) with
      | none =>
          rw [work, hstep]
          exact ⟨hs, rfl⟩
      | some s' =>
          rw [work_of_step hstep, ← posted_step hstep]
          exact ih (inv_step s _ s' hs (keepsControl_processAct s _) hstep)

/-- The steps that the worker has before it. -/
def todo (s : Worker) : Nat :=
  2 * s.box.queue.length + s.box.hand.toList.length

/-- With an exit message before it, the worker returns. -/
theorem work_returns (clock : Nat → Int) :
    ∀ (n : Nat) {s : Worker},
      (s.running = true → ¬HoldsExit s → ∃ m ∈ s.box.queue, IsExit m) → todo s ≤ n →
      (work clock n s).running = false := by
  intro n
  induction n with
  | zero =>
      intro s hexit htodo
      cases hrunning : s.running with
      | false => exact hrunning
      | true =>
          -- there is no message left, and none that the worker holds
          rw [todo] at htodo
          have hqueue : s.box.queue = [] := List.eq_nil_of_length_eq_zero (by omega)
          have hhand : s.box.hand = none := by
            cases hheld : s.box.hand with
            | none => rfl
            | some m => simp [hheld] at htodo
          obtain ⟨m, hm, -⟩ := hexit hrunning (by
            rintro ⟨m, hm, -⟩
            exact nomatch hhand.symm.trans hm)
          rw [hqueue] at hm
          exact nomatch hm
  | succ n ih =>
      intro s hexit htodo
      cases hrunning : s.running with
      | false =>
          rw [work_of_none (step_returned hrunning)]
          exact hrunning
      | true =>
          cases hhand : s.box.hand with
          | none =>
              obtain ⟨m, hm, hmexit⟩ := hexit hrunning (by
                rintro ⟨m, hm, -⟩
                exact nomatch hhand.symm.trans hm)
              cases hqueue : s.box.queue with
              | nil =>
                  rw [hqueue] at hm
                  exact nomatch hm
              | cons first rest =>
                  rw [work_of_step (step_take hrunning hhand hqueue _)]
                  refine ih ?_ ?_
                  · intro _ hfree
                    rw [hqueue] at hm
                    rcases List.mem_cons.mp hm with rfl | hrest
                    · exact absurd ⟨m, rfl, hmexit⟩ hfree
                    · exact ⟨m, hrest, hmexit⟩
                  · rw [todo, hqueue, List.length_cons] at htodo
                    show 2 * rest.length + 1 ≤ n
                    omega
          | some m =>
              rw [work_of_step (step_process hrunning hhand _)]
              rw [todo, hhand] at htodo
              have hstill : 2 * s.box.queue.length ≤ n := by
                have hone : (some m).toList.length = 1 := rfl
                omega
              rcases processMessage_cases s m (clock n) with
                ⟨-, hreturned, hbox⟩ | ⟨hm, -, hbox, -⟩
              · rw [work_of_none (step_returned hreturned)]
                exact hreturned
              · refine ih ?_ ?_
                · intro _ _
                  rw [hbox]
                  refine hexit hrunning ?_
                  rintro ⟨m', hm', hexit'⟩
                  obtain rfl := Option.some.inj (hhand.symm.trans hm')
                  exact hm hexit'
                · rw [todo, hbox]
                  exact hstill

/-- With an empty queue the worker finishes what it holds and waits. -/
theorem work_idle {s : Worker} (clock : Nat → Int) (hrunning : s.running = true)
    (hfree : ¬HoldsExit s) (hqueue : s.box.queue = []) :
    (work clock 2 s).running = true ∧ (work clock 2 s).box.queue = []
      ∧ (work clock 2 s).box.hand = none ∧ (work clock 2 s).cbs = afterHand s := by
  cases hhand : s.box.hand with
  | none =>
      rw [work_of_none (step_wait hhand hqueue), afterHand, hhand]
      exact ⟨hrunning, hqueue, rfl, rfl⟩
  | some m =>
      rw [work_of_step (step_process hrunning hhand _)]
      rcases processMessage_cases s m (clock 1) with ⟨hm, -⟩ | ⟨-, hrun, hbox, hcbs⟩
      · exact absurd ⟨m, hhand, hm⟩ hfree
      · rw [work_of_none (step_wait (by rw [hbox]; rfl) (by rw [hbox]; exact hqueue)), afterHand,
          hhand]
        exact ⟨hrun.trans hrunning, by rw [hbox]; exact hqueue, by rw [hbox]; rfl, hcbs⟩

-- ── What the worker is told, it does ─────────────────────────────────────────

theorem sound_of_inv (s : Worker) (hs : Inv s) : Sound s where
  inOrder :=
    (hs.invoked.trans (List.sublist_append_left ..)).trans
      (hs.ordered.inOrder.trans (List.sublist_append_left ..))
  once := hs.ordered.nodup
  notWiped := by
    intro e he hwiped
    refine (hs.ordered.wiped e.1 hwiped).2 (List.mem_append_left _ ?_)
    exact hs.invoked.subset (List.mem_map_of_mem he)
  functions := hs.functions
  drained := by
    intro clock n hrunning hqueue hhand
    obtain ⟨hinv, hposted⟩ := inv_work clock n hs
    have hcurrent := hinv.current hrunning (by
      rintro ⟨m, hm, -⟩
      exact nomatch hhand.symm.trans hm)
    rw [posted, hqueue, List.append_nil] at hposted
    rw [afterHand, hhand, hposted] at hcurrent
    exact hcurrent
  exits := by
    intro hexit clock n hn
    refine work_returns clock n (fun hrunning hfree => hs.exits hrunning hfree hexit) ?_
    have hhand : s.box.hand.toList.length ≤ 1 := by
      cases s.box.hand <;> simp
    rw [todo]
    omega

/-- **EXACT STEP**: a step after which the worker will do what it was told took
    nothing from it that it needs. -/
theorem keepsControl_of_sound (s : Worker) (a : Act) (s' : Worker) (hs : Inv s)
    (h : step s a = some s') (hsound : Sound s') : KeepsControl s a := by
  cases a with
  | clearCallbacks =>
      obtain ⟨-, rfl⟩ := clearCallbacks_eq_some h
      intro hrunning hfree
      obtain ⟨hrun, hqueue, hhand, hcbs⟩ :=
        work_idle (s := { s with box := wipe s.box }) (fun _ => 0) hrunning hfree rfl
      refine ⟨?_, ?_⟩
      · intro m hm hexit
        have hmem : m ∈ posted (wipe s.box) := by
          rw [posted_wipe]
          exact List.mem_append_right _ hm
        have hreturned := hsound.exits ⟨m, hmem, hexit⟩ (fun _ => 0) 2 (Nat.le_refl _)
        exact nomatch hrun.symm.trans hreturned
      · have hdrained := hsound.drained (fun _ => 0) 2 hrun hqueue hhand
        rw [hcbs] at hdrained
        rw [hs.current hrunning hfree, ← inForce_append, ← hs.current hrunning hfree]
        rw [posted_wipe] at hdrained
        exact hdrained.symm
  | _ => trivial

/-- **CALLBACK WORKER**: in every state of a run the worker does what it was
    told exactly if no wipe of the run takes an exit message, or functions other
    than those the worker has, from a worker that is not about to return. -/
theorem callback_worker (acts : List Act) :
    Always step Sound workerInit acts ↔ StepsMeet step KeepsControl workerInit acts :=
  always_iff_stepsMeet sound_of_inv inv_step keepsControl_of_sound acts inv_init

/-- **CONTROL MESSAGES ARE WIPED**: new functions that a `stop_preview` takes
    before the worker gets to them; and an exit message, so that the worker
    waits for ever. -/
theorem control_wiped :
    ¬Always step Sound workerInit
        [.setCallbacks { NewUserNotifyCb := some 1, NewUserDataCb := some 2 } 0, .clearCallbacks]
      ∧ ¬Always step Sound workerInit [.exitThread 0, .clearCallbacks] := by
  refine ⟨?_, ?_⟩
  · intro h
    have hsound := h _ [] _ (List.append_nil _).symm rfl
    have hdrained := hsound.drained (fun _ => 0) 0 rfl rfl rfl
    exact absurd hdrained (by decide)
  · intro h
    have hsound := h _ [] _ (List.append_nil _).symm rfl
    have hreturned := hsound.exits ⟨_, List.mem_singleton.mpr rfl, rfl⟩ (fun _ => 0) 2
      (Nat.le_refl _)
    exact nomatch hreturned

end CameraCallback

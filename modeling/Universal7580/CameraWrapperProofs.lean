import Universal7580.CameraCallbackProofs
import Universal7580.TraceProofs

/-! # The camera wrapper (`Camera2Wrapper.cpp`)

    The wrapper forwards the operations of a camera device to the vendor's
    device and keeps a few globals in between: the preview window and whether
    `start_preview` waits for it, `BlockCbs`, which drops the vendor's
    callbacks, and the time until which `cancel_auto_focus` is skipped.

    An operation runs in two halves, `enter` up to its call of the vendor and
    `leave` from there on, so that callbacks may come in between.

    * `callbacks_unblocked`: between the operations of an open device the
      callbacks are let through, exactly if `cancel_auto_focus` is never
      skipped: the early return leaves `BlockCbs` set.
    * `deferred_preview`: preview runs when it was asked for, exactly if it is
      never stopped while its start is deferred: `stop_preview` does not take
      the deferred start back. -/

namespace CameraWrapper

open Run Trace Mailbox CameraCallback

-- ── The operations ───────────────────────────────────────────────────────────

/-- The functions of the vendor's device; pointers are numbers, 0 is `NULL`. -/
inductive VendorCall where
  | set_preview_window (window : Nat)
  | set_callbacks (data_cb_timestamp get_memory user : Nat)
  | enable_msg_type (msg_type : Int)
  | disable_msg_type (msg_type : Int)
  | msg_type_enabled (msg_type : Int)
  | start_preview
  | stop_preview
  | preview_enabled
  | store_meta_data_in_buffers (enable : Int)
  | start_recording
  | stop_recording
  | recording_enabled
  | release_recording_frame (frame : Nat)
  | auto_focus
  | cancel_auto_focus
  | take_picture
  | cancel_picture
  | set_parameters (params : Option String)
  | get_parameters
  | put_parameters (params : Option String)
  | send_command (cmd arg1 arg2 : Int)
  | release
  | dump (fd : Int)
  deriving DecidableEq

/-- What a function returns. -/
inductive Reply where
  | nothing
  | int (rc : Int)
  | params (text : Option String)
  deriving DecidableEq

/-- The operations of the wrapper's device.  `forward` are those that only call
    the function of the same name. -/
inductive Op where
  | set_preview_window (window : Nat)
  | set_callbacks (cbs : CallbackData) (data_cb_timestamp get_memory user : Nat)
  | start_preview
  | stop_preview
  | preview_enabled
  | auto_focus
  | cancel_auto_focus
  | set_parameters (params : Option String)
  | get_parameters
  | put_parameters
  | forward (call : VendorCall)
  deriving DecidableEq

def camera2_enable_msg_type (msg_type : Int) : Op := .forward (.enable_msg_type msg_type)
def camera2_disable_msg_type (msg_type : Int) : Op := .forward (.disable_msg_type msg_type)
def camera2_msg_type_enabled (msg_type : Int) : Op := .forward (.msg_type_enabled msg_type)
def camera2_store_meta_data_in_buffers (enable : Int) : Op :=
  .forward (.store_meta_data_in_buffers enable)
def camera2_start_recording : Op := .forward .start_recording
def camera2_stop_recording : Op := .forward .stop_recording
def camera2_recording_enabled : Op := .forward .recording_enabled
def camera2_release_recording_frame (frame : Nat) : Op := .forward (.release_recording_frame frame)
def camera2_take_picture : Op := .forward .take_picture
def camera2_cancel_picture : Op := .forward .cancel_picture
def camera2_send_command (cmd arg1 arg2 : Int) : Op := .forward (.send_command cmd arg1 arg2)
def camera2_release : Op := .forward .release
def camera2_dump (fd : Int) : Op := .forward (.dump fd)

-- ── The globals ──────────────────────────────────────────────────────────────

structure Hal where
  gPreviewWindow : Nat
  gPreviewStartDeferred : Bool
  BlockCbs : Int
  CancelAFTimeGuard : Int
  cbThread : Worker

/-- Before the first camera is opened. -/
def halInit : Hal :=
  { gPreviewWindow := 0
    gPreviewStartDeferred := false
    BlockCbs := 0
    CancelAFTimeGuard := 0
    cbThread := { workerInit with m_thread := false, running := false } }

/-- `CreateThread`; a new thread has no functions yet. -/
def createThread (s : Worker) : Worker :=
  if s.m_thread = true then s
  else { s with m_thread := true, running := true, cbs := noCallbacks }

/-- An operation after its first half: in the call of the vendor's function, or
    returned. -/
inductive Control where
  | calling (call : VendorCall)
  | returned (reply : Reply)
  deriving DecidableEq

/-- `camera2_set_preview_window`, up to its call. -/
def camera2_set_preview_window (hal : Hal) (window : Nat) : Hal × Control :=
  let hal := { hal with gPreviewWindow := window }
  if hal.gPreviewWindow ≠ 0 then (hal, .calling (.set_preview_window window))
  else (hal, .returned (.int 0))

/-- The rest of it: the deferred start. -/
def startDeferred (hal : Hal) : Hal × List VendorCall :=
  if hal.gPreviewStartDeferred then
    ({ hal with gPreviewStartDeferred := false }, [.start_preview])
  else (hal, [])

/-- `camera2_set_callbacks`, up to its call. -/
def camera2_set_callbacks (hal : Hal) (cbs : CallbackData)
    (data_cb_timestamp get_memory user : Nat) (now : Int) : Option (Hal × Control) :=
  (setCallbacks hal.cbThread cbs now).map fun cbThread =>
    ({ hal with cbThread := cbThread },
     .calling (.set_callbacks data_cb_timestamp get_memory user))

def camera2_start_preview (hal : Hal) : Hal × Control :=
  if hal.gPreviewWindow ≠ 0 then (hal, .calling .start_preview)
  else ({ hal with gPreviewStartDeferred := true }, .returned (.int 0))

def camera2_stop_preview (hal : Hal) : Option (Hal × Control) :=
  (clearCallbacks hal.cbThread).map fun cbThread =>
    ({ hal with BlockCbs := 1, cbThread := cbThread }, .calling .stop_preview)

def camera2_preview_enabled (hal : Hal) : Hal × Control :=
  if hal.gPreviewStartDeferred then (hal, .returned (.int 1))
  else (hal, .calling .preview_enabled)

def camera2_auto_focus (hal : Hal) : Option (Hal × Control) :=
  (clearCallbacks hal.cbThread).map fun cbThread =>
    ({ hal with cbThread := cbThread }, .calling .auto_focus)

/-- `camera2_cancel_auto_focus`, up to its call; within the time guard it
    returns here. -/
def camera2_cancel_auto_focus (hal : Hal) (now : Int) : Option (Hal × Control) :=
  (clearCallbacks hal.cbThread).map fun cbThread =>
    let hal := { hal with BlockCbs := 1, cbThread := cbThread }
    let timeDiff := hal.CancelAFTimeGuard - now
    if timeDiff > 0 then (hal, .returned (.int 0)) else (hal, .calling .cancel_auto_focus)

/-- An operation up to its call of the vendor; `none` where an assertion
    fails. -/
def enter (hal : Hal) (now : Int) : Op → Option (Hal × Control)
  | .set_preview_window window => some (camera2_set_preview_window hal window)
  | .set_callbacks cbs timestamp get_memory user =>
      camera2_set_callbacks hal cbs timestamp get_memory user now
  | .start_preview => some (camera2_start_preview hal)
  | .stop_preview => camera2_stop_preview hal
  | .preview_enabled => some (camera2_preview_enabled hal)
  | .auto_focus => camera2_auto_focus hal
  | .cancel_auto_focus => camera2_cancel_auto_focus hal now
  | .set_parameters params => some (hal, .calling (.set_parameters params))
  | .get_parameters => some (hal, .calling .get_parameters)
  | .put_parameters => some (hal, .returned .nothing)
  | .forward call => some (hal, .calling call)

/-- An operation from the return of its call on: the calls it makes then, and
    what it returns. -/
def leave (hal : Hal) (now : Int) (answer : Reply) : Op → Hal × List VendorCall × Reply
  | .set_preview_window _ => ((startDeferred hal).1, (startDeferred hal).2, answer)
  | .stop_preview => ({ hal with BlockCbs := 0 }, [], answer)
  | .auto_focus => ({ hal with CancelAFTimeGuard := now + 500 }, [], answer)
  | .cancel_auto_focus => ({ hal with BlockCbs := 0 }, [], answer)
  | .get_parameters =>
      -- the client gets a copy
      match answer with
      | .params text => (hal, [.put_parameters text], .params text)
      | _ => (hal, [], answer)
  | _ => (hal, [], answer)

/-- `WrappedNotifyCb` and `WrappedDataCb`, from the message they make. -/
def wrappedCb (hal : Hal) (newWorkerMessage : WorkerMessage) (now : Int) : Option Hal :=
  if hal.BlockCbs = 1 then some hal
  else (addCallback hal.cbThread newWorkerMessage now).map fun cbThread =>
    { hal with cbThread := cbThread }

/-- The message of `WrappedNotifyCb`. -/
def notifyMessage (msg_type ext1 ext2 : Int) (user : Nat) : WorkerMessage :=
  { CbType := CB_TYPE_NOTIFY, msg_type := msg_type, data := 0, index := 0, metadata := 0,
    user := user, ext1 := ext1, ext2 := ext2 }

/-- The message of `WrappedDataCb`. -/
def dataMessage (msg_type : Int) (data index metadata user : Nat) : WorkerMessage :=
  { CbType := CB_TYPE_DATA, msg_type := msg_type, data := data, index := index,
    metadata := metadata, user := user, ext1 := 0, ext2 := 0 }

/-- What `camera2_device_open` does to the globals. -/
def camera2_device_open (hal : Hal) : Hal :=
  { hal with cbThread := createThread hal.cbThread, BlockCbs := 0 }

/-- What `camera2_device_close` does to them, up to the join. -/
def camera2_device_close (hal : Hal) (now : Int) : Hal :=
  { hal with
    gPreviewWindow := 0
    gPreviewStartDeferred := false
    cbThread := exitThread hal.cbThread now }

-- ── Callbacks of an open device ──────────────────────────────────────────────

/-- An open device: the operation in its call, and the callbacks the vendor made
    with the operation that was executing. -/
structure Open where
  hal : Hal
  executing : Option Op
  made : List (Option Op × WorkerMessage)

/-- The client starts an operation, the vendor's function returns, the vendor
    calls back, or the worker goes on. -/
inductive Act where
  | begin (op : Op) (now : Int)
  | finish (answer : Reply) (now : Int)
  | callback (message : WorkerMessage) (now : Int)
  | takeMessage
  | workOn (now : Int)

def beginOp (s : Open) (op : Op) (now : Int) : Option Open :=
  if s.executing = none then
    match enter s.hal now op with
    | none => none
    | some (hal, .calling _) => some { s with hal := hal, executing := some op }
    | some (hal, .returned _) => some { s with hal := hal }
  else none

def finishOp (s : Open) (answer : Reply) (now : Int) : Option Open :=
  match s.executing with
  | none => none
  | some op => some { s with hal := (leave s.hal now answer op).1, executing := none }

def onWorker (s : Open) (cbThread : Option Worker) : Option Open :=
  cbThread.map fun cbThread => { s with hal := { s.hal with cbThread := cbThread } }

def step (s : Open) : Act → Option Open
  | .begin op now => beginOp s op now
  | .finish answer now => finishOp s answer now
  | .callback message now =>
      (wrappedCb s.hal message now).map fun hal =>
        { s with hal := hal, made := s.made ++ [(s.executing, message)] }
  | .takeMessage => onWorker s (takeMessage s.hal.cbThread)
  | .workOn now => onWorker s (workOn s.hal.cbThread now)

/-- A device that was just opened. -/
def opened (hal : Hal) : Open :=
  { hal := camera2_device_open hal, executing := none, made := [] }

/-- The operations that may block callbacks. -/
def blocking : Option Op → Bool
  | some .stop_preview => true
  | some .cancel_auto_focus => true
  | _ => false

/-- The callbacks that were queued so far. -/
def queued (s : Worker) : List WorkerMessage :=
  (posted s.box).filterMap fun m =>
    match m.msg with
    | .MSG_EXECUTE_CALLBACK userData => some userData
    | _ => none

/-- Callbacks are let through while no operation executes, and those made
    outside the blocking operations were all queued, in order, after `before`. -/
structure Unblocked (before : List WorkerMessage) (s : Open) : Prop where
  idle : s.executing = none → s.hal.BlockCbs = 0
  queued : queued s.hal.cbThread
    = before ++ (s.made.filter fun e => !blocking e.1).map Prod.snd

/-- `cancel_auto_focus` is not skipped. -/
def GuardPassed (s : Open) : Act → Prop
  | .begin .cancel_auto_focus now => s.hal.CancelAFTimeGuard ≤ now
  | _ => True

/-- `BlockCbs` says which operation executes. -/
structure BlockInv (before : List WorkerMessage) (s : Open) : Prop where
  block : s.hal.BlockCbs = if blocking s.executing then 1 else 0
  queued : queued s.hal.cbThread
    = before ++ (s.made.filter fun e => !blocking e.1).map Prod.snd

theorem unblocked_of_inv {before : List WorkerMessage} (s : Open) (h : BlockInv before s) :
    Unblocked before s where
  idle := by
    intro hidle
    rw [h.block, hidle]
    rfl
  queued := h.queued

section Queued

variable {s s' : Worker}

theorem queued_of_posted (h : posted s'.box = posted s.box) : queued s' = queued s := by
  rw [queued, queued, h]

theorem queued_addCallback {message : WorkerMessage} {now : Int}
    (h : addCallback s message now = some s') : queued s' = queued s ++ [message] := by
  obtain ⟨-, rfl⟩ := addCallback_eq_some h
  rw [queued, push, posted_post, List.filterMap_append]
  rfl

theorem queued_setCallbacks {cbs : CallbackData} {now : Int}
    (h : setCallbacks s cbs now = some s') : queued s' = queued s := by
  obtain ⟨-, rfl⟩ := setCallbacks_eq_some h
  rw [queued, push, posted_post, List.filterMap_append]
  exact List.append_nil _

theorem queued_clearCallbacks (h : clearCallbacks s = some s') : queued s' = queued s := by
  obtain ⟨-, rfl⟩ := clearCallbacks_eq_some h
  exact queued_of_posted (posted_wipe s.box)

theorem queued_takeMessage (h : takeMessage s = some s') : queued s' = queued s := by
  obtain ⟨-, box, htake, rfl⟩ := takeMessage_eq_some h
  exact queued_of_posted (posted_take htake)

theorem queued_workOn {now : Int} (h : workOn s now = some s') : queued s' = queued s := by
  obtain ⟨-, m, -, rfl⟩ := workOn_eq_some h
  exact queued_of_posted (posted_processMessage s now)

end Queued

/-- What the first half of an operation does to the callbacks: a call of a
    blocking operation sets `BlockCbs`, and so does a skipped one. -/
theorem enter_cases {hal hal' : Hal} {now : Int} {op : Op} {control : Control}
    (h : enter hal now op = some (hal', control)) :
    queued hal'.cbThread = queued hal.cbThread
      ∧ hal'.BlockCbs = (if blocking (some op) then 1 else hal.BlockCbs)
      ∧ hal'.CancelAFTimeGuard = hal.CancelAFTimeGuard
      ∧ (blocking (some op) = true → ∀ reply, control = .returned reply →
        op = .cancel_auto_focus ∧ now < hal.CancelAFTimeGuard)
      ∧ (op = .cancel_auto_focus → now < hal.CancelAFTimeGuard → control = .returned (.int 0)) := by
  cases op with
  | set_preview_window window =>
      rw [enter, camera2_set_preview_window] at h
      dsimp only at h
      split at h <;>
        obtain ⟨rfl, rfl⟩ := Prod.mk.inj (Option.some.inj h) <;>
        exact ⟨rfl, rfl, rfl, fun h => (nomatch h), fun h => (nomatch h)⟩
  | set_callbacks cbs timestamp get_memory user =>
      obtain ⟨cbThread, hset, heq⟩ := Option.map_eq_some_iff.mp h
      obtain ⟨rfl, rfl⟩ := Prod.mk.inj heq
      exact ⟨queued_setCallbacks hset, rfl, rfl, fun h => (nomatch h), fun h => (nomatch h)⟩
  | start_preview =>
      rw [enter, camera2_start_preview] at h
      split at h <;>
        obtain ⟨rfl, rfl⟩ := Prod.mk.inj (Option.some.inj h) <;>
        exact ⟨rfl, rfl, rfl, fun h => (nomatch h), fun h => (nomatch h)⟩
  | stop_preview =>
      obtain ⟨cbThread, hclear, heq⟩ := Option.map_eq_some_iff.mp h
      obtain ⟨rfl, rfl⟩ := Prod.mk.inj heq
      exact ⟨queued_clearCallbacks hclear, rfl, rfl, fun _ _ h => (nomatch h),
        fun h => (nomatch h)⟩
  | preview_enabled =>
      rw [enter, camera2_preview_enabled] at h
      split at h <;>
        obtain ⟨rfl, rfl⟩ := Prod.mk.inj (Option.some.inj h) <;>
        exact ⟨rfl, rfl, rfl, fun h => (nomatch h), fun h => (nomatch h)⟩
  | auto_focus =>
      obtain ⟨cbThread, hclear, heq⟩ := Option.map_eq_some_iff.mp h
      obtain ⟨rfl, rfl⟩ := Prod.mk.inj heq
      exact ⟨queued_clearCallbacks hclear, rfl, rfl, fun h => (nomatch h), fun h => (nomatch h)⟩
  | cancel_auto_focus =>
      obtain ⟨cbThread, hclear, heq⟩ := Option.map_eq_some_iff.mp h
      have hqueued := queued_clearCallbacks hclear
      dsimp only at heq
      split at heq
      · rename_i hearly
        obtain ⟨rfl, rfl⟩ := Prod.mk.inj heq
        exact ⟨hqueued, rfl, rfl, fun _ _ _ => ⟨rfl, by omega⟩, fun _ _ => rfl⟩
      · rename_i hlate
        obtain ⟨rfl, rfl⟩ := Prod.mk.inj heq
        exact ⟨hqueued, rfl, rfl, fun _ _ h => (nomatch h), fun _ h => absurd h (by omega)⟩
  | set_parameters | get_parameters | put_parameters | forward =>
      obtain ⟨rfl, rfl⟩ := Prod.mk.inj (Option.some.inj h)
      exact ⟨rfl, rfl, rfl, fun h => (nomatch h), fun h => (nomatch h)⟩

/-- The second half of a blocking operation unblocks. -/
theorem leave_cases (hal : Hal) (now : Int) (answer : Reply) (op : Op) :
    (leave hal now answer op).1.cbThread = hal.cbThread
      ∧ (leave hal now answer op).1.BlockCbs
        = (if blocking (some op) then 0 else hal.BlockCbs) := by
  cases op with
  | set_preview_window window =>
      rw [leave, startDeferred]
      split <;> exact ⟨rfl, rfl⟩
  | get_parameters => cases answer <;> exact ⟨rfl, rfl⟩
  | _ => exact ⟨rfl, rfl⟩

/-- **STEP**: if `cancel_auto_focus` is not skipped, `BlockCbs` is right. -/
theorem blockInv_step {before : List WorkerMessage} (s : Open) (a : Act) (s' : Open)
    (hs : BlockInv before s) (hok : GuardPassed s a) (h : step s a = some s') :
    BlockInv before s' := by
  cases a with
  | begin op now =>
      rw [step, beginOp] at h
      split at h
      · rename_i hidle
        have hblock := hs.block
        rw [hidle] at hblock
        split at h
        · exact nomatch h
        · rename_i hal call henter
          obtain ⟨hqueued, hset, -⟩ := enter_cases henter
          obtain rfl := Option.some.inj h
          refine ⟨?_, hqueued.trans hs.queued⟩
          show hal.BlockCbs = if blocking (some op) then 1 else 0
          rw [hset, hblock]
          rfl
        · rename_i hal reply henter
          obtain ⟨hqueued, hset, -, hearly, -⟩ := enter_cases henter
          obtain rfl := Option.some.inj h
          refine ⟨?_, hqueued.trans hs.queued⟩
          show hal.BlockCbs = if blocking s.executing then 1 else 0
          rw [hset, hidle]
          split
          · rename_i hblocking
            obtain ⟨rfl, hguard⟩ := hearly hblocking reply rfl
            exact absurd hok (Int.not_le.mpr hguard)
          · exact hblock
      · exact nomatch h
  | finish answer now =>
      rw [step, finishOp] at h
      split at h
      · exact nomatch h
      · rename_i op hexecuting
        obtain ⟨hthread, hset⟩ := leave_cases s.hal now answer op
        have hblock := hs.block
        rw [hexecuting] at hblock
        obtain rfl := Option.some.inj h
        refine ⟨?_, ?_⟩
        · show (leave s.hal now answer op).1.BlockCbs = 0
          rw [hset]
          split
          · rfl
          · rename_i hfree
            rw [hblock, if_neg hfree]
        · show queued (leave s.hal now answer op).1.cbThread = _
          rw [hthread]
          exact hs.queued
  | callback message now =>
      obtain ⟨hal, hcb, rfl⟩ := Option.map_eq_some_iff.mp h
      have hblock := hs.block
      rw [wrappedCb] at hcb
      cases hblocking : blocking s.executing with
      | true =>
          rw [hblocking, if_pos rfl] at hblock
          rw [if_pos hblock] at hcb
          obtain rfl := Option.some.inj hcb
          refine ⟨hs.block, ?_⟩
          rw [List.filter_append, List.filter_cons_of_neg (by simp [hblocking])]
          simpa using hs.queued
      | false =>
          rw [hblocking, if_neg nofun] at hblock
          rw [if_neg (by rw [hblock]; decide)] at hcb
          obtain ⟨cbThread, hadd, rfl⟩ := Option.map_eq_some_iff.mp hcb
          refine ⟨hs.block, ?_⟩
          rw [List.filter_append, List.filter_cons_of_pos (by simp [hblocking]),
            queued_addCallback hadd, hs.queued]
          simp
  | takeMessage =>
      obtain ⟨cbThread, htake, rfl⟩ := Option.map_eq_some_iff.mp h
      exact ⟨hs.block, (queued_takeMessage htake).trans hs.queued⟩
  | workOn now =>
      obtain ⟨cbThread, hwork, rfl⟩ := Option.map_eq_some_iff.mp h
      exact ⟨hs.block, (queued_workOn hwork).trans hs.queued⟩

/-- **BREAK**: a skipped `cancel_auto_focus` leaves the callbacks blocked. -/
theorem guardPassed_of_unblocked {before : List WorkerMessage} (s : Open) (a : Act) (s' : Open)
    (_ : BlockInv before s) (h : step s a = some s') (hafter : Unblocked before s') :
    GuardPassed s a := by
  cases a with
  | begin op now =>
      cases op with
      | cancel_auto_focus =>
          refine Int.not_lt.mp fun hguard => ?_
          rw [step, beginOp] at h
          split at h
          · rename_i hidle
            split at h
            · exact nomatch h
            · rename_i hal call henter
              exact nomatch (enter_cases henter).2.2.2.2 rfl hguard
            · rename_i hal reply henter
              obtain rfl := Option.some.inj h
              have hset : hal.BlockCbs = 1 := (enter_cases henter).2.1
              exact absurd (hset.symm.trans (hafter.idle hidle)) (by decide)
          · exact nomatch h
      | _ => trivial
  | _ => trivial

/-- **CALLBACK BLOCKING**: on an open device callbacks are let through whenever
    no operation executes, and none is lost outside `stop_preview` and
    `cancel_auto_focus`, exactly if no `cancel_auto_focus` of the run comes
    before the time guard has passed. -/
theorem callbacks_unblocked (hal : Hal) (acts : List Act) :
    Always step (Unblocked (queued hal.cbThread)) (opened hal) acts
      ↔ StepsMeet step GuardPassed (opened hal) acts := by
  refine always_iff_stepsMeet unblocked_of_inv blockInv_step guardPassed_of_unblocked acts ?_
  refine ⟨rfl, ?_⟩
  show queued (createThread hal.cbThread) = queued hal.cbThread ++ []
  rw [createThread, List.append_nil]
  split <;> rfl

/-- **CANCEL WITHIN THE GUARD**: a focus and, 100 ms later, its cancellation;
    from then on callbacks are dropped. -/
theorem callbacks_stay_blocked :
    ¬Always step (Unblocked []) (opened halInit)
      [.begin .auto_focus 0, .finish (.int 0) 0, .begin .cancel_auto_focus 100] := by
  intro h
  have hidle := (h _ [] _ (List.append_nil _).symm rfl).idle rfl
  exact absurd hidle (by decide)

-- ── Deferred preview ─────────────────────────────────────────────────────────

/-- The operations of preview. -/
inductive PreviewOp where
  | set_preview_window (window : Nat)
  | start_preview
  | stop_preview
  | preview_enabled
  deriving DecidableEq

def PreviewOp.toOp : PreviewOp → Op
  | .set_preview_window window => .set_preview_window window
  | .start_preview => .start_preview
  | .stop_preview => .stop_preview
  | .preview_enabled => .preview_enabled

/-- An open camera with a vendor's device whose calls succeed: whether it is
    previewing, the calls made to it, and the operations of the client. -/
structure Preview where
  hal : Hal
  previewing : Bool
  calls : List VendorCall
  ops : List PreviewOp

/-- The vendor's device. -/
def vendor (s : Preview) (call : VendorCall) : Preview × Reply :=
  let s := { s with calls := s.calls ++ [call] }
  match call with
  | .start_preview => ({ s with previewing := true }, .int 0)
  | .stop_preview => ({ s with previewing := false }, .nothing)
  | .preview_enabled => (s, .int (if s.previewing then 1 else 0))
  | _ => (s, .int 0)

/-- An operation from beginning to end, and what it returns. -/
def perform (s : Preview) (op : Op) (now : Int) : Option (Preview × Reply) :=
  match enter s.hal now op with
  | none => none
  | some (hal, .returned reply) => some ({ s with hal := hal }, reply)
  | some (hal, .calling call) =>
      let answered := vendor { s with hal := hal } call
      let rest := leave answered.1.hal now answered.2 op
      some (rest.2.1.foldl (fun s call => (vendor s call).1) { answered.1 with hal := rest.1 },
        rest.2.2)

def previewStep (s : Preview) (a : PreviewOp × Int) : Option Preview :=
  (perform s a.1.toOp a.2).map fun r => { r.1 with ops := s.ops ++ [a.1] }

/-- A camera that was just opened; the globals of the preview are as the start
    of the process, or the last close, left them. -/
def previewOpened (hal : Hal) : Preview :=
  { hal := { camera2_device_open hal with gPreviewWindow := 0, gPreviewStartDeferred := false }
    previewing := false
    calls := []
    ops := [] }

/-- Does an operation ask for preview, or for none? -/
def asksFor : PreviewOp → Option Bool
  | .start_preview => some true
  | .stop_preview => some false
  | _ => none

def setsWindow : PreviewOp → Option Nat
  | .set_preview_window window => some window
  | _ => none

/-- The last of `start_preview` and `stop_preview` was `start_preview`. -/
def asked (s : Preview) : Prop := lastOf asksFor s.ops = some true

/-- The window that was last set; none is `NULL`. -/
def windowSet (s : Preview) : Nat := (lastOf setsWindow s.ops).getD 0

/-- A start of the vendor's preview comes after a window. -/
def Shown (before : List VendorCall) (call : VendorCall) : Prop :=
  call = .start_preview → ∃ window ≠ 0, .set_preview_window window ∈ before

/-- Preview is on exactly if it was asked for, as far as there is a window. -/
structure PreviewRight (s : Preview) : Prop where
  enabled : ∀ now, (perform s .preview_enabled now).map Prod.snd = some (.int 1) ↔ asked s
  shown : Each Shown s.calls
  running : asked s → windowSet s ≠ 0 → s.previewing = true
  idle : ¬asked s → s.previewing = false

/-- Preview is not stopped while its start is deferred. -/
def NothingDeferred (s : Preview) : PreviewOp × Int → Prop
  | (.stop_preview, _) => s.hal.gPreviewStartDeferred = false
  | _ => True

/-- A deferred start was asked for and waits for a window; other starts were
    passed on. -/
structure Tracks (wanted : Prop) (last : Nat) (s : Preview) : Prop where
  window : s.hal.gPreviewWindow = last
  deferred : s.hal.gPreviewStartDeferred = true → wanted ∧ last = 0
  running : wanted → s.hal.gPreviewStartDeferred = false → s.previewing = true
  idle : ¬wanted → s.previewing = false
  passed : last ≠ 0 → ∃ window ≠ 0, .set_preview_window window ∈ s.calls
  shown : Each Shown s.calls

/-- The state tracks what the client asked for. -/
def PreviewInv (s : Preview) : Prop := Tracks (asked s) (windowSet s) s

theorem asked_concat (s : Preview) (ops : List PreviewOp) (op : PreviewOp) :
    asked { s with ops := ops ++ [op] }
      = (asksFor op).elim (lastOf asksFor ops = some true) (· = true) := by
  rw [asked]
  cases hasks : asksFor op with
  | none => exact congrArg (· = some true) (lastOf_concat_none hasks)
  | some b => exact (congrArg (· = some true) (lastOf_concat_some hasks)).trans (by simp)

theorem windowSet_concat (s : Preview) (ops : List PreviewOp) (op : PreviewOp) :
    windowSet { s with ops := ops ++ [op] }
      = (setsWindow op).getD ((lastOf setsWindow ops).getD 0) := by
  rw [windowSet]
  cases hsets : setsWindow op with
  | none => exact congrArg (·.getD 0) (lastOf_concat_none hsets)
  | some window => exact congrArg (·.getD 0) (lastOf_concat_some hsets)

-- What each operation does, with a vendor whose calls succeed.

theorem perform_window_null (s : Preview) (now : Int) :
    perform s (.set_preview_window 0) now
      = some ({ s with hal := { s.hal with gPreviewWindow := 0 } }, .int 0) := rfl

theorem perform_window (s : Preview) {window : Nat} (hwindow : window ≠ 0) (now : Int) :
    perform s (.set_preview_window window) now
      = some (if s.hal.gPreviewStartDeferred then
            { s with
              hal := { s.hal with gPreviewWindow := window, gPreviewStartDeferred := false }
              previewing := true
              calls := s.calls ++ [.set_preview_window window] ++ [.start_preview] }
          else
            { s with
              hal := { s.hal with gPreviewWindow := window }
              calls := s.calls ++ [.set_preview_window window] }, .int 0) := by
  rw [perform, enter, camera2_set_preview_window, if_pos hwindow]
  dsimp only [vendor, leave, startDeferred]
  by_cases hdeferred : s.hal.gPreviewStartDeferred = true
  · rw [if_pos hdeferred, if_pos hdeferred]
    rfl
  · rw [if_neg hdeferred, if_neg hdeferred]
    rfl

theorem perform_start (s : Preview) (now : Int) :
    perform s .start_preview now
      = some (if s.hal.gPreviewWindow ≠ 0 then
            { s with previewing := true, calls := s.calls ++ [.start_preview] }
          else { s with hal := { s.hal with gPreviewStartDeferred := true } }, .int 0) := by
  rw [perform, enter, camera2_start_preview]
  by_cases hwindow : s.hal.gPreviewWindow ≠ 0
  · rw [if_pos hwindow, if_pos hwindow]
    rfl
  · rw [if_neg hwindow, if_neg hwindow]

theorem perform_stop {s : Preview} {now : Int} {r : Preview × Reply}
    (h : perform s .stop_preview now = some r) :
    ∃ hal, hal.gPreviewWindow = s.hal.gPreviewWindow
      ∧ hal.gPreviewStartDeferred = s.hal.gPreviewStartDeferred
      ∧ r.1 = { s with hal := hal, previewing := false, calls := s.calls ++ [.stop_preview] } := by
  rw [perform, enter, camera2_stop_preview] at h
  cases hclear : clearCallbacks s.hal.cbThread with
  | none =>
      rw [hclear] at h
      exact nomatch h
  | some cbThread =>
      rw [hclear] at h
      obtain rfl := Option.some.inj h
      exact ⟨{ s.hal with BlockCbs := 0, cbThread := cbThread }, rfl, rfl, rfl⟩

theorem perform_enabled (s : Preview) (now : Int) :
    perform s .preview_enabled now
      = if s.hal.gPreviewStartDeferred then some (s, .int 1)
        else some ({ s with calls := s.calls ++ [.preview_enabled] },
          .int (if s.previewing then 1 else 0)) := by
  rw [perform, enter, camera2_preview_enabled]
  by_cases hdeferred : s.hal.gPreviewStartDeferred = true
  · rw [if_pos hdeferred, if_pos hdeferred]
  · rw [if_neg hdeferred, if_neg hdeferred]
    rfl

theorem previewInv_opened (hal : Hal) : PreviewInv (previewOpened hal) where
  window := rfl
  deferred := fun h => (nomatch h)
  running := fun h => (nomatch h)
  idle := fun _ => rfl
  passed := fun h => absurd rfl h
  shown := each_nil

theorem previewRight_of_inv (s : Preview) (h : PreviewInv s) : PreviewRight s where
  enabled := by
    intro now
    rw [perform_enabled]
    cases hdeferred : s.hal.gPreviewStartDeferred with
    | true => exact iff_of_true rfl (h.deferred hdeferred).1
    | false =>
        by_cases hasked : asked s
        · simp [hasked, h.running hasked hdeferred]
        · simp [hasked, h.idle hasked]
  shown := h.shown
  running := by
    intro hasked hwindow
    cases hdeferred : s.hal.gPreviewStartDeferred with
    | true => exact absurd (h.deferred hdeferred).2 hwindow
    | false => exact h.running hasked hdeferred
  idle := h.idle

/-- A call that is no start needs no window. -/
theorem shown_concat {calls : List VendorCall} (h : Each Shown calls) {call : VendorCall}
    (hcall : call ≠ .start_preview) : Each Shown (calls ++ [call]) :=
  each_concat.mpr ⟨h, fun heq => absurd heq hcall⟩

section Keep

variable {wanted : Prop} {last : Nat} {s : Preview}

/-- A call that changes nothing. -/
theorem Tracks.call (h : Tracks wanted last s) (call : VendorCall)
    (hcall : call ≠ .start_preview) :
    Tracks wanted last { s with calls := s.calls ++ [call] } where
  window := h.window
  deferred := h.deferred
  running := h.running
  idle := h.idle
  passed := by
    intro hwindow
    obtain ⟨w, hne, hmem⟩ := h.passed hwindow
    exact ⟨w, hne, List.mem_append_left _ hmem⟩
  shown := shown_concat h.shown hcall

theorem Tracks.setWindow (h : Tracks wanted last s) (w : Nat) (now : Int) :
    ∀ r, perform s (.set_preview_window w) now = some r → Tracks wanted w r.1 := by
  intro r hr
  by_cases hnull : w = 0
  · subst hnull
    rw [perform_window_null] at hr
    obtain rfl := Option.some.inj hr
    refine ⟨rfl, ?_, h.running, h.idle, fun hne => absurd rfl hne, h.shown⟩
    exact fun hdeferred => ⟨(h.deferred hdeferred).1, rfl⟩
  · rw [perform_window s hnull] at hr
    obtain rfl := Option.some.inj hr
    have hmem : VendorCall.set_preview_window w ∈ s.calls ++ [.set_preview_window w] :=
      List.mem_append_right _ List.mem_cons_self
    have hshown : Each Shown (s.calls ++ [.set_preview_window w]) := shown_concat h.shown nofun
    dsimp only
    split
    · rename_i hdeferred
      refine ⟨rfl, fun hd => (nomatch hd), fun _ _ => rfl, ?_, ?_, ?_⟩
      · exact fun hidle => absurd (h.deferred hdeferred).1 hidle
      · exact fun _ => ⟨w, hnull, List.mem_append_left _ hmem⟩
      · exact each_concat.mpr ⟨hshown, fun _ => ⟨w, hnull, hmem⟩⟩
    · rename_i hdeferred
      refine ⟨rfl, ?_, h.running, h.idle, fun _ => ⟨w, hnull, hmem⟩, hshown⟩
      exact fun hd => absurd hd hdeferred

theorem Tracks.start (h : Tracks wanted last s) (now : Int) :
    ∀ r, perform s .start_preview now = some r → Tracks True last r.1 := by
  intro r hr
  rw [perform_start] at hr
  obtain rfl := Option.some.inj hr
  dsimp only
  split
  · rename_i hne
    have hwindow : last ≠ 0 := fun h0 => hne (h.window.trans h0)
    obtain ⟨w, hw, hmem⟩ := h.passed hwindow
    refine ⟨h.window, ?_, fun _ _ => rfl, fun h => absurd trivial h, ?_, ?_⟩
    · exact fun hdeferred => absurd (h.deferred hdeferred).2 hwindow
    · exact fun _ => ⟨w, hw, List.mem_append_left _ hmem⟩
    · exact each_concat.mpr ⟨h.shown, fun _ => ⟨w, hw, hmem⟩⟩
  · rename_i hnull
    have hwindow : last = 0 := h.window.symm.trans (not_not.mp hnull)
    exact ⟨h.window, fun _ => ⟨trivial, hwindow⟩, fun _ hd => (nomatch hd),
      fun h => absurd trivial h, h.passed, h.shown⟩

theorem Tracks.stop (h : Tracks wanted last s) (hok : s.hal.gPreviewStartDeferred = false)
    (now : Int) : ∀ r, perform s .stop_preview now = some r → Tracks False last r.1 := by
  intro r hr
  obtain ⟨hal, hwindow, hdeferred, heq⟩ := perform_stop hr
  rw [heq]
  refine ⟨hwindow.trans h.window, ?_, fun hf => hf.elim, fun _ => rfl, ?_, ?_⟩
  · exact fun hd => nomatch (hdeferred.trans hok).symm.trans hd
  · exact (h.call .stop_preview nofun).passed
  · exact shown_concat h.shown nofun

theorem Tracks.enabled (h : Tracks wanted last s) (now : Int) :
    ∀ r, perform s .preview_enabled now = some r → Tracks wanted last r.1 := by
  intro r hr
  rw [perform_enabled] at hr
  split at hr
  · obtain rfl := Option.some.inj hr
    exact h
  · obtain rfl := Option.some.inj hr
    exact h.call _ nofun

/-- The list of operations does not count. -/
theorem Tracks.withOps (h : Tracks wanted last s) (ops : List PreviewOp) :
    Tracks wanted last { s with ops := ops } :=
  ⟨h.window, h.deferred, h.running, h.idle, h.passed, h.shown⟩

end Keep

/-- **STEP**: the operations keep the invariant, if none stops preview while its
    start is deferred. -/
theorem previewInv_step (s : Preview) (a : PreviewOp × Int) (s' : Preview) (hs : PreviewInv s)
    (hok : NothingDeferred s a) (h : previewStep s a = some s') : PreviewInv s' := by
  obtain ⟨op, now⟩ := a
  obtain ⟨r, hr, rfl⟩ := Option.map_eq_some_iff.mp h
  rw [PreviewInv, asked_concat, windowSet_concat]
  refine Tracks.withOps ?_ _
  cases op with
  | set_preview_window window => exact Tracks.setWindow hs window now r hr
  | start_preview =>
      have hstarted := Tracks.start hs now r hr
      rwa [← eq_self true] at hstarted
  | stop_preview =>
      have hstopped := Tracks.stop hs hok now r hr
      rwa [← Bool.false_eq_true] at hstopped
  | preview_enabled => exact Tracks.enabled hs now r hr

/-- **BREAK**: a deferred start that is not taken back still counts. -/
theorem nothingDeferred_of_right (s : Preview) (a : PreviewOp × Int) (s' : Preview)
    (_ : PreviewInv s) (h : previewStep s a = some s') (hafter : PreviewRight s') :
    NothingDeferred s a := by
  obtain ⟨op, now⟩ := a
  cases op with
  | stop_preview =>
      obtain ⟨r, hr, rfl⟩ := Option.map_eq_some_iff.mp h
      obtain ⟨hal, -, hdeferred, heq⟩ := perform_stop hr
      refine Bool.eq_false_iff.mpr fun hstill => ?_
      have hasked := (hafter.enabled now).mp (by
        rw [perform_enabled, heq]
        show (if hal.gPreviewStartDeferred = true then _ else _ : Option _).map _ = _
        rw [if_pos (hdeferred.trans hstill)]
        rfl)
      rw [asked_concat] at hasked
      exact nomatch hasked
  | _ => trivial

/-- **DEFERRED PREVIEW**: `preview_enabled` and the vendor's device tell whether
    preview was asked for last, and the device is started after it got a window,
    exactly if no `stop_preview` of the run comes while a start is deferred. -/
theorem deferred_preview (hal : Hal) (acts : List (PreviewOp × Int)) :
    Always previewStep PreviewRight (previewOpened hal) acts
      ↔ StepsMeet previewStep NothingDeferred (previewOpened hal) acts :=
  always_iff_stepsMeet previewRight_of_inv previewInv_step nothingDeferred_of_right acts
    (previewInv_opened hal)

/-- **STOPPED BEFORE THE WINDOW**: preview is started and stopped without a
    window, and is still reported as enabled. -/
theorem stopped_preview_enabled :
    ¬Always previewStep PreviewRight (previewOpened halInit)
      [(.start_preview, 0), (.stop_preview, 0)] := by
  intro h
  have hright := h _ [] _ (List.append_nil _).symm rfl
  have hasked : lastOf asksFor [.start_preview, .stop_preview] = some true :=
    (hright.enabled 0).mp rfl
  exact absurd hasked (by decide)

end CameraWrapper

import Universal7580.AudioHalProofs
import Universal7580.TraceProofs

/-! # The callback thread of an offload stream (`compress_offload.c`)

    A compress-offload stream has a thread of its own.  Calls on the stream send
    it commands; the thread takes them one by one, releases the mutex of the
    stream, blocks in the compress device until the device is ready, takes the
    mutex again and calls the framework back.  `stop_compressed_output_l` waits
    until the thread is out of the device.

    Here are the stream with its two mutexes and two conditions, every call on
    it, and the thread, one step for what happens between two points where the
    mutex can change hands.  Any number of threads may be inside calls at once.

    `driver_safe`: in every interleaving, no call of the compress device is
    made on a device that is not open, and no device is closed while the thread
    is inside it. -/

namespace OffloadThread

open AudioHal (OffloadState)
open Run Trace

-- ── Data ──────────────────────────────────────────────────────────────────

inductive OffloadCmd where
  | exit
  | drain
  | partialDrain
  | waitForBuffer
  deriving DecidableEq, Repr

/-- `struct offload_cmd`, with the number of its allocation for its address. -/
structure Cmd where
  ptr : Nat
  cmd : OffloadCmd
  deriving DecidableEq, Repr

/-- `struct compr_gapless_mdata`. -/
structure GaplessMdata where
  encoderDelay : Nat
  encoderPadding : Nat
  deriving DecidableEq, Repr

/-- `stream_callback_event_t`. -/
inductive CallbackEvent where
  | writeReady
  | drainReady
  deriving DecidableEq, Repr

/-- The functions of the compress device. -/
inductive Compress where
  | nonblock
  | setGaplessMetadata (mdata : GaplessMdata)
  | write
  | start
  | stop
  | pause
  | resume
  | getTstamp
  | wait
  | nextTrack
  | partialDrain
  | drain
  deriving DecidableEq, Repr

/-- What the thread calls for a command, with the mutex released. -/
def OffloadCmd.calls : OffloadCmd → List Compress
  | .waitForBuffer => [.wait]
  | .partialDrain => [.nextTrack, .partialDrain]
  | .drain => [.drain]
  | .exit => []

/-- The event that answers a command. -/
def OffloadCmd.event : OffloadCmd → Option CallbackEvent
  | .waitForBuffer => some .writeReady
  | .partialDrain => some .drainReady
  | .drain => some .drainReady
  | .exit => none

/-- What happened on a stream.  A device is known by the number of its
    `compress_open`; a device that is `none` is a `NULL` pointer, and so is a
    callback. -/
inductive Event where
  | opened (device : Nat)
  | called (f : Compress) (device : Option Nat)
  | closed (device : Option Nat)
  | sent (c : Cmd)
  | taken (c : Cmd) (device : Option Nat)
  | callback (e : CallbackEvent) (cookie : Option Nat)
  | freed (c : Cmd)
  deriving DecidableEq, Repr

/-- How what the device answers decides a write: memory for the usecase, a device
    that is ready, memory for the usecase of a stream that was flushed, and
    whether the device took less than all of it. -/
structure WriteIn where
  alloc : Bool
  ready : Bool
  allocFlushed : Bool
  short : Bool
  deriving DecidableEq, Repr

/-- Where the thread is. -/
inductive Pc where
  | starting
  | top
  | asleep
  | woken
  | unlocked (c : Cmd) (calls : List Compress)
  | inDevice (c : Cmd) (f : Compress) (device : Option Nat) (calls : List Compress)
  | leaving
  | done
  deriving DecidableEq, Repr

/-- The thread has released the mutex for the device. -/
def Pc.outside : Pc → Bool
  | .unlocked _ _ | .inDevice _ _ _ _ => true
  | _ => false

/-- The thread has the mutex. -/
def Pc.locked : Pc → Bool
  | .top | .leaving => true
  | _ => false

/-- Who has the mutex of the stream: nobody, the thread, a write between its two
    statements about metadata, or a call that will not give it back. -/
inductive Holder where
  | free
  | thread
  | writing (w : WriteIn)
  | stuck
  deriving DecidableEq, Repr

/-- A standby that waits in `stop_compressed_output_l`, inside `out_set_parameters`
    or not.  It holds the mutex of the audio device. -/
structure Standby where
  routing : Bool
  signalled : Bool
  deriving DecidableEq, Repr

/-- `struct stream_out`, as far as offload reads it, with the thread and the calls
    that wait: a standby, and any number of flushes, with whether they were
    signalled.  `parsing` counts the calls between the two stores of
    `parse_compress_metadata`, which holds no mutex. -/
structure St where
  compr : Option Nat := none
  standby : Bool := true
  offloadState : OffloadState := .idle
  offloadThreadBlocked : Bool := false
  offloadCmdList : List Cmd := []
  sendNewMetadata : Bool := true
  gaplessMdata : GaplessMdata := ⟨0, 0⟩
  offloadCallback : Option Nat := none
  pc : Pc := .starting
  lock : Holder := .free
  waiting : Option Standby := none
  flushes : List Bool := []
  parsing : Nat := 0
  opens : Nat := 0
  allocs : Nat := 0
  closing : Bool := false
  log : List Event := []
  deriving DecidableEq, Repr

namespace St

def note (s : St) (e : Event) : St := { s with log := s.log ++ [e] }

/-- A call of the compress device. -/
def call (s : St) (f : Compress) : St := s.note (.called f s.compr)

-- ── Conditions ────────────────────────────────────────────────────────────

/-- Signals the first flush that is asleep. -/
def signalFirst : List Bool → List Bool
  | [] => []
  | false :: rest => true :: rest
  | true :: rest => true :: signalFirst rest

/-- Signals the standby that waits. -/
def signalStandby (s : St) : St :=
  { s with waiting := s.waiting.map fun w => { w with signalled := true } }

/-- Signals a flush that is asleep, the one with the number if it is. -/
def signalFlush (i : Nat) (s : St) : St :=
  if s.flushes[i]? = some false then { s with flushes := s.flushes.set i true }
  else { s with flushes := signalFirst s.flushes }

/-- `pthread_cond_signal(&out->cond)`: one of the calls that are asleep is
    signalled.  `pick` says which: the standby, or a flush by its number. -/
def signalCond (s : St) : Option Nat → St
  | none =>
      if s.waiting.any (fun w => !w.signalled) then s.signalStandby
      else { s with flushes := signalFirst s.flushes }
  | some i => if false ∈ s.flushes then s.signalFlush i else s.signalStandby

/-- `send_offload_cmd_l`, with its signal to the thread. -/
def sendOffloadCmd (s : St) (cmd : OffloadCmd) : St :=
  let c : Cmd := { ptr := s.allocs, cmd := cmd }
  { s with
    allocs := s.allocs + 1
    offloadCmdList := s.offloadCmdList ++ [c]
    pc := if s.pc = .asleep then .woken else s.pc
    log := s.log ++ [.sent c] }

-- ── Calls on the stream ───────────────────────────────────────────────────

/-- What follows `pthread_mutex_lock(&adev->lock)`.  If a standby that waits has
    that mutex, the call keeps the mutex of the stream for ever: the thread
    needs it to end the wait. -/
def withAdev (s : St) (f : St → St) : St :=
  if s.waiting.isSome then { s with lock := .stuck } else f s

/-- `stop_output_offload_stream`; `fx` says whether the effect hooks were found. -/
def stopOutputOffloadStream (fx : Bool) (s : St) : St :=
  if fx then { s with offloadState := .idle } else s

/-- `compress_open`. -/
def openDevice (s : St) : St :=
  { s with compr := some s.opens, opens := s.opens + 1, log := s.log ++ [.opened s.opens] }

/-- `compress_close`, if there is a device. -/
def closeDevice (s : St) : St :=
  if s.compr.isSome then { s with compr := none, log := s.log ++ [.closed s.compr] } else s

/-- `start_output_stream` of an offload stream. -/
def startOutputStream (fx : Bool) (w : WriteIn) (s : St) : St × Bool :=
  if w.alloc = false then (s, false)
  else if w.ready = false then (s.openDevice.closeDevice.stopOutputOffloadStream fx, false)
  else if s.offloadCallback.isSome then (s.openDevice.call .nonblock, true)
  else (s.openDevice, true)

/-- Asks for the rest to be waited for, if the device took less than all. -/
def waitIfShort (w : WriteIn) (s : St) : St :=
  if w.short then s.sendOffloadCmd .waitForBuffer else s

/-- Starts the device, unless it plays. -/
def startPlaying (s : St) : St :=
  if s.offloadState = .playing then s else { s.call .start with offloadState := .playing }

def unlock (s : St) : St := { s with lock := .free }

/-- `out_write_offload` from `compress_write` on. -/
def finishWrite (w : WriteIn) (s : St) : St :=
  ((s.call .write).waitIfShort w).startPlaying.unlock

/-- `out_write_offload` from the metadata on.  `send_new_metadata` is cleared one
    step later. -/
def writeMetadata (w : WriteIn) (s : St) : St :=
  if s.sendNewMetadata then
    { s.call (.setGaplessMetadata s.gaplessMdata) with lock := .writing w }
  else finishWrite w s

/-- `out_write_offload`.  Without memory for the usecase it returns with the mutex
    held. -/
def outWriteOffload (w : WriteIn) (s : St) : St :=
  if s.offloadState = .pausedFlushed then
    s.withAdev fun s => if w.allocFlushed then writeMetadata w s else { s with lock := .stuck }
  else writeMetadata w s

/-- `out_write`. -/
def outWrite (fx : Bool) (w : WriteIn) (s : St) : St :=
  if s.standby then
    s.withAdev fun s =>
      match s.startOutputStream fx w with
      | (s, true) => outWriteOffload w { s with standby := false }
      | (s, false) => s
  else outWriteOffload w s

/-- `do_out_standby_l` after the wait. -/
def afterStandby (fx : Bool) (s : St) : St :=
  { s.closeDevice with gaplessMdata := ⟨0, 0⟩, waiting := none }.stopOutputOffloadStream fx

/-- `stop_compressed_output_l` up to its wait: the stream, and whether it waits. -/
def stopCompressed (s : St) : St × Bool :=
  let s := { s with sendNewMetadata := true }
  if s.compr.isSome then (s.call .stop, s.offloadThreadBlocked) else (s, false)

/-- `do_out_standby_l`. -/
def doOutStandby (fx routing : Bool) (s : St) : St :=
  match { s with standby := true }.stopCompressed with
  | (s, true) => { s with waiting := some { routing := routing, signalled := false } }
  | (s, false) => s.afterStandby fx

def outStandby (fx : Bool) (s : St) : St :=
  if s.standby then s else s.withAdev (doOutStandby fx false)

/-- `out_set_parameters` with a routing value; `changes` says whether the devices
    are others than the profiles of the stream have. -/
def outSetRouting (fx changes : Bool) (s : St) : St :=
  s.withAdev fun s => if !s.standby && changes then doOutStandby fx true s else s

/-- `out_pause_offload`. -/
def outPauseOffload (s : St) : St :=
  if s.compr.isSome ∧ s.offloadState = .playing then
    { s.call .pause with offloadState := .paused }.withAdev id
  else s

/-- `out_resume_offload`. -/
def outResumeOffload (s : St) : St :=
  if s.compr.isSome ∧ s.offloadState = .paused then
    s.withAdev fun s => { s.call .resume with offloadState := .playing }
  else s

/-- `out_flush_offload`. -/
def outFlushOffload (s : St) : St :=
  if s.offloadState = .paused then
    match s.stopCompressed with
    | (s, true) => { s with flushes := s.flushes ++ [false] }
    | (s, false) => { s with offloadState := .pausedFlushed }
  else s

/-- `out_drain_offload`. -/
def outDrainOffload (early : Bool) (s : St) : St :=
  s.sendOffloadCmd (if early then .partialDrain else .drain)

/-- `out_get_render_offload_position`, and
    `out_get_presentation_offload_position`. -/
def outGetPosition (s : St) : St := if s.compr.isSome then s.call .getTstamp else s

-- ── The thread ────────────────────────────────────────────────────────────

/-- `offload_thread_loop` on a command it took off the list.  A command that meets
    no device is not freed. -/
def takeCmd (pick : Option Nat) (c : Cmd) (s : St) : St :=
  if c.cmd = .exit then { (s.note (.taken c s.compr)).note (.freed c) with pc := .leaving }
  else if s.compr.isNone then (s.note (.taken c s.compr)).signalCond pick
  else { s.note (.taken c s.compr) with
    offloadThreadBlocked := true
    lock := .free
    pc := .unlocked c c.cmd.calls }

/-- `offload_thread_loop` from the head of its loop to the next point where it
    releases the mutex or comes back. -/
def loopHead (pick : Option Nat) (s : St) : St :=
  match s.offloadCmdList with
  | [] => { s with pc := .asleep, lock := .free }
  | c :: rest => { s with offloadCmdList := rest }.takeCmd pick c

/-- The callback that answers a command. -/
def callBack (c : Cmd) (s : St) : St :=
  match c.cmd.event with
  | some e => s.note (.callback e s.offloadCallback)
  | none => s

/-- `offload_thread_loop` from `lock_output_stream` to the end of its loop. -/
def answer (pick : Option Nat) (c : Cmd) (s : St) : St :=
  (({ s with offloadThreadBlocked := false, lock := .thread, pc := .top }.signalCond
    pick).callBack c).note (.freed c)

/-- Frees the commands that are left. -/
def freeRest (s : St) : St :=
  { s with offloadCmdList := [], log := s.log ++ s.offloadCmdList.map .freed }

/-- `offload_thread_loop` after its loop. -/
def leave (pick : Option Nat) (s : St) : St :=
  { (s.signalCond pick).freeRest with lock := .free, pc := .done }

def threadStep (pick : Option Nat) (s : St) : Option St :=
  match s.pc with
  | .starting | .woken =>
      if s.lock = .free then some { s with pc := .top, lock := .thread } else none
  | .top => some (s.loopHead pick)
  | .unlocked c (f :: calls) => some { s.call f with pc := .inDevice c f s.compr calls }
  | .inDevice c _ _ calls => some { s with pc := .unlocked c calls }
  | .unlocked c [] => if s.lock = .free then some (s.answer pick c) else none
  | .leaving => some (s.leave pick)
  | .asleep | .done => none

end St

-- ── Steps ─────────────────────────────────────────────────────────────────

/-- The calls on a stream that take its mutex. -/
inductive Call where
  | write (w : WriteIn)
  | pause
  | resume
  | drain (early : Bool)
  | flush
  | standby
  | routing (changes : Bool)
  | setCallback (cookie : Option Nat)
  | position
  deriving DecidableEq, Repr

def Call.run (fx : Bool) (s : St) : Call → St
  | .write w => s.outWrite fx w
  | .pause => s.outPauseOffload
  | .resume => s.outResumeOffload
  | .drain early => s.outDrainOffload early
  | .flush => s.outFlushOffload
  | .standby => s.outStandby fx
  | .routing changes => s.outSetRouting fx changes
  | .setCallback cookie => { s with offloadCallback := cookie }
  | .position => s.outGetPosition

/-- The calls that take `lock_inputs` before the mutex of the stream. -/
def Call.locksInputs (s : St) : Call → Bool
  | .write _ => s.standby
  | .routing _ => true
  | _ => false

/-- A call, what a call does after a wait or between two statements, a step of
    the thread, or a wait that ends without a signal.  `destroy` is
    `adev_close_output_stream` after its `out_standby`, when no call on the
    stream is under way. -/
inductive Act where
  | call (c : Call)
  | writeOn
  | parse (mdata : GaplessMdata)
  | parsed
  | standbyOn
  | flushOn (i : Nat)
  | thread (pick : Option Nat)
  | wakeThread
  | wakeCond (pick : Option Nat)
  | destroy
  deriving DecidableEq, Repr

/-- A call begins when the mutex of the stream is free, and `lock_inputs` if it
    needs it: a routing that waits has it.  A wait goes on when it was signalled
    and the mutex is free. -/
def step (fx : Bool) (s : St) : Act → Option St
  | .call c =>
      if s.lock = .free ∧ s.closing = false
          ∧ (c.locksInputs s && s.waiting.any Standby.routing) = false then
        some (c.run fx s)
      else none
  | .writeOn =>
      match s.lock with
      | .writing w => some ({ s with sendNewMetadata := false }.finishWrite w)
      | _ => none
  | .parse mdata =>
      if s.closing = false then some { s with gaplessMdata := mdata, parsing := s.parsing + 1 }
      else none
  | .parsed =>
      if s.parsing = 0 then none
      else some { s with sendNewMetadata := true, parsing := s.parsing - 1 }
  | .standbyOn =>
      if s.lock = .free ∧ s.waiting.any Standby.signalled = true then
        if s.offloadThreadBlocked then
          some { s with waiting := s.waiting.map fun w => { w with signalled := false } }
        else some (s.afterStandby fx)
      else none
  | .flushOn i =>
      if s.lock = .free ∧ s.flushes[i]? = some true then
        if s.offloadThreadBlocked then some { s with flushes := s.flushes.set i false }
        else some { s with flushes := s.flushes.eraseIdx i, offloadState := .pausedFlushed }
      else none
  | .thread pick => s.threadStep pick
  | .wakeThread => if s.pc = .asleep then some { s with pc := .woken } else none
  | .wakeCond pick => some (s.signalCond pick)
  | .destroy =>
      if s.lock = .free ∧ s.closing = false ∧ s.standby = true ∧ s.waiting = none
          ∧ s.flushes = [] ∧ s.parsing = 0 then
        some { s.sendOffloadCmd .exit with closing := true }
      else none

-- ── Open devices ──────────────────────────────────────────────────────────

/-- The device was opened and not closed. -/
def IsOpen (log : List Event) (device : Nat) : Prop :=
  .opened device ∈ log ∧ .closed (some device) ∉ log

/-- What came before fits the event: a device that is called or closed is open. -/
def Fits (before : List Event) : Event → Prop
  | .called _ device | .closed device => ∃ d, device = some d ∧ IsOpen before d
  | _ => True

/-- What an interleaving never breaks. -/
structure DriverSafe (s : St) : Prop where
  calls : Each Fits s.log
  inside : ∀ c f device calls, s.pc = .inDevice c f device calls →
    ∃ d, device = some d ∧ IsOpen s.log d

/-- How the mutexes, the thread and the device go together. -/
structure Inv (s : St) : Prop where
  holder : s.lock = .thread ↔ s.pc.locked = true
  blocked : s.offloadThreadBlocked = s.pc.outside
  working : s.pc.outside = true → s.compr.isSome = true
  inside : ∀ c f device calls, s.pc = .inDevice c f device calls → device = s.compr
  waiting : s.waiting.isSome = true → s.standby = true
  compr : s.compr.isSome = (!s.standby || s.waiting.isSome)
  writing : ∀ w, s.lock = .writing w → s.standby = false
  device : ∀ d, s.compr = some d → IsOpen s.log d
  fresh : ∀ d, .opened d ∈ s.log ∨ .closed (some d) ∈ s.log → d < s.opens
  log : Each Fits s.log

theorem driverSafe_of_inv {s : St} (h : Inv s) : DriverSafe s where
  calls := h.log
  inside := by
    intro c f device calls hpc
    have hcompr : s.compr.isSome = true := h.working (by rw [hpc]; rfl)
    obtain ⟨d, hd⟩ := Option.isSome_iff_exists.mp hcompr
    exact ⟨d, (h.inside c f device calls hpc).trans hd, h.device d hd⟩

theorem inv_start : Inv {} where
  holder := by simp [Pc.locked]
  blocked := rfl
  working := fun h => by cases h
  inside := fun _ _ _ _ h => by cases h
  waiting := fun h => by cases h
  compr := rfl
  writing := fun _ h => by cases h
  device := fun _ h => by cases h
  fresh := fun _ h => by simp at h
  log := each_nil

section Events

variable {s : St} {e : Event}

/-- An event that opens and closes nothing. -/
def Event.quiet : Event → Bool
  | .opened _ | .closed _ => false
  | _ => true

theorem isOpen_concat {log : List Event} {d : Nat} (h : IsOpen log d) (he : e.quiet = true) :
    IsOpen (log ++ [e]) d := by
  refine ⟨List.mem_append_left _ h.1, fun hmem => ?_⟩
  rcases List.mem_append.mp hmem with hmem | hmem
  · exact h.2 hmem
  · rw [← List.mem_singleton.mp hmem] at he
    cases he

/-- An event that fits leaves the invariant as it is. -/
theorem inv_note (h : Inv s) (he : e.quiet = true) (hfits : Fits s.log e) : Inv (s.note e) where
  holder := h.holder
  blocked := h.blocked
  working := h.working
  inside := h.inside
  waiting := h.waiting
  compr := h.compr
  writing := h.writing
  device := fun d hd => isOpen_concat (h.device d hd) he
  fresh := by
    intro d hd
    refine h.fresh d ?_
    cases e <;> simp_all [St.note, Event.quiet]
  log := each_concat.mpr ⟨h.log, hfits⟩

/-- A call of the device fits as long as the stream has one. -/
theorem fits_call (h : Inv s) (hcompr : s.compr.isSome = true) (f : Compress) :
    Fits s.log (.called f s.compr) := by
  obtain ⟨d, hd⟩ := Option.isSome_iff_exists.mp hcompr
  exact ⟨d, hd, h.device d hd⟩

theorem inv_call (h : Inv s) (hcompr : s.compr.isSome = true) (f : Compress) : Inv (s.call f) :=
  inv_note h rfl (fits_call h hcompr f)

/-- A device that is opened is a new one. -/
theorem isOpen_opened (h : Inv s) : IsOpen (s.log ++ [.opened s.opens]) s.opens := by
  refine ⟨by simp, fun hmem => ?_⟩
  rcases List.mem_append.mp hmem with hmem | hmem
  · exact Nat.lt_irrefl _ (h.fresh _ (.inr hmem))
  · cases List.mem_singleton.mp hmem

end Events

-- ── What the calls keep ───────────────────────────────────────────────────

section Calls

variable {fx : Bool} {s : St} {w : WriteIn}

theorem inv_sendOffloadCmd (h : Inv s) (cmd : OffloadCmd) : Inv (s.sendOffloadCmd cmd) := by
  have hsent := inv_note h (e := .sent { ptr := s.allocs, cmd := cmd }) rfl trivial
  by_cases hasleep : s.pc = .asleep
  · have hpc : (s.sendOffloadCmd cmd).pc = .woken := if_pos hasleep
    refine { hsent with
      holder := ?_, blocked := ?_, working := ?_, inside := ?_ }
    · rw [hpc]
      exact (hasleep ▸ h.holder :)
    · rw [hpc]
      exact (hasleep ▸ h.blocked :)
    · rw [hpc]
      exact fun hout => by cases hout
    · rw [hpc]
      exact fun _ _ _ _ hin => by cases hin
  · have hpc : (s.sendOffloadCmd cmd).pc = s.pc := if_neg hasleep
    refine { hsent with
      holder := ?_, blocked := ?_, working := ?_, inside := ?_ }
    · rw [hpc]
      exact h.holder
    · rw [hpc]
      exact h.blocked
    · rw [hpc]
      exact h.working
    · rw [hpc]
      exact h.inside

/-- A call may take the mutex away from nobody. -/
theorem inv_stuck (h : Inv s) (hlock : s.lock ≠ .thread) : Inv { s with lock := .stuck } := by
  refine { h with holder := ?_, writing := fun _ hw => by cases hw }
  have hpc := mt h.holder.mpr hlock
  exact ⟨fun hthread => (by cases hthread), fun hlocked => absurd hlocked hpc⟩

theorem inv_withAdev {f : St → St} (h : Inv s) (hlock : s.lock ≠ .thread)
    (hf : s.waiting = none → Inv (f s)) : Inv (s.withAdev f) := by
  rw [St.withAdev]
  split
  · exact inv_stuck h hlock
  · rename_i hwaiting
    exact hf (Option.not_isSome_iff_eq_none.mp hwaiting)

theorem inv_offloadState (h : Inv s) (state : OffloadState) :
    Inv { s with offloadState := state } := { h with }

theorem inv_stopOutputOffloadStream (h : Inv s) : Inv (s.stopOutputOffloadStream fx) := by
  rw [St.stopOutputOffloadStream]
  split
  · exact inv_offloadState h _
  · exact h

/-- Giving the mutex back, without being the thread. -/
theorem inv_unlock (h : Inv s) (hlock : s.lock ≠ .thread) : Inv s.unlock := by
  refine { h with holder := ?_, writing := fun _ hw => by cases hw }
  have hpc := mt h.holder.mpr hlock
  exact ⟨fun hthread => (by cases hthread), fun hlocked => absurd hlocked hpc⟩

theorem inv_startPlaying (h : Inv s) (hcompr : s.compr.isSome = true) : Inv s.startPlaying := by
  rw [St.startPlaying]
  split
  · exact h
  · exact inv_offloadState (inv_call h hcompr .start) .playing

theorem startPlaying_lock (s : St) : s.startPlaying.lock = s.lock := by
  rw [St.startPlaying]
  split <;> rfl

theorem inv_waitIfShort (h : Inv s) : Inv (s.waitIfShort w) := by
  rw [St.waitIfShort]
  split
  · exact inv_sendOffloadCmd h .waitForBuffer
  · exact h

theorem waitIfShort_lock (s : St) : (s.waitIfShort w).lock = s.lock := by
  rw [St.waitIfShort]
  split <;> rfl

theorem waitIfShort_compr (s : St) : (s.waitIfShort w).compr = s.compr := by
  rw [St.waitIfShort]
  split <;> rfl

/-- A stream out of standby has a device. -/
theorem Inv.running (h : Inv s) (hstandby : s.standby = false) : s.compr.isSome = true := by
  rw [h.compr, hstandby]
  rfl

theorem inv_finishWrite (h : Inv s) (hlock : s.lock ≠ .thread) (hstandby : s.standby = false) :
    Inv (s.finishWrite w) := by
  have hcompr := h.running hstandby
  have hwrite : Inv ((s.call .write).waitIfShort w) := inv_waitIfShort (inv_call h hcompr .write)
  have hstarted : Inv ((s.call .write).waitIfShort w).startPlaying := by
    refine inv_startPlaying hwrite ?_
    rw [waitIfShort_compr]
    exact hcompr
  refine inv_unlock hstarted ?_
  rw [startPlaying_lock, waitIfShort_lock]
  exact hlock

theorem inv_writeMetadata (h : Inv s) (hlock : s.lock ≠ .thread) (hstandby : s.standby = false) :
    Inv (s.writeMetadata w) := by
  rw [St.writeMetadata]
  split
  · have hcall := inv_call h (h.running hstandby) (.setGaplessMetadata s.gaplessMdata)
    refine { hcall with holder := ?_, writing := fun _ _ => hstandby }
    have hpc := mt h.holder.mpr hlock
    exact ⟨fun hthread => (by cases hthread), fun hlocked => absurd hlocked hpc⟩
  · exact inv_finishWrite h hlock hstandby

theorem inv_outWriteOffload (h : Inv s) (hlock : s.lock ≠ .thread) (hstandby : s.standby = false) :
    Inv (s.outWriteOffload w) := by
  rw [St.outWriteOffload]
  split
  · refine inv_withAdev h hlock fun _ => ?_
    split
    · exact inv_writeMetadata h hlock hstandby
    · exact inv_stuck h hlock
  · exact inv_writeMetadata h hlock hstandby

-- ── Opening and closing the device ────────────────────────────────────────

/-- A thread that is not in the device is in none. -/
theorem not_inDevice (hidle : s.pc.outside = false) (c : Cmd) (f : Compress)
    (device : Option Nat) (calls : List Compress) : s.pc ≠ .inDevice c f device calls := by
  intro hpc
  rw [hpc] at hidle
  cases hidle

theorem closeDevice_none (hcompr : s.compr = none) : s.closeDevice = s := by
  rw [St.closeDevice, hcompr]
  rfl

theorem closeDevice_some {d : Nat} (hcompr : s.compr = some d) :
    s.closeDevice = { s with compr := none, log := s.log ++ [.closed (some d)] } := by
  rw [St.closeDevice, hcompr]
  rfl

/-- **OPENING** the device takes the stream out of standby. -/
theorem inv_openDevice (h : Inv s) (hwaiting : s.waiting = none) (hidle : s.pc.outside = false) :
    Inv { s.openDevice with standby := false } where
  holder := h.holder
  blocked := h.blocked
  working := fun _ => rfl
  inside := fun c f device calls hpc => absurd hpc (not_inDevice hidle c f device calls)
  waiting := by
    intro hsome
    rw [show ({ s.openDevice with standby := false } : St).waiting = none from hwaiting] at hsome
    cases hsome
  compr := rfl
  writing := fun _ _ => rfl
  device := by
    rintro d ⟨⟩
    exact isOpen_opened h
  fresh := by
    intro d hd
    have hd : d ∈ [s.opens] ∨ .opened d ∈ s.log ∨ .closed (some d) ∈ s.log := by
      simpa [St.openDevice, or_comm, or_assoc, or_left_comm] using hd
    rcases hd with hd | hd
    · exact List.mem_singleton.mp hd ▸ Nat.lt_succ_self _
    · exact Nat.lt_succ_of_lt (h.fresh d hd)
  log := each_concat.mpr ⟨h.log, trivial⟩

/-- **CLOSING** the device needs the thread to be out of it. -/
theorem inv_closeDevice (h : Inv s) (hlock : s.lock = .free) (hidle : s.pc.outside = false) :
    Inv { s.closeDevice with standby := true, waiting := none } := by
  cases hcompr : s.compr with
  | none =>
      rw [closeDevice_none hcompr]
      refine { h with waiting := fun hsome => (by cases hsome), compr := ?_, writing := ?_ }
      · rw [hcompr]
        rfl
      · intro w hw
        cases hlock.symm.trans hw
  | some d =>
      rw [closeDevice_some hcompr]
      refine { h with
        working := fun hout => absurd (hidle.symm.trans hout) (by simp)
        inside := fun c f device calls hpc => absurd hpc (not_inDevice hidle c f device calls)
        waiting := fun hsome => by cases hsome
        compr := rfl
        writing := fun w hw => by cases hlock.symm.trans hw
        device := fun _ hd => by cases hd
        fresh := ?_
        log := each_concat.mpr ⟨h.log, d, rfl, h.device d hcompr⟩ }
      intro d' hd
      have hd : d' = d ∨ .opened d' ∈ s.log ∨ .closed (some d') ∈ s.log := by
        simpa [or_comm, or_assoc, or_left_comm, eq_comm] using hd
      rcases hd with rfl | hd
      · exact h.fresh d' (.inl (h.device d' hcompr).1)
      · exact h.fresh d' hd

/-- Without a device the thread is in none. -/
theorem Inv.idle (h : Inv s) (hcompr : s.compr = none) : s.pc.outside = false := by
  refine Bool.eq_false_iff.mpr fun hout => ?_
  have hsome := h.working hout
  rw [hcompr] at hsome
  cases hsome

/-- In standby with nobody waiting there is no device. -/
theorem Inv.noDevice (h : Inv s) (hwaiting : s.waiting = none) (hstandby : s.standby = true) :
    s.compr = none := by
  refine Option.not_isSome_iff_eq_none.mp ?_
  rw [h.compr, hstandby, hwaiting]
  exact Bool.false_ne_true

theorem closeDevice_lock (s : St) : s.closeDevice.lock = s.lock := by
  rw [St.closeDevice]
  split <;> rfl

theorem stopOutputOffloadStream_lock (s : St) : (s.stopOutputOffloadStream fx).lock = s.lock := by
  rw [St.stopOutputOffloadStream]
  split <;> rfl

theorem startOutputStream_lock (s : St) : (s.startOutputStream fx w).1.lock = s.lock := by
  rw [St.startOutputStream]
  split
  · rfl
  · split
    · rw [stopOutputOffloadStream_lock, closeDevice_lock]
      rfl
    · split <;> rfl

/-- A start that fails leaves nothing open. -/
theorem inv_startFailed (h : Inv s) (hlock : s.lock = .free) (hwaiting : s.waiting = none)
    (hstandby : s.standby = true) (hfailed : (s.startOutputStream fx w).2 = false) :
    Inv (s.startOutputStream fx w).1 := by
  rw [St.startOutputStream] at hfailed ⊢
  split at hfailed
  · rename_i halloc
    rw [if_pos halloc]
    exact h
  · rename_i halloc
    rw [if_neg halloc]
    split at hfailed
    · rename_i hready
      rw [if_pos hready]
      refine inv_stopOutputOffloadStream ?_
      have hidle := h.idle (h.noDevice hwaiting hstandby)
      have hclosed := inv_closeDevice (inv_openDevice h hwaiting hidle) hlock hidle
      have hsame : s.openDevice.closeDevice
          = { { s.openDevice with standby := false }.closeDevice with
              standby := true, waiting := none } := by
        rw [closeDevice_some (d := s.opens) rfl, closeDevice_some (d := s.opens) rfl, ← hstandby,
          ← hwaiting]
        rfl
      rw [hsame]
      exact hclosed
    · split at hfailed <;> cases hfailed

theorem inv_startDone (h : Inv s) (hwaiting : s.waiting = none) (hstandby : s.standby = true)
    (hdone : (s.startOutputStream fx w).2 = true) :
    Inv { (s.startOutputStream fx w).1 with standby := false } := by
  have hopened := inv_openDevice h hwaiting (h.idle (h.noDevice hwaiting hstandby))
  rw [St.startOutputStream] at hdone ⊢
  split at hdone
  · cases hdone
  · rename_i halloc
    rw [if_neg halloc]
    split at hdone
    · cases hdone
    · rename_i hready
      rw [if_neg hready]
      split
      · exact inv_call hopened rfl .nonblock
      · exact hopened

theorem inv_outWrite (h : Inv s) (hlock : s.lock = .free) : Inv (s.outWrite fx w) := by
  have hthread : s.lock ≠ .thread := by
    rw [hlock]
    exact fun heq => by cases heq
  rw [St.outWrite]
  split
  · rename_i hstandby
    refine inv_withAdev h hthread fun hwaiting => ?_
    split
    · rename_i s' hstart
      have hs' : (s.startOutputStream fx w).1 = s' := congrArg Prod.fst hstart
      have hinv := inv_startDone h hwaiting hstandby (congrArg Prod.snd hstart)
      rw [hs'] at hinv
      refine inv_outWriteOffload hinv ?_ rfl
      show s'.lock ≠ .thread
      rw [← hs', startOutputStream_lock]
      exact hthread
    · rename_i s' hstart
      have hinv := inv_startFailed h hlock hwaiting hstandby (congrArg Prod.snd hstart)
      rw [congrArg Prod.fst hstart] at hinv
      exact hinv
  · rename_i hrunning
    exact inv_outWriteOffload h hthread (Bool.eq_false_iff.mpr hrunning)

theorem closeDevice_standby (s : St) (v : Bool) :
    ({ s with standby := v } : St).closeDevice = { s.closeDevice with standby := v } := by
  rcases Option.eq_none_or_eq_some s.compr with hcompr | ⟨d, hcompr⟩
  · rw [closeDevice_none hcompr, closeDevice_none]
    exact hcompr
  · rw [closeDevice_some hcompr, closeDevice_some]
    exact hcompr

theorem inv_afterStandby (h : Inv s) (hlock : s.lock = .free) (hidle : s.pc.outside = false) :
    Inv ({ s with standby := true }.afterStandby fx) := by
  have hclosed := inv_closeDevice h hlock hidle
  rw [St.afterStandby, closeDevice_standby]
  exact inv_stopOutputOffloadStream { hclosed with }

/-- Stopping leaves the device open; only who waits is told the thread is in it. -/
theorem inv_stopCompressed (h : Inv s) : Inv s.stopCompressed.1 := by
  rw [St.stopCompressed]
  split
  · rename_i hcompr
    exact inv_call (s := { s with sendNewMetadata := true }) { h with } hcompr .stop
  · exact { h with }

theorem stopCompressed_spec (s : St) :
    s.stopCompressed.1.lock = s.lock ∧ s.stopCompressed.1.standby = s.standby
      ∧ s.stopCompressed.1.waiting = s.waiting ∧ s.stopCompressed.1.compr = s.compr
      ∧ s.stopCompressed.1.pc = s.pc
      ∧ s.stopCompressed.2 = (s.compr.isSome && s.offloadThreadBlocked) := by
  rw [St.stopCompressed]
  split
  · rename_i hcompr
    exact ⟨rfl, rfl, rfl, rfl, rfl, by rw [show s.compr.isSome = true from hcompr]; rfl⟩
  · rename_i hcompr
    exact ⟨rfl, rfl, rfl, rfl, rfl,
      by rw [show s.compr.isSome = false from Bool.eq_false_iff.mpr hcompr]; rfl⟩

/-- Nobody needs to wait: the thread is out of the device. -/
theorem outside_of_not_waits (h : Inv s) (hwaits : s.stopCompressed.2 = false) :
    s.pc.outside = false := by
  rw [(stopCompressed_spec s).2.2.2.2.2, h.blocked] at hwaits
  cases hout : s.pc.outside with
  | false => rfl
  | true =>
      rw [h.working hout, hout] at hwaits
      cases hwaits

theorem stopCompressed_standby (s : St) (v : Bool) :
    ({ s with standby := v } : St).stopCompressed
      = ({ s.stopCompressed.1 with standby := v }, s.stopCompressed.2) := by
  cases hcompr : s.compr <;> simp [St.stopCompressed, St.call, St.note, hcompr]

/-- **STANDBY** closes the device, or waits for the thread with the mutex of the
    audio device in hand. -/
theorem inv_doOutStandby {routing : Bool} (h : Inv s) (hlock : s.lock = .free)
    (hrunning : s.standby = false) : Inv (s.doOutStandby fx routing) := by
  obtain ⟨hlock', hstandby', -, hcompr', hpc', -⟩ := stopCompressed_spec s
  have hstopped := inv_stopCompressed h
  have hlock₁ : s.stopCompressed.1.lock = .free := hlock'.trans hlock
  rw [St.doOutStandby, stopCompressed_standby]
  cases hwaits : s.stopCompressed.2 with
  | true =>
      refine { hstopped with
        waiting := fun _ => rfl
        compr := ?_
        writing := fun w hw => by cases hlock₁.symm.trans hw }
      show s.stopCompressed.1.compr.isSome = true
      rw [hcompr']
      exact h.running hrunning
  | false =>
      refine inv_afterStandby hstopped hlock₁ ?_
      rw [hpc']
      exact outside_of_not_waits h hwaits

theorem inv_outStandby (h : Inv s) (hlock : s.lock = .free) : Inv (s.outStandby fx) := by
  rw [St.outStandby]
  split
  · exact h
  · rename_i hrunning
    refine inv_withAdev h (by rw [hlock]; exact fun heq => by cases heq) fun _ => ?_
    exact inv_doOutStandby h hlock (Bool.eq_false_iff.mpr hrunning)

theorem inv_outSetRouting {changes : Bool} (h : Inv s) (hlock : s.lock = .free) :
    Inv (s.outSetRouting fx changes) := by
  refine inv_withAdev h (by rw [hlock]; exact fun heq => by cases heq) fun _ => ?_
  split
  · rename_i hchanges
    rw [Bool.and_eq_true, Bool.not_eq_true'] at hchanges
    exact inv_doOutStandby h hlock hchanges.1
  · exact h

theorem inv_outPauseOffload (h : Inv s) (hlock : s.lock ≠ .thread) : Inv s.outPauseOffload := by
  rw [St.outPauseOffload]
  split
  · rename_i hplaying
    have hpaused := inv_offloadState (inv_call h hplaying.1 .pause) .paused
    exact inv_withAdev hpaused hlock fun _ => hpaused
  · exact h

theorem inv_outResumeOffload (h : Inv s) (hlock : s.lock ≠ .thread) : Inv s.outResumeOffload := by
  rw [St.outResumeOffload]
  split
  · rename_i hpaused
    refine inv_withAdev h hlock fun _ => ?_
    exact inv_offloadState (inv_call h hpaused.1 .resume) .playing
  · exact h

theorem inv_outFlushOffload (h : Inv s) : Inv s.outFlushOffload := by
  have hstopped := inv_stopCompressed h
  rw [St.outFlushOffload]
  split
  · split
    · rename_i s' hstop
      rw [congrArg Prod.fst hstop] at hstopped
      exact { hstopped with }
    · rename_i s' hstop
      rw [congrArg Prod.fst hstop] at hstopped
      exact inv_offloadState hstopped .pausedFlushed
  · exact h

theorem inv_outGetPosition (h : Inv s) : Inv s.outGetPosition := by
  rw [St.outGetPosition]
  split
  · rename_i hcompr
    exact inv_call h hcompr .getTstamp
  · exact h

/-- **EVERY CALL** on the stream keeps the invariant. -/
theorem inv_run (h : Inv s) (hlock : s.lock = .free) (c : Call) : Inv (c.run fx s) := by
  have hthread : s.lock ≠ .thread := by
    rw [hlock]
    exact fun heq => by cases heq
  cases c with
  | write w => exact inv_outWrite h hlock
  | pause => exact inv_outPauseOffload h hthread
  | resume => exact inv_outResumeOffload h hthread
  | drain early => exact inv_sendOffloadCmd h _
  | flush => exact inv_outFlushOffload h
  | standby => exact inv_outStandby h hlock
  | routing changes => exact inv_outSetRouting h hlock
  | setCallback cookie => exact { h with }
  | position => exact inv_outGetPosition h

end Calls

-- ── What the thread keeps ─────────────────────────────────────────────────

section Thread

variable {s s' : St} {pick : Option Nat} {c : Cmd}

/-- A signal only changes who was signalled. -/
theorem signalCond_spec (pick : Option Nat) (s : St) :
    ∃ w flushes, s.signalCond pick = { s with waiting := w, flushes := flushes }
      ∧ w.isSome = s.waiting.isSome := by
  cases pick with
  | none =>
      rw [St.signalCond]
      split
      · exact ⟨_, s.flushes, rfl, Option.isSome_map⟩
      · exact ⟨s.waiting, _, rfl, rfl⟩
  | some i =>
      rw [St.signalCond]
      split
      · rw [St.signalFlush]
        split <;> exact ⟨s.waiting, _, rfl, rfl⟩
      · exact ⟨_, s.flushes, rfl, Option.isSome_map⟩

theorem inv_signalCond (h : Inv s) (pick : Option Nat) : Inv (s.signalCond pick) := by
  obtain ⟨w, flushes, heq, hw⟩ := signalCond_spec pick s
  rw [heq]
  refine { h with waiting := ?_, compr := ?_ }
  · show w.isSome = true → s.standby = true
    rw [hw]
    exact h.waiting
  · show s.compr.isSome = (!s.standby || w.isSome)
    rw [hw]
    exact h.compr

/-- The thread takes a command. -/
theorem inv_takeCmd (h : Inv s) (hpc : s.pc = .top) : Inv (s.takeCmd pick c) := by
  have hlock : s.lock = .thread := h.holder.mpr (by rw [hpc]; rfl)
  have htaken : Inv (s.note (.taken c s.compr)) := inv_note h rfl trivial
  rw [St.takeCmd]
  split
  · have hfreed := inv_note htaken (e := .freed c) rfl trivial
    refine { hfreed with
      holder := ⟨fun _ => rfl, fun _ => hlock⟩
      blocked := ?_
      working := fun hout => by cases hout
      inside := fun _ _ _ _ hin => by cases hin }
    show s.offloadThreadBlocked = false
    rw [h.blocked, hpc]
    rfl
  · split
    · exact inv_signalCond htaken pick
    · rename_i hcompr
      have hsome : s.compr.isSome = true := Option.isSome_iff_ne_none.mpr fun hnone => by
        rw [hnone] at hcompr
        exact hcompr rfl
      exact { htaken with
        holder := ⟨fun hthread => (by cases hthread), fun hlocked => by cases hlocked⟩
        blocked := rfl
        working := fun _ => hsome
        inside := fun _ _ _ _ hin => by cases hin
        writing := fun _ hw => by cases hw }

theorem inv_loopHead (h : Inv s) (hpc : s.pc = .top) : Inv (s.loopHead pick) := by
  rw [St.loopHead]
  split
  · refine { h with
      holder := ⟨fun hthread => (by cases hthread), fun hlocked => by cases hlocked⟩
      blocked := ?_
      working := fun hout => by cases hout
      inside := fun _ _ _ _ hin => by cases hin
      writing := fun _ hw => by cases hw }
    show s.offloadThreadBlocked = false
    rw [h.blocked, hpc]
    rfl
  · rename_i c rest hlist
    exact inv_takeCmd (s := { s with offloadCmdList := rest }) { h with } hpc

theorem inv_answer (h : Inv s) : Inv (s.answer pick c) := by
  have hback : Inv { s with offloadThreadBlocked := false, lock := .thread, pc := .top } :=
    { h with
      holder := ⟨fun _ => rfl, fun _ => rfl⟩
      blocked := rfl
      working := fun hout => by cases hout
      inside := fun _ _ _ _ hin => by cases hin
      writing := fun _ hw => by cases hw }
  refine inv_note ?_ rfl trivial
  rw [St.callBack]
  split
  · exact inv_note (inv_signalCond hback pick) rfl trivial
  · exact inv_signalCond hback pick

theorem inv_freed : ∀ (l : List Cmd) {s : St}, Inv s →
    Inv { s with log := s.log ++ l.map .freed } := by
  intro l
  induction l with
  | nil =>
      intro s h
      rw [List.map_nil, List.append_nil]
      exact h
  | cons c rest ih =>
      intro s h
      have hrest := ih (inv_note h (e := .freed c) rfl trivial)
      rw [List.map_cons, List.append_cons]
      exact hrest

theorem inv_leave (h : Inv s) (hpc : s.pc = .leaving) : Inv (s.leave pick) := by
  have hsignal := inv_signalCond h pick
  obtain ⟨w, flushes, heq, -⟩ := signalCond_spec pick s
  have hpc' : (s.signalCond pick).pc = .leaving := by rw [heq]; exact hpc
  have hfreed : Inv (s.signalCond pick).freeRest :=
    { inv_freed (s.signalCond pick).offloadCmdList hsignal with }
  refine { hfreed with
    holder := ⟨fun hthread => (by cases hthread), fun hlocked => by cases hlocked⟩
    blocked := ?_
    working := fun hout => by cases hout
    inside := fun _ _ _ _ hin => by cases hin
    writing := fun _ hw => by cases hw }
  show (s.signalCond pick).offloadThreadBlocked = false
  rw [hsignal.blocked, hpc']
  rfl

/-- The thread takes the mutex. -/
theorem inv_lockThread (h : Inv s) (hout : s.pc.outside = false) :
    Inv { s with pc := .top, lock := .thread } :=
  { h with
    holder := ⟨fun _ => rfl, fun _ => rfl⟩
    blocked := h.blocked.trans hout
    working := fun hpc => by cases hpc
    inside := fun _ _ _ _ hin => by cases hin
    writing := fun _ hw => by cases hw }

/-- **EVERY STEP OF THE THREAD** keeps the invariant. -/
theorem inv_threadStep (h : Inv s) (hstep : s.threadStep pick = some s') : Inv s' := by
  unfold St.threadStep at hstep
  split at hstep
  · rename_i hpc
    split at hstep
    · obtain rfl := Option.some.inj hstep
      exact inv_lockThread h (by rw [hpc]; rfl)
    · cases hstep
  · rename_i hpc
    split at hstep
    · obtain rfl := Option.some.inj hstep
      exact inv_lockThread h (by rw [hpc]; rfl)
    · cases hstep
  · rename_i hpc
    obtain rfl := Option.some.inj hstep
    exact inv_loopHead h hpc
  · rename_i c f calls hpc
    obtain rfl := Option.some.inj hstep
    have hcall := inv_call h (h.working (by rw [hpc]; rfl)) f
    refine { hcall with
      holder := ?_
      blocked := ?_
      working := fun _ => h.working (by rw [hpc]; rfl)
      inside := ?_ }
    · have hholder := h.holder
      rw [hpc] at hholder
      exact hholder
    · have hblocked := h.blocked
      rw [hpc] at hblocked
      exact hblocked
    · rintro _ _ _ _ ⟨⟩
      rfl
  · rename_i c f device calls hpc
    obtain rfl := Option.some.inj hstep
    refine { h with
      holder := ?_
      blocked := ?_
      working := fun _ => h.working (by rw [hpc]; rfl)
      inside := fun _ _ _ _ hin => by cases hin }
    · have hholder := h.holder
      rw [hpc] at hholder
      exact hholder
    · have hblocked := h.blocked
      rw [hpc] at hblocked
      exact hblocked
  · split at hstep
    · obtain rfl := Option.some.inj hstep
      exact inv_answer h
    · cases hstep
  · rename_i hpc
    obtain rfl := Option.some.inj hstep
    exact inv_leave h hpc
  · cases hstep
  · cases hstep

end Thread

-- ── Every interleaving ────────────────────────────────────────────────────

section Runs

variable {fx : Bool} {s s' : St}

theorem inv_step (a : Act) (h : Inv s) (hstep : step fx s a = some s') : Inv s' := by
  cases a with
  | call c =>
      rw [step] at hstep
      split at hstep
      · rename_i hfree
        obtain rfl := Option.some.inj hstep
        exact inv_run h hfree.1 c
      · cases hstep
  | writeOn =>
      rw [step] at hstep
      split at hstep
      · rename_i w hlock
        obtain rfl := Option.some.inj hstep
        refine inv_finishWrite (s := { s with sendNewMetadata := false }) { h with } ?_
          (h.writing w hlock)
        exact fun heq => by cases hlock.symm.trans heq
      · cases hstep
  | parse mdata =>
      rw [step] at hstep
      split at hstep
      · obtain rfl := Option.some.inj hstep
        exact { h with }
      · cases hstep
  | parsed =>
      rw [step] at hstep
      split at hstep
      · cases hstep
      · obtain rfl := Option.some.inj hstep
        exact { h with }
  | standbyOn =>
      rw [step] at hstep
      split at hstep
      · rename_i hready
        obtain ⟨hlock, hsignalled⟩ := hready
        obtain ⟨w, hw, -⟩ := (Option.any_eq_true _ _).mp hsignalled
        have hstandby : s.standby = true := h.waiting (by rw [hw]; rfl)
        split at hstep
        · obtain rfl := Option.some.inj hstep
          refine { h with waiting := fun _ => hstandby, compr := ?_ }
          show s.compr.isSome = (!s.standby || (s.waiting.map _).isSome)
          rw [Option.isSome_map]
          exact h.compr
        · rename_i hout
          obtain rfl := Option.some.inj hstep
          have hclosed : Inv ({ s with standby := true }.afterStandby fx) :=
            inv_afterStandby h hlock (h.blocked.symm.trans (Bool.eq_false_iff.mpr hout))
          rw [← hstandby] at hclosed
          exact hclosed
      · cases hstep
  | flushOn i =>
      rw [step] at hstep
      split at hstep
      · split at hstep
        · obtain rfl := Option.some.inj hstep
          exact { h with }
        · obtain rfl := Option.some.inj hstep
          exact { h with }
      · cases hstep
  | thread pick => exact inv_threadStep h hstep
  | wakeThread =>
      rw [step] at hstep
      split at hstep
      · rename_i hpc
        obtain rfl := Option.some.inj hstep
        have hholder := h.holder
        have hblocked := h.blocked
        rw [hpc] at hholder hblocked
        exact { h with
          holder := hholder
          blocked := hblocked
          working := fun hout => by cases hout
          inside := fun _ _ _ _ hin => by cases hin }
      · cases hstep
  | wakeCond pick =>
      obtain rfl := Option.some.inj hstep
      exact inv_signalCond h pick
  | destroy =>
      rw [step] at hstep
      split at hstep
      · obtain rfl := Option.some.inj hstep
        exact { inv_sendOffloadCmd h .exit with }
      · cases hstep

/-- **THE DRIVER IS SAFE**: whatever calls are made on the stream, and however
    they and the thread interleave, the compress device is only used while it is
    open, and is not closed while the thread is inside it. -/
theorem driver_safe (fx : Bool) (acts : List Act) : Always (step fx) DriverSafe {} acts := by
  intro done rest s' _ hrun
  exact driverSafe_of_inv (run_invariant (fun _ a _ => inv_step a) done inv_start hrun)

end Runs

end OffloadThread

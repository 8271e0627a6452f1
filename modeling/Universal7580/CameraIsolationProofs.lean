import Universal7580.CameraWrapperProofs
import Universal7580.IsolationProofs

/-! # Several cameras (`Camera2Wrapper.cpp`)

    Each camera that `camera2_device_open` opens has a device of its own, but
    the preview window, the deferred start, the blocking of callbacks, the time
    guard and the callback worker are there once, for all of them.

    `camera_isolation`: what a camera calls of its vendor, returns and delivers
    is what it would be with the operations of the others left out, as long as
    it reads of the globals what its own operations left there, its wipes take
    no message of another, and no camera is closed while another is open.
    `window_of_the_other` is a run where the second camera takes the window of
    the first. -/

namespace CameraIsolation

open Run Mailbox CameraCallback CameraWrapper

-- ── Devices ──────────────────────────────────────────────────────────────────

def EINVAL : Int := 22
def ENOMEM : Int := 12

/-- What happens for one camera: calls of its vendor's device, what the wrapper
    returns to its client, and the client's functions being called. -/
inductive Event where
  | vendorOpen
  | vendorClose
  | vendor (call : VendorCall)
  | returned (reply : Reply)
  | delivered (call : UserCall)
  | aborted
  deriving DecidableEq

/-- `wrapper_camera2_device`, with the operation in its call. -/
structure Camera where
  isOpen : Bool
  executing : Option Op
  trace : List Event
  deriving DecidableEq

def cameraInit : Camera :=
  { isOpen := false, executing := none, trace := [] }

/-- The globals.  `origins` has the camera of each message posted so far, and
    `closing` the one whose `camera2_device_close` waits for the worker; it
    holds `gCameraWrapperLock` meanwhile. -/
structure Globals where
  hal : Hal
  origins : List Int
  closing : Option Int
  aborted : Bool

def globalsInit : Globals :=
  { hal := halInit, origins := [], closing := none, aborted := false }

/-- The globals after a change, with the messages it posted. -/
def Globals.set (g : Globals) (d : Int) (hal : Hal) : Globals :=
  { g with
    hal := hal
    origins := g.origins ++ List.replicate
      ((posted hal.cbThread.box).length - (posted g.hal.cbThread.box).length) d }

/-- What an open meets of the vendor's module and of the memory. -/
structure OpenMeets where
  named : Bool
  check_vendor_module : Int
  num_cameras : Int
  camera2_device : Bool
  vendor_open : Int
  camera2_ops : Bool
  deriving DecidableEq

/-- `camera2_device_open`, from where it looks at the name: the vendor's calls,
    what is returned, and whether there is a device. -/
def openVendor (cameraid : Int) (meets : OpenMeets) : List Event × Int × Bool :=
  if meets.named = false then ([], 0, false)
  else if meets.check_vendor_module ≠ 0 then ([], -EINVAL, false)
  else if cameraid > meets.num_cameras then ([], -EINVAL, false)
  else if meets.camera2_device = false then ([], -ENOMEM, false)
  else if meets.vendor_open ≠ 0 then ([.vendorOpen], meets.vendor_open, false)
  else if meets.camera2_ops = false then ([.vendorOpen], -ENOMEM, false)
  else ([.vendorOpen], 0, true)

/-- Calls of the camera service and of the vendor's threads, and what the worker
    does with the camera's messages. -/
inductive CameraAct where
  | openDevice (meets : OpenMeets)
  | begin (op : Op) (now : Int)
  | finish (answer : Reply) (now : Int)
  | callback (message : WorkerMessage) (now : Int)
  | takeMessage
  | workOn (now : Int)
  | close (now : Int)
  | join

/-- An assertion fails. -/
def abort (g : Globals) (dev : Camera) : Globals × Camera :=
  ({ g with aborted := true }, { dev with trace := dev.trace ++ [.aborted] })

def openDevice (d : Int) (g : Globals) (dev : Camera) (meets : OpenMeets) :
    Option (Globals × Camera) :=
  if dev.isOpen = false ∧ g.closing = none then
    let opened := openVendor d meets
    some (g.set d (camera2_device_open g.hal),
      { dev with isOpen := opened.2.2
                 trace := dev.trace ++ opened.1 ++ [.returned (.int opened.2.1)] })
  else none

def beginOp (d : Int) (g : Globals) (dev : Camera) (op : Op) (now : Int) :
    Option (Globals × Camera) :=
  if dev.isOpen = true ∧ dev.executing = none then
    match enter g.hal now op with
    | none => some (abort g dev)
    | some (hal, .calling call) =>
        some (g.set d hal, { dev with executing := some op, trace := dev.trace ++ [.vendor call] })
    | some (hal, .returned reply) =>
        some (g.set d hal, { dev with trace := dev.trace ++ [.returned reply] })
  else none

def finishOp (d : Int) (g : Globals) (dev : Camera) (answer : Reply) (now : Int) :
    Option (Globals × Camera) :=
  match dev.executing with
  | none => none
  | some op =>
      let left := leave g.hal now answer op
      some (g.set d left.1,
        { dev with executing := none
                   trace := dev.trace ++ left.2.1.map .vendor ++ [.returned left.2.2] })

def callback (d : Int) (g : Globals) (dev : Camera) (message : WorkerMessage) (now : Int) :
    Option (Globals × Camera) :=
  if dev.isOpen = true then
    match wrappedCb g.hal message now with
    | none => some (abort g dev)
    | some hal => some (g.set d hal, dev)
  else none

/-- The camera whose message it is. -/
def origin (origins : List Int) (m : ThreadMsg) : Option Int :=
  origins[m.number]?

def takeMessage (d : Int) (g : Globals) (dev : Camera) : Option (Globals × Camera) :=
  match g.hal.cbThread.box.queue with
  | [] => none
  | m :: _ =>
      if origin g.origins m = some d then
        (CameraCallback.takeMessage g.hal.cbThread).map fun cbThread =>
          (g.set d { g.hal with cbThread := cbThread }, dev)
      else none

def workOn (d : Int) (g : Globals) (dev : Camera) (now : Int) : Option (Globals × Camera) :=
  match g.hal.cbThread.box.hand with
  | none => none
  | some m =>
      if origin g.origins m = some d then
        (CameraCallback.workOn g.hal.cbThread now).map fun cbThread =>
          let made := cbThread.invoked.drop g.hal.cbThread.invoked.length
          (g.set d { g.hal with cbThread := cbThread },
            { dev with trace := dev.trace ++ made.map fun e => .delivered e.2 })
      else none

/-- `camera2_device_close`, up to the join. -/
def close (d : Int) (g : Globals) (dev : Camera) (now : Int) : Option (Globals × Camera) :=
  if dev.isOpen = true ∧ dev.executing = none ∧ g.closing = none then
    some ({ g.set d (camera2_device_close g.hal now) with closing := some d },
      { dev with isOpen := false, trace := dev.trace ++ [.vendorClose] })
  else none

/-- The join, if there was a thread, and the return. -/
def join (d : Int) (g : Globals) (dev : Camera) : Option (Globals × Camera) :=
  if g.closing = some d then
    let dev := { dev with trace := dev.trace ++ [.returned (.int 0)] }
    if g.hal.cbThread.m_thread = true then
      (joinThread g.hal.cbThread).map fun cbThread =>
        ({ g.set d { g.hal with cbThread := cbThread } with closing := none }, dev)
    else some ({ g with closing := none }, dev)
  else none

/-- The action of a camera on the globals and its device; none after an abort. -/
def cameraAct (d : Int) (g : Globals) (dev : Camera) (a : CameraAct) :
    Option (Globals × Camera) :=
  if g.aborted = true then none
  else
    match a with
    | .openDevice meets => openDevice d g dev meets
    | .begin op now => beginOp d g dev op now
    | .finish answer now => finishOp d g dev answer now
    | .callback message now => callback d g dev message now
    | .takeMessage => takeMessage d g dev
    | .workOn now => workOn d g dev now
    | .close now => close d g dev now
    | .join => join d g dev

abbrev Cameras := Isolation.Sys Int Globals Camera CameraAct

/-- Before any camera is opened. -/
def camerasInit : Cameras :=
  Isolation.start globalsInit cameraInit

/-- The camera with the operations of the others left out. -/
def alone (d : Int) (done : List (Int × CameraAct)) : Option (Globals × Camera) :=
  Isolation.alone cameraAct globalsInit cameraInit d done

-- ── Isolation ────────────────────────────────────────────────────────────────

/-- What the messages of a camera say, among those given. -/
def mine (origins : List Int) (d : Int) (msgs : List ThreadMsg) : List (Msg × Int) :=
  (msgs.filter fun m => origin origins m = some d).map fun m => (m.msg, m.CallerTS)

/-- The worker's messages: the one it holds, and those in the queue. -/
def messages (w : Worker) : List ThreadMsg :=
  w.box.hand.toList ++ w.box.queue

/-- What of a camera's the worker still has to do. -/
def waiting (g : Globals) (d : Int) : List (Msg × Int) :=
  mine g.origins d (messages g.hal.cbThread)

/-- What a camera calls, returns and delivers, and what still waits to be
    delivered, is the same as alone; and if the worker works for it alone, it
    works here. -/
structure Isolated (s : Cameras) (d : Int) (own : Globals × Camera) : Prop where
  same : s.locals d = own.2
  waiting : waiting s.shared d = waiting own.1 d
  served : (s.locals d).isOpen = true → own.1.hal.cbThread.running = true →
    s.shared.hal.cbThread.running = true
  alive : s.shared.aborted = own.1.aborted

/-- The operations that wipe the worker's queue. -/
def clears : Op → Bool
  | .stop_preview => true
  | .auto_focus => true
  | .cancel_auto_focus => true
  | _ => false

/-- What the action reads of the globals is what the camera's own operations
    left there. -/
def ReadsOwn (hal own : Hal) (executing : Option Op) : CameraAct → Prop
  | .begin .start_preview _ => (hal.gPreviewWindow = 0 ↔ own.gPreviewWindow = 0)
  | .begin .preview_enabled _ => hal.gPreviewStartDeferred = own.gPreviewStartDeferred
  | .begin .cancel_auto_focus now =>
      (now < hal.CancelAFTimeGuard ↔ now < own.CancelAFTimeGuard)
  | .finish _ _ => ∀ window, executing = some (.set_preview_window window) →
      hal.gPreviewStartDeferred = own.gPreviewStartDeferred
  | .callback _ _ => (hal.BlockCbs = 1 ↔ own.BlockCbs = 1)
  | .workOn _ => hal.cbThread.cbs = own.cbThread.cbs
  | _ => True

/-- The action takes nothing from the other cameras: no message, and not the
    worker. -/
def Spares (isOpen : Int → Prop) (d : Int) (g : Globals) : CameraAct → Prop
  | .begin op _ => clears op = true →
      ∀ m ∈ g.hal.cbThread.box.queue, origin g.origins m = some d
  | .close _ => ∀ e, isOpen e → e = d
  | _ => True

/-- The cameras that are open. -/
def openOnes (s : Cameras) (e : Int) : Prop :=
  (s.locals e).isOpen = true

def KeepsToItself (s : Cameras) (e : Int × CameraAct) : Prop :=
  Spares (openOnes s) e.1 s.shared e.2
    ∧ ∀ own, alone e.1 s.done = some own →
      ReadsOwn s.shared.hal own.1.hal (s.locals e.1).executing e.2

-- ── The worker of the open cameras ───────────────────────────────────────────

/-- While a camera is open there is a worker for it, which nobody has told to
    exit; its messages are those of open cameras, or of the one that closes,
    for which all others are closed. -/
structure Proper (isOpen : Int → Prop) (origins : List Int) (closing : Option Int)
    (w : Worker) : Prop where
  counted : origins.length = (posted w.box).length
  owned : ∀ m ∈ messages w, ∃ e, origin origins m = some e ∧ (isOpen e ∨ closing = some e)
  last : ∀ d, closing = some d → ∀ e, ¬isOpen e
  thread : ∀ e, isOpen e → w.m_thread = true
  works : w.m_thread = true → closing = none → w.running = true
  returned : w.running = false → messages w = []
  noThread : w.m_thread = false → w.running = false
  stays : closing = none → ∀ m ∈ messages w, ¬IsExit m
  exits : ∀ d, closing = some d → w.running = true → ∃ m ∈ messages w, IsExit m

section Proper

variable {isOpen isOpen' : Int → Prop} {origins : List Int} {closing : Option Int} {w w' : Worker}
  {d e : Int}

theorem proper_init (h : ∀ e, ¬isOpen e) : Proper isOpen [] none halInit.cbThread where
  counted := rfl
  owned := fun _ h => (nomatch h)
  last := fun _ h => (nomatch h)
  thread := fun e he => absurd he (h e)
  works := fun h => (nomatch h)
  returned := fun _ => rfl
  noThread := fun _ => rfl
  stays := fun _ _ h => (nomatch h)
  exits := fun _ h => (nomatch h)

theorem proper_congr (h : ∀ e, isOpen e ↔ isOpen' e) (hw : Proper isOpen origins closing w) :
    Proper isOpen' origins closing w where
  counted := hw.counted
  owned := by
    intro m hm
    obtain ⟨e, horigin, ho⟩ := hw.owned m hm
    exact ⟨e, horigin, ho.imp_left (h e).mp⟩
  last := fun d hd e he => hw.last d hd e ((h e).mpr he)
  thread := fun e he => hw.thread e ((h e).mpr he)
  works := hw.works
  returned := hw.returned
  noThread := hw.noThread
  stays := hw.stays
  exits := hw.exits

/-- Messages keep their camera when others are posted. -/
theorem origin_append {m : ThreadMsg} (h : origin origins m = some e) (more : List Int) :
    origin (origins ++ more) m = some e := by
  rw [origin, List.getElem?_append_left (List.getElem?_eq_some_iff.mp h).1]
  exact h

theorem messages_push (w : Worker) (msg : Msg) (ts : Int) :
    messages (push w msg ts)
      = messages w ++ [{ number := (posted w.box).length, msg := msg, CallerTS := ts }] :=
  (List.append_assoc ..).symm

theorem messages_wipe {m : ThreadMsg} (hm : m ∈ messages { w with box := wipe w.box }) :
    m ∈ messages w := by
  rcases List.mem_append.mp hm with hhand | hqueue
  · exact List.mem_append_left _ hhand
  · exact nomatch hqueue

theorem messages_take {box : Box ThreadMsg} (h : take w.box = some box) :
    messages { w with box := box } = messages w := by
  obtain ⟨m, rest, hhand, hqueue, rfl⟩ := take_cases h
  rw [messages, messages, hhand, hqueue]
  rfl

/-- A message is its camera's. -/
theorem origin_push (hw : Proper isOpen origins closing w) (d : Int) (msg : Msg) (ts : Int) :
    origin (origins ++ [d]) { number := (posted w.box).length, msg := msg, CallerTS := ts }
      = some d := by
  show (origins ++ [d])[(posted w.box).length]? = some d
  rw [← hw.counted, List.getElem?_concat_length]

theorem counted_push (hw : Proper isOpen origins closing w) (d : Int) (msg : Msg) (ts : Int) :
    (origins ++ [d]).length = (posted (push w msg ts).box).length := by
  rw [push, posted_post, List.length_append, List.length_append, hw.counted]
  rfl

/-- An open camera posts a message. -/
theorem proper_push (hw : Proper isOpen origins closing w) (hd : isOpen d) {msg : Msg}
    (hmsg : msg ≠ .MSG_EXIT_THREAD) (ts : Int) :
    Proper isOpen (origins ++ [d]) closing (push w msg ts) where
  counted := counted_push hw d msg ts
  owned := by
    intro m hm
    rw [messages_push] at hm
    rcases List.mem_append.mp hm with hold | hnew
    · obtain ⟨e, horigin, ho⟩ := hw.owned m hold
      exact ⟨e, origin_append horigin [d], ho⟩
    · rw [List.mem_singleton.mp hnew]
      exact ⟨d, origin_push hw d msg ts, Or.inl hd⟩
  last := hw.last
  thread := hw.thread
  works := hw.works
  returned := by
    intro hreturned
    cases hclosing : closing with
    | some c => exact absurd hd (hw.last c hclosing d)
    | none => exact nomatch hreturned.symm.trans (hw.works (hw.thread d hd) hclosing)
  noThread := hw.noThread
  stays := by
    intro hclosing m hm
    rw [messages_push] at hm
    rcases List.mem_append.mp hm with hold | hnew
    · exact hw.stays hclosing m hold
    · rw [List.mem_singleton.mp hnew]
      exact hmsg
  exits := fun c hc => absurd hd (hw.last c hc d)

/-- An open camera wipes the queue. -/
theorem proper_wipe (hw : Proper isOpen origins closing w) (hd : isOpen d) :
    Proper isOpen origins closing { w with box := wipe w.box } := by
  constructor
  case counted =>
    rw [hw.counted]
    exact congrArg List.length (posted_wipe w.box).symm
  case owned => exact fun m hm => hw.owned m (messages_wipe hm)
  case last => exact hw.last
  case thread => exact hw.thread
  case works => exact hw.works
  case returned =>
    intro hreturned
    have hnone := hw.returned hreturned
    exact List.eq_nil_iff_forall_not_mem.mpr fun m hm => by
      have hmem := messages_wipe hm
      rw [hnone] at hmem
      exact nomatch hmem
  case noThread => exact hw.noThread
  case stays => exact fun hclosing m hm => hw.stays hclosing m (messages_wipe hm)
  case exits => exact fun c hc => absurd hd (hw.last c hc d)

/-- A new worker finds the messages of the one before. -/
theorem createThread_box (w : Worker) : (createThread w).box = w.box := by
  rw [createThread]
  split <;> rfl

/-- A camera is opened, or its opening fails. -/
theorem proper_open (hw : Proper isOpen origins none w)
    (hopen : ∀ e, isOpen e → isOpen' e) :
    Proper isOpen' origins none (createThread w) := by
  have hmessages : messages (createThread w) = messages w := by
    rw [messages, createThread_box, messages]
  have hthread : (createThread w).m_thread = true ∧ (createThread w).running = true := by
    rw [createThread]
    split
    · rename_i hthread
      exact ⟨hthread, hw.works hthread rfl⟩
    · exact ⟨rfl, rfl⟩
  constructor
  case counted =>
    rw [createThread_box]
    exact hw.counted
  case owned =>
    rw [hmessages]
    intro m hm
    obtain ⟨e, horigin, ho⟩ := hw.owned m hm
    exact ⟨e, horigin, ho.imp_left (hopen e)⟩
  case last => exact fun c hc => by cases hc
  case thread => exact fun _ _ => hthread.1
  case works => exact fun _ _ => hthread.2
  case returned => exact fun h => by cases h.symm.trans hthread.2
  case noThread => exact fun h => by cases h.symm.trans hthread.1
  case stays =>
    rw [hmessages]
    exact hw.stays
  case exits => exact fun c hc => by cases hc

/-- The worker takes a message. -/
theorem proper_take (hw : Proper isOpen origins closing w) {box : Box ThreadMsg}
    (h : take w.box = some box) : Proper isOpen origins closing { w with box := box } := by
  have hposted := posted_take h
  constructor
  case counted =>
    rw [hw.counted]
    exact congrArg List.length hposted.symm
  all_goals try rw [messages_take h]
  case owned => exact hw.owned
  case last => exact hw.last
  case thread => exact hw.thread
  case works => exact hw.works
  case returned => exact hw.returned
  case noThread => exact hw.noThread
  case stays => exact hw.stays
  case exits => exact hw.exits

/-- The worker works on the message it holds. -/
theorem proper_work (hw : Proper isOpen origins closing w) {m : ThreadMsg}
    (hhand : w.box.hand = some m) (now : Int) :
    Proper isOpen origins closing (processMessage w m now) := by
  have hcons : messages w = m :: w.box.queue := by
    rw [messages, hhand]
    rfl
  have hthread := processMessage_m_thread w m now
  have hrunning : w.running = true := by
    cases hrunning : w.running with
    | true => rfl
    | false =>
        rw [hw.returned hrunning] at hcons
        cases hcons
  rcases processMessage_cases w m now with ⟨hexit, hreturned, hbox⟩ | ⟨hexit, hrun, hbox, -⟩
  · -- the exit message, that a closing camera posted
    have hmessages : messages (processMessage w m now) = [] := by
      rw [messages, hbox]
      rfl
    have hclosing : closing ≠ none := by
      intro hnone
      exact hw.stays hnone m (hcons ▸ List.mem_cons_self) hexit
    constructor
    case counted =>
      rw [hw.counted, hbox, posted_wipe, posted_finish]
    all_goals try rw [hmessages]
    all_goals try rw [hthread]
    case owned => exact fun _ h => by cases h
    case last => exact hw.last
    case thread => exact hw.thread
    case works => exact fun _ hnone => absurd hnone hclosing
    case returned => exact fun _ => rfl
    case noThread => exact fun _ => hreturned
    case stays => exact fun hnone => absurd hnone hclosing
    case exits => exact fun _ _ h => by cases h.symm.trans hreturned
  · have hmessages : messages (processMessage w m now) = w.box.queue := by
      rw [messages, hbox]
      rfl
    constructor
    case counted =>
      rw [hw.counted, hbox, posted_finish]
    all_goals try rw [hmessages]
    all_goals try rw [hthread]
    all_goals try rw [hrun]
    case owned => exact fun m' h => hw.owned m' (hcons ▸ List.mem_cons_of_mem m h)
    case last => exact hw.last
    case thread => exact hw.thread
    case works => exact hw.works
    case returned => exact fun h => by cases h.symm.trans hrunning
    case noThread => exact hw.noThread
    case stays =>
      exact fun hnone m' h => hw.stays hnone m' (hcons ▸ List.mem_cons_of_mem m h)
    case exits =>
      intro c hc _
      obtain ⟨m', hm', hexit'⟩ := hw.exits c hc hrunning
      rw [hcons] at hm'
      rcases List.mem_cons.mp hm' with rfl | hrest
      · exact absurd hexit' hexit
      · exact ⟨m', hrest, hexit'⟩

/-- The only open camera is closed. -/
theorem proper_close (hw : Proper isOpen origins none w) (hd : isOpen d)
    (honly : ∀ e, isOpen e → e = d) (hclosed : ∀ e, ¬isOpen' e) (ts : Int) :
    Proper isOpen' (origins ++ [d]) (some d) (exitThread w ts) := by
  have hthread := hw.thread d hd
  have hexit : exitThread w ts = push w .MSG_EXIT_THREAD ts := by
    rw [exitThread, if_pos hthread]
  have hrunning := hw.works hthread rfl
  rw [hexit]
  constructor
  case counted => exact counted_push hw d _ ts
  case owned =>
    intro m hm
    rw [messages_push] at hm
    refine ⟨d, ?_, Or.inr rfl⟩
    rcases List.mem_append.mp hm with hold | hnew
    · obtain ⟨e, horigin, ho | hnone⟩ := hw.owned m hold
      · exact origin_append (honly e ho ▸ horigin) [d]
      · cases hnone
    · rw [List.mem_singleton.mp hnew]
      exact origin_push hw d _ ts
  case last => exact fun _ _ => hclosed
  case thread => exact fun e he => absurd he (hclosed e)
  case works => exact fun _ h => by cases h
  case returned => exact fun h => by cases h.symm.trans hrunning
  case noThread => exact fun h => by cases h.symm.trans hthread
  case stays => exact fun h => by cases h
  case exits =>
    intro _ _ _
    rw [messages_push]
    exact ⟨_, List.mem_append_right _ (List.mem_singleton.mpr rfl), rfl⟩

/-- The worker returned, and is joined. -/
theorem proper_join (hw : Proper isOpen origins (some d) w) (hbox : w'.box = w.box)
    (hthread : w'.m_thread = false) (hrunning : w'.running = false)
    (hreturned : w.running = false) : Proper isOpen origins none w' := by
  have hnone : messages w' = [] := by
    rw [messages, hbox]
    exact hw.returned hreturned
  constructor
  case counted =>
    rw [hbox]
    exact hw.counted
  all_goals try rw [hnone]
  case owned => exact fun _ h => (nomatch h)
  case last => exact fun _ h => (nomatch h)
  case thread => exact fun e he => absurd he (hw.last d rfl e)
  case works => exact fun h => nomatch h.symm.trans hthread
  case returned => exact fun _ => rfl
  case noThread => exact fun _ => hrunning
  case stays => exact fun _ _ h => (nomatch h)
  case exits => exact fun _ h => (nomatch h)

end Proper

-- ── What an action does to the worker ────────────────────────────────────────

/-- Who is open after an action of `d`. -/
def openAfter (d : Int) (isOpen : Int → Prop) (opened : Bool) (e : Int) : Prop :=
  if e = d then opened = true else isOpen e

/-- The ways in which an action of `d` changes the origins of the messages, the
    camera that closes, and the worker; `opened` is whether `d` is open then. -/
inductive Move (d : Int) (isOpen : Int → Prop) :
    List Int → Option Int → Worker → Bool → List Int → Option Int → Worker → Prop where
  | same {origins closing w opened} (h : opened = true ↔ isOpen d) :
      Move d isOpen origins closing w opened origins closing w
  | post {origins closing w opened} (h : opened = true ↔ isOpen d) (hd : isOpen d) (msg : Msg)
      (hmsg : msg ≠ .MSG_EXIT_THREAD) (ts : Int) :
      Move d isOpen origins closing w opened (origins ++ [d]) closing (push w msg ts)
  | wipe {origins closing w opened} (h : opened = true ↔ isOpen d) (hd : isOpen d)
      (hmine : ∀ m ∈ w.box.queue, origin origins m = some d) :
      Move d isOpen origins closing w opened origins closing { w with box := wipe w.box }
  | create {origins w opened} (h : ¬isOpen d) :
      Move d isOpen origins none w opened origins none (createThread w)
  | take {origins closing w opened box m rest} (h : opened = true ↔ isOpen d)
      (hqueue : w.box.queue = m :: rest) (hm : origin origins m = some d)
      (htake : take w.box = some box) :
      Move d isOpen origins closing w opened origins closing { w with box := box }
  | work {origins closing w opened m} (h : opened = true ↔ isOpen d)
      (hhand : w.box.hand = some m) (hm : origin origins m = some d) (now : Int) :
      Move d isOpen origins closing w opened origins closing (processMessage w m now)
  | close {origins w} (hd : isOpen d) (honly : ∀ e, isOpen e → e = d) (ts : Int) :
      Move d isOpen origins none w false (origins ++ [d]) (some d) (exitThread w ts)
  | join {origins w w' opened} (h : opened = true ↔ isOpen d) (hbox : w'.box = w.box)
      (hthread : w'.m_thread = false) (hrunning : w'.running = false)
      (hreturned : w.running = false) :
      Move d isOpen origins (some d) w opened origins none w'

section Move

variable {isOpen : Int → Prop} {origins origins' : List Int} {closing closing' : Option Int}
  {w w' : Worker} {opened : Bool} {d e : Int}

theorem openAfter_same (h : opened = true ↔ isOpen d) (e : Int) :
    isOpen e ↔ openAfter d isOpen opened e := by
  rw [openAfter]
  split
  · rename_i heq
    rw [heq, h]
  · exact Iff.rfl

theorem proper_move (hw : Proper isOpen origins closing w)
    (h : Move d isOpen origins closing w opened origins' closing' w') :
    Proper (openAfter d isOpen opened) origins' closing' w' := by
  cases h with
  | same h => exact proper_congr (openAfter_same h) hw
  | post h hd msg hmsg ts => exact proper_congr (openAfter_same h) (proper_push hw hd hmsg ts)
  | wipe h hd => exact proper_congr (openAfter_same h) (proper_wipe hw hd)
  | create h =>
      refine proper_open hw ?_
      intro e he
      rw [openAfter, if_neg]
      · exact he
      · rintro rfl
        exact h he
  | take h _ _ htake => exact proper_congr (openAfter_same h) (proper_take hw htake)
  | work h hhand _ now => exact proper_congr (openAfter_same h) (proper_work hw hhand now)
  | close hd honly ts =>
      refine proper_close hw hd honly ?_ ts
      intro e he
      rw [openAfter] at he
      split at he
      · exact nomatch he
      · rename_i hne
        exact hne (honly e he)
  | join h hbox hthread hrunning hreturned =>
      exact proper_congr (openAfter_same h) (proper_join hw hbox hthread hrunning hreturned)

-- ── The messages of one camera ───────────────────────────────────────────────

/-- Two workers have the same messages of `d` before them. -/
structure Tied (d : Int) (origins : List Int) (w : Worker) (origins' : List Int) (w' : Worker) :
    Prop where
  hand : mine origins d w.box.hand.toList = mine origins' d w'.box.hand.toList
  queue : mine origins d w.box.queue = mine origins' d w'.box.queue

theorem tied_refl (d : Int) (origins : List Int) (w : Worker) : Tied d origins w origins w :=
  ⟨rfl, rfl⟩

theorem tied_trans {origins'' : List Int} {w'' : Worker} (h : Tied d origins w origins' w')
    (h' : Tied d origins' w' origins'' w'') : Tied d origins w origins'' w'' :=
  ⟨h.hand.trans h'.hand, h.queue.trans h'.queue⟩

theorem mine_append (origins : List Int) (d : Int) (first second : List ThreadMsg) :
    mine origins d (first ++ second) = mine origins d first ++ mine origins d second := by
  rw [mine, mine, mine, List.filter_append, List.map_append]

theorem mine_cons_self {m : ThreadMsg} (h : origin origins m = some d) (rest : List ThreadMsg) :
    mine origins d (m :: rest) = (m.msg, m.CallerTS) :: mine origins d rest := by
  rw [mine, mine, List.filter_cons_of_pos (by rw [h]; exact decide_eq_true rfl)]
  rfl

theorem mine_cons_other {m : ThreadMsg} (h : origin origins m = some d) (hne : d ≠ e)
    (rest : List ThreadMsg) : mine origins e (m :: rest) = mine origins e rest := by
  rw [mine, mine, List.filter_cons_of_neg]
  rw [h]
  simpa using hne

theorem mine_others {msgs : List ThreadMsg} (h : ∀ m ∈ msgs, origin origins m = some d)
    (hne : d ≠ e) : mine origins e msgs = [] := by
  rw [mine, List.filter_eq_nil_iff.mpr]
  · rfl
  · intro m hm
    rw [h m hm]
    simpa using hne

/-- Later messages change nothing about those posted. -/
theorem mine_later {msgs : List ThreadMsg} (h : ∀ m ∈ msgs, ∃ c, origin origins m = some c)
    (more : List Int) (e : Int) : mine (origins ++ more) e msgs = mine origins e msgs := by
  rw [mine, mine]
  congr 1
  refine List.filter_congr ?_
  intro m hm
  obtain ⟨c, hc⟩ := h m hm
  rw [hc, origin_append hc]

theorem tied_messages (h : Tied d origins w origins' w') :
    mine origins d (messages w) = mine origins' d (messages w') := by
  rw [messages, messages, mine_append, mine_append, h.hand, h.queue]

/-- What a post adds to the messages of a camera. -/
theorem mine_push (hw : Proper isOpen origins closing w) (d e : Int) (msg : Msg) (ts : Int) :
    mine (origins ++ [d]) e (push w msg ts).box.hand.toList = mine origins e w.box.hand.toList
      ∧ mine (origins ++ [d]) e (push w msg ts).box.queue
        = mine origins e w.box.queue ++ (if d = e then [(msg, ts)] else []) := by
  refine ⟨?_, ?_⟩
  · refine mine_later ?_ [d] e
    intro m hm
    obtain ⟨c, hc, -⟩ := hw.owned m (List.mem_append_left _ hm)
    exact ⟨c, hc⟩
  · show mine (origins ++ [d]) e (w.box.queue ++ [_]) = _
    rw [mine_append]
    congr 1
    · refine mine_later ?_ [d] e
      intro m hm
      obtain ⟨c, hc, -⟩ := hw.owned m (List.mem_append_right _ hm)
      exact ⟨c, hc⟩
    · have hnew := origin_push hw d msg ts
      split
      · rename_i heq
        subst heq
        rw [mine_cons_self hnew]
        rfl
      · rename_i hne
        rw [mine_cons_other hnew hne]
        rfl

/-- **OTHERS**: an action leaves the messages of the other cameras alone. -/
theorem tied_other (hw : Proper isOpen origins closing w) (hne : d ≠ e)
    (h : Move d isOpen origins closing w opened origins' closing' w') :
    Tied e origins' w' origins w := by
  cases h with
  | same h => exact tied_refl e _ _
  | post h hd msg hmsg ts =>
      obtain ⟨hhand, hqueue⟩ := mine_push hw d e msg ts
      rw [if_neg hne, List.append_nil] at hqueue
      exact ⟨hhand, hqueue⟩
  | wipe h hd hmine =>
      refine ⟨rfl, ?_⟩
      rw [mine_others hmine hne]
      rfl
  | create h =>
      constructor <;> rw [createThread_box]
  | take h hqueue hm htake =>
      obtain ⟨m', rest, hhand, hqueue', rfl⟩ := take_cases htake
      obtain ⟨rfl, rfl⟩ := List.cons.inj (hqueue.symm.trans hqueue')
      constructor
      · show mine origins e [_] = _
        rw [hhand, mine_cons_other hm hne]
        rfl
      · show mine origins e _ = _
        rw [hqueue, mine_cons_other hm hne]
  | work h hhand hm now =>
      rename_i m
      have hnothing : mine origins e w.box.hand.toList = [] := by
        rw [hhand]
        show mine origins e [m] = []
        rw [mine_cons_other hm hne]
        rfl
      rcases processMessage_cases w m now with ⟨hexit, -, hbox⟩ | ⟨-, -, hbox, -⟩
      · -- the camera that closes is the only one with messages
        have hclosing : closing = some d := by
          cases hclosing : closing with
          | none =>
              exact absurd hexit (hw.stays hclosing m (by
                rw [messages, hhand]
                exact List.mem_cons_self))
          | some c =>
              obtain ⟨e', horigin, ho | ho⟩ := hw.owned m (by
                rw [messages, hhand]
                exact List.mem_cons_self)
              · exact absurd ho (hw.last c hclosing e')
              · rw [← hclosing, ho, ← horigin, hm]
        have hqueue : mine origins e w.box.queue = [] := by
          refine mine_others ?_ hne
          intro m' hm'
          obtain ⟨e', horigin, ho | ho⟩ := hw.owned m' (List.mem_append_right _ hm')
          · exact absurd ho (hw.last d hclosing e')
          · rw [horigin, ← ho, hclosing]
        constructor
        · rw [hbox, hnothing]
          rfl
        · rw [hbox, hqueue]
          rfl
      · constructor
        · rw [hbox, hnothing]
          rfl
        · rw [hbox]
          rfl
  | close hd honly ts =>
      have hexit : exitThread w ts = push w .MSG_EXIT_THREAD ts := by
        rw [exitThread, if_pos (hw.thread d hd)]
      obtain ⟨hhand, hqueue⟩ := mine_push hw d e .MSG_EXIT_THREAD ts
      rw [if_neg hne, List.append_nil] at hqueue
      rw [hexit]
      exact ⟨hhand, hqueue⟩
  | join h hbox => constructor <;> rw [hbox]

end Move

-- ── The same action alone ────────────────────────────────────────────────────

/-- `d` and nobody else. -/
def onlyOpen (d : Int) (dev : Camera) (e : Int) : Prop :=
  e = d ∧ dev.isOpen = true

section Alone

variable {isOpen : Int → Prop} {origins origins' : List Int} {closing closing' : Option Int}
  {w own : Worker} {dev : Camera} {d : Int}

theorem tied_post (h : Tied d origins w origins' own) (hw : Proper isOpen origins closing w)
    (hown : Proper (onlyOpen d dev) origins' closing' own) (msg : Msg) (ts : Int) :
    Tied d (origins ++ [d]) (push w msg ts) (origins' ++ [d]) (push own msg ts) := by
  obtain ⟨hhand, hqueue⟩ := mine_push hw d d msg ts
  obtain ⟨hhand', hqueue'⟩ := mine_push hown d d msg ts
  constructor
  · rw [hhand, hhand', h.hand]
  · rw [hqueue, hqueue', h.queue]

theorem tied_wipe (h : Tied d origins w origins' own) :
    Tied d origins { w with box := wipe w.box } origins' { own with box := wipe own.box } :=
  ⟨h.hand, rfl⟩

theorem tied_create (h : Tied d origins w origins' own) :
    Tied d origins (createThread w) origins' (createThread own) := by
  constructor
  · rw [createThread_box, createThread_box]
    exact h.hand
  · rw [createThread_box, createThread_box]
    exact h.queue

variable (hown : Proper (onlyOpen d dev) origins' closing' own)

include hown

/-- Alone, the worker is there for what waits. -/
theorem own_running {m : ThreadMsg} (hm : m ∈ messages own) : own.running = true := by
  cases hrunning : own.running with
  | true => rfl
  | false =>
      rw [hown.returned hrunning] at hm
      exact nomatch hm

variable (hclosing : closing' = some d ∨ closing' = none)

include hclosing

/-- Alone, all messages are the camera's own. -/
theorem own_messages : ∀ m ∈ messages own, origin origins' m = some d := by
  intro m hm
  obtain ⟨e, horigin, ⟨rfl, -⟩ | ho⟩ := hown.owned m hm
  · exact horigin
  · rcases hclosing with hc | hc
    · rw [horigin, ← ho, hc]
    · exact nomatch hc.symm.trans ho

/-- The message that the worker takes, it takes alone. -/
theorem tied_take (h : Tied d origins w origins' own) {box : Box ThreadMsg} {m : ThreadMsg}
    {rest : List ThreadMsg} (hqueue : w.box.queue = m :: rest) (hm : origin origins m = some d)
    (htake : take w.box = some box) :
    ∃ m' rest' box', own.box.queue = m' :: rest' ∧ origin origins' m' = some d
      ∧ own.running = true ∧ take own.box = some box'
      ∧ Tied d origins { w with box := box } origins' { own with box := box' } := by
  obtain ⟨m₀, rest₀, hhand, hqueue₀, rfl⟩ := take_cases htake
  obtain ⟨rfl, rfl⟩ := List.cons.inj (hqueue.symm.trans hqueue₀)
  have hmine := own_messages hown hclosing
  have hhand' : own.box.hand = none := by
    cases hheld : own.box.hand with
    | none => rfl
    | some m' =>
        have hsame := h.hand
        rw [hhand, hheld] at hsame
        have horigin := hmine m' (by
          rw [messages, hheld]
          exact List.mem_cons_self)
        exact nomatch hsame.trans (mine_cons_self horigin [])
  cases hqueue' : own.box.queue with
  | nil =>
      have hsame := h.queue
      rw [hqueue, hqueue', mine_cons_self hm] at hsame
      exact nomatch hsame
  | cons m' rest' =>
      have hmem : m' ∈ messages own := by
        rw [messages, hqueue']
        exact List.mem_append_right _ List.mem_cons_self
      have horigin := hmine m' hmem
      have hsame := h.queue
      rw [hqueue, hqueue', mine_cons_self hm, mine_cons_self horigin] at hsame
      obtain ⟨hfirst, hrest⟩ := List.cons.inj hsame
      refine ⟨m', rest', _, rfl, horigin, own_running hown hmem,
        take_of_queue hhand' hqueue', ?_, hrest⟩
      show mine origins d [m] = mine origins' d [m']
      rw [mine_cons_self hm, mine_cons_self horigin, hfirst]
      rfl

/-- The message that the worker holds, it holds alone. -/
theorem tied_hand (h : Tied d origins w origins' own) {m : ThreadMsg}
    (hhand : w.box.hand = some m) (hm : origin origins m = some d) :
    ∃ m', own.box.hand = some m' ∧ origin origins' m' = some d ∧ own.running = true
      ∧ m'.msg = m.msg ∧ m'.CallerTS = m.CallerTS := by
  have hsame := h.hand
  rw [hhand, Option.toList_some, mine_cons_self hm] at hsame
  cases hheld : own.box.hand with
  | none =>
      rw [hheld] at hsame
      exact nomatch hsame
  | some m' =>
      have hmem : m' ∈ messages own := by
        rw [messages, hheld]
        exact List.mem_cons_self
      have horigin := own_messages hown hclosing m' hmem
      rw [hheld, Option.toList_some, mine_cons_self horigin] at hsame
      have hfirst := (List.cons.inj hsame).1
      exact ⟨m', rfl, horigin, own_running hown hmem, (congrArg Prod.fst hfirst).symm,
        (congrArg Prod.snd hfirst).symm⟩

omit hown hclosing

/-- The calls that the worker makes for a message. -/
def made (w w' : Worker) : List Event :=
  (w'.invoked.drop w.invoked.length).map fun e => .delivered e.2

/-- What the worker makes of a message depends on what it says, and on the
    functions. -/
theorem work_alike {m m' : ThreadMsg} (hmsg : m'.msg = m.msg) (hts : m'.CallerTS = m.CallerTS)
    (hcbs : w.cbs = own.cbs) (now : Int) :
    made w (processMessage w m now) = made own (processMessage own m' now) := by
  have hnone : ∀ w : Worker, w.invoked.drop w.invoked.length = [] := by
    intro w
    exact List.drop_length
  have hone : ∀ (w : Worker) (e : ThreadMsg × UserCall),
      (w.invoked ++ [e]).drop w.invoked.length = [e] := by
    intro w e
    rw [List.drop_left]
  rw [made, made, processMessage, processMessage, hmsg, hts]
  cases m.msg with
  | MSG_EXECUTE_CALLBACK userData =>
      dsimp only
      by_cases hfresh : now - m.CallerTS < 5
      · rw [if_pos hfresh, if_pos hfresh, hcbs]
        cases userCall own.cbs userData with
        | none =>
            dsimp only
            rw [hnone, hnone]
        | some call =>
            dsimp only
            rw [hone, hone]
            rfl
      · rw [if_neg hfresh, if_neg hfresh, hnone, hnone]
  | MSG_UPDATE_CALLBACKS callbackData =>
      dsimp only
      rw [hnone, hnone]
  | MSG_EXIT_THREAD =>
      dsimp only
      rw [hnone, hnone]

theorem tied_work (h : Tied d origins w origins' own) {m m' : ThreadMsg}
    (hmsg : m'.msg = m.msg) (now : Int) :
    Tied d origins (processMessage w m now) origins' (processMessage own m' now) := by
  have hexit : IsExit m' ↔ IsExit m := by
    rw [IsExit, hmsg, IsExit]
  rcases processMessage_cases w m now with ⟨hm, -, hbox⟩ | ⟨hm, -, hbox, -⟩
  · rcases processMessage_cases own m' now with ⟨-, -, hbox'⟩ | ⟨hm', -⟩
    · constructor
      · rw [hbox, hbox']
        rfl
      · rw [hbox, hbox']
        rfl
    · exact absurd (hexit.mpr hm) hm'
  · rcases processMessage_cases own m' now with ⟨hm', -⟩ | ⟨-, -, hbox', -⟩
    · exact absurd (hexit.mp hm') hm
    · constructor
      · rw [hbox, hbox']
        rfl
      · rw [hbox, hbox']
        exact h.queue

end Alone

-- ── Operations that read the same ────────────────────────────────────────────

section Reads

variable {hal own : Hal} {executing : Option Op} {now : Int}

/-- The first half of an operation does the same to two workers, and returns the
    same, if it reads the same. -/
theorem enter_alike {op : Op} (hthread : hal.cbThread.m_thread = true)
    (hthread' : own.cbThread.m_thread = true)
    (hreads : ReadsOwn hal own executing (.begin op now)) :
    ∃ hal' own' control, enter hal now op = some (hal', control)
      ∧ enter own now op = some (own', control)
      ∧ ((clears op = false ∧ hal'.cbThread = hal.cbThread ∧ own'.cbThread = own.cbThread)
        ∨ (clears op = false ∧ ∃ cbs,
            hal'.cbThread = push hal.cbThread (.MSG_UPDATE_CALLBACKS cbs) now
            ∧ own'.cbThread = push own.cbThread (.MSG_UPDATE_CALLBACKS cbs) now)
        ∨ (clears op = true
            ∧ hal'.cbThread = { hal.cbThread with box := wipe hal.cbThread.box }
            ∧ own'.cbThread = { own.cbThread with box := wipe own.cbThread.box })) := by
  cases op with
  | set_preview_window window =>
      refine ⟨{ hal with gPreviewWindow := window }, { own with gPreviewWindow := window },
        (camera2_set_preview_window hal window).2, ?_, ?_, Or.inl ⟨rfl, rfl, rfl⟩⟩
      · rw [enter, camera2_set_preview_window]
        dsimp only
        split <;> rfl
      · rw [enter, camera2_set_preview_window, camera2_set_preview_window]
        dsimp only
        split <;> rfl
  | set_callbacks cbs timestamp get_memory user =>
      refine ⟨{ hal with cbThread := push hal.cbThread (.MSG_UPDATE_CALLBACKS cbs) now },
        { own with cbThread := push own.cbThread (.MSG_UPDATE_CALLBACKS cbs) now },
        .calling (.set_callbacks timestamp get_memory user), ?_, ?_,
        Or.inr (Or.inl ⟨rfl, cbs, rfl, rfl⟩)⟩
      · rw [enter, camera2_set_callbacks, setCallbacks, if_pos hthread]
        rfl
      · rw [enter, camera2_set_callbacks, setCallbacks, if_pos hthread']
        rfl
  | start_preview =>
      have hsame : hal.gPreviewWindow = 0 ↔ own.gPreviewWindow = 0 := hreads
      by_cases hwindow : hal.gPreviewWindow = 0
      · refine ⟨{ hal with gPreviewStartDeferred := true }, { own with gPreviewStartDeferred := true },
          .returned (.int 0), ?_, ?_, Or.inl ⟨rfl, rfl, rfl⟩⟩
        · rw [enter, camera2_start_preview, if_neg (not_not.mpr hwindow)]
        · rw [enter, camera2_start_preview, if_neg (not_not.mpr (hsame.mp hwindow))]
      · refine ⟨hal, own, .calling .start_preview, ?_, ?_, Or.inl ⟨rfl, rfl, rfl⟩⟩
        · rw [enter, camera2_start_preview, if_pos hwindow]
        · rw [enter, camera2_start_preview, if_pos (mt hsame.mpr hwindow)]
  | preview_enabled =>
      have hsame : hal.gPreviewStartDeferred = own.gPreviewStartDeferred := hreads
      refine ⟨hal, own, (camera2_preview_enabled hal).2, ?_, ?_, Or.inl ⟨rfl, rfl, rfl⟩⟩
      · rw [enter, camera2_preview_enabled]
        split <;> rfl
      · rw [enter, camera2_preview_enabled, camera2_preview_enabled, hsame]
        split <;> rfl
  | stop_preview =>
      refine ⟨{ hal with BlockCbs := 1
                         cbThread := { hal.cbThread with box := wipe hal.cbThread.box } },
        { own with BlockCbs := 1
                   cbThread := { own.cbThread with box := wipe own.cbThread.box } },
        .calling .stop_preview, ?_, ?_, Or.inr (Or.inr ⟨rfl, rfl, rfl⟩)⟩
      · rw [enter, camera2_stop_preview, clearCallbacks, if_pos hthread]
        rfl
      · rw [enter, camera2_stop_preview, clearCallbacks, if_pos hthread']
        rfl
  | auto_focus =>
      refine ⟨{ hal with cbThread := { hal.cbThread with box := wipe hal.cbThread.box } },
        { own with cbThread := { own.cbThread with box := wipe own.cbThread.box } },
        .calling .auto_focus, ?_, ?_, Or.inr (Or.inr ⟨rfl, rfl, rfl⟩)⟩
      · rw [enter, camera2_auto_focus, clearCallbacks, if_pos hthread]
        rfl
      · rw [enter, camera2_auto_focus, clearCallbacks, if_pos hthread']
        rfl
  | cancel_auto_focus =>
      have hsame : now < hal.CancelAFTimeGuard ↔ now < own.CancelAFTimeGuard := hreads
      have hskip : hal.CancelAFTimeGuard - now > 0 ↔ own.CancelAFTimeGuard - now > 0 := by
        omega
      refine ⟨{ hal with BlockCbs := 1
                         cbThread := { hal.cbThread with box := wipe hal.cbThread.box } },
        { own with BlockCbs := 1
                   cbThread := { own.cbThread with box := wipe own.cbThread.box } },
        if hal.CancelAFTimeGuard - now > 0 then .returned (.int 0) else .calling .cancel_auto_focus,
        ?_, ?_, Or.inr (Or.inr ⟨rfl, rfl, rfl⟩)⟩
      · rw [enter, camera2_cancel_auto_focus, clearCallbacks, if_pos hthread, Option.map_some]
        dsimp only
        split <;> rfl
      · rw [enter, camera2_cancel_auto_focus, clearCallbacks, if_pos hthread', Option.map_some]
        dsimp only
        rw [if_congr hskip rfl rfl]
        split <;> rfl
  | set_parameters params => exact ⟨_, _, _, rfl, rfl, Or.inl ⟨rfl, rfl, rfl⟩⟩
  | get_parameters => exact ⟨_, _, _, rfl, rfl, Or.inl ⟨rfl, rfl, rfl⟩⟩
  | put_parameters => exact ⟨_, _, _, rfl, rfl, Or.inl ⟨rfl, rfl, rfl⟩⟩
  | forward call => exact ⟨_, _, _, rfl, rfl, Or.inl ⟨rfl, rfl, rfl⟩⟩

theorem startDeferred_cbThread (hal : Hal) :
    (startDeferred hal).1.cbThread = hal.cbThread := by
  rw [startDeferred]
  split <;> rfl

theorem leave_cbThread (answer : Reply) (op : Op) :
    (leave hal now answer op).1.cbThread = hal.cbThread := by
  cases op with
  | set_preview_window window => exact startDeferred_cbThread hal
  | get_parameters => cases answer <;> rfl
  | _ => rfl

/-- The second half calls and returns the same. -/
theorem leave_alike {op : Op} {answer : Reply}
    (hreads : ReadsOwn hal own (some op) (.finish answer now)) :
    (leave hal now answer op).2 = (leave own now answer op).2 := by
  cases op with
  | set_preview_window window =>
      have hsame := hreads window rfl
      rw [leave, leave, startDeferred, startDeferred, hsame]
      split <;> rfl
  | get_parameters => cases answer <;> rfl
  | _ => rfl

theorem wrappedCb_alike {message : WorkerMessage} (hthread : hal.cbThread.m_thread = true)
    (hthread' : own.cbThread.m_thread = true)
    (hreads : ReadsOwn hal own executing (.callback message now)) :
    ∃ hal' own', wrappedCb hal message now = some hal' ∧ wrappedCb own message now = some own'
      ∧ ((hal'.cbThread = hal.cbThread ∧ own'.cbThread = own.cbThread)
        ∨ (hal'.cbThread = push hal.cbThread (.MSG_EXECUTE_CALLBACK message) now
          ∧ own'.cbThread = push own.cbThread (.MSG_EXECUTE_CALLBACK message) now)) := by
  have hsame : hal.BlockCbs = 1 ↔ own.BlockCbs = 1 := hreads
  by_cases hblock : hal.BlockCbs = 1
  · refine ⟨hal, own, ?_, ?_, Or.inl ⟨rfl, rfl⟩⟩
    · rw [wrappedCb, if_pos hblock]
    · rw [wrappedCb, if_pos (hsame.mp hblock)]
  · refine ⟨{ hal with cbThread := push hal.cbThread (.MSG_EXECUTE_CALLBACK message) now },
      { own with cbThread := push own.cbThread (.MSG_EXECUTE_CALLBACK message) now }, ?_, ?_,
      Or.inr ⟨rfl, rfl⟩⟩
    · rw [wrappedCb, if_neg hblock, addCallback, if_pos hthread]
      rfl
    · rw [wrappedCb, if_neg (mt hsame.mpr hblock), addCallback, if_pos hthread']
      rfl

end Reads

-- ── A camera and the same camera alone ───────────────────────────────────────

/-- The globals, and those of `d` alone, with the device that is the same. -/
structure Alike (isOpen : Int → Prop) (d : Int) (g own : Globals) (dev : Camera) : Prop where
  proper : Proper isOpen g.origins g.closing g.hal.cbThread
  properOwn : Proper (onlyOpen d dev) own.origins own.closing own.hal.cbThread
  opened : dev.isOpen = true ↔ isOpen d
  tied : Tied d g.origins g.hal.cbThread own.origins own.hal.cbThread
  closing : own.closing = if g.closing = some d then some d else none
  alive : g.aborted = false
  ownAlive : own.aborted = false

/-- An action that is the same alone. -/
structure Moved (isOpen : Int → Prop) (d : Int) (g own : Globals) (dev : Camera)
    (g' own' : Globals) (dev' : Camera) : Prop where
  move : Move d isOpen g.origins g.closing g.hal.cbThread dev'.isOpen
    g'.origins g'.closing g'.hal.cbThread
  moveOwn : Move d (onlyOpen d dev) own.origins own.closing own.hal.cbThread dev'.isOpen
    own'.origins own'.closing own'.hal.cbThread
  tied : Tied d g'.origins g'.hal.cbThread own'.origins own'.hal.cbThread
  closing : own'.closing = if g'.closing = some d then some d else none
  alive : g'.aborted = false
  ownAlive : own'.aborted = false

section Acts

variable {isOpen : Int → Prop} {d : Int} {g g' own own' : Globals} {dev dev' : Camera}
  {hal halOwn : Hal}

theorem set_same (h : posted hal.cbThread.box = posted g.hal.cbThread.box) :
    (g.set d hal).origins = g.origins := by
  show g.origins ++ List.replicate _ d = g.origins
  rw [h, Nat.sub_self]
  exact List.append_nil _

theorem set_push {msg : Msg} {ts : Int} (h : hal.cbThread = push g.hal.cbThread msg ts) :
    (g.set d hal).origins = g.origins ++ [d] := by
  show g.origins ++ List.replicate _ d = g.origins ++ [d]
  rw [h, push, posted_post, List.length_append, Nat.add_sub_cancel_left]
  rfl

theorem opened_only (dev : Camera) (d : Int) : dev.isOpen = true ↔ onlyOpen d dev d :=
  ⟨fun h => ⟨rfl, h⟩, And.right⟩

theorem closing_cases (ha : Alike isOpen d g own dev) :
    own.closing = some d ∨ own.closing = none := by
  rw [ha.closing]
  split
  · exact Or.inl rfl
  · exact Or.inr rfl

/-- Neither worker changes. -/
theorem moved_same (ha : Alike isOpen d g own dev) (hdev : dev'.isOpen = dev.isOpen)
    (h : hal.cbThread = g.hal.cbThread) (h' : halOwn.cbThread = own.hal.cbThread) :
    Moved isOpen d g own dev (g.set d hal) (own.set d halOwn) dev' := by
  have horigins : (g.set d hal).origins = g.origins := set_same (by rw [h])
  have horigins' : (own.set d halOwn).origins = own.origins := set_same (by rw [h'])
  constructor
  case move =>
    rw [horigins, hdev]
    show Move d isOpen _ _ _ _ _ g.closing hal.cbThread
    rw [h]
    exact .same ha.opened
  case moveOwn =>
    rw [horigins', hdev]
    show Move d _ _ _ _ _ _ own.closing halOwn.cbThread
    rw [h']
    exact .same (opened_only dev d)
  case tied =>
    rw [horigins, horigins']
    show Tied d _ hal.cbThread _ halOwn.cbThread
    rw [h, h']
    exact ha.tied
  case closing => exact ha.closing
  case alive => exact ha.alive
  case ownAlive => exact ha.ownAlive

/-- Both get the same message. -/
theorem moved_post (ha : Alike isOpen d g own dev) (hopen : dev.isOpen = true)
    (hdev : dev'.isOpen = dev.isOpen) {msg : Msg} {ts : Int}
    (h : hal.cbThread = push g.hal.cbThread msg ts)
    (h' : halOwn.cbThread = push own.hal.cbThread msg ts) (hmsg : msg ≠ .MSG_EXIT_THREAD) :
    Moved isOpen d g own dev (g.set d hal) (own.set d halOwn) dev' := by
  constructor
  case move =>
    rw [set_push h, hdev]
    show Move d isOpen _ _ _ _ _ g.closing hal.cbThread
    rw [h]
    exact .post ha.opened (ha.opened.mp hopen) msg hmsg ts
  case moveOwn =>
    rw [set_push h', hdev]
    show Move d _ _ _ _ _ _ own.closing halOwn.cbThread
    rw [h']
    exact .post (opened_only dev d) ⟨rfl, hopen⟩ msg hmsg ts
  case tied =>
    rw [set_push h, set_push h']
    show Tied d _ hal.cbThread _ halOwn.cbThread
    rw [h, h']
    exact tied_post ha.tied ha.proper ha.properOwn msg ts
  case closing => exact ha.closing
  case alive => exact ha.alive
  case ownAlive => exact ha.ownAlive

/-- Both are wiped. -/
theorem moved_wipe (ha : Alike isOpen d g own dev) (hopen : dev.isOpen = true)
    (hdev : dev'.isOpen = dev.isOpen)
    (hmine : ∀ m ∈ g.hal.cbThread.box.queue, origin g.origins m = some d)
    (h : hal.cbThread = { g.hal.cbThread with box := wipe g.hal.cbThread.box })
    (h' : halOwn.cbThread = { own.hal.cbThread with box := wipe own.hal.cbThread.box }) :
    Moved isOpen d g own dev (g.set d hal) (own.set d halOwn) dev' := by
  have horigins : (g.set d hal).origins = g.origins := set_same (by
    rw [h]
    exact posted_wipe _)
  have horigins' : (own.set d halOwn).origins = own.origins := set_same (by
    rw [h']
    exact posted_wipe _)
  constructor
  case move =>
    rw [horigins, hdev]
    show Move d isOpen _ _ _ _ _ g.closing hal.cbThread
    rw [h]
    exact .wipe ha.opened (ha.opened.mp hopen) hmine
  case moveOwn =>
    rw [horigins', hdev]
    show Move d _ _ _ _ _ _ own.closing halOwn.cbThread
    rw [h']
    exact .wipe (opened_only dev d) ⟨rfl, hopen⟩ fun m hm =>
      own_messages ha.properOwn (closing_cases ha) m (List.mem_append_right _ hm)
  case tied =>
    rw [horigins, horigins']
    show Tied d _ hal.cbThread _ halOwn.cbThread
    rw [h, h']
    exact tied_wipe ha.tied
  case closing => exact ha.closing
  case alive => exact ha.alive
  case ownAlive => exact ha.ownAlive

theorem openDevice_alike (ha : Alike isOpen d g own dev) {meets : OpenMeets}
    (h : openDevice d g dev meets = some (g', dev')) :
    ∃ own', openDevice d own dev meets = some (own', dev')
      ∧ Moved isOpen d g own dev g' own' dev' := by
  rw [openDevice] at h
  split at h
  · rename_i hfree
    have hclosing : own.closing = none := by
      rw [ha.closing, hfree.2]
      exact if_neg (fun hnone => nomatch hnone)
    have hclosed : ¬isOpen d := by
      rw [← ha.opened, hfree.1]
      exact Bool.false_ne_true
    have hbox : ∀ w : Worker, posted (createThread w).box = posted w.box :=
      fun w => congrArg posted (createThread_box w)
    have horigins : (g.set d (camera2_device_open g.hal)).origins = g.origins :=
      set_same (hbox _)
    have horigins' : (own.set d (camera2_device_open own.hal)).origins = own.origins :=
      set_same (hbox _)
    obtain ⟨rfl, rfl⟩ := Prod.mk.inj (Option.some.inj h)
    refine ⟨own.set d (camera2_device_open own.hal), ?_, ?_⟩
    · rw [openDevice, if_pos ⟨hfree.1, hclosing⟩]
    constructor
    case move =>
      rw [horigins]
      show Move d isOpen _ g.closing _ _ _ g.closing (createThread _)
      rw [hfree.2]
      exact .create hclosed
    case moveOwn =>
      rw [horigins']
      show Move d _ _ own.closing _ _ _ own.closing (createThread _)
      rw [hclosing]
      refine .create ?_
      rw [← opened_only dev d, hfree.1]
      exact Bool.false_ne_true
    case tied =>
      rw [horigins, horigins']
      exact tied_create ha.tied
    case closing => exact ha.closing
    case alive => exact ha.alive
    case ownAlive => exact ha.ownAlive
  · exact nomatch h

theorem beginOp_alike (ha : Alike isOpen d g own dev) {op : Op} {now : Int}
    (hreads : ReadsOwn g.hal own.hal dev.executing (.begin op now))
    (hmine : clears op = true → ∀ m ∈ g.hal.cbThread.box.queue, origin g.origins m = some d)
    (h : beginOp d g dev op now = some (g', dev')) :
    ∃ own', beginOp d own dev op now = some (own', dev')
      ∧ Moved isOpen d g own dev g' own' dev' := by
  rw [beginOp] at h
  split at h
  · rename_i hfree
    obtain ⟨hal, halOwn, control, henter, henter', heffect⟩ :=
      enter_alike (ha.proper.thread d (ha.opened.mp hfree.1)) (ha.properOwn.thread d ⟨rfl, hfree.1⟩)
        hreads
    have hmoved : ∀ dev' : Camera, dev'.isOpen = dev.isOpen →
        Moved isOpen d g own dev (g.set d hal) (own.set d halOwn) dev' := by
      intro dev' hdev
      rcases heffect with ⟨-, hsame, hsame'⟩ | ⟨-, cbs, hpost, hpost'⟩ | ⟨hclears, hwipe, hwipe'⟩
      · exact moved_same ha hdev hsame hsame'
      · exact moved_post ha hfree.1 hdev hpost hpost' fun h => nomatch h
      · exact moved_wipe ha hfree.1 hdev (hmine hclears) hwipe hwipe'
    refine ⟨own.set d halOwn, ?_⟩
    rw [beginOp, if_pos hfree, henter']
    rw [henter] at h
    cases control with
    | calling call =>
        obtain ⟨rfl, rfl⟩ := Prod.mk.inj (Option.some.inj h)
        exact ⟨rfl, hmoved _ rfl⟩
    | returned reply =>
        obtain ⟨rfl, rfl⟩ := Prod.mk.inj (Option.some.inj h)
        exact ⟨rfl, hmoved _ rfl⟩
  · exact nomatch h

theorem finishOp_alike (ha : Alike isOpen d g own dev) {answer : Reply} {now : Int}
    (hreads : ReadsOwn g.hal own.hal dev.executing (.finish answer now))
    (h : finishOp d g dev answer now = some (g', dev')) :
    ∃ own', finishOp d own dev answer now = some (own', dev')
      ∧ Moved isOpen d g own dev g' own' dev' := by
  rw [finishOp] at h
  split at h
  · exact nomatch h
  · rename_i op hexecuting
    rw [hexecuting] at hreads
    obtain ⟨rfl, rfl⟩ := Prod.mk.inj (Option.some.inj h)
    refine ⟨own.set d (leave own.hal now answer op).1, ?_, ?_⟩
    · rw [finishOp, hexecuting]
      dsimp only
      rw [leave_alike hreads]
    · exact moved_same ha rfl (leave_cbThread answer op) (leave_cbThread answer op)

theorem callback_alike (ha : Alike isOpen d g own dev) {message : WorkerMessage} {now : Int}
    (hreads : ReadsOwn g.hal own.hal dev.executing (.callback message now))
    (h : callback d g dev message now = some (g', dev')) :
    ∃ own', callback d own dev message now = some (own', dev')
      ∧ Moved isOpen d g own dev g' own' dev' := by
  rw [callback] at h
  split at h
  · rename_i hopen
    obtain ⟨hal, halOwn, hcall, hcall', heffect⟩ :=
      wrappedCb_alike (ha.proper.thread d (ha.opened.mp hopen)) (ha.properOwn.thread d ⟨rfl, hopen⟩)
        hreads
    rw [hcall] at h
    obtain ⟨rfl, rfl⟩ := Prod.mk.inj (Option.some.inj h)
    refine ⟨own.set d halOwn, ?_, ?_⟩
    · rw [callback, if_pos hopen, hcall']
    · rcases heffect with ⟨hsame, hsame'⟩ | ⟨hpost, hpost'⟩
      · exact moved_same ha rfl hsame hsame'
      · exact moved_post ha hopen rfl hpost hpost' fun h => nomatch h
  · exact nomatch h

theorem takeMessage_alike (ha : Alike isOpen d g own dev)
    (h : takeMessage d g dev = some (g', dev')) :
    ∃ own', takeMessage d own dev = some (own', dev')
      ∧ Moved isOpen d g own dev g' own' dev' := by
  rw [takeMessage] at h
  split at h
  · cases h
  · rename_i m rest hqueue
    split at h
    · rename_i hm
      obtain ⟨w, hw, hg'⟩ := Option.map_eq_some_iff.mp h
      obtain ⟨rfl, rfl⟩ := Prod.mk.inj hg'
      obtain ⟨-, box, htake, rfl⟩ := takeMessage_eq_some hw
      obtain ⟨m', rest', box', hqueue', hm', hrunning', htake', htied⟩ :=
        tied_take ha.properOwn (closing_cases ha) ha.tied hqueue hm htake
      have horigins : (g.set d { g.hal with cbThread := { g.hal.cbThread with box := box } }).origins
          = g.origins := set_same (posted_take htake)
      have horigins' :
          (own.set d { own.hal with cbThread := { own.hal.cbThread with box := box' } }).origins
            = own.origins := set_same (posted_take htake')
      refine ⟨own.set d { own.hal with cbThread := { own.hal.cbThread with box := box' } },
        ?_, ?_⟩
      · rw [takeMessage, hqueue']
        dsimp only
        rw [if_pos hm', CameraCallback.takeMessage, if_pos hrunning', htake']
        rfl
      constructor
      case move =>
        rw [horigins]
        exact .take ha.opened hqueue hm htake
      case moveOwn =>
        rw [horigins']
        exact .take (opened_only dev d) hqueue' hm' htake'
      case tied =>
        rw [horigins, horigins']
        exact htied
      case closing => exact ha.closing
      case alive => exact ha.alive
      case ownAlive => exact ha.ownAlive
    · cases h

theorem workOn_alike (ha : Alike isOpen d g own dev) {now : Int}
    (hreads : ReadsOwn g.hal own.hal dev.executing (.workOn now))
    (h : workOn d g dev now = some (g', dev')) :
    ∃ own', workOn d own dev now = some (own', dev')
      ∧ Moved isOpen d g own dev g' own' dev' := by
  rw [workOn] at h
  split at h
  · cases h
  · rename_i m hhand
    split at h
    · rename_i hm
      obtain ⟨w, hw, hg'⟩ := Option.map_eq_some_iff.mp h
      obtain ⟨rfl, rfl⟩ := Prod.mk.inj hg'
      obtain ⟨-, m₀, hhand₀, rfl⟩ := workOn_eq_some hw
      obtain rfl : m = m₀ := Option.some.inj (hhand.symm.trans hhand₀)
      obtain ⟨m', hhand', hm', hrunning', hmsg, hts⟩ :=
        tied_hand ha.properOwn (closing_cases ha) ha.tied hhand hm
      have horigins :
          (g.set d { g.hal with cbThread := processMessage g.hal.cbThread m now }).origins
            = g.origins := set_same (posted_processMessage _ now)
      have horigins' :
          (own.set d { own.hal with cbThread := processMessage own.hal.cbThread m' now }).origins
            = own.origins := set_same (posted_processMessage _ now)
      refine ⟨own.set d { own.hal with cbThread := processMessage own.hal.cbThread m' now },
        ?_, ?_⟩
      · rw [workOn, hhand']
        dsimp only
        rw [if_pos hm', CameraCallback.workOn, if_pos hrunning', hhand', Option.map_some]
        have hmade := work_alike hmsg hts hreads now
        rw [made, made] at hmade
        rw [hmade]
      constructor
      case move =>
        rw [horigins]
        exact .work ha.opened hhand hm now
      case moveOwn =>
        rw [horigins']
        exact .work (opened_only dev d) hhand' hm' now
      case tied =>
        rw [horigins, horigins']
        exact tied_work ha.tied hmsg now
      case closing => exact ha.closing
      case alive => exact ha.alive
      case ownAlive => exact ha.ownAlive
    · cases h

theorem close_alike (ha : Alike isOpen d g own dev) {now : Int}
    (honly : ∀ e, isOpen e → e = d) (h : close d g dev now = some (g', dev')) :
    ∃ own', close d own dev now = some (own', dev')
      ∧ Moved isOpen d g own dev g' own' dev' := by
  rw [close] at h
  split at h
  · rename_i hfree
    obtain ⟨hopen, hidle, hfree⟩ := hfree
    have hclosing : own.closing = none := by
      rw [ha.closing, hfree]
      exact if_neg (fun hnone => by cases hnone)
    have hexit : exitThread g.hal.cbThread now = push g.hal.cbThread .MSG_EXIT_THREAD now := by
      rw [exitThread, if_pos (ha.proper.thread d (ha.opened.mp hopen))]
    have hexit' : exitThread own.hal.cbThread now
        = push own.hal.cbThread .MSG_EXIT_THREAD now := by
      rw [exitThread, if_pos (ha.properOwn.thread d ⟨rfl, hopen⟩)]
    have horigins : (g.set d (camera2_device_close g.hal now)).origins = g.origins ++ [d] :=
      set_push hexit
    have horigins' : (own.set d (camera2_device_close own.hal now)).origins = own.origins ++ [d] :=
      set_push hexit'
    obtain ⟨rfl, rfl⟩ := Prod.mk.inj (Option.some.inj h)
    refine ⟨{ own.set d (camera2_device_close own.hal now) with closing := some d }, ?_, ?_⟩
    · rw [close, if_pos ⟨hopen, hidle, hclosing⟩]
    constructor
    case move =>
      rw [hfree]
      show Move d isOpen _ _ _ _ (g.set d (camera2_device_close g.hal now)).origins _ _
      rw [horigins]
      exact .close (ha.opened.mp hopen) honly now
    case moveOwn =>
      rw [hclosing]
      show Move d _ _ _ _ _ (own.set d (camera2_device_close own.hal now)).origins _ _
      rw [horigins']
      exact .close ⟨rfl, hopen⟩ (fun _ he => he.1) now
    case tied =>
      show Tied d (g.set d (camera2_device_close g.hal now)).origins (exitThread _ now)
        (own.set d (camera2_device_close own.hal now)).origins (exitThread _ now)
      rw [horigins, horigins', hexit, hexit']
      exact tied_post ha.tied ha.proper ha.properOwn _ now
    case closing => exact (if_pos rfl).symm
    case alive => exact ha.alive
    case ownAlive => exact ha.ownAlive
  · cases h

/-- The join, of a worker that returned: it is not there afterwards. -/
theorem join_cases (h : join d g dev = some (g', dev'))
    (hno : g.hal.cbThread.m_thread = false → g.hal.cbThread.running = false) :
    g.closing = some d ∧ g.hal.cbThread.running = false
      ∧ dev' = { dev with trace := dev.trace ++ [.returned (.int 0)] }
      ∧ g'.origins = g.origins ∧ g'.closing = none ∧ g'.aborted = g.aborted
      ∧ g'.hal.cbThread.box = g.hal.cbThread.box ∧ g'.hal.cbThread.m_thread = false
      ∧ g'.hal.cbThread.running = false := by
  rw [join] at h
  split at h
  · rename_i hclosing
    split at h
    · obtain ⟨w, hw, hg'⟩ := Option.map_eq_some_iff.mp h
      obtain ⟨-, hreturned, rfl⟩ := joinThread_eq_some hw
      obtain ⟨rfl, rfl⟩ := Prod.mk.inj hg'
      exact ⟨hclosing, hreturned, rfl, set_same rfl, rfl, rfl, rfl, rfl, hreturned⟩
    · rename_i hthread
      obtain ⟨rfl, rfl⟩ := Prod.mk.inj (Option.some.inj h)
      have hthread := Bool.eq_false_iff.mpr hthread
      exact ⟨hclosing, hno hthread, rfl, rfl, rfl, rfl, rfl, hthread, hno hthread⟩
  · cases h

/-- A join goes through as soon as the worker returned. -/
theorem join_of_returned (dev : Camera) (hclosing : g.closing = some d)
    (hrunning : g.hal.cbThread.running = false) :
    ∃ g', join d g dev = some (g', { dev with trace := dev.trace ++ [.returned (.int 0)] }) := by
  cases hthread : g.hal.cbThread.m_thread with
  | true =>
      let w := { g.hal.cbThread with m_thread := false }
      refine ⟨{ g.set d { g.hal with cbThread := w } with closing := none }, ?_⟩
      rw [join, if_pos hclosing]
      dsimp only
      rw [if_pos hthread, joinThread, if_pos ⟨hthread, hrunning⟩, Option.map_some]
  | false =>
      refine ⟨{ g with closing := none }, ?_⟩
      rw [join, if_pos hclosing]
      dsimp only
      rw [if_neg (Bool.eq_false_iff.mp hthread)]

theorem join_alike (ha : Alike isOpen d g own dev) (h : join d g dev = some (g', dev')) :
    ∃ own', join d own dev = some (own', dev')
      ∧ Moved isOpen d g own dev g' own' dev' := by
  obtain ⟨hclosing, hreturned, rfl, horigins, hfree, halive, hbox, hthread, hrunning⟩ :=
    join_cases h ha.proper.noThread
  have hclosing' : own.closing = some d := by
    rw [ha.closing, if_pos hclosing]
  -- nothing waits, so that alone nothing waits either, and the worker returned
  have hnone : messages own.hal.cbThread = [] := by
    refine List.eq_nil_iff_forall_not_mem.mpr fun m hm => ?_
    have horigin := own_messages ha.properOwn (closing_cases ha) m hm
    have hsame := tied_messages ha.tied
    rw [ha.proper.returned hreturned] at hsame
    have hmem : (m.msg, m.CallerTS) ∈ mine own.origins d (messages own.hal.cbThread) :=
      List.mem_map_of_mem (List.mem_filter.mpr ⟨hm, decide_eq_true horigin⟩)
    rw [← hsame] at hmem
    exact nomatch hmem
  have hreturned' : own.hal.cbThread.running = false := by
    refine Bool.eq_false_iff.mpr fun hstill => ?_
    obtain ⟨m, hm, -⟩ := ha.properOwn.exits d hclosing' hstill
    rw [hnone] at hm
    exact nomatch hm
  obtain ⟨own', hjoin⟩ := join_of_returned dev hclosing' hreturned'
  obtain ⟨-, -, -, horigins', hfree', halive', hbox', hthread', hrunning'⟩ :=
    join_cases hjoin ha.properOwn.noThread
  refine ⟨own', hjoin, ?_⟩
  constructor
  case move =>
    rw [hclosing, horigins, hfree]
    exact .join ha.opened hbox hthread hrunning hreturned
  case moveOwn =>
    rw [hclosing', horigins', hfree']
    exact .join (opened_only dev d) hbox' hthread' hrunning' hreturned'
  case tied =>
    constructor
    · rw [horigins, horigins', hbox, hbox']
      exact ha.tied.hand
    · rw [horigins, horigins', hbox, hbox']
      exact ha.tied.queue
  case closing =>
    rw [hfree', hfree]
    exact (if_neg fun hnone => nomatch hnone).symm
  case alive => rw [halive, ha.alive]
  case ownAlive => rw [halive', ha.ownAlive]

/-- **SAME ALONE**: an action that reads what is the camera's own and spares the
    others can happen alone, and does the same to the camera. -/
theorem act_alike (ha : Alike isOpen d g own dev) {a : CameraAct}
    (hreads : ReadsOwn g.hal own.hal dev.executing a) (hspares : Spares isOpen d g a)
    (h : cameraAct d g dev a = some (g', dev')) :
    ∃ own', cameraAct d own dev a = some (own', dev')
      ∧ Moved isOpen d g own dev g' own' dev' := by
  have halive : ¬g.aborted = true := Bool.eq_false_iff.mp ha.alive
  have halive' : ¬own.aborted = true := Bool.eq_false_iff.mp ha.ownAlive
  rw [cameraAct.eq_def, if_neg halive] at h
  simp only [cameraAct.eq_def, if_neg halive']
  cases a with
  | openDevice meets => exact openDevice_alike ha h
  | begin op now => exact beginOp_alike ha hreads hspares h
  | finish answer now => exact finishOp_alike ha hreads h
  | callback message now => exact callback_alike ha hreads h
  | takeMessage => exact takeMessage_alike ha h
  | workOn now => exact workOn_alike ha hreads h
  | close now => exact close_alike ha hspares h
  | join => exact join_alike ha h

end Acts

-- ── Every run ────────────────────────────────────────────────────────────────

/-- The camera, and itself alone. -/
def Owned (s : Cameras) (d : Int) (own : Globals × Camera) : Prop :=
  s.locals d = own.2 ∧ Alike (openOnes s) d s.shared own.1 own.2

theorem isolated_of_owned {s : Cameras} {d : Int} {own : Globals × Camera} (h : Owned s d own) :
    Isolated s d own where
  same := h.1
  waiting := tied_messages h.2.tied
  served := by
    intro hopen _
    cases hclosing : s.shared.closing with
    | none => exact h.2.proper.works (h.2.proper.thread d hopen) hclosing
    | some c => exact absurd hopen (h.2.proper.last c hclosing d)
  alive := by
    rw [h.2.alive, h.2.ownAlive]

/-- Who is open after a step. -/
theorem openOnes_update (s : Cameras) (d : Int) (dev : Camera) (g : Globals)
    (done : List (Int × CameraAct)) (e : Int) :
    openAfter d (openOnes s) dev.isOpen e
      ↔ openOnes { shared := g, locals := Function.update s.locals d dev, done := done } e := by
  rw [openAfter]
  show _ ↔ (Function.update s.locals d dev e).isOpen = true
  split
  · rename_i heq
    rw [heq, Function.update_self]
  · rename_i hne
    rw [Function.update_of_ne hne]
    exact Iff.rfl

theorem openAfter_only (d : Int) (dev dev' : Camera) (e : Int) :
    openAfter d (onlyOpen d dev) dev'.isOpen e ↔ onlyOpen d dev' e := by
  rw [openAfter, onlyOpen, onlyOpen]
  split
  · rename_i heq
    exact ⟨fun h => ⟨heq, h⟩, And.right⟩
  · rename_i hne
    exact ⟨fun h => absurd h.1 hne, fun h => absurd h.1 hne⟩

/-- No action of one camera makes another the one that closes. -/
theorem closing_other {isOpen : Int → Prop} {origins origins' : List Int}
    {closing closing' : Option Int} {w w' : Worker} {opened : Bool} {d e : Int} (hne : d ≠ e)
    (h : Move d isOpen origins closing w opened origins' closing' w') :
    closing' = some e ↔ closing = some e := by
  cases h with
  | close hd honly ts =>
      constructor
      · intro hclosing
        exact absurd (Option.some.inj hclosing) hne
      · intro hnone
        exact nomatch hnone
  | join h =>
      constructor
      · intro hnone
        exact nomatch hnone
      · intro hclosing
        exact absurd (Option.some.inj hclosing) hne
  | _ => exact Iff.rfl

/-- **STEP, SELF**: the camera that acts can do so alone. -/
theorem owned_self (s : Cameras) (d : Int) (a : CameraAct) (s' : Cameras)
    (own : Globals × Camera) (halone : alone d s.done = some own) (howned : Owned s d own)
    (hok : KeepsToItself s (d, a)) (h : Isolation.step cameraAct s (d, a) = some s') :
    ∃ own', cameraAct d own.1 own.2 a = some own' ∧ Owned s' d own' := by
  obtain ⟨hsame, ha⟩ := howned
  obtain ⟨g, dev, hact, rfl⟩ := Isolation.step_cases h
  have hreads := hok.2 own halone
  rw [hsame] at hact hreads
  obtain ⟨own', hown', hmoved⟩ := act_alike ha hreads hok.1 hact
  refine ⟨(own', dev), hown', ?_, ?_⟩
  · exact Function.update_self ..
  constructor
  case proper =>
    exact proper_congr (openOnes_update s d dev g _) (proper_move ha.proper hmoved.move)
  case properOwn =>
    exact proper_congr (openAfter_only d own.2 dev) (proper_move ha.properOwn hmoved.moveOwn)
  case opened =>
    rw [← openOnes_update, openAfter, if_pos rfl]
  case tied => exact hmoved.tied
  case closing => exact hmoved.closing
  case alive => exact hmoved.alive
  case ownAlive => exact hmoved.ownAlive

/-- **STEP, OTHERS**: the other cameras notice nothing. -/
theorem owned_other (s : Cameras) (d : Int) (a : CameraAct) (s' : Cameras) (e : Int)
    (own : Globals × Camera)
    (hall : Isolation.Related cameraAct globalsInit cameraInit Owned s) (hne : d ≠ e)
    (howned : Owned s e own) (hok : KeepsToItself s (d, a))
    (h : Isolation.step cameraAct s (d, a) = some s') : Owned s' e own := by
  obtain ⟨acting, halone, hsame, ha⟩ := hall d
  obtain ⟨g, dev, hact, rfl⟩ := Isolation.step_cases h
  have hreads := hok.2 acting halone
  rw [hsame] at hact hreads
  obtain ⟨acting', -, hmoved⟩ := act_alike ha hreads hok.1 hact
  obtain ⟨hsame', ha'⟩ := howned
  refine ⟨?_, ?_⟩
  · show Function.update s.locals d dev e = own.2
    rw [Function.update_of_ne (Ne.symm hne)]
    exact hsame'
  constructor
  case proper =>
    exact proper_congr (openOnes_update s d dev g _) (proper_move ha.proper hmoved.move)
  case properOwn => exact ha'.properOwn
  case opened =>
    rw [← openOnes_update, openAfter, if_neg (Ne.symm hne)]
    exact ha'.opened
  case tied => exact tied_trans (tied_other ha.proper hne hmoved.move) ha'.tied
  case closing =>
    rw [ha'.closing]
    exact (if_congr (closing_other hne hmoved.move) rfl rfl).symm
  case alive => exact hmoved.alive
  case ownAlive => exact ha'.ownAlive

theorem owned_init (d : Int) : Owned camerasInit d (globalsInit, cameraInit) where
  left := rfl
  right :=
    { proper := proper_init fun _ h => nomatch h
      properOwn := proper_init fun _ h => nomatch h.2
      opened := Iff.rfl
      tied := tied_refl d _ _
      closing := rfl
      alive := rfl
      ownAlive := rfl }

/-- **CAMERA ISOLATION**: in every run of any cameras whose steps read of the
    globals what their camera left there and take nothing from the others, each
    camera calls, returns and delivers what it does with the others left out. -/
theorem camera_isolation (acts : List (Int × CameraAct))
    (hok : StepsMeet (Isolation.step cameraAct) KeepsToItself camerasInit acts) :
    Always (Isolation.step cameraAct)
      (fun s => ∀ d, ∃ own, alone d s.done = some own ∧ Isolated s d own) camerasInit acts := by
  intro done rest s hcat hrun d
  have hrelated := Isolation.isolated_of_stepsMeet owned_init owned_self owned_other acts hok
  obtain ⟨own, halone, howned⟩ := hrelated done rest s hcat hrun d
  exact ⟨own, halone, isolated_of_owned howned⟩

/-- An open that meets no obstacle. -/
def meetsAll : OpenMeets :=
  { named := true, check_vendor_module := 0, num_cameras := 2, camera2_device := true,
    vendor_open := 0, camera2_ops := true }

/-- Two cameras, of which one gets a window while the worker takes the functions
    of the other. -/
def quietRun : List (Int × CameraAct) :=
  [(0, .openDevice meetsAll), (1, .openDevice meetsAll),
    (0, .begin (.set_callbacks { NewUserNotifyCb := some 1, NewUserDataCb := some 2 } 3 4 5) 10),
    (1, .begin (.set_preview_window 7) 11), (0, .takeMessage)]

theorem camera_isolation_quiet :
    (run (Isolation.step cameraAct) camerasInit quietRun).isSome = true
      ∧ Always (Isolation.step cameraAct)
        (fun s => ∀ d, ∃ own, alone d s.done = some own ∧ Isolated s d own) camerasInit
        quietRun := by
  refine ⟨rfl, camera_isolation quietRun (stepsMeet_of_forall ?_ camerasInit)⟩
  intro e he s
  simp only [quietRun, List.mem_cons, List.not_mem_nil, or_false] at he
  rcases he with rfl | rfl | rfl | rfl | rfl
  · exact ⟨trivial, fun _ _ => trivial⟩
  · exact ⟨trivial, fun _ _ => trivial⟩
  · exact ⟨fun h : false = true => (nomatch h), fun _ _ => trivial⟩
  · exact ⟨fun h : false = true => (nomatch h), fun _ _ => trivial⟩
  · exact ⟨trivial, fun _ _ => trivial⟩

/-- Camera 0 has a window when camera 1 takes its own away. -/
def windowRun : List (Int × CameraAct) :=
  [(0, .openDevice meetsAll), (1, .openDevice meetsAll),
    (0, .begin (.set_preview_window 7) 0), (0, .finish (.int 0) 1),
    (1, .begin (.set_preview_window 0) 2), (0, .begin .start_preview 3)]

/-- **WINDOW OF THE OTHER**: camera 0, which has a window, defers its preview,
    because camera 1 has none; alone, it would have started it. -/
theorem window_of_the_other :
    ¬Always (Isolation.step cameraAct)
      (fun s => ∀ d, ∃ own, alone d s.done = some own ∧ Isolated s d own) camerasInit
      windowRun := by
  intro h
  obtain ⟨own, halone, hisolated⟩ := h windowRun [] _ (List.append_nil _).symm rfl 0
  obtain rfl := Option.some.inj halone
  have htrace := congrArg Camera.trace hisolated.same
  exact absurd htrace (by decide)

end CameraIsolation

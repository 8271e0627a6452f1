import Universal7580.CameraIsolationProofs
import Universal7580.LifetimeProofs
import Universal7580.StrtolProofs

/-! # Opening a camera (`Camera2Wrapper.cpp`)

    `camera2_device_open` creates the callback worker, gets two blocks of memory
    and a device of the vendor's, and can fail at five places.  Under the label
    `fail` it frees the blocks.  It does not close the vendor's device, and it
    leaves the worker; and without a vendor's module it does not get there.

    The blocks and the vendor's devices are cells of `LifetimeProofs`:
    `blocks_freed_once` has for every run of opens and closes, whatever fails in
    them, that each block is freed once and that the blocks in use are those of
    the open cameras.

    * `failed_open_undone`: when a failed open leaves nothing else behind;
    * `opened_ids`: the ids that the check of the range lets through;
    * `seen_open`: what the model of several cameras has of an open is what
      this one has. -/

namespace CameraOpen

open Run CameraCallback CameraWrapper CameraIsolation Lifetime Strtol

-- ── The code ─────────────────────────────────────────────────────────────────

/-- `wrapper_camera2_device`: its own block, the one of `base.ops`, `id`, and
    which of the vendor's devices `vendor` is. -/
structure Camera where
  camera2_device : Nat
  ops : Nat
  id : Int32
  vendor : Nat
  deriving DecidableEq

/-- The globals, the memory, the vendor's devices, and the cameras that clients
    have.  While `closing`, `camera2_device_close` waits for the worker; it has
    the lock. -/
structure Process where
  hal : Hal
  gVendorModule : Bool
  heap : Cells
  vendors : Cells
  cameras : List Camera
  closing : Bool

def processInit : Process :=
  { hal := halInit
    gVendorModule := false
    heap := Cells.empty
    vendors := Cells.empty
    cameras := []
    closing := false }

/-- What an open meets of the vendor's module and of the memory.  If the vendor
    returns an error, no device of its is open. -/
structure Meets where
  hw_get_module_by_class : Int
  num_cameras : Int32
  camera2_device : Bool
  vendor_open : Int
  camera2_ops : Bool

/-- What an open leaves: its return value, `*device`, and the ids for which the
    vendor's open was called. -/
structure Opened where
  process : Process
  rv : Int
  device : Option Nat
  vendorOpens : List Int32

/-- `check_vendor_module`: what it returns, and `gVendorModule`. -/
def check_vendor_module (gVendorModule : Bool) (rv : Int) : Int × Bool :=
  if gVendorModule = true then (0, true) else (rv, rv == 0)

def malloc (enough : Bool) (heap : Cells) : Option Nat × Cells :=
  if enough = true then (some heap.created, heap.create) else (none, heap)

def free (block : Option Nat) (heap : Cells) : Cells :=
  match block with
  | none => heap
  | some block => heap.release block

/-- The label `fail`. -/
def fail (p : Process) (camera2_device camera2_ops : Option Nat) (rv : Int)
    (vendorOpens : List Int32) : Opened :=
  { process := { p with heap := free camera2_ops (free camera2_device p.heap) }
    rv := rv
    device := none
    vendorOpens := vendorOpens }

/-- From where there is a device of the vendor's. -/
def openOps (p : Process) (camera2_device vendor : Nat) (cameraid : Int32) (meets : Meets) :
    Opened :=
  match malloc meets.camera2_ops p.heap with
  | (none, _) => fail p (some camera2_device) none (-ENOMEM) [cameraid]
  | (some camera2_ops, heap) =>
      let camera : Camera :=
        { camera2_device := camera2_device, ops := camera2_ops, id := cameraid, vendor := vendor }
      { process := { p with heap := heap, cameras := camera :: p.cameras }
        rv := 0
        device := some camera2_device
        vendorOpens := [cameraid] }

/-- From where there is a vendor's module. -/
def openNamed (p : Process) (cameraid : Int32) (meets : Meets) : Opened :=
  if cameraid > meets.num_cameras then fail p none none (-EINVAL) []
  else
    match malloc meets.camera2_device p.heap with
    | (none, _) => fail p none none (-ENOMEM) []
    | (some camera2_device, heap) =>
        let p := { p with heap := heap.use camera2_device }
        if meets.vendor_open ≠ 0 then
          fail p (some camera2_device) none meets.vendor_open [cameraid]
        else
          openOps { p with vendors := p.vendors.create } camera2_device p.vendors.created cameraid
            meets

/-- `camera2_device_open`, with `*device` before it. -/
def camera2_device_open (LONG_BIT : Nat) (p : Process) (name : Option (List Char))
    (device : Option Nat) (meets : Meets) : Opened :=
  let p := { p with hal := CameraWrapper.camera2_device_open p.hal }
  match name with
  | none => { process := p, rv := 0, device := device, vendorOpens := [] }
  | some name =>
      let checked := check_vendor_module p.gVendorModule meets.hw_get_module_by_class
      let p := { p with gVendorModule := checked.2 }
      if checked.1 ≠ 0 then { process := p, rv := -EINVAL, device := device, vendorOpens := [] }
      else openNamed p (atoi LONG_BIT name) meets

/-- What `camera2_device_close` does to the camera. -/
def closeCamera (p : Process) (camera : Camera) : Process :=
  { p with
    vendors := p.vendors.release camera.vendor
    heap := ((p.heap.use camera.camera2_device).release camera.ops).release camera.camera2_device
    cameras := p.cameras.erase camera }

/-- `camera2_device_close`, up to the join; a null pointer is `none`. -/
def camera2_device_close (p : Process) (camera : Option Camera) (now : Int) : Process :=
  let p := match camera with
    | none => p
    | some camera => closeCamera p camera
  { p with hal := CameraWrapper.camera2_device_close p.hal now, closing := true }

/-- The end of `ExitThread`, and the return. -/
def join (p : Process) : Option Process :=
  if p.hal.cbThread.m_thread = true then
    (joinThread p.hal.cbThread).map fun cbThread =>
      { p with hal := { p.hal with cbThread := cbThread }, closing := false }
  else some { p with closing := false }

-- ── Runs ─────────────────────────────────────────────────────────────────────

/-- Calls of the camera service, steps of the worker and of those who use it,
    and what operations of the cameras make of the other globals. -/
inductive Act where
  | openDevice (name : Option (List Char)) (device : Option Nat) (meets : Meets)
  | close (camera : Option Camera) (now : Int)
  | join
  | worker (a : CameraCallback.Act)
  | globals (hal : Hal)

/-- Only a close ends the worker. -/
def endsWorker : CameraCallback.Act → Bool
  | .exitThread _ => true
  | .joinThread => true
  | _ => false

def step (LONG_BIT : Nat) (p : Process) : Act → Option Process
  | .openDevice name device meets =>
      if p.closing = true then none
      else some (camera2_device_open LONG_BIT p name device meets).process
  | .close camera now =>
      if p.closing = true ∨ ¬∀ c ∈ camera, c ∈ p.cameras then none
      else some (camera2_device_close p camera now)
  | .join => if p.closing = true then join p else none
  | .worker a =>
      if endsWorker a = true then none
      else (CameraCallback.step p.hal.cbThread a).map fun cbThread =>
        { p with hal := { p.hal with cbThread := cbThread } }
  | .globals hal => some { p with hal := { hal with cbThread := p.hal.cbThread } }

-- ── The exits ────────────────────────────────────────────────────────────────

/-- With the first block, which `memset` writes to. -/
def Process.allocated (p : Process) : Process :=
  { p with heap := p.heap.create.use p.heap.created }

/-- With the vendor's device as well. -/
def Process.vendorOpened (p : Process) : Process :=
  { p.allocated with vendors := p.vendors.create }

/-- The camera that an open makes. -/
def Process.newCamera (p : Process) (id : Int32) : Camera :=
  { camera2_device := p.heap.created
    ops := p.heap.created + 1
    id := id
    vendor := p.vendors.created }

/-- The ways in which `openNamed` ends, with what each of them leaves. -/
inductive Exit (p : Process) (id : Int32) (meets : Meets) : Opened → Prop where
  | outOfRange (hbeyond : id > meets.num_cameras) :
      Exit p id meets (fail p none none (-EINVAL) [])
  | noDevice (hid : ¬id > meets.num_cameras) (hdevice : meets.camera2_device = false) :
      Exit p id meets (fail p none none (-ENOMEM) [])
  | refused (hid : ¬id > meets.num_cameras) (hdevice : meets.camera2_device = true)
      (hrv : meets.vendor_open ≠ 0) :
      Exit p id meets (fail p.allocated (some p.heap.created) none meets.vendor_open [id])
  | noOps (hid : ¬id > meets.num_cameras) (hdevice : meets.camera2_device = true)
      (hrv : meets.vendor_open = 0) (hops : meets.camera2_ops = false) :
      Exit p id meets (fail p.vendorOpened (some p.heap.created) none (-ENOMEM) [id])
  | opened (hid : ¬id > meets.num_cameras) (hdevice : meets.camera2_device = true)
      (hrv : meets.vendor_open = 0) (hops : meets.camera2_ops = true) :
      Exit p id meets
        { process := { p.vendorOpened with
            heap := p.allocated.heap.create
            cameras := p.newCamera id :: p.cameras }
          rv := 0
          device := some p.heap.created
          vendorOpens := [id] }

theorem openNamed_exit (p : Process) (id : Int32) (meets : Meets) :
    Exit p id meets (openNamed p id meets) := by
  rw [openNamed]
  split
  · rename_i hbeyond
    exact .outOfRange hbeyond
  rename_i hid
  rw [malloc]
  cases hdevice : meets.camera2_device with
  | false => exact .noDevice hid hdevice
  | true =>
      show Exit p id meets (if _ then _ else _)
      split
      · rename_i hrv
        exact .refused hid hdevice hrv
      · rename_i hrv
        have hzero : meets.vendor_open = 0 := not_not.mp hrv
        rw [openOps, malloc]
        cases hops : meets.camera2_ops with
        | false => exact .noOps hid hdevice hzero hops
        | true => exact .opened hid hdevice hzero hops

-- ── What a failed open leaves ────────────────────────────────────────────────

def WorkerRuns (w : Worker) : Prop := w.m_thread = true ∧ w.running = true

/-- **UNDONE**: no pointer, no device of the vendor's and no block is left, and
    the worker is there for the other cameras, if there are any. -/
structure Undone (p : Process) (o : Opened) : Prop where
  pointer : o.device = none
  vendor : ∀ v, o.process.vendors.Live v ↔ p.vendors.Live v
  freed : ∀ r, o.process.heap.Live r ↔ p.heap.Live r
  worker : WorkerRuns o.process.hal.cbThread ↔ o.process.cameras ≠ []

/-- An error is undone, and the vendor is asked for its cameras only. -/
structure FailedOpenUndone (p : Process) (num_cameras : Int32) (o : Opened) : Prop where
  undone : o.rv ≠ 0 → Undone p o
  inRange : ∀ id ∈ o.vendorOpens, 0 ≤ id ∧ id < num_cameras

def ModuleMissing (p : Process) (meets : Meets) : Prop :=
  p.gVendorModule = false ∧ meets.hw_get_module_by_class ≠ 0

/-- The vendor's open will be called. -/
def ReachesVendor (p : Process) (meets : Meets) (id : Int32) : Prop :=
  ¬ModuleMissing p meets ∧ ¬id > meets.num_cameras ∧ meets.camera2_device = true

/-- The vendor's open will succeed. -/
def GetsVendor (p : Process) (meets : Meets) (id : Int32) : Prop :=
  ReachesVendor p meets id ∧ meets.vendor_open = 0

/-- When a failed open leaves nothing behind: there is another camera for the
    worker, `*device` was a null pointer where it is not set, the last block is
    not what is missing, and the id that the name spells is one of a camera. -/
structure Tidy (p : Process) (device : Option Nat) (meets : Meets) (id : Int32) : Prop where
  pointer : ModuleMissing p meets → device = none
  worker : ¬(GetsVendor p meets id ∧ meets.camera2_ops = true) → p.cameras ≠ []
  vendor : GetsVendor p meets id → meets.camera2_ops = true
  inRange : ReachesVendor p meets id → 0 ≤ id ∧ id < meets.num_cameras

/-- Without a name nothing can fail. -/
def UndoneWhen (LONG_BIT : Nat) (p : Process) (name : Option (List Char)) (device : Option Nat)
    (meets : Meets) : Prop :=
  ∀ s, name = some s → Tidy p device meets (atoi LONG_BIT s)

-- ── The cells of a process ───────────────────────────────────────────────────

def Camera.blocks (c : Camera) : List Nat := [c.camera2_device, c.ops]

def blocks (cameras : List Camera) : List Nat := cameras.flatMap Camera.blocks

/-- The worker that was created is there, unless a close waits for it; no
    message to exit is left over. -/
structure Manned (closing : Bool) (w : Worker) : Prop where
  works : closing = false → w.m_thread = true → w.running = true
  noThread : w.m_thread = false → w.running = false
  stays : closing = false ∨ w.running = false → ∀ m ∈ messages w, ¬IsExit m

/-- The blocks in use are those of the cameras, and each camera has a device of
    the vendor's for itself. -/
structure Inv (p : Process) : Prop where
  heap : Proper p.heap (· ∈ blocks p.cameras)
  apart : (blocks p.cameras).Nodup
  vendors : Proper p.vendors p.vendors.Live
  lent : ∀ c ∈ p.cameras, p.vendors.Live c.vendor
  single : (p.cameras.map Camera.vendor).Nodup
  manned : Manned p.closing p.hal.cbThread

theorem inv_init : Inv processInit where
  heap := proper_empty (fun _ h => nomatch h)
  apart := List.nodup_nil
  vendors := proper_empty (fun r h => absurd h.1 (Nat.not_lt_zero r))
  lent := fun _ h => nomatch h
  single := List.nodup_nil
  manned :=
    { works := fun _ h => nomatch h
      noThread := fun _ => rfl
      stays := fun _ _ h => nomatch h }

-- ── The worker ───────────────────────────────────────────────────────────────

section Worker

variable {closing : Bool} {w w' : Worker}

theorem runs_createThread (h : Manned false w) : WorkerRuns (createThread w) := by
  rw [createThread]
  split
  · rename_i hthread
    exact ⟨hthread, h.works rfl hthread⟩
  · exact ⟨rfl, rfl⟩

theorem manned_create (h : Manned false w) : Manned false (createThread w) := by
  have hruns := runs_createThread h
  refine ⟨fun _ _ => hruns.2, ?_, ?_⟩
  · intro hthread
    exact nomatch hruns.1.symm.trans hthread
  · intro _ m hm
    rw [messages, createThread_box] at hm
    exact h.stays (Or.inl rfl) m hm

theorem manned_exit (h : Manned false w) (now : Int) : Manned true (exitThread w now) := by
  rw [exitThread]
  split
  · rename_i hthread
    have hrunning := h.works rfl hthread
    refine ⟨(fun hclosing => by cases hclosing), ?_, ?_⟩
    · intro hnone
      cases hthread.symm.trans hnone
    · rintro (hclosing | hreturned)
      · cases hclosing
      · cases hrunning.symm.trans hreturned
  · exact ⟨(fun hclosing => by cases hclosing), h.noThread, fun _ => h.stays (Or.inl rfl)⟩

/-- With the worker returned, the close is over. -/
theorem manned_closed (h : Manned true w) (hreturned : w.running = false)
    (hthread : w'.m_thread = false) (hrunning : w'.running = w.running) (hbox : w'.box = w.box) :
    Manned false w' := by
  refine ⟨?_, fun _ => hrunning.trans hreturned, ?_⟩
  · intro _ hthere
    exact nomatch hthere.symm.trans hthread
  · intro _ m hm
    rw [messages, hbox] at hm
    exact h.stays (Or.inr hreturned) m hm

theorem manned_push (h : Manned closing w) {msg : Msg} (hmsg : msg ≠ .MSG_EXIT_THREAD) (ts : Int) :
    Manned closing (push w msg ts) := by
  refine ⟨h.works, h.noThread, ?_⟩
  intro hquiet m hm
  rw [messages_push] at hm
  rcases List.mem_append.mp hm with hold | hnew
  · exact h.stays hquiet m hold
  · rw [List.mem_singleton.mp hnew]
    exact hmsg

theorem manned_work (h : Manned closing w) {m : ThreadMsg} (hhand : w.box.hand = some m)
    (now : Int) : Manned closing (processMessage w m now) := by
  have hmem : ∀ m' ∈ m :: w.box.queue, m' ∈ messages w := by
    intro m' hm'
    rw [messages, hhand]
    exact hm'
  have hthread := processMessage_m_thread w m now
  rcases processMessage_cases w m now with ⟨hexit, hreturned, hbox⟩ | ⟨-, hrun, hbox, -⟩
  · -- only a close has an exit message in the queue
    have hclosing : closing = true := by
      cases closing with
      | true => rfl
      | false => exact absurd hexit (h.stays (Or.inl rfl) m (hmem m List.mem_cons_self))
    refine ⟨?_, fun _ => hreturned, ?_⟩
    · intro hopen
      cases hclosing.symm.trans hopen
    · intro _ m' hm'
      rw [messages, hbox] at hm'
      cases hm'
  · refine ⟨?_, ?_, ?_⟩
    · rw [hthread, hrun]
      exact h.works
    · rw [hthread, hrun]
      exact h.noThread
    · rw [hrun]
      intro hquiet m' hm'
      rw [messages, hbox] at hm'
      exact h.stays hquiet m' (hmem m' (List.mem_cons_of_mem m hm'))

/-- A step of the worker, or of who uses it. -/
theorem manned_step {a : CameraCallback.Act} (h : Manned closing w) (ha : endsWorker a = false)
    (hstep : CameraCallback.step w a = some w') : Manned closing w' := by
  cases a with
  | addCallback data ts =>
      obtain ⟨-, rfl⟩ := addCallback_eq_some hstep
      refine manned_push h ?_ ts
      exact fun hmsg => by cases hmsg
  | setCallbacks data ts =>
      obtain ⟨-, rfl⟩ := setCallbacks_eq_some hstep
      refine manned_push h ?_ ts
      exact fun hmsg => by cases hmsg
  | clearCallbacks =>
      obtain ⟨-, rfl⟩ := clearCallbacks_eq_some hstep
      exact ⟨h.works, h.noThread, fun hquiet m hm => h.stays hquiet m (messages_wipe hm)⟩
  | exitThread ts => cases ha
  | joinThread => cases ha
  | takeMessage =>
      obtain ⟨-, box, htake, rfl⟩ := takeMessage_eq_some hstep
      refine ⟨h.works, h.noThread, ?_⟩
      rw [messages_take htake]
      exact h.stays
  | workOn now =>
      obtain ⟨-, m, hhand, rfl⟩ := workOn_eq_some hstep
      exact manned_work h hhand now

end Worker

-- ── Memory ───────────────────────────────────────────────────────────────────

section Memory

variable {heap : Cells} {rs : List Nat} {p q : Process} {meets : Meets} {id : Int32}
  {device : Option Nat}

theorem proper_first (h : Proper heap (· ∈ rs)) :
    Proper (heap.create.use heap.created) (· ∈ heap.created :: rs) := by
  have hnew := proper_create_cons h
  rw [use_of_owned hnew List.mem_cons_self]
  exact hnew

/-- The first block is freed again. -/
theorem proper_undone (h : Proper heap (· ∈ rs)) :
    Proper ((heap.create.use heap.created).release heap.created) (· ∈ rs) :=
  proper_release_cons (proper_first h) (proper_fresh h)

theorem live_undone (h : Proper heap (· ∈ rs)) (r : Nat) :
    ((heap.create.use heap.created).release heap.created).Live r ↔ heap.Live r :=
  ((proper_undone h).live r).symm.trans (h.live r)

/-- Which process an open starts from, and which one a failure leaves. -/
theorem fail_undone_iff {camera2_device camera2_ops : Option Nat} {rv : Int} {ids : List Int32}
    {num_cameras : Int32} (hrv : rv ≠ 0) (hvendors : q.vendors = p.vendors)
    (hcameras : q.cameras = p.cameras) (hruns : WorkerRuns q.hal.cbThread)
    (hheap : ∀ r, (free camera2_ops (free camera2_device q.heap)).Live r ↔ p.heap.Live r) :
    FailedOpenUndone p num_cameras (fail q camera2_device camera2_ops rv ids)
      ↔ p.cameras ≠ [] ∧ ∀ id ∈ ids, 0 ≤ id ∧ id < num_cameras := by
  constructor
  · intro h
    refine ⟨?_, h.inRange⟩
    rw [← hcameras]
    exact (h.undone hrv).worker.mp hruns
  · rintro ⟨hothers, hrange⟩
    refine ⟨fun _ => ⟨rfl, ?_, hheap, ?_⟩, hrange⟩
    · intro v
      show q.vendors.Live v ↔ p.vendors.Live v
      rw [hvendors]
    · rw [← hcameras] at hothers
      exact iff_of_true hruns hothers

/-- Without the second block the vendor's device stays open. -/
theorem noOps_not_undone (h : Proper p.vendors p.vendors.Live) {camera2_device : Option Nat}
    {num_cameras : Int32} {ids : List Int32} (hvendors : q.vendors = p.vendors.create) :
    ¬FailedOpenUndone p num_cameras (fail q camera2_device none (-ENOMEM) ids) := by
  intro hundone
  have herror : -ENOMEM ≠ 0 := by decide
  have hvendor := (hundone.undone herror).vendor p.vendors.created
  have hlive : q.vendors.Live p.vendors.created := by
    rw [hvendors]
    exact ((proper_create h (fun _ => Iff.rfl)).live _).mp (Or.inr rfl)
  exact Nat.lt_irrefl _ (hvendor.mp hlive).1

theorem tidy_iff_of_not_reaches (hmodule : ¬ModuleMissing p meets)
    (h : ¬ReachesVendor p meets id) : Tidy p device meets id ↔ p.cameras ≠ [] := by
  constructor
  · intro htidy
    exact htidy.worker fun hgets => h hgets.1.1
  · intro hothers
    exact
      { pointer := fun hmissing => absurd hmissing hmodule
        worker := fun _ => hothers
        vendor := fun hgets => absurd hgets.1 h
        inRange := fun hreaches => absurd hreaches h }

theorem tidy_iff_of_refused (h : ReachesVendor p meets id) (hrv : meets.vendor_open ≠ 0) :
    Tidy p device meets id ↔ p.cameras ≠ [] ∧ 0 ≤ id ∧ id < meets.num_cameras := by
  constructor
  · intro htidy
    exact ⟨htidy.worker fun hgets => hrv hgets.1.2, htidy.inRange h⟩
  · rintro ⟨hothers, hrange⟩
    exact
      { pointer := fun hmissing => absurd hmissing h.1
        worker := fun _ => hothers
        vendor := fun hgets => absurd hgets.2 hrv
        inRange := fun _ => hrange }

theorem tidy_iff_of_opened (h : GetsVendor p meets id) (hops : meets.camera2_ops = true) :
    Tidy p device meets id ↔ 0 ≤ id ∧ id < meets.num_cameras := by
  constructor
  · intro htidy
    exact htidy.inRange h.1
  · intro hrange
    exact
      { pointer := fun hmissing => absurd hmissing h.1.1
        worker := fun hnot => absurd ⟨h, hops⟩ hnot
        vendor := fun _ => hops
        inRange := fun _ => hrange }

/-- From where there is a vendor's module, one exit after the other. -/
theorem openNamed_undone_iff (h : Inv p) (hmodule : ¬ModuleMissing p meets)
    (hheap : q.heap = p.heap) (hvendors : q.vendors = p.vendors) (hcameras : q.cameras = p.cameras)
    (hruns : WorkerRuns q.hal.cbThread) :
    FailedOpenUndone p meets.num_cameras (openNamed q id meets) ↔ Tidy p device meets id := by
  have hnone : ∀ r, (free none (free none q.heap)).Live r ↔ p.heap.Live r := by
    intro r
    rw [free, free, hheap]
  have hexit := openNamed_exit q id meets
  generalize openNamed q id meets = o at hexit ⊢
  cases hexit with
  | outOfRange hbeyond =>
      rw [tidy_iff_of_not_reaches hmodule fun hreaches => hreaches.2.1 hbeyond,
        fail_undone_iff (by decide) hvendors hcameras hruns hnone]
      exact and_iff_left fun _ hmem => nomatch hmem
  | noDevice _ hdevice =>
      have hnot : ¬ReachesVendor p meets id := fun hreaches =>
        nomatch hdevice.symm.trans hreaches.2.2
      rw [tidy_iff_of_not_reaches hmodule hnot,
        fail_undone_iff (by decide) hvendors hcameras hruns hnone]
      exact and_iff_left fun _ hmem => nomatch hmem
  | refused hid hdevice hrv =>
      rw [tidy_iff_of_refused ⟨hmodule, hid, hdevice⟩ hrv]
      refine Iff.trans (fail_undone_iff hrv ?_ ?_ ?_ ?_) ?_
      · exact hvendors
      · exact hcameras
      · exact hruns
      · intro r
        show ((q.heap.create.use q.heap.created).release q.heap.created).Live r ↔ _
        rw [hheap]
        exact live_undone h.heap r
      · rw [List.forall_mem_singleton]
  | noOps hid hdevice hrv hops =>
      refine iff_of_false ?_ fun htidy => ?_
      · refine noOps_not_undone h.vendors ?_
        show q.vendors.create = p.vendors.create
        rw [hvendors]
      · exact nomatch hops.symm.trans (htidy.vendor ⟨⟨hmodule, hid, hdevice⟩, hrv⟩)
  | opened hid hdevice hrv hops =>
      rw [tidy_iff_of_opened ⟨⟨hmodule, hid, hdevice⟩, hrv⟩ hops]
      constructor
      · intro hundone
        exact hundone.inRange id List.mem_cons_self
      · intro hrange
        refine ⟨fun herror => absurd rfl herror, ?_⟩
        intro id' hid'
        rw [List.mem_singleton.mp hid']
        exact hrange

theorem check_vendor_module_ne (gVendorModule : Bool) (rv : Int) :
    (check_vendor_module gVendorModule rv).1 ≠ 0 ↔ gVendorModule = false ∧ rv ≠ 0 := by
  cases gVendorModule with
  | true => exact iff_of_false (fun h => h rfl) fun h => nomatch h.1
  | false => exact (and_iff_right rfl).symm

/-- An open with the lock free. -/
theorem open_undone_iff (LONG_BIT : Nat) (h : Inv p) (hlock : p.closing = false)
    (name : Option (List Char)) (device : Option Nat) (meets : Meets) :
    FailedOpenUndone p meets.num_cameras (camera2_device_open LONG_BIT p name device meets)
      ↔ UndoneWhen LONG_BIT p name device meets := by
  have hmanned := h.manned
  rw [hlock] at hmanned
  have hruns := runs_createThread hmanned
  cases name with
  | none =>
      refine iff_of_true ⟨fun herror => absurd rfl herror, fun _ hmem => nomatch hmem⟩ ?_
      exact fun _ hname => nomatch hname
  | some s =>
      have hone : UndoneWhen LONG_BIT p (some s) device meets
          ↔ Tidy p device meets (atoi LONG_BIT s) := by
        constructor
        · exact fun hwhen => hwhen s rfl
        · rintro htidy _ ⟨⟩
          exact htidy
      rw [hone]
      show FailedOpenUndone _ _ (if _ then _ else _) ↔ _
      by_cases hmissing : ModuleMissing p meets
      · rw [if_pos ((check_vendor_module_ne ..).mpr hmissing)]
        have hnot : ¬GetsVendor p meets (atoi LONG_BIT s) := fun hgets => hgets.1.1 hmissing
        constructor
        · intro hundone
          have herror : -EINVAL ≠ 0 := by decide
          have hleft := hundone.undone herror
          exact
            { pointer := fun _ => hleft.pointer
              worker := fun _ => hleft.worker.mp hruns
              vendor := fun hgets => absurd hgets hnot
              inRange := fun hreaches => absurd hmissing hreaches.1 }
        · intro htidy
          refine ⟨fun _ => ?_, fun _ hmem => nomatch hmem⟩
          exact
            { pointer := htidy.pointer hmissing
              vendor := fun _ => Iff.rfl
              freed := fun _ => Iff.rfl
              worker := iff_of_true hruns (htidy.worker fun hgets => hnot hgets.1) }
      · rw [if_neg fun hne => hmissing ((check_vendor_module_ne ..).mp hne)]
        exact openNamed_undone_iff h hmissing rfl rfl rfl hruns

end Memory

-- ── Every run ────────────────────────────────────────────────────────────────

section Runs

variable {p p' q : Process} {meets : Meets} {id : Int32}

theorem Inv.congr (h : Inv p) (hheap : q.heap = p.heap) (hvendors : q.vendors = p.vendors)
    (hcameras : q.cameras = p.cameras) (hmanned : Manned q.closing q.hal.cbThread) : Inv q where
  heap := by
    rw [hheap, hcameras]
    exact h.heap
  apart := by
    rw [hcameras]
    exact h.apart
  vendors := by
    rw [hvendors]
    exact h.vendors
  lent := by
    rw [hvendors, hcameras]
    exact h.lent
  single := by
    rw [hcameras]
    exact h.single
  manned := hmanned

/-- With a camera more. -/
theorem inv_opened (h : Inv p) (id : Int32) :
    Inv { p.vendorOpened with
      heap := p.allocated.heap.create
      cameras := p.newCamera id :: p.cameras } := by
  have hvendors := proper_create h.vendors (fun _ => Iff.rfl)
  have hfirst := proper_first h.heap
  -- the blocks of the new camera, the later one first
  have hswap : ((p.heap.created + 1) :: p.heap.created :: blocks p.cameras).Perm
      (blocks (p.newCamera id :: p.cameras)) := List.Perm.swap ..
  constructor
  case heap => exact proper_perm (proper_create_cons hfirst) hswap
  case apart =>
    refine hswap.nodup_iff.mp (List.nodup_cons.mpr ⟨proper_fresh hfirst, ?_⟩)
    exact List.nodup_cons.mpr ⟨proper_fresh h.heap, h.apart⟩
  case vendors => exact proper_self hvendors
  case lent =>
    intro c hc
    refine (hvendors.live c.vendor).mp ?_
    rcases List.mem_cons.mp hc with rfl | hc
    · exact Or.inr rfl
    · exact Or.inl (h.lent c hc)
  case single =>
    refine List.nodup_cons.mpr ⟨?_, h.single⟩
    intro hmem
    obtain ⟨c, hc, hlast⟩ := List.mem_map.mp hmem
    have hlt := (h.lent c hc).1
    rw [hlast] at hlt
    exact absurd hlt (Nat.lt_irrefl _)
  case manned => exact h.manned

/-- The first block was freed again; the vendor's new device may be left. -/
theorem inv_freed (h : Inv p) {vendors : Cells} (hvendors : Proper vendors vendors.Live)
    (hlive : ∀ v, p.vendors.Live v → vendors.Live v) :
    Inv { p with
      heap := (p.heap.create.use p.heap.created).release p.heap.created
      vendors := vendors } where
  heap := proper_undone h.heap
  apart := h.apart
  vendors := hvendors
  lent := fun c hc => hlive c.vendor (h.lent c hc)
  single := h.single
  manned := h.manned

/-- Whichever way it ends. -/
theorem inv_openNamed (h : Inv p) (id : Int32) (meets : Meets) :
    Inv (openNamed p id meets).process := by
  have hcreate := proper_create h.vendors (fun _ => Iff.rfl)
  have hexit := openNamed_exit p id meets
  generalize openNamed p id meets = o at hexit ⊢
  cases hexit with
  | outOfRange _ => exact h
  | noDevice _ _ => exact h
  | refused _ _ _ => exact inv_freed h h.vendors fun _ hv => hv
  | noOps _ _ _ _ =>
      exact inv_freed h (proper_self hcreate) fun v hv => (hcreate.live v).mp (Or.inl hv)
  | opened _ _ _ _ => exact inv_opened h id

theorem inv_open (LONG_BIT : Nat) (h : Inv p) (hlock : p.closing = false)
    (name : Option (List Char)) (device : Option Nat) (meets : Meets) :
    Inv (camera2_device_open LONG_BIT p name device meets).process := by
  have hmanned := h.manned
  rw [hlock] at hmanned
  have hcreate : ∀ gVendorModule, Inv { p with
      hal := CameraWrapper.camera2_device_open p.hal
      gVendorModule := gVendorModule } := by
    intro gVendorModule
    refine h.congr rfl rfl rfl ?_
    show Manned p.closing (createThread p.hal.cbThread)
    rw [hlock]
    exact manned_create hmanned
  cases name with
  | none => exact hcreate p.gVendorModule
  | some s =>
      show Inv (if _ then _ else _ : Opened).process
      split
      · exact hcreate _
      · exact inv_openNamed (hcreate _) _ meets

/-- The camera's blocks are freed, and nobody else's. -/
theorem inv_closeCamera (h : Inv p) {camera : Camera} (hcamera : camera ∈ p.cameras) :
    Inv (closeCamera p camera) := by
  have hperm := List.perm_cons_erase hcamera
  -- the blocks of the camera, the one that is freed first at the head
  have hblocks : (blocks p.cameras).Perm
      (camera.ops :: camera.camera2_device :: blocks (p.cameras.erase camera)) :=
    (hperm.flatMap_right Camera.blocks).trans (List.Perm.swap ..)
  have hheap := proper_perm h.heap hblocks
  obtain ⟨hops, hapart⟩ := List.nodup_cons.mp (hblocks.nodup_iff.mp h.apart)
  obtain ⟨hdevice, hrest⟩ := List.nodup_cons.mp hapart
  have hsingle := (hperm.map Camera.vendor).nodup_iff.mp h.single
  obtain ⟨hother, hothers⟩ := List.nodup_cons.mp hsingle
  have hreleased := proper_release h.vendors (h.lent camera hcamera) (fun _ => Iff.rfl)
  constructor
  case heap =>
    show Proper (((p.heap.use camera.camera2_device).release camera.ops).release
      camera.camera2_device) (· ∈ blocks (p.cameras.erase camera))
    rw [use_of_owned hheap (List.mem_cons_of_mem _ List.mem_cons_self)]
    exact proper_release_cons (proper_release_cons hheap hops) hdevice
  case apart => exact hrest
  case vendors => exact proper_self hreleased
  case lent =>
    intro c hc
    refine (hreleased.live c.vendor).mp ⟨h.lent c (List.mem_of_mem_erase hc), ?_⟩
    intro heq
    exact hother (List.mem_map.mpr ⟨c, hc, heq⟩)
  case single => exact hothers
  case manned => exact h.manned

/-- What a step does keeps the cells and the worker in order. -/
theorem inv_step (LONG_BIT : Nat) (p : Process) (a : Act) (p' : Process) (h : Inv p)
    (hstep : step LONG_BIT p a = some p') : Inv p' := by
  cases a with
  | openDevice name device meets =>
      rw [step] at hstep
      split at hstep
      · cases hstep
      · rename_i hlock
        obtain rfl := Option.some.inj hstep
        exact inv_open LONG_BIT h (Bool.eq_false_iff.mpr hlock) name device meets
  | close camera now =>
      rw [step] at hstep
      split at hstep
      · cases hstep
      · rename_i hallowed
        obtain ⟨hlock, hhas⟩ := not_or.mp hallowed
        obtain rfl := Option.some.inj hstep
        have hmanned := h.manned
        rw [Bool.eq_false_iff.mpr hlock] at hmanned
        cases camera with
        | none => exact h.congr rfl rfl rfl (manned_exit hmanned now)
        | some camera =>
            have hcamera : camera ∈ p.cameras := not_not.mp hhas camera rfl
            exact (inv_closeCamera h hcamera).congr rfl rfl rfl (manned_exit hmanned now)
  | join =>
      rw [step] at hstep
      split at hstep
      · rename_i hclosing
        have hmanned := h.manned
        rw [hclosing] at hmanned
        rw [join] at hstep
        split at hstep
        · obtain ⟨cbThread, hjoin, rfl⟩ := Option.map_eq_some_iff.mp hstep
          obtain ⟨-, hreturned, rfl⟩ := joinThread_eq_some hjoin
          exact h.congr rfl rfl rfl (manned_closed hmanned hreturned rfl rfl rfl)
        · rename_i hthread
          have hnone := Bool.eq_false_iff.mpr hthread
          obtain rfl := Option.some.inj hstep
          exact h.congr rfl rfl rfl
            (manned_closed hmanned (hmanned.noThread hnone) hnone rfl rfl)
      · cases hstep
  | worker a =>
      rw [step] at hstep
      split at hstep
      · cases hstep
      · rename_i ha
        obtain ⟨cbThread, hworker, rfl⟩ := Option.map_eq_some_iff.mp hstep
        exact h.congr rfl rfl rfl (manned_step h.manned (Bool.eq_false_iff.mpr ha) hworker)
  | globals hal =>
      obtain rfl := Option.some.inj hstep
      exact h.congr rfl rfl rfl h.manned

/-- **EVERY RUN** keeps the cells and the worker in order. -/
theorem reached {LONG_BIT : Nat} {done : List Act}
    (hrun : run (step LONG_BIT) processInit done = some p) : Inv p :=
  run_invariant (inv_step LONG_BIT) done inv_init hrun

/-- Whatever fails, no block is used or freed after it was freed, and the blocks
    that were not freed are those of the open cameras. -/
theorem blocks_freed_once {LONG_BIT : Nat} {done : List Act}
    (hrun : run (step LONG_BIT) processInit done = some p) :
    p.heap.misused = false ∧ (∀ r, p.heap.Live r ↔ r ∈ blocks p.cameras)
      ∧ ∀ r, r < p.heap.created → r ∉ blocks p.cameras → p.heap.released.count r = 1 := by
  have hheap := (reached hrun).heap
  exact ⟨hheap.unmisused, fun r => (hheap.live r).symm,
    fun r hr hfree => hheap.count_eq_one hr hfree⟩

end Runs

-- ── Names and ids ────────────────────────────────────────────────────────────

section Names

variable {LONG_BIT : Nat} {p : Process} {meets : Meets} {id : Int32}

theorem openNamed_vendorOpens (p : Process) (id : Int32) (hmemory : meets.camera2_device = true) :
    (openNamed p id meets).vendorOpens = if ¬id > meets.num_cameras then [id] else [] := by
  have hexit := openNamed_exit p id meets
  generalize openNamed p id meets = o at hexit ⊢
  cases hexit with
  | outOfRange hbeyond => exact (if_neg (not_not.mpr hbeyond)).symm
  | noDevice _ hdevice => exact nomatch hdevice.symm.trans hmemory
  | refused hid _ _ => exact (if_pos hid).symm
  | noOps hid _ _ _ => exact (if_pos hid).symm
  | opened hid _ _ _ => exact (if_pos hid).symm

/-- With a module and memory the vendor's open is called for the id that the name
    spells, or for none. -/
theorem vendorOpens_of_module (hmodule : ¬ModuleMissing p meets)
    (hmemory : meets.camera2_device = true) (s : List Char) (device : Option Nat) :
    (camera2_device_open LONG_BIT p (some s) device meets).vendorOpens
      = if ¬atoi LONG_BIT s > meets.num_cameras then [atoi LONG_BIT s] else [] := by
  show (if _ then _ else _ : Opened).vendorOpens = _
  rw [if_neg fun hne => hmodule ((check_vendor_module_ne ..).mp hne),
    openNamed_vendorOpens _ _ hmemory]

/-- **THE RANGE** that is checked: the ids that some name has the vendor opened
    for are all negative ones, those of the cameras, and one more. -/
theorem opened_ids (hbits : 32 ≤ LONG_BIT) (hmodule : ¬ModuleMissing p meets)
    (hmemory : meets.camera2_device = true) (device : Option Nat) :
    (∃ s, id ∈ (camera2_device_open LONG_BIT p (some s) device meets).vendorOpens)
      ↔ id ≤ meets.num_cameras := by
  constructor
  · rintro ⟨s, hid⟩
    rw [vendorOpens_of_module hmodule hmemory] at hid
    split at hid
    · rename_i hrange
      rw [List.mem_singleton.mp hid]
      exact Int32.not_lt.mp hrange
    · exact nomatch hid
  · intro hrange
    refine ⟨decimal id.toInt, ?_⟩
    rw [vendorOpens_of_module hmodule hmemory, atoi_decimal hbits, if_pos (Int32.not_lt.mpr hrange)]
    exact List.mem_cons_self

/-- What an open meets, where only the calls of the vendor matter. -/
def Meets.toOpenMeets (meets : Meets) (named gVendorModule : Bool) : OpenMeets :=
  { named := named
    check_vendor_module := (check_vendor_module gVendorModule meets.hw_get_module_by_class).1
    num_cameras := meets.num_cameras.toInt
    camera2_device := meets.camera2_device
    vendor_open := meets.vendor_open
    camera2_ops := meets.camera2_ops }

/-- What the vendor sees of an open, what is returned, and whether there is one
    camera more. -/
def seen (p : Process) (o : Opened) : List Event × Int × Bool :=
  (o.vendorOpens.map fun _ => .vendorOpen, o.rv,
    decide (o.process.cameras.length = p.cameras.length + 1))

theorem seen_fail {q : Process} (hcameras : q.cameras = p.cameras)
    (camera2_device camera2_ops : Option Nat) (rv : Int) (ids : List Int32) :
    seen p (fail q camera2_device camera2_ops rv ids)
      = (ids.map fun _ => .vendorOpen, rv, false) := by
  have hsame : q.cameras.length ≠ p.cameras.length + 1 := by
    rw [hcameras]
    exact Nat.ne_of_lt (Nat.lt_succ_self _)
  show (_, _, decide (q.cameras.length = p.cameras.length + 1)) = _
  rw [decide_eq_false hsame]
  rfl

theorem seen_openNamed {q : Process} (hcameras : q.cameras = p.cameras) (id : Int32)
    (meets : Meets) {gVendorModule : Bool}
    (hmodule : (check_vendor_module gVendorModule meets.hw_get_module_by_class).1 = 0) :
    openVendor id.toInt (meets.toOpenMeets true gVendorModule) = seen p (openNamed q id meets) := by
  have hgt : id.toInt > meets.num_cameras.toInt ↔ id > meets.num_cameras :=
    Int32.lt_iff_toInt_lt.symm
  have hexit := openNamed_exit q id meets
  generalize openNamed q id meets = o at hexit ⊢
  rw [openVendor]
  simp only [Meets.toOpenMeets, Bool.true_eq_false, if_false, hmodule, ne_eq, not_true_eq_false,
    hgt]
  cases hexit with
  | outOfRange hbeyond =>
      rw [if_pos hbeyond, seen_fail hcameras]
      rfl
  | noDevice hid hdevice =>
      rw [if_neg hid, if_pos hdevice, seen_fail hcameras]
      rfl
  | refused hid hdevice hrv =>
      rw [if_neg hid, hdevice, if_neg (by decide), if_pos hrv, seen_fail]
      · rfl
      · exact hcameras
  | noOps hid hdevice hrv hops =>
      rw [if_neg hid, hdevice, if_neg (by decide), if_neg (not_not.mpr hrv), if_pos hops, seen_fail]
      · rfl
      · exact hcameras
  | opened hid hdevice hrv hops =>
      rw [if_neg hid, hdevice, if_neg (by decide), if_neg (not_not.mpr hrv), hops,
        if_neg (by decide)]
      show _ = (_, _, decide (q.cameras.length + 1 = p.cameras.length + 1))
      rw [hcameras, decide_eq_true rfl]
      rfl

theorem openNamed_hal (p : Process) (id : Int32) (meets : Meets) :
    (openNamed p id meets).process.hal = p.hal := by
  have hexit := openNamed_exit p id meets
  generalize openNamed p id meets = o at hexit ⊢
  cases hexit <;> rfl

/-- The model of several cameras has of an open what the vendor sees, and the
    same globals. -/
theorem seen_open (p : Process) (name : Option (List Char)) (device : Option Nat) (meets : Meets)
    {id : Int32} (hid : ∀ s, name = some s → id = atoi LONG_BIT s) :
    let o := camera2_device_open LONG_BIT p name device meets
    o.process.hal = CameraWrapper.camera2_device_open p.hal
      ∧ openVendor id.toInt (meets.toOpenMeets name.isSome p.gVendorModule) = seen p o := by
  have hsame : decide (p.cameras.length = p.cameras.length + 1) = false :=
    decide_eq_false (Nat.ne_of_lt (Nat.lt_succ_self _))
  cases name with
  | none =>
      refine ⟨rfl, ?_⟩
      show _ = (_, _, decide (p.cameras.length = p.cameras.length + 1))
      rw [hsame]
      rfl
  | some s =>
      rw [hid s rfl]
      show (if _ then _ else _ : Opened).process.hal = _ ∧ _ = seen p (if _ then _ else _)
      split
      · rename_i hmissing
        refine ⟨rfl, ?_⟩
        show _ = (_, _, decide (p.cameras.length = p.cameras.length + 1))
        rw [hsame, openVendor]
        show (if true = false then _ else
          if (check_vendor_module p.gVendorModule meets.hw_get_module_by_class).1 ≠ 0 then _
          else _) = _
        rw [if_neg (by decide : ¬true = false), if_pos hmissing]
        rfl
      · rename_i hmodule
        exact ⟨openNamed_hal _ _ meets, seen_openNamed rfl _ meets (not_not.mp hmodule)⟩

end Names

-- ── The claims about an open ─────────────────────────────────────────────────

/-- **FAILED OPENS**: in whatever state the lock is free, an error is undone and
    the vendor asked for its cameras only, exactly if the open is tidy. -/
theorem failed_open_undone (LONG_BIT : Nat) (done : List Act) (p : Process)
    (hrun : run (step LONG_BIT) processInit done = some p) (hlock : p.closing = false)
    (name : Option (List Char)) (device : Option Nat) (meets : Meets) :
    FailedOpenUndone p meets.num_cameras (camera2_device_open LONG_BIT p name device meets)
      ↔ UndoneWhen LONG_BIT p name device meets :=
  open_undone_iff LONG_BIT (reached hrun) hlock name device meets

/-- Camera 0 of two, with all that an open needs. -/
def meetsAll : Meets :=
  { hw_get_module_by_class := 0
    num_cameras := 2
    camera2_device := true
    vendor_open := 0
    camera2_ops := true }

/-- The first open of camera 0. -/
theorem failed_open_undone_first :
    FailedOpenUndone processInit 2
        (camera2_device_open 64 processInit (some ['0']) none meetsAll)
      ↔ UndoneWhen 64 processInit (some ['0']) none meetsAll :=
  failed_open_undone 64 [] processInit rfl rfl (some ['0']) none meetsAll

/-- With no other camera: the worker is left when the vendor refuses, the
    vendor's device when there is no memory for `base.ops`, and `*device` when
    there is no module; and the third camera of two is opened. -/
theorem open_left_behind :
    ¬FailedOpenUndone processInit 2
        (camera2_device_open 64 processInit (some ['0']) none { meetsAll with vendor_open := -19 })
      ∧ ¬FailedOpenUndone processInit 2
          (camera2_device_open 64 processInit (some ['0']) none
            { meetsAll with camera2_ops := false })
      ∧ ¬FailedOpenUndone processInit 2
          (camera2_device_open 64 processInit (some ['0']) (some 7)
            { meetsAll with hw_get_module_by_class := -2 })
      ∧ ¬FailedOpenUndone processInit 2
          (camera2_device_open 64 processInit (some ['2']) none meetsAll) := by
  refine ⟨fun h => ?_, fun h => ?_, fun h => ?_, fun h => ?_⟩
  · exact (h.undone (by decide)).worker.mp ⟨rfl, rfl⟩ rfl
  · have hvendor := (h.undone (by decide)).vendor 0
    exact absurd (hvendor.mp ⟨by decide, by decide⟩).1 (by decide)
  · exact nomatch (h.undone (by decide)).pointer
  · exact absurd (h.inRange 2 (by decide)) (by decide)

end CameraOpen

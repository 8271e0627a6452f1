import Mathlib.Logic.Function.Basic
import Universal7580.RunProofs

/-! # The lock of a `CameraMetadata`

    `getAndLock` hands out the buffer of an object to be read, and until
    `unlock` the object is to leave that buffer alone.  What says so is a flag
    that each operation has to look at itself.

    Buffers are numbered as they are made.  The content of one, and what the
    `camera_metadata` functions do with it, is a parameter (`Api`), with the
    statuses those functions can return.

    * `Guarded` says what a lock promises of the states, `Refuses` what it
      promises of a call;
    * `Inv` is who owns which buffer; it is kept by a few moves of buffers that
      all operations are made of (`Inv.alloc`, `Inv.setBuffer`, `Inv.free`,
      `Inv.write`);
    * `refuses_iff` says of each operation when it looks at the flags it has to,
      and `lock_kept` what follows for runs. -/

namespace CameraMetadata

open Run

-- ── The `camera_metadata` functions ──────────────────────────────────────────

/-- The status codes of the class. -/
abbrev Status := Int

def ok : Status := 0
def noMemory : Status := -12
def invalidOperation : Status := -38
def badValue : Status := -22

/-- What the `camera_metadata` functions return: `OK`, their `ERROR`, or
    `NOT_FOUND`. -/
inductive Result where
  | ok
  | error
  | notFound
  deriving DecidableEq, Repr

def Result.status : Result → Status
  | .ok => 0
  | .error => 1
  | .notFound => -2

/-- The `camera_metadata` functions, on the contents of buffers; `δ` are the
    data of an entry. -/
structure Api (β δ : Type) where
  allocate : Nat → Nat → β
  clone : β → β
  entryCount : β → Nat
  entryCapacity : β → Nat
  dataCount : β → Nat
  dataCapacity : β → Nat
  sort : β → Result × β
  append : β → β → Result × β
  find : β → UInt32 → Result × Nat
  delete : β → Nat → Result × β
  add : β → UInt32 → δ → Result × β
  update : β → Nat → δ → Result × β
  tagType : UInt32 → Int
  entryDataSize : Int → δ → Nat

-- ── Objects and buffers ──────────────────────────────────────────────────────

/-- A `CameraMetadata`; `none` is a null pointer. -/
structure Obj where
  mBuffer : Option Nat := none
  mLocked : Bool := false
  deriving DecidableEq, Repr

/-- All objects and buffers.  `held` are the buffers that the client owns
    itself, and `pinned` what `getAndLock` returned for the objects that are
    locked, with what was in it then.  A freed buffer keeps its content here. -/
structure State (β : Type) where
  objs : Nat → Obj
  live : Nat → Bool
  content : Nat → β
  allocated : Nat → Bool
  next : Nat
  held : Nat → Bool
  pinned : Nat → Option (Option (Nat × β))

/-- No object and no buffer. -/
def start {β : Type} [Inhabited β] : State β where
  objs := fun _ => {}
  live := fun _ => false
  content := fun _ => default
  allocated := fun _ => false
  next := 0
  held := fun _ => false
  pinned := fun _ => none

variable {β δ : Type}

def State.setBuffer (s : State β) (o : Nat) (buffer : Option Nat) : State β :=
  { s with objs := Function.update s.objs o { s.objs o with mBuffer := buffer } }

def State.free (s : State β) (b : Nat) : State β :=
  { s with allocated := Function.update s.allocated b false }

def State.write (s : State β) (b : Nat) (c : β) : State β :=
  { s with content := Function.update s.content b c }

/-- A new buffer, whose number is `s.next`. -/
def State.alloc (s : State β) (c : β) : State β :=
  { s with
    content := Function.update s.content s.next c
    allocated := Function.update s.allocated s.next true
    next := s.next + 1 }

/-- A buffer passes to the client, or from it. -/
def State.hold (s : State β) (buffer : Option Nat) (mine : Bool) : State β :=
  match buffer with
  | none => s
  | some b => { s with held := Function.update s.held b mine }

def State.born (s : State β) (o : Nat) : State β :=
  { s with live := Function.update s.live o true }

-- ── The operations ───────────────────────────────────────────────────────────

def clear (s : State β) (o : Nat) : State β :=
  if (s.objs o).mLocked then s
  else
    match (s.objs o).mBuffer with
    | none => s
    | some b => (s.free b).setBuffer o none

/-- `release`: the buffer goes to the caller. -/
def release (s : State β) (o : Nat) : State β × Option Nat :=
  if (s.objs o).mLocked then (s, none) else (s.setBuffer o none, (s.objs o).mBuffer)

/-- `acquire(camera_metadata_t *)`. -/
def acquireBuffer (s : State β) (o : Nat) (buffer : Option Nat) : State β :=
  if (s.objs o).mLocked then s else (clear s o).setBuffer o buffer

/-- `acquire(CameraMetadata &)`. -/
def acquire (s : State β) (o other : Nat) : State β :=
  if (s.objs o).mLocked then s
  else
    let r := release s other
    acquireBuffer r.1 o r.2

/-- `clone_camera_metadata`; `memory` says whether there is any. -/
def cloneBuffer (api : Api β δ) (s : State β) (buffer : Option Nat) (memory : Bool) :
    State β × Option Nat :=
  match buffer with
  | none => (s, none)
  | some b => if memory then (s.alloc (api.clone (s.content b)), some s.next) else (s, none)

/-- `operator=(const camera_metadata_t *)`. -/
def assignBuffer (api : Api β δ) (s : State β) (o : Nat) (buffer : Option Nat) (memory : Bool) :
    State β :=
  if (s.objs o).mLocked then s
  else if buffer ≠ (s.objs o).mBuffer then
    let r := cloneBuffer api s buffer memory
    (clear r.1 o).setBuffer o r.2
  else s

/-- `operator=(CameraMetadata &&)`. -/
def assignMove (s : State β) (o other : Nat) : State β :=
  if o ≠ other then
    if (s.objs o).mLocked then s
    else
      let s := clear s o
      (s.setBuffer o (s.objs other).mBuffer).setBuffer other none
  else s

def sort (api : Api β δ) (s : State β) (o : Nat) : State β × Status :=
  match (s.objs o).mBuffer with
  | none => (s, ok)
  | some b =>
      let r := api.sort (s.content b)
      (s.write b r.2, r.1.status)

/-- How much room there is to be for `extra` more: as much as there is, or twice
    what is needed. -/
def newCount (count extra capacity : Nat) : Nat :=
  if count + extra > capacity then (count + extra) * 2 else capacity

def resizeIfNeeded (api : Api β δ) (s : State β) (o : Nat) (extraEntries extraData : Nat)
    (memory : Bool) : State β × Status :=
  match (s.objs o).mBuffer with
  | none =>
      if memory then
        ((s.alloc (api.allocate (extraEntries * 2) (extraData * 2))).setBuffer o (some s.next), ok)
      else (s, noMemory)
  | some b =>
      let c := s.content b
      let newEntryCount := newCount (api.entryCount c) extraEntries (api.entryCapacity c)
      let newDataCount := newCount (api.dataCount c) extraData (api.dataCapacity c)
      if newEntryCount > api.entryCapacity c ∨ newDataCount > api.dataCapacity c then
        if memory then
          let larger := (api.append (api.allocate newEntryCount newDataCount) c).2
          (((s.alloc larger).setBuffer o (some s.next)).free b, ok)
        else (s, noMemory)
      else (s, ok)

/-- `append(const camera_metadata_t *)`.  The result of the resizing is not
    looked at; `append_camera_metadata` fails for a null pointer. -/
def append (api : Api β δ) (s : State β) (o : Nat) (other : Option Nat) (memory : Bool) :
    State β × Status :=
  match other with
  | none => (s, ok)
  | some src =>
      let c := s.content src
      let s := (resizeIfNeeded api s o (api.entryCount c) (api.dataCount c) memory).1
      match (s.objs o).mBuffer with
      | none => (s, Result.error.status)
      | some b =>
          let r := api.append (s.content b) (s.content src)
          (s.write b r.2, r.1.status)

/-- `find_camera_metadata_entry` fails for a null pointer. -/
def erase (api : Api β δ) (s : State β) (o : Nat) (tag : UInt32) : State β × Status :=
  match (s.objs o).mBuffer with
  | none => (s, Result.error.status)
  | some b =>
      match api.find (s.content b) tag with
      | (.notFound, _) => (s, ok)
      | (.error, _) => (s, Result.error.status)
      | (.ok, index) =>
          let r := api.delete (s.content b) index
          (s.write b r.2, r.1.status)

def updateImpl (api : Api β δ) (s : State β) (o : Nat) (tag : UInt32) (data : δ) (memory : Bool) :
    State β × Status :=
  if api.tagType tag = -1 then (s, badValue)
  else
    let r := resizeIfNeeded api s o 1 (api.entryDataSize (api.tagType tag) data) memory
    if r.2 ≠ ok then r
    else
      match (r.1.objs o).mBuffer with
      | none => (r.1, Result.error.status)
      | some b =>
          match api.find (r.1.content b) tag with
          | (.notFound, _) =>
              let w := api.add (r.1.content b) tag data
              (r.1.write b w.2, w.1.status)
          | (.error, _) => (r.1, Result.error.status)
          | (.ok, index) =>
              let w := api.update (r.1.content b) index data
              (r.1.write b w.2, w.1.status)

/-- The body of the six `update`s, which differ in the type of the data. -/
def update (api : Api β δ) (s : State β) (o : Nat) (tag : UInt32) (data : δ) (memory : Bool) :
    State β × Status :=
  if (s.objs o).mLocked then (s, invalidOperation) else updateImpl api s o tag data memory

def getAndLock (s : State β) (o : Nat) : State β × Option Nat :=
  let x := s.objs o
  ({ s with
     objs := Function.update s.objs o { x with mLocked := true }
     pinned :=
       if x.mLocked then s.pinned
       else Function.update s.pinned o (some (x.mBuffer.map fun b => (b, s.content b))) },
   x.mBuffer)

def State.unlocked (s : State β) (o : Nat) : State β :=
  { s with
    objs := Function.update s.objs o { s.objs o with mLocked := false }
    pinned := Function.update s.pinned o none }

def unlock (s : State β) (o : Nat) (buffer : Option Nat) : State β × Status :=
  if (s.objs o).mLocked = false then (s, invalidOperation)
  else if buffer ≠ (s.objs o).mBuffer then (s, badValue)
  else (s.unlocked o, ok)

/-- `~CameraMetadata`. -/
def destroy (s : State β) (o : Nat) : State β :=
  let s := clear (s.unlocked o) o
  { s with live := Function.update s.live o false }

-- ── Steps ────────────────────────────────────────────────────────────────────

/-- What a client can do: the operations, and with buffers of its own.
    `memory` says whether an allocation succeeds. -/
inductive Op (β δ : Type) where
  | new (o : Nat)
  | newCapacity (o entries data : Nat) (memory : Bool)
  | newCopy (o other : Nat) (memory : Bool)
  | newMove (o other : Nat)
  | newBuffer (o : Nat) (buffer : Option Nat)
  | assign (o other : Nat) (memory : Bool)
  | assignMove (o other : Nat)
  | assignBuffer (o : Nat) (buffer : Option Nat) (memory : Bool)
  | destroy (o : Nat)
  | sort (o : Nat)
  | getAndLock (o : Nat)
  | unlock (o : Nat) (buffer : Option Nat)
  | release (o : Nat)
  | clear (o : Nat)
  | acquireBuffer (o : Nat) (buffer : Option Nat)
  | acquire (o other : Nat)
  | append (o other : Nat) (memory : Bool)
  | appendBuffer (o : Nat) (buffer : Option Nat) (memory : Bool)
  | update (o : Nat) (tag : UInt32) (data : δ) (memory : Bool)
  | erase (o : Nat) (tag : UInt32)
  | clientAllocate (c : β)
  | clientFree (b : Nat)

/-- What an operation returns. -/
inductive Reply where
  | nothing
  | status (status : Status)
  | buffer (buffer : Option Nat)
  deriving DecidableEq, Repr

/-- A constructor that ends up with a buffer. -/
def construct (s : State β) (o : Nat) (buffer : Option Nat) : State β :=
  (s.born o).setBuffer o buffer

def exec (api : Api β δ) (s : State β) : Op β δ → State β × Reply
  | .new o => (construct s o none, .nothing)
  | .newCapacity o entries data memory =>
      if memory then (construct (s.alloc (api.allocate entries data)) o (some s.next), .nothing)
      else (construct s o none, .nothing)
  | .newCopy o other memory =>
      let r := cloneBuffer api s (s.objs other).mBuffer memory
      (construct r.1 o r.2, .nothing)
  | .newMove o other =>
      ((construct s o (s.objs other).mBuffer).setBuffer other none, .nothing)
  | .newBuffer o buffer => (construct (s.hold buffer false) o buffer, .nothing)
  | .assign o other memory =>
      (assignBuffer api s o (s.objs other).mBuffer memory, .nothing)
  | .assignMove o other => (CameraMetadata.assignMove s o other, .nothing)
  | .assignBuffer o buffer memory => (CameraMetadata.assignBuffer api s o buffer memory, .nothing)
  | .destroy o => (CameraMetadata.destroy s o, .nothing)
  | .sort o => let r := CameraMetadata.sort api s o; (r.1, .status r.2)
  | .getAndLock o => let r := CameraMetadata.getAndLock s o; (r.1, .buffer r.2)
  | .unlock o buffer => let r := CameraMetadata.unlock s o buffer; (r.1, .status r.2)
  | .release o => let r := CameraMetadata.release s o; (r.1.hold r.2 true, .buffer r.2)
  | .clear o => (CameraMetadata.clear s o, .nothing)
  | .acquireBuffer o buffer =>
      -- a refused buffer stays with the client
      if (s.objs o).mLocked then (CameraMetadata.acquireBuffer s o buffer, .nothing)
      else (CameraMetadata.acquireBuffer (s.hold buffer false) o buffer, .nothing)
  | .acquire o other => (CameraMetadata.acquire s o other, .nothing)
  | .append o other memory =>
      let r := CameraMetadata.append api s o (s.objs other).mBuffer memory
      (r.1, .status r.2)
  | .appendBuffer o buffer memory =>
      let r := CameraMetadata.append api s o buffer memory
      (r.1, .status r.2)
  | .update o tag data memory =>
      let r := CameraMetadata.update api s o tag data memory
      (r.1, .status r.2)
  | .erase o tag => let r := CameraMetadata.erase api s o tag; (r.1, .status r.2)
  | .clientAllocate c => ((s.alloc c).hold (some s.next) true, .buffer (some s.next))
  | .clientFree b => ((s.free b).hold (some b) false, .nothing)

/-- A buffer that the client may give away. -/
def State.owns (s : State β) (buffer : Option Nat) : Bool := buffer.all s.held

/-- What a client has to see to: objects are used from their construction to
    their destruction, and only a buffer of its own is given away or freed. -/
def enabled (s : State β) : Op β δ → Bool
  | .new o | .newCapacity o _ _ _ => !s.live o
  | .newCopy o other _ | .newMove o other => !s.live o && s.live other
  | .newBuffer o buffer => !s.live o && s.owns buffer
  | .assign o other _ | .assignMove o other | .acquire o other | .append o other _ =>
      s.live o && s.live other
  | .assignBuffer o buffer _ | .appendBuffer o buffer _ => s.live o && buffer.all s.allocated
  | .acquireBuffer o buffer => s.live o && s.owns buffer
  | .destroy o | .sort o | .getAndLock o | .unlock o _ | .release o | .clear o
  | .update o _ _ _ | .erase o _ => s.live o
  | .clientAllocate _ => true
  | .clientFree b => s.held b

def step (api : Api β δ) (s : State β) (op : Op β δ) : Option (State β) :=
  if enabled s op then some (exec api s op).1 else none

-- ── What a lock promises ─────────────────────────────────────────────────────

/-- The buffer of a locked object is the one that `getAndLock` returned; it is
    there, with what was in it, and nobody else has it. -/
def Guarded (s : State β) : Prop :=
  ∀ o pin, s.pinned o = some pin →
    s.live o = true ∧ (s.objs o).mBuffer = pin.map Prod.fst ∧
      ∀ b c, pin = some (b, c) → s.allocated b = true ∧ s.content b = c ∧ s.held b = false ∧
        ∀ other, other ≠ o → (s.objs other).mBuffer ≠ some b

/-- The object that an operation is to change. -/
def Op.receiver : Op β δ → Option Nat
  | .assign o _ _ | .assignMove o _ | .assignBuffer o _ _ | .sort o | .release o | .clear o
  | .acquireBuffer o _ | .acquire o _ | .append o _ _ | .appendBuffer o _ _ | .update o _ _ _
  | .erase o _ => some o
  | _ => none

/-- The object that it takes the buffer from. -/
def Op.taken : Op β δ → Option Nat
  | .newMove _ other | .assignMove _ other | .acquire _ other => some other
  | _ => none

/-- What a refusing operation returns. -/
def Op.refusal : Op β δ → Reply
  | .sort _ | .append _ _ _ | .appendBuffer _ _ _ | .update _ _ _ _ | .erase _ _ =>
      .status invalidOperation
  | .release _ => .buffer none
  | _ => .nothing

/-- What it leaves: everything as it was, and a new object without a buffer. -/
def Op.refused (s : State β) : Op β δ → State β
  | .newMove o _ => construct s o none
  | _ => s

/-- An operation that would change a locked object, or take its buffer, is
    refused. -/
def Refuses (api : Api β δ) (s : State β) (op : Op β δ) : Prop :=
  ∀ o, op.receiver = some o ∨ op.taken = some o → (s.objs o).mLocked = true →
    exec api s op = (op.refused s, op.refusal)

/-- The condition on a step: `sort`, `append` and `erase` are not called on a
    locked object, and none that has something to lose is moved from, by an
    object or to one. -/
def Respects (s : State β) : Op β δ → Prop
  | .sort o | .append o _ _ | .appendBuffer o _ _ | .erase o _ => (s.objs o).mLocked = false
  | .newMove _ other => (s.objs other).mLocked = false ∨ (s.objs other).mBuffer = none
  | .assignMove o other =>
      o = other ∨ (s.objs o).mLocked = true ∨ (s.objs other).mLocked = false ∨
        (s.objs o).mBuffer = none ∧ (s.objs other).mBuffer = none
  | .acquire o other =>
      (s.objs o).mLocked = true ∨ (s.objs other).mLocked = false ∨ (s.objs o).mBuffer = none
  | _ => True

-- ── Who owns what ────────────────────────────────────────────────────────────

structure Inv (s : State β) : Prop where
  owned : ∀ o b, (s.objs o).mBuffer = some b →
    s.allocated b = true ∧ s.held b = false ∧ b < s.next
  unique : ∀ o other b, (s.objs o).mBuffer = some b → (s.objs other).mBuffer = some b → o = other
  unborn : ∀ o, s.live o = false → s.objs o = {}
  locked : ∀ o, (s.objs o).mLocked = (s.pinned o).isSome
  pins : ∀ o pin, s.pinned o = some pin →
    pin = (s.objs o).mBuffer.map fun b => (b, s.content b)
  helds : ∀ b, s.held b = true → s.allocated b = true ∧ b < s.next

/-- A buffer that is there and nobody's. -/
def Spare (s : State β) (buffer : Option Nat) : Prop :=
  ∀ b, buffer = some b →
    s.allocated b = true ∧ s.held b = false ∧ b < s.next ∧ ∀ o, (s.objs o).mBuffer ≠ some b

theorem inv_start [Inhabited β] : Inv (start : State β) where
  owned := fun _ _ h => nomatch h
  unique := fun _ _ _ h => nomatch h
  unborn := fun _ _ => rfl
  locked := fun _ => rfl
  pins := fun _ _ h => nomatch h
  helds := fun _ h => nomatch h

/-- Who keeps to the ownership of buffers keeps the promise of a lock. -/
theorem Inv.guarded {s : State β} (h : Inv s) : Guarded s := by
  intro o pin hpin
  have hpins := h.pins o pin hpin
  have hlocked : (s.objs o).mLocked = true := by
    rw [h.locked o, hpin]
    rfl
  refine ⟨?_, ?_, ?_⟩
  · by_contra hlive
    have hunborn := h.unborn o (by simpa using hlive)
    rw [hunborn] at hlocked
    exact nomatch hlocked
  · rw [hpins, Option.map_map]
    exact (Option.map_id' (x := (s.objs o).mBuffer)).symm
  · intro b c hbc
    rw [hbc] at hpins
    obtain ⟨b', hb', heq⟩ := Option.map_eq_some_iff.mp hpins.symm
    obtain ⟨rfl, rfl⟩ := Prod.mk.inj heq
    obtain ⟨halloc, hheld, -⟩ := h.owned o b' hb'
    refine ⟨halloc, rfl, hheld, ?_⟩
    intro other hne hother
    exact hne (h.unique other o b' hother hb')

theorem setBuffer_same {s : State β} {o : Nat} {buffer : Option Nat}
    (h : (s.objs o).mBuffer = buffer) : s.setBuffer o buffer = s := by
  rw [State.setBuffer, ← h]
  show { s with objs := Function.update s.objs o (s.objs o) } = s
  rw [Function.update_eq_self]

theorem setBuffer_comm (s : State β) {o other : Nat} (hne : o ≠ other) (v w : Option Nat) :
    (s.setBuffer o v).setBuffer other w = (s.setBuffer other w).setBuffer o v := by
  simp only [State.setBuffer, Function.update_of_ne hne, Function.update_of_ne hne.symm]
  rw [Function.update_comm hne]

@[simp] theorem setBuffer_self (s : State β) (o : Nat) (v : Option Nat) :
    (s.setBuffer o v).objs o = { s.objs o with mBuffer := v } :=
  Function.update_self ..

theorem setBuffer_other (s : State β) {o other : Nat} (hne : other ≠ o) (v : Option Nat) :
    (s.setBuffer o v).objs other = s.objs other :=
  Function.update_of_ne hne ..

theorem free_allocated (s : State β) (b : Nat) :
    (s.free b).allocated = Function.update s.allocated b false := rfl

theorem hold_held (s : State β) (b : Nat) (mine : Bool) :
    (s.hold (some b) mine).held = Function.update s.held b mine := rfl

theorem born_live (s : State β) (o : Nat) :
    (s.born o).live = Function.update s.live o true := rfl

section Moves

variable {s : State β} {o : Nat}

/-- A fresh buffer, which is nobody's yet. -/
theorem Inv.alloc (h : Inv s) (c : β) : Inv (s.alloc c) where
  owned := by
    intro o b hb
    obtain ⟨halloc, hheld, hlt⟩ := h.owned o b hb
    refine ⟨?_, hheld, Nat.lt_succ_of_lt hlt⟩
    show Function.update s.allocated s.next true b = true
    rw [Function.update_of_ne (Nat.ne_of_lt hlt)]
    exact halloc
  unique := h.unique
  unborn := h.unborn
  locked := h.locked
  pins := by
    intro o pin hpin
    rw [h.pins o pin hpin]
    show (s.objs o).mBuffer.map (fun b => (b, s.content b))
      = (s.objs o).mBuffer.map fun b => (b, Function.update s.content s.next c b)
    cases hb : (s.objs o).mBuffer with
    | none => rfl
    | some b =>
        obtain ⟨-, -, hlt⟩ := h.owned o b hb
        rw [Option.map_some, Option.map_some, Function.update_of_ne (Nat.ne_of_lt hlt)]
  helds := by
    intro b hb
    obtain ⟨halloc, hlt⟩ := h.helds b hb
    refine ⟨?_, Nat.lt_succ_of_lt hlt⟩
    show Function.update s.allocated s.next true b = true
    rw [Function.update_of_ne (Nat.ne_of_lt hlt)]
    exact halloc

theorem spare_alloc (h : Inv s) (c : β) : Spare (s.alloc c) (some s.next) := by
  intro b hb
  obtain rfl := Option.some.inj hb
  refine ⟨Function.update_self .., ?_, Nat.lt_succ_self _, ?_⟩
  · by_contra hheld
    exact Nat.lt_irrefl _ (h.helds s.next (by simpa [State.alloc] using hheld)).2
  · intro o ho
    exact Nat.lt_irrefl _ (h.owned o s.next ho).2.2

/-- An object that is not locked gets a spare buffer, or none. -/
theorem Inv.setBuffer (h : Inv s) {buffer : Option Nat} (hfree : (s.objs o).mLocked = false)
    (hlive : s.live o = true ∨ buffer = none) (hspare : Spare s buffer) :
    Inv (s.setBuffer o buffer) where
  owned := by
    intro p b hb
    by_cases hp : p = o
    · subst hp
      rw [setBuffer_self] at hb
      obtain ⟨halloc, hheld, hlt, -⟩ := hspare b hb
      exact ⟨halloc, hheld, hlt⟩
    · rw [setBuffer_other s hp] at hb
      exact h.owned p b hb
  unique := by
    intro p q b hp hq
    by_cases hpo : p = o
    · by_cases hqo : q = o
      · exact hpo.trans hqo.symm
      · rw [hpo, setBuffer_self] at hp
        rw [setBuffer_other s hqo] at hq
        exact absurd hq ((hspare b hp).2.2.2 q)
    · rw [setBuffer_other s hpo] at hp
      by_cases hqo : q = o
      · rw [hqo, setBuffer_self] at hq
        exact absurd hp ((hspare b hq).2.2.2 p)
      · rw [setBuffer_other s hqo] at hq
        exact h.unique p q b hp hq
  unborn := by
    intro p hdead
    by_cases hp : p = o
    · subst hp
      rw [setBuffer_self, h.unborn p hdead]
      rcases hlive with halive | rfl
      · exact nomatch halive.symm.trans hdead
      · rfl
    · rw [setBuffer_other s hp]
      exact h.unborn p hdead
  locked := by
    intro p
    by_cases hp : p = o
    · subst hp
      rw [setBuffer_self]
      exact h.locked p
    · rw [setBuffer_other s hp]
      exact h.locked p
  pins := by
    intro p pin hpin
    have hne : p ≠ o := by
      rintro rfl
      have hlocked := h.locked p
      rw [hfree, show s.pinned p = some pin from hpin] at hlocked
      exact nomatch hlocked
    rw [setBuffer_other s hne]
    exact h.pins p pin hpin
  helds := h.helds

/-- A buffer that is nobody's is freed. -/
theorem Inv.free (h : Inv s) {b : Nat} (hno : ∀ o, (s.objs o).mBuffer ≠ some b)
    (hheld : s.held b = false) : Inv (s.free b) where
  owned := by
    intro o b' hb'
    obtain ⟨halloc, hh, hlt⟩ := h.owned o b' hb'
    have hne : b' ≠ b := by
      rintro rfl
      exact hno o hb'
    refine ⟨?_, hh, hlt⟩
    rw [free_allocated, Function.update_of_ne hne]
    exact halloc
  unique := h.unique
  unborn := h.unborn
  locked := h.locked
  pins := h.pins
  helds := by
    intro b' hb'
    obtain ⟨halloc, hlt⟩ := h.helds b' hb'
    have hne : b' ≠ b := by
      rintro rfl
      exact nomatch hheld.symm.trans hb'
    refine ⟨?_, hlt⟩
    rw [free_allocated, Function.update_of_ne hne]
    exact halloc

/-- An object that is not locked writes to its buffer. -/
theorem Inv.write (h : Inv s) {b : Nat} (hfree : (s.objs o).mLocked = false)
    (hb : (s.objs o).mBuffer = some b) (c : β) : Inv (s.write b c) where
  owned := h.owned
  unique := h.unique
  unborn := h.unborn
  locked := h.locked
  pins := by
    intro p pin hpin
    rw [h.pins p pin hpin]
    show (s.objs p).mBuffer.map (fun b' => (b', s.content b'))
      = (s.objs p).mBuffer.map fun b' => (b', Function.update s.content b c b')
    cases hp : (s.objs p).mBuffer with
    | none => rfl
    | some b' =>
        have hne : b' ≠ b := by
          rintro rfl
          obtain rfl := h.unique p o b' hp hb
          have hlocked := h.locked p
          rw [hfree, show s.pinned p = some pin from hpin] at hlocked
          exact nomatch hlocked
        rw [Option.map_some, Option.map_some, Function.update_of_ne hne]
  helds := h.helds

theorem Inv.unhold (h : Inv s) (buffer : Option Nat) : Inv (s.hold buffer false) := by
  cases buffer with
  | none => exact h
  | some b =>
      have hheld : ∀ b', (s.hold (some b) false).held b' = true → s.held b' = true := by
        intro b' hb'
        rw [hold_held] at hb'
        by_cases hne : b' = b
        · rw [hne, Function.update_self] at hb'
          exact nomatch hb'
        · rw [Function.update_of_ne hne] at hb'
          exact hb'
      refine ⟨?_, h.unique, h.unborn, h.locked, h.pins, fun b' hb' => h.helds b' (hheld b' hb')⟩
      intro o b' hb'
      obtain ⟨halloc, hh, hlt⟩ := h.owned o b' hb'
      refine ⟨halloc, ?_, hlt⟩
      by_contra htrue
      exact nomatch hh.symm.trans (hheld b' (by simpa using htrue))

/-- The client gives a buffer away. -/
theorem spare_unhold (h : Inv s) {buffer : Option Nat} (hown : s.owns buffer = true) :
    Spare (s.hold buffer false) buffer := by
  intro b hb
  subst hb
  have hheld : s.held b = true := hown
  obtain ⟨halloc, hlt⟩ := h.helds b hheld
  refine ⟨halloc, Function.update_self .., hlt, ?_⟩
  intro o ho
  exact nomatch (h.owned o b ho).2.1.symm.trans hheld

/-- The client gets a spare buffer. -/
theorem Inv.hold (h : Inv s) {buffer : Option Nat} (hspare : Spare s buffer) :
    Inv (s.hold buffer true) := by
  cases buffer with
  | none => exact h
  | some b =>
      obtain ⟨halloc, -, hlt, hno⟩ := hspare b rfl
      refine ⟨?_, h.unique, h.unborn, h.locked, h.pins, ?_⟩
      · intro o b' hb'
        obtain ⟨ha, hh, hl⟩ := h.owned o b' hb'
        have hne : b' ≠ b := by
          rintro rfl
          exact hno o hb'
        refine ⟨ha, ?_, hl⟩
        rw [hold_held, Function.update_of_ne hne]
        exact hh
      · intro b' hb'
        rw [hold_held] at hb'
        by_cases hne : b' = b
        · rw [hne]
          exact ⟨halloc, hlt⟩
        · rw [Function.update_of_ne hne] at hb'
          exact h.helds b' hb'

theorem Inv.born (h : Inv s) (o : Nat) : Inv (s.born o) where
  owned := h.owned
  unique := h.unique
  unborn := by
    intro p hp
    rw [born_live] at hp
    by_cases hpo : p = o
    · rw [hpo, Function.update_self] at hp
      exact nomatch hp
    · rw [Function.update_of_ne hpo] at hp
      exact h.unborn p hp
  locked := h.locked
  pins := h.pins
  helds := h.helds

end Moves

-- ── What the operations keep ─────────────────────────────────────────────────

section Clear

variable {s : State β} {o : Nat}

theorem clear_cases (s : State β) (o : Nat) :
    clear s o = s ∨ ∃ b, (s.objs o).mLocked = false ∧ (s.objs o).mBuffer = some b ∧
      clear s o = (s.setBuffer o none).free b := by
  rw [clear]
  split
  · exact Or.inl rfl
  · rename_i hfree
    split
    · exact Or.inl rfl
    · rename_i b hb
      exact Or.inr ⟨b, by simpa using hfree, hb, rfl⟩

/-- There may be nothing to clear. -/
theorem clear_empty (hnone : (s.objs o).mBuffer = none) : clear s o = s := by
  rw [clear, hnone]
  split <;> rfl

theorem clear_live (s : State β) (o : Nat) : (clear s o).live = s.live := by
  rcases clear_cases s o with heq | ⟨b, -, -, heq⟩
  · rw [heq]
  · rw [heq]
    rfl

theorem clear_other (s : State β) {o other : Nat} (hne : other ≠ o) :
    (clear s o).objs other = s.objs other := by
  rcases clear_cases s o with heq | ⟨b, -, -, heq⟩
  · rw [heq]
  · rw [heq]
    exact setBuffer_other s hne none

theorem clear_locked (s : State β) (o p : Nat) :
    ((clear s o).objs p).mLocked = (s.objs p).mLocked := by
  by_cases hp : p = o
  · subst hp
    rcases clear_cases s p with heq | ⟨b, -, -, heq⟩
    · rw [heq]
    · rw [heq]
      show ((s.setBuffer p none).objs p).mLocked = _
      rw [setBuffer_self]
  · rw [clear_other s hp]

/-- An object that is not locked has no buffer any more. -/
theorem clear_self (hfree : (s.objs o).mLocked = false) : ((clear s o).objs o).mBuffer = none := by
  rw [clear, if_neg (by rw [hfree]; decide)]
  split
  · assumption
  · rw [setBuffer_self]

theorem inv_clear (h : Inv s) (o : Nat) : Inv (clear s o) := by
  rcases clear_cases s o with heq | ⟨b, hfree, hb, heq⟩
  · rw [heq]
    exact h
  · rw [heq]
    refine (h.setBuffer hfree (Or.inr rfl) fun _ hn => nomatch hn).free ?_ (h.owned o b hb).2.1
    intro p hp
    by_cases hpo : p = o
    · rw [hpo, setBuffer_self] at hp
      exact nomatch hp
    · rw [setBuffer_other s hpo] at hp
      exact hpo (h.unique p o b hp hb)

theorem spare_clear {buffer : Option Nat} (hspare : Spare s buffer) (o : Nat) :
    Spare (clear s o) buffer := by
  rcases clear_cases s o with heq | ⟨b, -, hb, heq⟩
  · rw [heq]
    exact hspare
  · rw [heq]
    intro b' hb'
    obtain ⟨halloc, hheld, hlt, hno⟩ := hspare b' hb'
    have hne : b' ≠ b := by
      rintro rfl
      exact hno o hb
    refine ⟨?_, hheld, hlt, ?_⟩
    · rw [free_allocated, Function.update_of_ne hne]
      exact halloc
    · intro p hp
      have hp : ((s.setBuffer o none).objs p).mBuffer = some b' := hp
      by_cases hpo : p = o
      · rw [hpo, setBuffer_self] at hp
        exact nomatch hp
      · rw [setBuffer_other s hpo] at hp
        exact hno p hp

/-- What an object gives up is spare. -/
theorem spare_given (h : Inv s) (o : Nat) :
    Spare (s.setBuffer o none) (s.objs o).mBuffer := by
  intro b hb
  obtain ⟨halloc, hheld, hlt⟩ := h.owned o b hb
  refine ⟨halloc, hheld, hlt, ?_⟩
  intro p hp
  by_cases hpo : p = o
  · rw [hpo, setBuffer_self] at hp
    exact nomatch hp
  · rw [setBuffer_other s hpo] at hp
    exact hpo (h.unique p o b hp hb)

/-- An object that is not locked gives its buffer up. -/
theorem inv_given (h : Inv s) (hfree : (s.objs o).mLocked = false) : Inv (s.setBuffer o none) :=
  h.setBuffer hfree (Or.inr rfl) fun _ hn => nomatch hn

/-- It changes its buffer for a spare one. -/
theorem inv_replace (h : Inv s) {buffer : Option Nat} (hfree : (s.objs o).mLocked = false)
    (hlive : s.live o = true) (hspare : Spare s buffer) :
    Inv ((clear s o).setBuffer o buffer) := by
  refine (inv_clear h o).setBuffer ?_ (Or.inl ?_) (spare_clear hspare o)
  · rw [clear_locked]
    exact hfree
  · rw [clear_live]
    exact hlive

end Clear

section Operations

variable {s : State β} {o other : Nat} {api : Api β δ}

theorem inv_acquireBuffer (h : Inv s) {buffer : Option Nat} (hlive : s.live o = true)
    (hspare : Spare s buffer) : Inv (acquireBuffer s o buffer) := by
  rw [acquireBuffer]
  split
  · exact h
  · rename_i hfree
    exact inv_replace h (by simpa using hfree) hlive hspare

theorem inv_release (h : Inv s) (o : Nat) :
    Inv (release s o).1 ∧ Spare (release s o).1 (release s o).2 := by
  rw [release]
  split
  · exact ⟨h, fun _ hn => nomatch hn⟩
  · rename_i hfree
    exact ⟨inv_given h (by simpa using hfree), spare_given h o⟩

theorem release_live (s : State β) (o : Nat) : (release s o).1.live = s.live := by
  rw [release]
  split <;> rfl

theorem inv_acquire (h : Inv s) (hlive : s.live o = true) (other : Nat) :
    Inv (acquire s o other) := by
  rw [acquire]
  split
  · exact h
  · obtain ⟨hinv, hspare⟩ := inv_release h other
    exact inv_acquireBuffer hinv (by rw [release_live]; exact hlive) hspare

theorem inv_cloneBuffer (h : Inv s) (buffer : Option Nat) (memory : Bool) :
    Inv (cloneBuffer api s buffer memory).1 ∧
      Spare (cloneBuffer api s buffer memory).1 (cloneBuffer api s buffer memory).2 ∧
      (cloneBuffer api s buffer memory).1.objs = s.objs ∧
      (cloneBuffer api s buffer memory).1.live = s.live := by
  cases buffer with
  | none => exact ⟨h, fun _ hn => (nomatch hn), rfl, rfl⟩
  | some b =>
      rw [cloneBuffer]
      split
      · exact ⟨h.alloc _, spare_alloc h _, rfl, rfl⟩
      · exact ⟨h, fun _ hn => (nomatch hn), rfl, rfl⟩

theorem inv_assignBuffer (h : Inv s) (hlive : s.live o = true) (buffer : Option Nat)
    (memory : Bool) : Inv (assignBuffer api s o buffer memory) := by
  rw [assignBuffer]
  split
  · exact h
  · rename_i hfree
    split
    · obtain ⟨hinv, hspare, hobjs, hl⟩ := @inv_cloneBuffer _ _ _ api h buffer memory
      refine inv_replace hinv ?_ ?_ hspare
      · rw [hobjs]
        simpa using hfree
      · rw [hl]
        exact hlive
    · exact h

/-- A buffer moves from one object to another, or there is none to move. -/
theorem inv_move (h : Inv s) (hne : o ≠ other) (hfree : (s.objs o).mLocked = false)
    (hlive : s.live o = true)
    (hother : (s.objs other).mLocked = false ∨
      (s.objs o).mBuffer = none ∧ (s.objs other).mBuffer = none) :
    Inv ((s.setBuffer o (s.objs other).mBuffer).setBuffer other none) := by
  rcases hother with hunlocked | ⟨hnone, hnone'⟩
  · rw [setBuffer_comm s hne]
    refine (inv_given h hunlocked).setBuffer ?_ (Or.inl hlive) (spare_given h other)
    rw [setBuffer_other s hne]
    exact hfree
  · rw [hnone', setBuffer_same hnone, setBuffer_same hnone']
    exact h

theorem inv_assignMove (h : Inv s) (hlive : s.live o = true)
    (hok : Respects s (.assignMove o other : Op β δ)) : Inv (assignMove s o other) := by
  rw [assignMove]
  split
  · rename_i hne
    split
    · exact h
    · rename_i hfree
      have hfree : (s.objs o).mLocked = false := by
        simpa using hfree
      refine inv_move (inv_clear h o) hne ?_ ?_ ?_
      · rw [clear_locked]
        exact hfree
      · rw [clear_live]
        exact hlive
      · rw [clear_locked, clear_self hfree, clear_other s hne.symm]
        rcases hok with heq | hlocked | hunlocked | ⟨-, hnone⟩
        · exact absurd heq hne
        · exact nomatch hfree.symm.trans hlocked
        · exact Or.inl hunlocked
        · exact Or.inr ⟨rfl, hnone⟩
  · exact h

theorem inv_sort (h : Inv s) (hfree : (s.objs o).mLocked = false) : Inv (sort api s o).1 := by
  rw [sort]
  split
  · exact h
  · rename_i b hb
    exact h.write hfree hb _

theorem inv_erase (h : Inv s) (hfree : (s.objs o).mLocked = false) (tag : UInt32) :
    Inv (erase api s o tag).1 := by
  rw [erase]
  split
  · exact h
  · rename_i b hb
    split
    · exact h
    · exact h
    · exact h.write hfree hb _

/-- An object that is not locked gets a larger buffer if it needs one. -/
theorem inv_resizeIfNeeded (h : Inv s) (hfree : (s.objs o).mLocked = false)
    (hlive : s.live o = true) (extraEntries extraData : Nat) (memory : Bool) :
    Inv (resizeIfNeeded api s o extraEntries extraData memory).1 ∧
      ((resizeIfNeeded api s o extraEntries extraData memory).1.objs o).mLocked = false := by
  have hset : ∀ c, Inv ((s.alloc c).setBuffer o (some s.next)) ∧
      (((s.alloc c).setBuffer o (some s.next)).objs o).mLocked = false := by
    intro c
    refine ⟨(h.alloc c).setBuffer hfree (Or.inl hlive) (spare_alloc h c), ?_⟩
    rw [setBuffer_self]
    exact hfree
  rw [resizeIfNeeded]
  split
  · split
    · exact hset _
    · exact ⟨h, hfree⟩
  · rename_i b hb
    dsimp only
    split
    · split
      · obtain ⟨hinv, hunlocked⟩ :=
          hset (api.append (api.allocate _ _) (s.content b)).2
        refine ⟨hinv.free ?_ (h.owned o b hb).2.1, hunlocked⟩
        intro p hp
        by_cases hpo : p = o
        · rw [hpo, setBuffer_self] at hp
          have hlt := (h.owned o b hb).2.2
          rw [← Option.some.inj hp] at hlt
          exact Nat.lt_irrefl _ hlt
        · rw [setBuffer_other _ hpo] at hp
          exact hpo (h.unique p o b hp hb)
      · exact ⟨h, hfree⟩
    · exact ⟨h, hfree⟩

theorem inv_append (h : Inv s) (hfree : (s.objs o).mLocked = false) (hlive : s.live o = true)
    (buffer : Option Nat) (memory : Bool) : Inv (append api s o buffer memory).1 := by
  cases buffer with
  | none => exact h
  | some src =>
      obtain ⟨hinv, hunlocked⟩ := @inv_resizeIfNeeded _ _ _ _ api h hfree hlive
        (api.entryCount (s.content src)) (api.dataCount (s.content src)) memory
      rw [append]
      dsimp only
      split
      · exact hinv
      · rename_i b hb
        exact hinv.write hunlocked hb _

theorem inv_update (h : Inv s) (hlive : s.live o = true) (tag : UInt32) (data : δ)
    (memory : Bool) : Inv (update api s o tag data memory).1 := by
  rw [update]
  split
  · exact h
  · rename_i hfree
    rw [updateImpl]
    split
    · exact h
    · dsimp only
      obtain ⟨hinv, hunlocked⟩ := @inv_resizeIfNeeded _ _ _ _ api h (by simpa using hfree) hlive
        1 (api.entryDataSize (api.tagType tag) data) memory
      split
      · exact hinv
      · split
        · exact hinv
        · rename_i b hb
          split
          · exact hinv.write hunlocked hb _
          · exact hinv
          · exact hinv.write hunlocked hb _

theorem inv_construct (h : Inv s) {buffer : Option Nat} (hdead : s.live o = false)
    (hspare : Spare s buffer) : Inv (construct s o buffer) := by
  refine (h.born o).setBuffer ?_ (Or.inl ?_) hspare
  · show (s.objs o).mLocked = false
    rw [h.unborn o hdead]
  · rw [born_live, Function.update_self]

theorem inv_newMove (h : Inv s) (hdead : s.live o = false) (hlive : s.live other = true)
    (hok : Respects s (.newMove o other : Op β δ)) :
    Inv ((construct s o (s.objs other).mBuffer).setBuffer other none) := by
  have hne : o ≠ other := by
    rintro rfl
    exact nomatch hdead.symm.trans hlive
  have hobj := h.unborn o hdead
  refine inv_move (h.born o) hne ?_ ?_ ?_
  · show (s.objs o).mLocked = false
    rw [hobj]
  · rw [born_live, Function.update_self]
  · show (s.objs other).mLocked = false ∨ (s.objs o).mBuffer = none ∧ (s.objs other).mBuffer = none
    rw [hobj]
    rcases hok with hunlocked | hnone
    · exact Or.inl hunlocked
    · exact Or.inr ⟨rfl, hnone⟩

/-- The lock says nothing of the buffer. -/
theorem mBuffer_relocked (s : State β) (o : Nat) (locked : Bool) (p : Nat) :
    (Function.update s.objs o { s.objs o with mLocked := locked } p).mBuffer
      = (s.objs p).mBuffer := by
  by_cases hp : p = o
  · rw [hp, Function.update_self]
  · rw [Function.update_of_ne hp]

theorem inv_getAndLock (h : Inv s) (o : Nat) (hlive : s.live o = true) :
    Inv (getAndLock s o).1 := by
  have hbuffer : ∀ p, ((getAndLock s o).1.objs p).mBuffer = (s.objs p).mBuffer :=
    mBuffer_relocked s o true
  have hpinned : (getAndLock s o).1.pinned = if (s.objs o).mLocked then s.pinned
      else Function.update s.pinned o
        (some ((s.objs o).mBuffer.map fun b => (b, s.content b))) := rfl
  have hother : ∀ p, p ≠ o → (getAndLock s o).1.pinned p = s.pinned p := by
    intro p hp
    rw [hpinned]
    split
    · rfl
    · rw [Function.update_of_ne hp]
  constructor
  · intro p b hb
    rw [hbuffer] at hb
    exact h.owned p b hb
  · intro p q b hp hq
    rw [hbuffer] at hp hq
    exact h.unique p q b hp hq
  · intro p hp
    have hne : p ≠ o := by
      rintro rfl
      exact nomatch (show s.live p = false from hp).symm.trans hlive
    show Function.update s.objs o _ p = _
    rw [Function.update_of_ne hne]
    exact h.unborn p hp
  · intro p
    show (Function.update s.objs o { s.objs o with mLocked := true } p).mLocked = _
    by_cases hp : p = o
    · subst hp
      rw [Function.update_self, hpinned]
      split
      · rename_i hlocked
        rw [← h.locked p, hlocked]
      · rw [Function.update_self]
        rfl
    · rw [Function.update_of_ne hp, hother p hp]
      exact h.locked p
  · intro p pin hpin
    rw [hbuffer]
    by_cases hp : p = o
    · subst hp
      rw [hpinned] at hpin
      split at hpin
      · exact h.pins p pin hpin
      · rw [Function.update_self] at hpin
        exact (Option.some.inj hpin).symm
    · rw [hother p hp] at hpin
      exact h.pins p pin hpin
  · exact h.helds

theorem inv_unlocked (h : Inv s) (o : Nat) : Inv (s.unlocked o) := by
  have hbuffer : ∀ p, ((s.unlocked o).objs p).mBuffer = (s.objs p).mBuffer :=
    mBuffer_relocked s o false
  constructor
  · intro p b hb
    rw [hbuffer] at hb
    exact h.owned p b hb
  · intro p q b hp hq
    rw [hbuffer] at hp hq
    exact h.unique p q b hp hq
  · intro p hp
    show Function.update s.objs o _ p = _
    by_cases hpo : p = o
    · subst hpo
      rw [Function.update_self, h.unborn p hp]
    · rw [Function.update_of_ne hpo]
      exact h.unborn p hp
  · intro p
    show (Function.update s.objs o { s.objs o with mLocked := false } p).mLocked
      = (Function.update s.pinned o none p).isSome
    by_cases hp : p = o
    · rw [hp, Function.update_self, Function.update_self]
      rfl
    · rw [Function.update_of_ne hp, Function.update_of_ne hp]
      exact h.locked p
  · intro p pin hpin
    rw [hbuffer]
    have hpin : Function.update s.pinned o none p = some pin := hpin
    by_cases hp : p = o
    · rw [hp, Function.update_self] at hpin
      exact nomatch hpin
    · rw [Function.update_of_ne hp] at hpin
      exact h.pins p pin hpin
  · exact h.helds

theorem inv_unlock (h : Inv s) (o : Nat) (buffer : Option Nat) : Inv (unlock s o buffer).1 := by
  rw [unlock]
  split
  · exact h
  · split
    · exact h
    · exact inv_unlocked h o

theorem inv_destroy (h : Inv s) (o : Nat) : Inv (destroy s o) := by
  have hinv := inv_clear (inv_unlocked h o) o
  have hfree : ((s.unlocked o).objs o).mLocked = false := by
    show (Function.update s.objs o { s.objs o with mLocked := false } o).mLocked = false
    rw [Function.update_self]
  refine ⟨hinv.owned, hinv.unique, ?_, hinv.locked, hinv.pins, hinv.helds⟩
  intro p hp
  show (clear (s.unlocked o) o).objs p = {}
  have hp : Function.update (clear (s.unlocked o) o).live o false p = false := hp
  by_cases hpo : p = o
  · have hbuffer := clear_self hfree
    have hlock := (clear_locked (s.unlocked o) o o).trans hfree
    rw [hpo]
    cases hobj : (clear (s.unlocked o) o).objs o with
    | mk mBuffer mLocked =>
        rw [hobj] at hbuffer hlock
        rw [show mBuffer = none from hbuffer, show mLocked = false from hlock]
  · rw [Function.update_of_ne hpo] at hp
    exact hinv.unborn p hp

end Operations

/-- **THE INVARIANT** is kept by every operation that respects the locks. -/
theorem inv_exec {s : State β} (api : Api β δ) {op : Op β δ} (h : Inv s)
    (henabled : enabled s op = true) (hok : Respects s op) : Inv (exec api s op).1 := by
  have hnone : Spare s none := fun _ hn => nomatch hn
  cases op with
  | new o => exact inv_construct h (by simpa [enabled] using henabled) hnone
  | newCapacity o entries data memory =>
      have hdead : s.live o = false := by
        simpa [enabled] using henabled
      rw [exec]
      split
      · exact inv_construct (h.alloc _) hdead (spare_alloc h _)
      · exact inv_construct h hdead hnone
  | newCopy o other memory =>
      obtain ⟨hdead, -⟩ : s.live o = false ∧ s.live other = true := by
        simpa [enabled] using henabled
      obtain ⟨hinv, hspare, -, hlive⟩ := @inv_cloneBuffer _ _ _ api h (s.objs other).mBuffer memory
      exact inv_construct hinv (by rw [hlive]; exact hdead) hspare
  | newMove o other =>
      obtain ⟨hdead, hlive⟩ : s.live o = false ∧ s.live other = true := by
        simpa [enabled] using henabled
      exact inv_newMove h hdead hlive hok
  | newBuffer o buffer =>
      obtain ⟨hdead, hown⟩ : s.live o = false ∧ s.owns buffer = true := by
        simpa [enabled] using henabled
      refine inv_construct (h.unhold buffer) ?_ (spare_unhold h hown)
      cases buffer <;> exact hdead
  | assign o other memory =>
      obtain ⟨hlive, -⟩ : s.live o = true ∧ s.live other = true := by
        simpa [enabled] using henabled
      exact inv_assignBuffer h hlive _ memory
  | assignMove o other =>
      obtain ⟨hlive, -⟩ : s.live o = true ∧ s.live other = true := by
        simpa [enabled] using henabled
      exact inv_assignMove h hlive hok
  | assignBuffer o buffer memory =>
      have hboth : s.live o = true ∧ buffer.all s.allocated = true := by
        rw [enabled, Bool.and_eq_true] at henabled
        exact henabled
      exact inv_assignBuffer h hboth.1 buffer memory
  | destroy o => exact inv_destroy h o
  | sort o => exact inv_sort h hok
  | getAndLock o => exact inv_getAndLock h o henabled
  | unlock o buffer => exact inv_unlock h o buffer
  | release o =>
      obtain ⟨hinv, hspare⟩ := inv_release h o
      exact hinv.hold hspare
  | clear o => exact inv_clear h o
  | acquireBuffer o buffer =>
      obtain ⟨hlive, hown⟩ : s.live o = true ∧ s.owns buffer = true := by
        simpa [enabled] using henabled
      rw [exec]
      split
      · rename_i hlocked
        rw [CameraMetadata.acquireBuffer, if_pos hlocked]
        exact h
      · refine inv_acquireBuffer (h.unhold buffer) ?_ (spare_unhold h hown)
        cases buffer <;> exact hlive
  | acquire o other =>
      obtain ⟨hlive, -⟩ : s.live o = true ∧ s.live other = true := by
        simpa [enabled] using henabled
      exact inv_acquire h hlive other
  | append o other memory =>
      obtain ⟨hlive, -⟩ : s.live o = true ∧ s.live other = true := by
        simpa [enabled] using henabled
      exact inv_append h hok hlive _ memory
  | appendBuffer o buffer memory =>
      have hboth : s.live o = true ∧ buffer.all s.allocated = true := by
        rw [enabled, Bool.and_eq_true] at henabled
        exact henabled
      exact inv_append h hok hboth.1 buffer memory
  | update o tag data memory => exact inv_update h henabled tag data memory
  | erase o tag => exact inv_erase h hok tag
  | clientAllocate c => exact (h.alloc c).hold (spare_alloc h c)
  | clientFree b =>
      have hheld : s.held b = true := henabled
      obtain ⟨hlive, -⟩ := h.helds b hheld
      have hno : ∀ o, (s.objs o).mBuffer ≠ some b :=
        fun o ho => nomatch (h.owned o b ho).2.1.symm.trans hheld
      exact (h.unhold (some b)).free hno (Function.update_self ..)

theorem inv_step {s s' : State β} (api : Api β δ) {op : Op β δ} (h : Inv s)
    (hok : Respects s op) (hstep : step api s op = some s') : Inv s' := by
  rw [step] at hstep
  split at hstep
  · rename_i henabled
    obtain rfl := Option.some.inj hstep
    exact inv_exec api h henabled hok
  · exact nomatch hstep

-- ── Which operations look at the flag ────────────────────────────────────────

section Statuses

variable (api : Api β δ) (s : State β) (o : Nat)

theorem Result.status_ne (r : Result) : r.status ≠ invalidOperation := by
  cases r <;> decide

theorem ok_ne : ok ≠ invalidOperation := by decide

/-- `sort`, `append` and `erase` never say that they refuse. -/
theorem sort_status_ne : (sort api s o).2 ≠ invalidOperation := by
  rw [sort]
  split
  · exact ok_ne
  · exact Result.status_ne _

theorem append_status_ne (buffer : Option Nat) (memory : Bool) :
    (append api s o buffer memory).2 ≠ invalidOperation := by
  cases buffer with
  | none => exact ok_ne
  | some src =>
      rw [append]
      dsimp only
      split
      · exact Result.status_ne .error
      · exact Result.status_ne _

theorem erase_status_ne (tag : UInt32) : (erase api s o tag).2 ≠ invalidOperation := by
  rw [erase]
  split
  · exact Result.status_ne .error
  · split
    · exact ok_ne
    · exact Result.status_ne .error
    · exact Result.status_ne _

end Statuses

section Refusing

variable {api : Api β δ} {s : State β} {o other : Nat}

theorem refuses_newMove (hne : o ≠ other) :
    Refuses api s (.newMove o other) ↔ Respects s (.newMove o other : Op β δ) := by
  constructor
  · intro h
    cases hlocked : (s.objs other).mLocked with
    | false => exact Or.inl hlocked
    | true =>
        refine Or.inr ?_
        have heq := congrArg (fun r => ((Prod.fst r).objs o).mBuffer)
          (h other (Or.inr rfl) hlocked)
        dsimp only [exec, Op.refused, construct] at heq
        rw [setBuffer_other _ hne, setBuffer_self, setBuffer_self] at heq
        exact heq
  · rintro hok p (hp | hp) hlocked
    · exact nomatch hp
    · obtain rfl := Option.some.inj hp
      rcases hok with hfree | hnone
      · exact nomatch hfree.symm.trans hlocked
      · show ((construct s o (s.objs other).mBuffer).setBuffer other none, Reply.nothing)
          = (construct s o none, Reply.nothing)
        rw [hnone, setBuffer_same]
        rw [construct, setBuffer_other _ hne.symm]
        exact hnone

theorem refuses_assignMove :
    Refuses api s (.assignMove o other) ↔ Respects s (.assignMove o other : Op β δ) := by
  constructor
  · intro h
    by_cases hne : o = other
    · exact Or.inl hne
    · refine Or.inr ?_
      cases hfree : (s.objs o).mLocked with
      | true => exact Or.inl rfl
      | false =>
          refine Or.inr ?_
          cases hlocked : (s.objs other).mLocked with
          | false => exact Or.inl rfl
          | true =>
              refine Or.inr ?_
              have heq : assignMove s o other = s :=
                congrArg Prod.fst (h other (Or.inr rfl) hlocked)
              rw [assignMove, if_pos hne, if_neg (by rw [hfree]; decide)] at heq
              dsimp only at heq
              rw [clear_other s (Ne.symm hne)] at heq
              -- the argument has lost its buffer, and the receiver has it
              have hother := congrArg (fun s : State β => (s.objs other).mBuffer) heq
              have hreceiver := congrArg (fun s : State β => (s.objs o).mBuffer) heq
              rw [setBuffer_self] at hother
              rw [setBuffer_other _ hne, setBuffer_self] at hreceiver
              exact ⟨hreceiver.symm.trans hother.symm, hother.symm⟩
  · rintro hok p hp hlocked
    have hsame : assignMove s o other = s := by
      rw [assignMove]
      split
      · rename_i hne
        split
        · rfl
        · rename_i hfree
          rcases hok with heq | hl | hunlocked | ⟨hnone, hnone'⟩
          · exact absurd heq hne
          · exact absurd hl hfree
          · rcases hp with hp | hp
            · obtain rfl := Option.some.inj hp
              exact absurd hlocked hfree
            · obtain rfl := Option.some.inj hp
              exact nomatch hunlocked.symm.trans hlocked
          · dsimp only
            rw [clear_empty hnone, hnone', setBuffer_same hnone, setBuffer_same hnone']
      · rfl
    exact congrArg (fun s : State β => (s, Reply.nothing)) hsame

theorem refuses_acquire :
    Refuses api s (.acquire o other) ↔ Respects s (.acquire o other : Op β δ) := by
  constructor
  · intro h
    cases hfree : (s.objs o).mLocked with
    | true => exact Or.inl hfree
    | false =>
        refine Or.inr ?_
        cases hlocked : (s.objs other).mLocked with
        | false => exact Or.inl rfl
        | true =>
            refine Or.inr ?_
            have heq : acquire s o other = s :=
              congrArg Prod.fst (h other (Or.inr rfl) hlocked)
            have hunlocked : ¬ (s.objs o).mLocked = true := by
              rw [hfree]
              decide
            rw [acquire, if_neg hunlocked, release, if_pos hlocked] at heq
            dsimp only at heq
            rw [acquireBuffer, if_neg hunlocked] at heq
            have hreceiver := congrArg (fun s : State β => (s.objs o).mBuffer) heq
            rw [setBuffer_self] at hreceiver
            exact hreceiver.symm
  · rintro hok p hp hlocked
    have hsame : acquire s o other = s := by
      rw [acquire]
      split
      · rfl
      · rename_i hfree
        -- so it is the argument that is locked
        have hother : (s.objs other).mLocked = true := by
          rcases hp with hp | hp
          · obtain rfl := Option.some.inj hp
            exact absurd hlocked hfree
          · obtain rfl := Option.some.inj hp
            exact hlocked
        rcases hok with hl | hunlocked | hnone
        · exact absurd hl hfree
        · exact nomatch hunlocked.symm.trans hother
        · rw [release, if_pos hother]
          dsimp only
          rw [acquireBuffer, if_neg hfree, clear_empty hnone, setBuffer_same hnone]
    exact congrArg (fun s : State β => (s, Reply.nothing)) hsame

end Refusing

/-- An operation whose status never says that it refuses cannot be called on a
    locked object. -/
theorem refuses_status {api : Api β δ} {s : State β} {op : Op β δ} {o : Nat} {status : Status}
    (hreceiver : op.receiver = some o) (htaken : op.taken = none)
    (hrefusal : op.refusal = .status invalidOperation)
    (hreply : (exec api s op).2 = .status status) (hne : status ≠ invalidOperation) :
    Refuses api s op ↔ (s.objs o).mLocked = false := by
  constructor
  · intro h
    by_contra hlocked
    have heq := congrArg Prod.snd (h o (Or.inl hreceiver) (by simpa using hlocked))
    rw [hreply, hrefusal] at heq
    exact hne (Reply.status.inj heq)
  · rintro hfree p (hp | hp) hlocked
    · rw [hreceiver] at hp
      obtain rfl := Option.some.inj hp
      exact nomatch hfree.symm.trans hlocked
    · rw [htaken] at hp
      exact nomatch hp

/-- An operation that looks at the flag of its receiver. -/
theorem refuses_checked {api : Api β δ} {s : State β} {op : Op β δ} {o : Nat}
    (hreceiver : op.receiver = some o) (htaken : op.taken = none)
    (hexec : (s.objs o).mLocked = true → exec api s op = (op.refused s, op.refusal)) :
    Refuses api s op := by
  rintro p (hp | hp) hlocked
  · rw [hreceiver] at hp
    obtain rfl := Option.some.inj hp
    exact hexec hlocked
  · rw [htaken] at hp
    exact nomatch hp

/-- **ONE STEP**: an operation refuses what it has to exactly if it meets the
    condition. -/
theorem refuses_iff (api : Api β δ) {s : State β} {op : Op β δ}
    (henabled : enabled s op = true) : Refuses api s op ↔ Respects s op := by
  -- neither changes nor takes
  have hnobody : op.receiver = none → op.taken = none → Refuses api s op := by
    rintro hr ht o (ho | ho) -
    · rw [hr] at ho
      exact nomatch ho
    · rw [ht] at ho
      exact nomatch ho
  cases op with
  | newMove o other =>
      refine refuses_newMove ?_
      obtain ⟨hdead, hlive⟩ : s.live o = false ∧ s.live other = true := by
        simpa [enabled] using henabled
      rintro rfl
      exact nomatch hdead.symm.trans hlive
  | assignMove o other => exact refuses_assignMove
  | acquire o other => exact refuses_acquire
  | sort o => exact refuses_status rfl rfl rfl rfl (sort_status_ne api s o)
  | append o other memory => exact refuses_status rfl rfl rfl rfl (append_status_ne api s o _ memory)
  | appendBuffer o buffer memory =>
      exact refuses_status rfl rfl rfl rfl (append_status_ne api s o buffer memory)
  | erase o tag => exact refuses_status rfl rfl rfl rfl (erase_status_ne api s o tag)
  | assign o other memory =>
      refine iff_of_true (refuses_checked rfl rfl fun hlocked => ?_) trivial
      rw [exec, assignBuffer, if_pos hlocked]
      rfl
  | assignBuffer o buffer memory =>
      refine iff_of_true (refuses_checked rfl rfl fun hlocked => ?_) trivial
      rw [exec, CameraMetadata.assignBuffer, if_pos hlocked]
      rfl
  | release o =>
      refine iff_of_true (refuses_checked rfl rfl fun hlocked => ?_) trivial
      rw [exec, CameraMetadata.release, if_pos hlocked]
      rfl
  | clear o =>
      refine iff_of_true (refuses_checked rfl rfl fun hlocked => ?_) trivial
      rw [exec, CameraMetadata.clear, if_pos hlocked]
      rfl
  | acquireBuffer o buffer =>
      refine iff_of_true (refuses_checked rfl rfl fun hlocked => ?_) trivial
      rw [exec, if_pos hlocked, CameraMetadata.acquireBuffer, if_pos hlocked]
      rfl
  | update o tag data memory =>
      refine iff_of_true (refuses_checked rfl rfl fun hlocked => ?_) trivial
      rw [exec, CameraMetadata.update, if_pos hlocked]
      rfl
  | new o => exact iff_of_true (hnobody rfl rfl) trivial
  | newCapacity o entries data memory => exact iff_of_true (hnobody rfl rfl) trivial
  | newCopy o other memory => exact iff_of_true (hnobody rfl rfl) trivial
  | newBuffer o buffer => exact iff_of_true (hnobody rfl rfl) trivial
  | destroy o => exact iff_of_true (hnobody rfl rfl) trivial
  | getAndLock o => exact iff_of_true (hnobody rfl rfl) trivial
  | unlock o buffer => exact iff_of_true (hnobody rfl rfl) trivial
  | clientAllocate c => exact iff_of_true (hnobody rfl rfl) trivial
  | clientFree b => exact iff_of_true (hnobody rfl rfl) trivial

theorem enabled_of_step {s s' : State β} {api : Api β δ} {op : Op β δ}
    (h : step api s op = some s') : enabled s op = true := by
  rw [step] at h
  split at h
  · assumption
  · exact nomatch h

/-- **THE LOCK** keeps its promise throughout a run, and every operation refuses
    what it has to, exactly if each step meets the condition. -/
theorem lock_kept [Inhabited β] (api : Api β δ) (acts : List (Op β δ)) :
    (Always (step api) Guarded start acts ∧ StepsMeet (step api) (Refuses api) start acts)
      ↔ StepsMeet (step api) Respects start acts := by
  constructor
  · rintro ⟨-, hrefuses⟩ done op rest s s' hcat hrun hstep
    exact (refuses_iff api (enabled_of_step hstep)).mp (hrefuses done op rest s s' hcat hrun hstep)
  · intro hok
    refine ⟨always_of_stepsMeet (fun _ => Inv.guarded)
      (fun _ _ _ hinv hop hstep => inv_step api hinv hop hstep) acts inv_start hok, ?_⟩
    intro done op rest s s' hcat hrun hstep
    exact (refuses_iff api (enabled_of_step hstep)).mpr (hok done op rest s s' hcat hrun hstep)

-- ── A case ───────────────────────────────────────────────────────────────────

/-- A buffer of entries that have one datum each. -/
structure Entries where
  capacity : Nat
  dataCapacity : Nat
  entries : List (UInt32 × Nat)
  deriving DecidableEq, Inhabited, Repr

def entriesApi : Api Entries Nat where
  allocate := fun capacity dataCapacity => { capacity, dataCapacity, entries := [] }
  clone := fun c => { capacity := c.entries.length, dataCapacity := 0, entries := c.entries }
  entryCount := fun c => c.entries.length
  entryCapacity := Entries.capacity
  dataCount := fun _ => 0
  dataCapacity := Entries.dataCapacity
  sort := fun c => (.ok, { c with entries := c.entries.mergeSort fun a b => a.1 ≤ b.1 })
  append := fun c src =>
    if c.entries.length + src.entries.length ≤ c.capacity then
      (.ok, { c with entries := c.entries ++ src.entries })
    else (.error, c)
  find := fun c tag =>
    match c.entries.findIdx? fun e => e.1 = tag with
    | none => (.notFound, 0)
    | some index => (.ok, index)
  delete := fun c index => (.ok, { c with entries := c.entries.eraseIdx index })
  add := fun c tag data =>
    if c.entries.length < c.capacity then (.ok, { c with entries := c.entries ++ [(tag, data)] })
    else (.error, c)
  update := fun c index data =>
    (.ok, { c with entries := c.entries.modify index fun e => (e.1, data) })
  tagType := fun _ => 0
  entryDataSize := fun _ _ => 0

/-- An entry is erased from a buffer that a client holds under the lock. -/
theorem erase_behind_lock :
    ∃ s, run (step entriesApi) start
        [.newCapacity 0 1 8 true, .update 0 7 3 true, .getAndLock 0, .erase 0 7] = some s ∧
      (s.objs 0).mLocked = true ∧ ¬ Guarded s := by
  refine ⟨_, rfl, rfl, ?_⟩
  intro h
  obtain ⟨-, -, hbuffer⟩ := h 0 _ rfl
  obtain ⟨-, hcontent, -⟩ := hbuffer 0 { capacity := 1, dataCapacity := 8, entries := [(7, 3)] } rfl
  exact absurd hcontent (by decide)

end CameraMetadata

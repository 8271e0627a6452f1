import Mathlib.Logic.Function.Basic
import Universal7580.RunProofs
import Universal7580.RwLockProofs

/-! # Replacing the client's callbacks

    `setResponseFunctions` of the radio and of the OEM-hook service installs a
    client's two callback objects and counts the change.  The responses and
    indications of a slot run under the slot's lock, call the installed objects,
    and hand the result to `checkReturnStatus`: when the client is dead it drops
    the lock, takes it for writing, and removes the callbacks unless the counter
    says that somebody changed them in between.

    The model runs any number of threads, one lock operation, callback call or
    body under the lock at a time.  A callback pointer carries the number of the
    `setResponseFunctions` call that installed it, which is what the results
    are about: two calls with one object are two installations. -/

namespace RilCallbacks

open RwLock

-- ── The services ──────────────────────────────────────────────────────────

/-- The two services with callbacks, `radioService` and `oemHookService`. -/
inductive Service where
  | radio
  | oemHook
  deriving DecidableEq, Repr

/-- A service of a slot: `radioService[slotId]` or `oemHookService[slotId]`,
    with its counter. -/
structure Key where
  slotId : Nat
  service : Service
  deriving DecidableEq, Repr

/-- A callback pointer: the client's object, and which installation put the
    pointer there. -/
structure Callback where
  object : Nat
  install : Nat
  deriving DecidableEq, Repr

/-- The callbacks of a service (`mRadioResponse` and `mRadioIndication`, or
    their OEM-hook counterparts) and its `mCounterRadio` or `mCounterOemHook`.
    The counter does not wrap. -/
structure Callbacks where
  response : Option Callback
  indication : Option Callback
  counter : Nat
  deriving DecidableEq, Repr

/-- One of the two pointers of a service is this one. -/
def Callbacks.Has (c : Callbacks) (cb : Callback) : Prop :=
  c.response = some cb ∨ c.indication = some cb

/-- The lock of a slot.  The slots 0 and 1 share the first one. -/
def getRadioServiceRwlock (simCount slotId : Nat) : Nat :=
  if 2 ≤ simCount ∧ slotId = 2 then 2
  else if 3 ≤ simCount ∧ slotId = 3 then 3
  else if 4 ≤ simCount ∧ slotId = 4 then 4
  else 1

-- ── The threads ───────────────────────────────────────────────────────────

/-- Where a thread is.  `used` is the callback pointer of the call in hand,
    `counter` the local variable of `checkReturnStatus`. -/
inductive Pc where
  | idle
  /-- `setResponseFunctions`: before the write lock, under it, and after the
      three assignments. -/
  | setWaiting (k : Key) (response indication : Option Nat)
  | setLocked (k : Key) (response indication : Option Nat)
  | setDone (k : Key)
  /-- A response or an indication: before the slot's lock, and in the response
      function under it.  `NITZ_TIME_RECEIVED` takes the lock for writing. -/
  | waiting (slotId : Nat) (mode : Mode)
  | locked (slotId : Nat) (mode : Mode)
  /-- The transaction to the client is under way. -/
  | calling (k : Key) (used : Callback) (mode : Mode)
  /-- `checkReturnStatus`: entered with a failed result; the counter is noted;
      the lock is dropped; it is taken for writing; the callbacks are cleared or
      kept; the lock is dropped again. -/
  | failed (k : Key) (used : Callback) (mode : Mode)
  | counted (k : Key) (used : Callback) (counter : Nat) (mode : Mode)
  | unlocked (k : Key) (used : Callback) (counter : Nat)
  | comparing (k : Key) (used : Callback) (counter : Nat)
  | compared (k : Key) (used : Callback)
  | relocking (k : Key) (used : Callback)
  deriving DecidableEq, Repr

/-- The slot whose lock a thread holds, and how. -/
def Pc.holds : Pc → Option (Nat × Mode)
  | .setLocked k _ _ | .setDone k | .comparing k _ _ | .compared k _ => some (k.slotId, .write)
  | .locked slotId mode => some (slotId, mode)
  | .calling k _ mode | .failed k _ mode | .counted k _ _ mode => some (k.slotId, mode)
  | _ => none

/-- A `checkReturnStatus` that cleared callbacks: the pointer whose call failed,
    and the callbacks it removed. -/
structure Clear where
  key : Key
  used : Callback
  removed : Callbacks
  deriving DecidableEq, Repr

/-- The services, the locks and the threads.  `installs` numbers the
    installations; `cleared` and `returned` are the clears and the failed calls
    whose `checkReturnStatus` is over. -/
structure State where
  callbacks : Key → Callbacks
  locks : Nat → Lock Nat
  pc : Nat → Pc
  installs : Nat
  cleared : List Clear
  returned : List (Key × Callback)

/-- No client yet, every thread idle. -/
def initial : State where
  callbacks := fun _ => { response := none, indication := none, counter := 0 }
  locks := fun _ => free
  pc := fun _ => .idle
  installs := 0
  cleared := []
  returned := []

def State.goto (s : State) (t : Nat) (pc : Pc) : State :=
  { s with pc := Function.update s.pc t pc }

/-- The thread is granted the lock of a slot and goes on. -/
def State.lock (simCount : Nat) (s : State) (t slotId : Nat) (mode : Mode) (pc : Pc) :
    Option State :=
  let l := getRadioServiceRwlock simCount slotId
  match (s.locks l).acquire t mode with
  | none => none
  | some held => some ({ s with locks := Function.update s.locks l held }.goto t pc)

/-- The thread gives the lock of a slot back and goes on. -/
def State.unlock (simCount : Nat) (s : State) (t slotId : Nat) (pc : Pc) : State :=
  let l := getRadioServiceRwlock simCount slotId
  { s with locks := Function.update s.locks l ((s.locks l).release t) }.goto t pc

/-- The assignments of `setResponseFunctions`. -/
def State.install (s : State) (k : Key) (response indication : Option Nat) : State :=
  { s with
    callbacks := Function.update s.callbacks k
      { response := response.map fun o => { object := o, install := s.installs }
        indication := indication.map fun o => { object := o, install := s.installs }
        counter := (s.callbacks k).counter + 1 }
    installs := s.installs + 1 }

/-- The body of `checkReturnStatus` under the write lock: the callbacks go
    unless the counter has changed. -/
def State.clear (s : State) (k : Key) (used : Callback) (counter : Nat) : State :=
  if counter = (s.callbacks k).counter then
    { s with
      callbacks := Function.update s.callbacks k
        { response := none, indication := none, counter := (s.callbacks k).counter + 1 }
      cleared := { key := k, used := used, removed := s.callbacks k } :: s.cleared }
  else
    s

/-- What can happen.  `next` is the next step of a thread that has only one. -/
inductive Action where
  | setResponseFunctions (t : Nat) (k : Key) (response indication : Option Nat)
  /-- A response or indication of a slot begins. -/
  | respond (t slotId : Nat) (mode : Mode)
  /-- The response function calls the service's response (or indication)
      object, which it found not to be null. -/
  | call (t : Nat) (service : Service) (indication : Bool)
  /-- The call comes back. -/
  | result (t : Nat) (isOk : Bool)
  /-- The response function is over. -/
  | leave (t : Nat)
  | next (t : Nat)
  deriving DecidableEq, Repr

/-- The next step of a thread inside `setResponseFunctions`, at a response's
    lock, or inside `checkReturnStatus`. -/
def next (simCount : Nat) (s : State) (t : Nat) : Option State :=
  match s.pc t with
  | .setWaiting k r i => s.lock simCount t k.slotId .write (.setLocked k r i)
  | .setLocked k r i => some ((s.install k r i).goto t (.setDone k))
  | .setDone k => some (s.unlock simCount t k.slotId .idle)
  | .waiting slotId mode => s.lock simCount t slotId mode (.locked slotId mode)
  | .failed k used mode =>
      some (s.goto t (.counted k used (s.callbacks k).counter mode))
  | .counted k used counter _ => some (s.unlock simCount t k.slotId (.unlocked k used counter))
  | .unlocked k used counter =>
      s.lock simCount t k.slotId .write (.comparing k used counter)
  | .comparing k used counter => some ((s.clear k used counter).goto t (.compared k used))
  | .compared k used => some (s.unlock simCount t k.slotId (.relocking k used))
  | .relocking k used =>
      -- the response function goes on under a read lock, also after NITZ
      { s with returned := (k, used) :: s.returned }.lock simCount t k.slotId .read
        (.locked k.slotId .read)
  | _ => none

def step (simCount : Nat) (s : State) : Action → Option State
  | .setResponseFunctions t k r i =>
      if s.pc t = .idle then some (s.goto t (.setWaiting k r i)) else none
  | .respond t slotId mode =>
      if s.pc t = .idle then some (s.goto t (.waiting slotId mode)) else none
  | .call t service indication =>
      match s.pc t with
      | .locked slotId mode =>
          let k : Key := { slotId := slotId, service := service }
          let callback := if indication then (s.callbacks k).indication
            else (s.callbacks k).response
          callback.map fun used => s.goto t (.calling k used mode)
      | _ => none
  | .result t isOk =>
      match s.pc t with
      | .calling k used mode =>
          some (s.goto t (if isOk then .locked k.slotId mode else .failed k used mode))
      | _ => none
  | .leave t =>
      match s.pc t with
      | .locked slotId _ => some (s.unlock simCount t slotId .idle)
      | _ => none
  | .next t => next simCount s t

-- ── What a thread knows ───────────────────────────────────────────────────

/-- Whatever is installed was installed after `used`. -/
def Gone (c : Callbacks) (installs : Nat) (used : Callback) : Prop :=
  used.install < installs ∧ ∀ cb, c.Has cb → used.install < cb.install

/-- What the counter noted at a failed call says later: unchanged, the callbacks
    are those of the failed call; changed, they are newer. -/
structure Noted (c : Callbacks) (installs : Nat) (used : Callback) (counter : Nat) : Prop where
  old : used.install < installs
  le : counter ≤ c.counter
  same : counter = c.counter → ∀ cb, c.Has cb → cb.install = used.install
  newer : counter < c.counter → ∀ cb, c.Has cb → used.install < cb.install

/-- What a thread can rely on where it is. -/
def PcInv (callbacks : Key → Callbacks) (installs : Nat) : Pc → Prop
  | .calling k used _ | .failed k used _ => (callbacks k).Has used
  | .counted k used counter _ =>
      (callbacks k).Has used ∧ counter = (callbacks k).counter
  | .unlocked k used counter | .comparing k used counter =>
      Noted (callbacks k) installs used counter
  | .compared k used | .relocking k used => Gone (callbacks k) installs used
  | _ => True

/-- The thread relies on the callbacks staying as they are. -/
def Pc.relies : Pc → Bool
  | .calling .. | .failed .. | .counted .. => true
  | _ => false

structure Inv (simCount : Nat) (s : State) : Prop where
  held : ∀ t slotId mode, (s.pc t).holds = some (slotId, mode) →
    (s.locks (getRadioServiceRwlock simCount slotId)).HeldBy t mode
  fresh : ∀ k cb, (s.callbacks k).Has cb → cb.install < s.installs
  pair : ∀ k cb cb', (s.callbacks k).Has cb → (s.callbacks k).Has cb' →
    cb.install = cb'.install
  thread : ∀ t, PcInv s.callbacks s.installs (s.pc t)
  cleared : ∀ c ∈ s.cleared, ∀ cb, c.removed.Has cb → cb.install ≤ c.used.install
  returned : ∀ p ∈ s.returned, Gone (s.callbacks p.1) s.installs p.2

theorem not_has_none {cb : Callback} {counter : Nat} :
    ¬ Callbacks.Has { response := none, indication := none, counter := counter } cb := by
  rintro (h | h) <;> exact nomatch h

theorem inv_initial (simCount : Nat) : Inv simCount initial where
  held := fun _ _ _ h => nomatch h
  fresh := fun _ _ h => absurd h not_has_none
  pair := fun _ _ _ h => absurd h not_has_none
  thread := fun _ => trivial
  cleared := fun _ h => absurd h List.not_mem_nil
  returned := fun _ h => absurd h List.not_mem_nil

-- ── Steps that leave the callbacks alone ──────────────────────────────────

section Steps

variable {simCount : Nat} {s s' : State} {t : Nat}

theorem pcInv_update {P : Pc → Prop} {pc : Nat → Pc} {new : Pc}
    (hall : ∀ u, P (pc u)) (hnew : P new) : ∀ u, P (Function.update pc t new u) := by
  intro u
  by_cases hu : u = t
  · rw [hu, Function.update_self]
    exact hnew
  · rw [Function.update_of_ne hu]
    exact hall u

@[simp]
theorem goto_pc (s : State) (t : Nat) (pc : Pc) :
    (s.goto t pc).pc = Function.update s.pc t pc := rfl

@[simp]
theorem unlock_pc (s : State) (t slotId : Nat) (pc : Pc) :
    (s.unlock simCount t slotId pc).pc = Function.update s.pc t pc := rfl

@[simp]
theorem unlock_locks (s : State) (t slotId : Nat) (pc : Pc) :
    (s.unlock simCount t slotId pc).locks =
      Function.update s.locks (getRadioServiceRwlock simCount slotId)
        ((s.locks (getRadioServiceRwlock simCount slotId)).release t) := rfl

/-- A thread moves on under the locks it has. -/
theorem inv_goto {pc : Pc} (hinv : Inv simCount s)
    (hheld : ∀ slotId mode, pc.holds = some (slotId, mode) →
      (s.locks (getRadioServiceRwlock simCount slotId)).HeldBy t mode)
    (hpc : PcInv s.callbacks s.installs pc) : Inv simCount (s.goto t pc) where
  held := by
    intro u slotId mode h
    by_cases hu : u = t
    · subst hu
      rw [goto_pc, Function.update_self] at h
      exact hheld slotId mode h
    · rw [goto_pc, Function.update_of_ne hu] at h
      exact hinv.held u slotId mode h
  fresh := hinv.fresh
  pair := hinv.pair
  thread := pcInv_update hinv.thread hpc
  cleared := hinv.cleared
  returned := hinv.returned

/-- A lock is granted. -/
theorem inv_lock {slotId : Nat} {mode : Mode} {pc : Pc} (hinv : Inv simCount s)
    (hlock : s.lock simCount t slotId mode pc = some s')
    (hheld : pc.holds = some (slotId, mode))
    (hpc : PcInv s.callbacks s.installs pc) : Inv simCount s' := by
  rw [State.lock] at hlock
  split at hlock
  · exact nomatch hlock
  · rename_i held hgrant
    obtain rfl := Option.some.inj hlock
    refine inv_goto ?_ ?_ hpc
    · refine { hinv with held := ?_ }
      intro u slotId' mode' h
      have hu := hinv.held u slotId' mode' h
      by_cases hl : getRadioServiceRwlock simCount slotId' = getRadioServiceRwlock simCount slotId
      · rw [hl] at hu ⊢
        simp only [Function.update_self]
        exact (heldBy_acquire hgrant).mpr (Or.inr hu)
      · simp only [Function.update_of_ne hl]
        exact hu
    · intro slotId' mode' h
      obtain ⟨rfl, rfl⟩ := Prod.mk.inj (Option.some.inj (hheld.symm.trans h))
      simp only [Function.update_self]
      exact (heldBy_acquire hgrant).mpr (Or.inl ⟨rfl, rfl⟩)

/-- A lock is given back, by a thread that needs none from there on. -/
theorem inv_unlock {slotId : Nat} {pc : Pc} (hinv : Inv simCount s) (hfree : pc.holds = none)
    (hpc : PcInv s.callbacks s.installs pc) :
    Inv simCount (s.unlock simCount t slotId pc) where
  held := by
    intro u slotId' mode' h
    by_cases hu : u = t
    · subst hu
      rw [unlock_pc, Function.update_self, hfree] at h
      exact nomatch h
    · rw [unlock_pc, Function.update_of_ne hu] at h
      have hheld := hinv.held u slotId' mode' h
      rw [unlock_locks]
      by_cases hl : getRadioServiceRwlock simCount slotId' = getRadioServiceRwlock simCount slotId
      · rw [hl] at hheld ⊢
        rw [Function.update_self]
        exact heldBy_release.mpr ⟨hu, hheld⟩
      · rw [Function.update_of_ne hl]
        exact hheld
  fresh := hinv.fresh
  pair := hinv.pair
  thread := pcInv_update hinv.thread hpc
  cleared := hinv.cleared
  returned := hinv.returned

/-- While a thread writes under the slot's lock, no other thread relies on the
    callbacks of the slot. -/
theorem writer_alone {slotId u : Nat} {mode : Mode} (hinv : Inv simCount s)
    (hw : (s.pc t).holds = some (slotId, .write))
    (hu : (s.pc u).holds = some (slotId, mode)) : u = t :=
  eq_of_heldBy_write (hinv.held t slotId _ hw) (hinv.held u slotId mode hu)

-- ── Steps that change the callbacks ───────────────────────────────────────

/-- A change of a service's callbacks that every later comparison of the
    counter notices. -/
structure Replaces (c : Callbacks) (n : Nat) (c' : Callbacks) (n' : Nat) : Prop where
  mono : n ≤ n'
  gone : ∀ used, Gone c n used → Gone c' n' used
  noted : ∀ used counter, Noted c n used counter → Noted c' n' used counter

theorem replaces_refl {c : Callbacks} {n n' : Nat} (h : n ≤ n') : Replaces c n c n' where
  mono := h
  gone := fun _ hg => ⟨Nat.lt_of_lt_of_le hg.1 h, hg.2⟩
  noted := fun _ _ hn => { hn with old := Nat.lt_of_lt_of_le hn.old h }

/-- The counter goes up and what is installed then is new. -/
theorem replaces_of_newer {c c' : Callbacks} {n n' : Nat} (hn : n ≤ n')
    (hcount : c'.counter = c.counter + 1) (hnew : ∀ cb, c'.Has cb → n ≤ cb.install) :
    Replaces c n c' n' where
  mono := hn
  gone := fun used hg => ⟨by have := hg.1; omega, fun cb hcb => by
    have := hnew cb hcb
    have := hg.1
    omega⟩
  noted := fun used counter h =>
    { old := by have := h.old; omega
      le := by have := h.le; omega
      same := fun heq => by have := h.le; omega
      newer := fun _ cb hcb => by
        have := hnew cb hcb
        have := h.old
        omega }

/-- A thread that does not rely on a service keeps what it knows when the
    service's callbacks are replaced. -/
theorem pcInv_replace {callbacks : Key → Callbacks} {n n' : Nat} {k : Key} {c' : Callbacks}
    {pc : Pc} (hrep : Replaces (callbacks k) n c' n')
    (hfree : pc.relies = true → ∀ mode, pc.holds ≠ some (k.slotId, mode))
    (h : PcInv callbacks n pc) : PcInv (Function.update callbacks k c') n' pc := by
  have hother : ∀ k', Replaces (callbacks k') n (Function.update callbacks k c' k') n' := by
    intro k'
    by_cases hk : k' = k
    · rw [hk, Function.update_self]
      exact hrep
    · rw [Function.update_of_ne hk]
      exact replaces_refl hrep.mono
  have hsame : ∀ k' mode, pc.relies = true → pc.holds = some (k'.slotId, mode) →
      Function.update callbacks k c' k' = callbacks k' := by
    intro k' mode hrelies hholds
    refine Function.update_of_ne ?_ c' callbacks
    rintro rfl
    exact hfree hrelies mode hholds
  cases pc with
  | calling k' used mode =>
      rw [PcInv, hsame k' mode rfl rfl]
      exact h
  | failed k' used mode =>
      rw [PcInv, hsame k' mode rfl rfl]
      exact h
  | counted k' used counter mode =>
      rw [PcInv, hsame k' mode rfl rfl]
      exact h
  | unlocked k' used counter => exact (hother k').noted used counter h
  | comparing k' used counter => exact (hother k').noted used counter h
  | compared k' used => exact (hother k').gone used h
  | relocking k' used => exact (hother k').gone used h
  | _ => trivial

/-- New callbacks for a service, put there by a thread that holds the slot's
    write lock and relies on nothing itself. -/
theorem inv_replace {k : Key} {c' : Callbacks} {n' : Nat} {log : List Clear}
    (hinv : Inv simCount s) (hw : (s.pc t).holds = some (k.slotId, .write))
    (ht : (s.pc t).relies = false) (hrep : Replaces (s.callbacks k) s.installs c' n')
    (hfresh : ∀ cb, c'.Has cb → cb.install < n')
    (hpair : ∀ cb cb', c'.Has cb → c'.Has cb' → cb.install = cb'.install)
    (hlog : ∀ c ∈ log, ∀ cb, c.removed.Has cb → cb.install ≤ c.used.install) :
    Inv simCount { s with
      callbacks := Function.update s.callbacks k c', installs := n', cleared := log } where
  held := hinv.held
  fresh := by
    intro k' cb hcb
    simp only at hcb ⊢
    by_cases hk : k' = k
    · rw [hk, Function.update_self] at hcb
      exact hfresh cb hcb
    · rw [Function.update_of_ne hk] at hcb
      exact Nat.lt_of_lt_of_le (hinv.fresh k' cb hcb) hrep.mono
  pair := by
    intro k' cb cb' hcb hcb'
    simp only at hcb hcb'
    by_cases hk : k' = k
    · rw [hk, Function.update_self] at hcb hcb'
      exact hpair cb cb' hcb hcb'
    · rw [Function.update_of_ne hk] at hcb hcb'
      exact hinv.pair k' cb cb' hcb hcb'
  thread := by
    intro u
    refine pcInv_replace hrep ?_ (hinv.thread u)
    intro hrelies mode hholds
    obtain rfl := writer_alone hinv hw hholds
    rw [ht] at hrelies
    exact nomatch hrelies
  cleared := hlog
  returned := by
    intro p hp
    have hgone := hinv.returned p hp
    simp only
    by_cases hk : p.1 = k
    · rw [hk] at hgone ⊢
      rw [Function.update_self]
      exact hrep.gone p.2 hgone
    · rw [Function.update_of_ne hk]
      exact (replaces_refl hrep.mono).gone p.2 hgone

/-- What `setResponseFunctions` puts there has the number of this
    installation. -/
theorem has_install {n counter : Nat} {r i : Option Nat} {cb : Callback}
    (h : Callbacks.Has
      { response := r.map fun o => { object := o, install := n }
        indication := i.map fun o => { object := o, install := n }
        counter := counter } cb) : cb.install = n := by
  rcases h with h | h
  · obtain ⟨o, -, rfl⟩ := Option.map_eq_some_iff.mp h
    rfl
  · obtain ⟨o, -, rfl⟩ := Option.map_eq_some_iff.mp h
    rfl

theorem inv_install {k : Key} {r i : Option Nat} (hinv : Inv simCount s)
    (hpc : s.pc t = .setLocked k r i) : Inv simCount (s.install k r i) := by
  have hw : (s.pc t).holds = some (k.slotId, .write) := by rw [hpc]; rfl
  have ht : (s.pc t).relies = false := by rw [hpc]; rfl
  refine inv_replace hinv hw ht ?_ ?_ ?_ hinv.cleared
  · refine replaces_of_newer (Nat.le_succ _) rfl ?_
    intro cb hcb
    exact Nat.le_of_eq (has_install hcb).symm
  · intro cb hcb
    rw [has_install hcb]
    exact Nat.lt_succ_self _
  · intro cb cb' hcb hcb'
    rw [has_install hcb, has_install hcb']

/-- `checkReturnStatus` clears callbacks only when they are those of the failed
    call, and when it is done with them they are gone. -/
theorem inv_clear {k : Key} {used : Callback} {counter : Nat} (hinv : Inv simCount s)
    (hpc : s.pc t = .comparing k used counter) :
    Inv simCount (s.clear k used counter)
      ∧ Gone ((s.clear k used counter).callbacks k) s.installs used := by
  have hnoted : Noted (s.callbacks k) s.installs used counter := by
    have h := hinv.thread t
    rw [hpc] at h
    exact h
  by_cases heq : counter = (s.callbacks k).counter
  · rw [State.clear, if_pos heq]
    refine ⟨?_, hnoted.old, ?_⟩
    · have hw : (s.pc t).holds = some (k.slotId, .write) := by rw [hpc]; rfl
      have ht : (s.pc t).relies = false := by rw [hpc]; rfl
      refine inv_replace hinv hw ht ?_ ?_ ?_ ?_
      · refine replaces_of_newer (Nat.le_refl _) rfl ?_
        intro cb hcb
        exact absurd hcb not_has_none
      · intro cb hcb
        exact absurd hcb not_has_none
      · intro cb cb' hcb
        exact absurd hcb not_has_none
      · intro c hc cb hcb
        rcases List.mem_cons.mp hc with rfl | hc
        · exact Nat.le_of_eq (hnoted.same heq cb hcb)
        · exact hinv.cleared c hc cb hcb
    · intro cb hcb
      simp only [Function.update_self] at hcb
      exact absurd hcb not_has_none
  · rw [State.clear, if_neg heq]
    have hlt : counter < (s.callbacks k).counter := Nat.lt_of_le_of_ne hnoted.le heq
    exact ⟨hinv, hnoted.old, hnoted.newer hlt⟩

-- ── Every step ────────────────────────────────────────────────────────────

/-- The counter is noted under the lock of the failed call. -/
theorem noted_of_counted {k : Key} {used : Callback} {counter : Nat} {mode : Mode}
    (hinv : Inv simCount s) (hpc : s.pc t = .counted k used counter mode) :
    Noted (s.callbacks k) s.installs used counter := by
  have h := hinv.thread t
  rw [hpc] at h
  obtain ⟨hhas, hcounter⟩ := h
  exact
    { old := hinv.fresh k used hhas
      le := Nat.le_of_eq hcounter
      same := fun _ cb hcb => hinv.pair k cb used hcb hhas
      newer := fun hlt => absurd hcounter (Nat.ne_of_lt hlt) }

/-- The locks of a thread that stays under the lock it has. -/
theorem held_of_holds {pc pc' : Pc} (hinv : Inv simCount s) (hpc : s.pc t = pc)
    (hsame : pc'.holds = pc.holds) : ∀ slotId mode, pc'.holds = some (slotId, mode) →
      (s.locks (getRadioServiceRwlock simCount slotId)).HeldBy t mode := by
  intro slotId mode h
  refine hinv.held t slotId mode ?_
  rw [hpc, ← hsame]
  exact h

theorem inv_next (hinv : Inv simCount s) (h : next simCount s t = some s') :
    Inv simCount s' := by
  have hthread := hinv.thread t
  rw [next] at h
  cases hpc : s.pc t with
  | setWaiting k r i =>
      rw [hpc] at h
      exact inv_lock hinv h rfl trivial
  | setLocked k r i =>
      rw [hpc] at h
      obtain rfl := Option.some.inj h
      have hinstalled := inv_install hinv hpc
      exact inv_goto hinstalled (held_of_holds hinstalled hpc rfl) trivial
  | setDone k =>
      rw [hpc] at h
      obtain rfl := Option.some.inj h
      exact inv_unlock hinv rfl trivial
  | waiting slotId mode =>
      rw [hpc] at h
      exact inv_lock hinv h rfl trivial
  | failed k used mode =>
      rw [hpc] at h hthread
      obtain rfl := Option.some.inj h
      exact inv_goto hinv (held_of_holds hinv hpc rfl) ⟨hthread, rfl⟩
  | counted k used counter mode =>
      rw [hpc] at h
      obtain rfl := Option.some.inj h
      exact inv_unlock hinv rfl (noted_of_counted hinv hpc)
  | unlocked k used counter =>
      rw [hpc] at h hthread
      exact inv_lock hinv h rfl hthread
  | comparing k used counter =>
      rw [hpc] at h
      obtain rfl := Option.some.inj h
      obtain ⟨hcleared, hgone⟩ := inv_clear hinv hpc
      have hpc' : (s.clear k used counter).pc t = .comparing k used counter := by
        rw [← hpc, State.clear]
        split <;> rfl
      have hinstalls : (s.clear k used counter).installs = s.installs := by
        rw [State.clear]
        split <;> rfl
      refine inv_goto hcleared (held_of_holds hcleared hpc' rfl) ?_
      rw [PcInv, hinstalls]
      exact hgone
  | compared k used =>
      rw [hpc] at h hthread
      obtain rfl := Option.some.inj h
      exact inv_unlock hinv rfl hthread
  | relocking k used =>
      rw [hpc] at h hthread
      refine inv_lock ?_ h rfl trivial
      refine { hinv with returned := ?_ }
      intro p hp
      rcases List.mem_cons.mp hp with rfl | hp
      · exact hthread
      · exact hinv.returned p hp
  | idle =>
      rw [hpc] at h
      exact nomatch h
  | locked slotId mode =>
      rw [hpc] at h
      exact nomatch h
  | calling k used mode =>
      rw [hpc] at h
      exact nomatch h

theorem inv_step (hinv : Inv simCount s) {a : Action} (h : step simCount s a = some s') :
    Inv simCount s' := by
  cases a with
  | setResponseFunctions t k r i =>
      simp only [step] at h
      split at h
      · obtain rfl := Option.some.inj h
        exact inv_goto hinv (fun _ _ h => nomatch h) trivial
      · exact nomatch h
  | respond t slotId mode =>
      simp only [step] at h
      split at h
      · obtain rfl := Option.some.inj h
        exact inv_goto hinv (fun _ _ h => nomatch h) trivial
      · exact nomatch h
  | call t service indication =>
      simp only [step] at h
      split at h
      · rename_i slotId mode hpc
        obtain ⟨used, hused, rfl⟩ := Option.map_eq_some_iff.mp h
        refine inv_goto hinv (held_of_holds hinv hpc rfl) ?_
        cases indication with
        | true => exact Or.inr hused
        | false => exact Or.inl hused
      · exact nomatch h
  | result t isOk =>
      simp only [step] at h
      split at h
      · rename_i k used mode hpc
        obtain rfl := Option.some.inj h
        have hthread := hinv.thread t
        rw [hpc] at hthread
        cases isOk with
        | true => exact inv_goto hinv (held_of_holds hinv hpc rfl) trivial
        | false => exact inv_goto hinv (held_of_holds hinv hpc rfl) hthread
      · exact nomatch h
  | leave t =>
      simp only [step] at h
      split at h
      · obtain rfl := Option.some.inj h
        exact inv_unlock hinv rfl trivial
      · exact nomatch h
  | next t => exact inv_next hinv h

end Steps

-- ── Whole runs ────────────────────────────────────────────────────────────

/-- No failed call has cleared callbacks installed after those it used, and
    where `checkReturnStatus` has returned for a failed call, only callbacks
    installed after those it used are installed. -/
def FailuresSpareNewer (s : State) : Prop :=
  (∀ c ∈ s.cleared, ∀ cb, c.removed.Has cb → cb.install ≤ c.used.install)
    ∧ ∀ p ∈ s.returned, ∀ cb, (s.callbacks p.1).Has cb → p.2.install < cb.install

/-- **CALLBACK REPLACEMENT IS SAFE**: whatever the threads do, a failed call
    removes its own client's callbacks or none, and they are gone when
    `checkReturnStatus` returns. -/
theorem failures_spare_newer (simCount : Nat) (acts : List Action) :
    Run.Always (step simCount) FailuresSpareNewer initial acts := by
  intro done rest s' _ hrun
  have hinv : Inv simCount s' :=
    Run.run_invariant (fun _ _ _ h hstep => inv_step h hstep) done (inv_initial simCount) hrun
  refine ⟨hinv.cleared, ?_⟩
  intro p hp cb hcb
  exact (hinv.returned p hp).2 cb hcb

/-- Two threads fail on one dead client while a new client registers in the
    gap: the first one finds the counter changed, and so does the second. -/
example :
    let k : Key := { slotId := 0, service := .radio }
    (Run.run (step 2) initial
      [.setResponseFunctions 0 k (some 7) (some 8), .next 0, .next 0, .next 0,
        .respond 1 0 .read, .next 1, .respond 2 1 .read, .next 2, .leave 2,
        .respond 2 0 .read, .next 2, .call 1 .radio false, .call 2 .radio true,
        .result 1 false, .next 1, .next 1, .result 2 false, .next 2, .next 2,
        .setResponseFunctions 0 k (some 7) none, .next 0, .next 0, .next 0,
        .next 1, .next 1, .next 1, .next 1, .leave 1, .next 2, .next 2, .next 2, .next 2]).map
          (fun s => (s.callbacks k, s.cleared, s.returned))
      = some ({ response := some { object := 7, install := 1 }, indication := none, counter := 2 },
          [], [(k, { object := 8, install := 0 }), (k, { object := 7, install := 0 })]) := by
  decide

end RilCallbacks

import Universal7580.RilWatchProofs

/-! # Waking the event loop (`ril.cpp`)

    `ril_event_loop` waits in `select` for the descriptors and the first timer it
    knows of.  A thread that adds an event or a timer meanwhile must make it look
    again: `triggerEvLoop` writes a byte into a pipe whose other end the loop
    watches, and `processWakeupCallback` empties the pipe.

    Here are the loop and its pipe around the memory of `ril_event.cpp`.  The
    copy of `readFds`, the look at the timers, the reading of the clock and the
    call of `select` are steps of their own, and other threads come in between
    any two of them, and between their change and their byte.

    `no_lost_wakeup`: whenever the loop waits, it waits for everything that is
    watched and for no longer than until each timer is due, or a byte is in the
    pipe, which it waits for too, or on its way.  `wakeup_taken`: a byte takes the
    loop around, to where it waits for all there is with the pipe empty. -/

namespace RilWakeup

open Run Ring RilEvent
open RilTimer (Idle Timer WakesFor waiting)
open RilWatch (Table watched_iff)

-- ── The state ─────────────────────────────────────────────────────────────

/-- The address of `s_wakeupfd_event`. -/
def wakeupEvent : Nat := 3

/-- The bytes that a pipe holds. -/
def pipeSize : Nat := 65536

/-- `sizeof(buff)` of `processWakeupCallback`. -/
def buffSize : Nat := 16

/-- The memory, the clock and the place of the loop are `base`.  `wakeupRead` is
    `s_fdWakeupRead`; until there is a pipe `s_fdWakeupWrite` is 0, and bytes go
    astray to that descriptor.  `owed` counts the threads that are between their
    change and their byte.  Of the loop there are its copy of `readFds`, the time
    that `calcNextTimeout` read, the `nfds` of a `select` under way, and whether
    `processWakeupCallback` runs. -/
structure St where
  base : RilTimer.St := {}
  known : Nat → Bool := fun _ => false
  wakeupRead : Option Int := none
  pipe : Nat := 0
  stray : Nat := 0
  owed : Nat := 0
  fds : Option (Int → Bool) := none
  asked : Timeval := ⟨0, 0⟩
  waits : Option Int := none
  draining : Bool := false

-- ── The steps ─────────────────────────────────────────────────────────────

/-- What a thread or a callback does to the events. -/
inductive Change where
  | timerAdd (ev : Nat) (tv : Option Timeval)
  | eventSet (ev : Nat) (fd : Int) (persist : Bool)
  | eventAdd (ev : Nat)
  | eventDel (ev : Nat)

namespace Change

def toAct : Change → RilTimer.Act
  | .timerAdd ev tv => .timerAdd ev tv
  | .eventSet ev fd persist => .eventSet ev fd persist
  | .eventAdd ev => .eventAdd ev
  | .eventDel ev => .eventDel ev

/-- The event that the change is about. -/
def ev : Change → Nat
  | .timerAdd ev _ | .eventSet ev _ _ | .eventAdd ev | .eventDel ev => ev

/-- `internalRequestTimedCallback` and `rilEventAddWakeup` call `triggerEvLoop`. -/
def triggers : Change → Bool
  | .timerAdd _ _ | .eventAdd _ => true
  | .eventSet _ _ _ | .eventDel _ => false

/-- An event is added or deleted after it was set, and no descriptor is watched
    twice. -/
def Allowed (s : St) : Change → Prop
  | .eventAdd ev =>
      s.known ev = true ∧ ∀ slot ∈ s.base.mem.watchTable, ∀ ev' ∈ slot,
        s.base.mem.fd ev' ≠ s.base.mem.fd ev
  | .eventDel ev => s.known ev = true
  | .timerAdd _ _ | .eventSet _ _ _ => True

instance (s : St) (c : Change) : Decidable (c.Allowed s) :=
  match c with
  | .eventAdd ev => inferInstanceAs (Decidable (s.known ev = true ∧
      ∀ slot ∈ s.base.mem.watchTable, ∀ ev' ∈ slot, s.base.mem.fd ev' ≠ s.base.mem.fd ev))
  | .eventDel ev => inferInstanceAs (Decidable (s.known ev = true))
  | .timerAdd _ _ | .eventSet _ _ _ => isTrue trivial

/-- The events that were set. -/
def marks (known : Nat → Bool) : Change → Nat → Bool
  | .eventSet ev _ _ => Function.update known ev true
  | _ => known

end Change

/-- `processReadReadies` and `firePending` call back from the loop's own thread. -/
def inCallback (s : St) : Bool :=
  match s.base.pc with
  | .firing _ => !s.draining
  | _ => false

/-- Steps of the loop that `ril_event.cpp` has, and the rest.  `openPipe` and
    `addWakeup` are `eventLoop` before the loop; `write` is `triggerEvLoop`. -/
inductive Act where
  | tick (now : Timeval)
  | openPipe (fd : Int)
  | addWakeup
  | change (inLoop : Bool) (c : Change)
  | write
  | copyFds
  | readTimerList
  | calcNextTimeout
  | select
  | selectFails (eintr : Bool)
  | selectReturns (ready : Finset Int)
  | processTimeouts
  | processReadReadies
  | firePending
  | drain

/-- A step of the loop in `ril_event.cpp`. -/
def lift (s : St) (a : RilTimer.Act) : Option St :=
  (RilTimer.step s.base a).map fun base => { s with base := base }

/-- `triggerEvLoop` after a change, unless the loop's own thread made it. -/
def owe (inLoop : Bool) (c : Change) (owed : Nat) : Nat :=
  if c.triggers && !inLoop then owed + 1 else owed

/-- The callback of `s_wakeupfd_event` is the one that drains. -/
def startsDraining (s : St) : Bool :=
  match s.base.pc with
  | .firing ev => ev == wakeupEvent
  | _ => false

/-- `none`: the pipe is opened once and its descriptor is not watched yet; the
    event of the pipe is nobody else's; a write to a full pipe waits; `select`
    gives descriptors that it was asked for, and that of the pipe if there is a
    byte in it; and the loop goes its own way. -/
def step (s : St) : Act → Option St
  | .tick now => lift s (.tick now)
  | .openPipe fd =>
      if s.wakeupRead = none ∧ 0 ≤ fd then some { s with wakeupRead := some fd } else none
  | .addWakeup =>
      match s.wakeupRead with
      | none => none
      | some fd =>
          if s.known wakeupEvent = false ∧ (∃ slot ∈ s.base.mem.watchTable, slot = none)
              ∧ ∀ slot ∈ s.base.mem.watchTable, ∀ ev' ∈ slot, s.base.mem.fd ev' ≠ fd then do
            let base ← RilTimer.step s.base (.eventSet wakeupEvent fd true)
            let base ← RilTimer.step base (.eventAdd wakeupEvent)
            return { s with base := base, known := Function.update s.known wakeupEvent true }
          else none
  | .change inLoop c =>
      if c.ev ≠ wakeupEvent ∧ c.Allowed s ∧ (inLoop = true → inCallback s = true) then
        (RilTimer.step s.base c.toAct).map fun base =>
          { s with base := base, known := c.marks s.known, owed := owe inLoop c s.owed }
      else none
  | .write =>
      match s.owed, s.wakeupRead with
      | 0, _ => none
      | owed + 1, none => some { s with owed := owed, stray := s.stray + 1 }
      | owed + 1, some _ =>
          if s.pipe < pipeSize then some { s with owed := owed, pipe := s.pipe + 1 } else none
  | .copyFds =>
      match s.base.pc with
      | .top =>
          if s.known wakeupEvent = true ∧ s.fds.isNone then
            some { s with fds := some s.base.mem.readFds }
          else none
      | _ => none
  | .readTimerList => if s.fds.isSome then lift s .readTimerList else none
  | .calcNextTimeout => (lift s .calcNextTimeout).map fun t => { t with asked := s.base.clock }
  | .select =>
      match s.base.pc with
      | .selecting _ _ =>
          if s.waits.isNone then some { s with waits := some s.base.mem.nfds } else none
      | _ => none
  | .selectFails eintr =>
      if s.waits.isSome then
        (lift s (.selectFails eintr)).map fun t => { t with fds := none, waits := none }
      else none
  | .selectReturns ready =>
      match s.fds, s.waits with
      | some rfds, some n =>
          if ∀ fd ∈ ready, rfds fd = true ∧ fd < n ∧ (s.wakeupRead = some fd → 0 < s.pipe) then
            (lift s (.selectReturns (fun fd => decide (fd ∈ ready)) ready.card)).map fun t =>
              { t with fds := none, waits := none }
          else none
      | _, _ => none
  | .processTimeouts => lift s .processTimeouts
  | .processReadReadies => lift s .processReadReadies
  | .firePending =>
      if s.draining then none
      else (lift s .firePending).map fun t => { t with draining := startsDraining s }
  | .drain =>
      if s.draining then
        some (if s.pipe = 0 then { s with draining := false }
          else { s with pipe := s.pipe - buffSize })
      else none

-- ── What is promised ──────────────────────────────────────────────────────

/-- A byte is in the pipe, or a thread is about to write one. -/
def Signalled (s : St) : Prop := 0 < s.pipe ∨ 0 < s.owed

/-- **A `select` UNDER WAY**, with the copy `rfds` and below `n`: it would see a
    byte in the pipe, and unless there is one, or is to be one, it waits for every
    watched descriptor and ends no later than each timer is due. -/
structure Covered (s : St) (rfds : Int → Bool) (n : Int) : Prop where
  pipe : ∃ fd, s.wakeupRead = some fd ∧ rfds fd = true ∧ fd < n
  watches : ∀ ev, some ev ∈ s.base.mem.watchTable →
    (rfds (s.base.mem.fd ev) = true ∧ s.base.mem.fd ev < n) ∨ Signalled s
  timers : ∀ t ∈ waiting s.base,
    (∃ rfds ptv, s.base.pc = .selecting rfds ptv ∧ WakesFor [t] s.asked ptv) ∨ Signalled s

/-- **NO WAKEUP IS LOST**, in one state. -/
def Woken (s : St) : Prop :=
  ∀ n, s.waits = some n → ∃ rfds, s.fds = some rfds ∧ Covered s rfds n

-- ── The watch table under changes ─────────────────────────────────────────

/-- What a change to one event leaves of the others. -/
structure Kept (m m' : Events) (ev : Nat) : Prop where
  fd : ∀ k, k ≠ ev → m'.fd k = m.fd k
  persist : ∀ k, k ≠ ev → m'.persist k = m.persist k
  watches : ∀ i k, k ≠ ev → (Watches m' i k ↔ Watches m i k)

section Table

variable {m m' : Events} {known : Nat → Bool} {ev i k : Nat}

/-- The table is about the watched events alone. -/
theorem table_congr (h : Table m known) (htable : m'.watchTable = m.watchTable)
    (hindex : m'.index = m.index) (hfd : ∀ i k, Watches m i k → m'.fd k = m.fd k)
    (hread : m'.readFds = m.readFds) (hnfds : m'.nfds = m.nfds) : Table m' known := by
  have hwatches : ∀ i k, Watches m' i k ↔ Watches m i k := fun i k => by
    rw [Watches, Watches, htable]
  constructor
  case index =>
    intro i k hi
    rw [hindex]
    exact h.index i k ((hwatches i k).mp hi)
  case removed =>
    intro k hk hout
    rw [hindex]
    exact h.removed k hk fun i hi => hout i ((hwatches i k).mpr hi)
  case known => exact fun i k hi => h.known i k ((hwatches i k).mp hi)
  case distinct =>
    intro i j k k' hi hj hsame
    have hi := (hwatches i k).mp hi
    have hj := (hwatches j k').mp hj
    rw [hfd i k hi, hfd j k' hj] at hsame
    exact h.distinct i j k k' hi hj hsame
  case readFds =>
    intro fd
    rw [hread, h.readFds]
    constructor
    · rintro ⟨i, k, hi, rfl⟩
      exact ⟨i, k, (hwatches i k).mpr hi, hfd i k hi⟩
    · rintro ⟨i, k, hi, heq⟩
      have hi := (hwatches i k).mp hi
      exact ⟨i, k, hi, (hfd i k hi).symm.trans heq⟩
  case nfds =>
    intro i k hi
    have hi := (hwatches i k).mp hi
    rw [hfd i k hi, hnfds]
    exact h.nfds i k hi
  case length => rw [htable]; exact h.length

theorem not_watches_idle (hidle : Idle m ev) (i : Nat) : ¬Watches m i ev :=
  fun hi => hidle.2.2 (mem_watchTable_of_watches hi)

theorem watches_ne (hidle : Idle m ev) (hi : Watches m i k) : k ≠ ev :=
  fun heq => not_watches_idle hidle i (heq ▸ hi)

/-- **`ril_event_set`** and the table. -/
theorem table_eventSet (h : Table m known) (hidle : Idle m ev) (fd : Int) (persist : Bool) :
    Table (rilEventSet m ev fd persist) (Function.update known ev true)
      ∧ Kept m (rilEventSet m ev fd persist) ev := by
  have hfd : ∀ k, k ≠ ev → (rilEventSet m ev fd persist).fd k = m.fd k := by
    intro k hk
    show Function.update (Function.update m.fd ev 0) ev fd k = m.fd k
    rw [Function.update_of_ne hk, Function.update_of_ne hk]
  have hindex : ∀ k, k ≠ ev → (rilEventSet m ev fd persist).index k = m.index k := by
    intro k hk
    show Function.update (Function.update m.index ev 0) ev (-1) k = m.index k
    rw [Function.update_of_ne hk, Function.update_of_ne hk]
  have hpersist : ∀ k, k ≠ ev → (rilEventSet m ev fd persist).persist k = m.persist k := by
    intro k hk
    show Function.update (Function.update m.persist ev false) ev persist k = m.persist k
    rw [Function.update_of_ne hk, Function.update_of_ne hk]
  have hone : Table { m with fd := (rilEventSet m ev fd persist).fd } known :=
    table_congr h rfl rfl (fun i k hi => hfd k (watches_ne hidle hi)) rfl rfl
  refine ⟨?_, ⟨hfd, hpersist, fun _ _ _ => Iff.rfl⟩⟩
  constructor
  case index =>
    intro i k hi
    rw [hindex k (watches_ne hidle hi)]
    exact h.index i k hi
  case removed =>
    intro k hk hout
    by_cases hev : k = ev
    · subst hev
      exact Function.update_self _ _ _
    · rw [Function.update_of_ne hev] at hk
      rw [hindex k hev]
      exact h.removed k hk hout
  case known =>
    intro i k hi
    rw [Function.update_of_ne (watches_ne hidle hi)]
    exact h.known i k hi
  case distinct => exact hone.distinct
  case readFds => exact hone.readFds
  case nfds => exact hone.nfds
  case length => exact hone.length

/-- **`ril_timer_add`** and the table. -/
theorem table_timed (h : Table m known) (hidle : Idle m ev) (timeout : Timeval)
    (L : Links Nat) : Table { timed m ev timeout with links := L } known
      ∧ Kept m { timed m ev timeout with links := L } ev := by
  have hfd : ∀ k, k ≠ ev → (timed m ev timeout).fd k = m.fd k := fun k hk =>
    Function.update_of_ne hk _ _
  refine ⟨table_congr h rfl rfl (fun i k hi => hfd k (watches_ne hidle hi)) rfl rfl, ?_⟩
  exact ⟨hfd, fun _ _ => rfl, fun _ _ _ => Iff.rfl⟩

/-- **`ril_event_add`** and the table. -/
theorem table_eventAdd (h : Table m known) (hknown : known ev = true)
    (hfd : ∀ slot ∈ m.watchTable, ∀ ev' ∈ slot, m.fd ev' ≠ m.fd ev) :
    Table (rilEventAdd m ev) known ∧ Kept m (rilEventAdd m ev) ev
      ∧ (none ∈ m.watchTable → ∃ i, Watches (rilEventAdd m ev) i ev) := by
  by_cases hfree : none ∈ m.watchTable
  · obtain ⟨i, hlt, hslot, heq⟩ := RilWatch.rilEventAdd_free hfree ev
    have hwatches : ∀ j k, Watches (rilEventAdd m ev) j k ↔ Watches m j k ∨ j = i ∧ k = ev :=
      RilWatch.watches_set hlt hslot (by rw [heq])
    have hadd := h.add hknown hfree fun j k hj => hfd _ (mem_watchTable_of_watches hj) k rfl
    refine ⟨hadd, ⟨?_, ?_, ?_⟩, fun _ => ⟨i, (hwatches i ev).mpr (.inr ⟨rfl, rfl⟩)⟩⟩
    · intro k _
      rw [heq]
    · intro k _
      rw [heq]
    · intro j k hk
      rw [hwatches]
      exact ⟨fun hj => hj.resolve_right fun hev => hk hev.2, .inl⟩
  · have hfull : rilEventAdd m ev = m := by
      rw [rilEventAdd]
      split
      · rfl
      · next i hsome =>
          obtain ⟨hlt, hslot, -⟩ := List.findIdx?_eq_some_iff_getElem.mp hsome
          refine absurd (List.getElem_mem hlt) ?_
          rw [Option.isNone_iff_eq_none.mp hslot]
          exact hfree
    rw [hfull]
    exact ⟨h, ⟨fun _ _ => rfl, fun _ _ => rfl, fun _ _ _ => Iff.rfl⟩, fun hmem => absurd hmem hfree⟩

theorem kept_removeWatch (hi : Watches m i ev) : Kept m (removeWatch m ev i) ev where
  fd := fun k _ => by rw [(removeWatch_same m ev i).fd]
  persist := fun k _ => by rw [RilWatch.removeWatch_persist]
  watches := by
    intro j k hk
    rw [RilWatch.watches_removeWatch_iff]
    refine ⟨And.left, fun hj => ⟨hj, ?_⟩⟩
    rintro rfl
    exact hk (RilWatch.watches_inj hj hi)

/-- **`ril_event_del`** and the table: the event is not watched any more. -/
theorem table_eventDel (h : Table m known) (hknown : known ev = true) :
    Table (rilEventDel m ev) known ∧ Kept m (rilEventDel m ev) ev
      ∧ ∀ i, ¬Watches (rilEventDel m ev) i ev := by
  refine ⟨h.del hknown, ?_⟩
  rw [rilEventDel]
  by_cases hev : ∃ i, Watches m i ev
  · obtain ⟨i, hi⟩ := hev
    have hlt := RilWatch.watches_lt hi
    rw [h.length] at hlt
    rw [h.index i ev hi, if_neg (by omega), Int.toNat_natCast]
    refine ⟨kept_removeWatch hi, fun j hj => ?_⟩
    obtain ⟨hold, hne⟩ := RilWatch.watches_removeWatch_iff.mp hj
    exact hne (h.slot_eq hold hi)
  · rw [h.removed ev hknown fun i hi => hev ⟨i, hi⟩, if_pos (by omega)]
    exact ⟨⟨fun _ _ => rfl, fun _ _ => rfl, fun _ _ _ => Iff.rfl⟩, fun i hi => hev ⟨i, hi⟩⟩

-- ── The table in a pass ───────────────────────────────────────────────────

/-- What `processReadReadies` leaves of the events. -/
structure Scanned (m m' : Events) (known : Nat → Bool) : Prop where
  table : Table m' known
  fd : m'.fd = m.fd
  persist : m'.persist = m.persist
  kept : ∀ i ev, Watches m i ev → m.persist ev = true → Watches m' i ev

theorem scanned_refl (h : Table m known) : Scanned m m known := ⟨h, rfl, rfl, fun _ _ h _ => h⟩

theorem Scanned.trans {m'' : Events} (h : Scanned m m' known) (h' : Scanned m' m'' known) :
    Scanned m m'' known where
  table := h'.table
  fd := h'.fd.trans h.fd
  persist := h'.persist.trans h.persist
  kept := fun i ev hi hp => h'.kept i ev (h.kept i ev hi hp) (by rw [h.persist]; exact hp)

/-- A persistent event stays in its slot. -/
theorem scanned_readReady (h : Table m known) (rfds : Int → Bool) (n : Int) (i : Nat) :
    Scanned m (readReady rfds (m, n) i).1 known := by
  rw [readReady]
  dsimp only
  split
  · split
    · rename_i rev hslot
      split
      · have hadded : Table (addToList m rev pendingList) known :=
          table_congr h rfl rfl (fun _ _ _ => rfl) rfl rfl
        dsimp only
        split
        · rename_i hp
          have hi : Watches (addToList m rev pendingList) i rev := hslot
          refine ⟨hadded.removeWatch hi, (removeWatch_same _ rev i).fd,
            RilWatch.removeWatch_persist _ rev i, fun j ev hj hpe => ?_⟩
          refine RilWatch.watches_removeWatch_iff.mpr ⟨hj, ?_⟩
          rintro rfl
          have hsame : ev = rev := RilWatch.watches_inj hj hslot
          subst hsame
          cases hpe.symm.trans hp
        · exact ⟨hadded, rfl, rfl, fun _ _ hj _ => hj⟩
      · exact scanned_refl h
    · exact scanned_refl h
  · exact scanned_refl h

theorem scanned_foldl (rfds : Int → Bool) : ∀ (l : List Nat) {m : Events} (n : Int),
    Table m known → Scanned m (l.foldl (readReady rfds) (m, n)).1 known := by
  intro l
  induction l with
  | nil =>
      intro m n h
      exact scanned_refl h
  | cons i rest ih =>
      intro m n h
      have hone := scanned_readReady h rfds n i
      rw [List.foldl_cons]
      exact hone.trans (ih (readReady rfds (m, n) i).2 hone.table)

/-- **A PASS** and the table. -/
theorem scanned_processReadReadies (h : Table m known) (rfds : Int → Bool) (n : Int) :
    Scanned m (RilEvent.processReadReadies m rfds n) known :=
  scanned_foldl rfds _ n h

end Table

-- ── The invariant ─────────────────────────────────────────────────────────

/-- What the loop has in hand where it is. -/
def InHand (s : St) : Prop :=
  match s.base.pc with
  | .top => s.waits = none
  | .calculating _ _ => s.fds.isSome ∧ s.waits = none
  | .selecting _ ptv => s.fds.isSome ∧ WakesFor s.base.seen s.asked ptv
  | .timeouts _ _ | .readReadies _ _ | .firing _ | .stopped => s.fds = none ∧ s.waits = none

/-- The loop looked at the timers and does not call back yet. -/
def looked : RilTimer.Pc → Bool
  | .calculating _ _ | .selecting _ _ => true
  | _ => false

/-- What the loop knows is all there is, unless the pipe tells it to look again. -/
structure Inv (s : St) : Prop where
  timers : ∃ tl pl, RilTimer.Inv s.base tl pl
  table : Table s.base.mem s.known
  wakeup : s.known wakeupEvent = true → ∃ i, Watches s.base.mem i wakeupEvent
    ∧ s.wakeupRead = some (s.base.mem.fd wakeupEvent) ∧ s.base.mem.persist wakeupEvent = true
  early : s.known wakeupEvent = false → s.fds = none ∧ s.waits = none
  inHand : InHand s
  drain : s.draining = true → ∃ ev, s.base.pc = .firing ev
  copied : ∀ rfds, s.fds = some rfds → (∀ fd, s.wakeupRead = some fd → rfds fd = true)
    ∧ ∀ i ev, Watches s.base.mem i ev → rfds (s.base.mem.fd ev) = true ∨ Signalled s
  seen : looked s.base.pc = true → ∀ t ∈ waiting s.base, t ∈ s.base.seen ∨ Signalled s
  nfds : ∀ n, s.waits = some n → (∀ fd, s.wakeupRead = some fd → fd < n)
    ∧ ∀ i ev, Watches s.base.mem i ev → s.base.mem.fd ev < n ∨ Signalled s

theorem inv_start : Inv {} where
  timers := ⟨[], [], RilTimer.inv_init⟩
  table := RilWatch.inv_init.table
  wakeup := fun h => by cases h
  early := fun _ => ⟨rfl, rfl⟩
  inHand := rfl
  drain := fun h => by cases h
  copied := fun _ h => by cases h
  seen := fun h => by cases h
  nfds := fun _ h => by cases h

section Invariant

variable {s s' : St} {c : Change} {inLoop : Bool} {base base' : RilTimer.St}

/-- A timeout that ends soon enough for all does for each. -/
theorem wakesFor_of_mem {timers : List Timer} {clock : Timeval} {ptv : Option Timeval}
    (h : WakesFor timers clock ptv) {t : Timer} (ht : t ∈ timers) : WakesFor [t] clock ptv := by
  cases ptv with
  | none =>
      rw [show timers = [] from h] at ht
      cases ht
  | some tv =>
      refine ⟨h.1, fun t' ht' => ?_⟩
      rw [List.mem_singleton.mp ht']
      exact h.2 t ht

theorem selecting_of_waits (h : Inv s) {n : Int} (hn : s.waits = some n) :
    ∃ rf ptv, s.base.pc = .selecting rf ptv ∧ s.fds.isSome = true
      ∧ WakesFor s.base.seen s.asked ptv := by
  have hin := h.inHand
  rw [InHand] at hin
  split at hin
  · cases hn.symm.trans hin
  · cases hn.symm.trans hin.2
  · rename_i rf ptv hpc
    exact ⟨rf, ptv, hpc, hin⟩
  · cases hn.symm.trans hin.2
  · cases hn.symm.trans hin.2
  · cases hn.symm.trans hin.2
  · cases hn.symm.trans hin.2

/-- **THE INVARIANT COVERS** what a `select` under way must wake for. -/
theorem woken_of_inv (h : Inv s) : Woken s := by
  intro n hn
  obtain ⟨rf, ptv, hpc, hfds, hwakes⟩ := selecting_of_waits h hn
  obtain ⟨rfds, hrfds⟩ := Option.isSome_iff_exists.mp hfds
  obtain ⟨hpipe, hcopied⟩ := h.copied rfds hrfds
  obtain ⟨hlow, hbelow⟩ := h.nfds n hn
  have hknown : s.known wakeupEvent = true := by
    cases hk : s.known wakeupEvent with
    | true => rfl
    | false => cases hrfds.symm.trans (h.early hk).1
  obtain ⟨i, -, hread, -⟩ := h.wakeup hknown
  refine ⟨rfds, hrfds, ⟨⟨_, hread, hpipe _ hread, hlow _ hread⟩, ?_, ?_⟩⟩
  · intro ev hev
    obtain ⟨i, hi⟩ := watched_iff.mp hev
    rcases hcopied i ev hi with hset | hsig
    · rcases hbelow i ev hi with hlt | hsig
      · exact .inl ⟨hset, hlt⟩
      · exact .inr hsig
    · exact .inr hsig
  · intro t ht
    rcases h.seen (by rw [hpc]; rfl) t ht with hseen | hsig
    · exact .inl ⟨rf, ptv, hpc, wakesFor_of_mem hwakes hseen⟩
    · exact .inr hsig

-- ── Changes ───────────────────────────────────────────────────────────────

/-- What a change leaves of the loop. -/
structure Beside (base base' : RilTimer.St) (triggers : Bool) : Prop where
  pc : base'.pc = base.pc
  seen : base'.seen = base.seen
  calls : base'.calls = base.calls
  added : ∀ t ∈ base'.added, t ∈ base.added ∨ triggers = true

theorem Beside.waiting {triggers : Bool} (h : Beside base base' triggers) {t : Timer}
    (ht : t ∈ waiting base') : t ∈ waiting base ∨ triggers = true := by
  obtain ⟨hadded, hcalled⟩ := List.mem_filter.mp ht
  rw [h.calls] at hcalled
  exact (h.added t hadded).imp (fun hold => List.mem_filter.mpr ⟨hold, hcalled⟩) id

/-- What a change does to the table: an event that is watched now was watched
    before, or a byte follows. -/
structure Changed (m m' : Events) (known known' : Nat → Bool) (ev : Nat) (triggers : Bool) :
    Prop where
  table : Table m' known'
  kept : Kept m m' ev
  mine : ∀ i, Watches m' i ev → triggers = true

/-- **A CHANGE** beside the loop. -/
theorem change_spec (htimers : ∃ tl pl, RilTimer.Inv s.base tl pl) (ht : Table s.base.mem s.known)
    (hok : c.Allowed s) (hstep : RilTimer.step s.base c.toAct = some base') :
    Beside s.base base' c.triggers
      ∧ Changed s.base.mem base'.mem s.known (c.marks s.known) c.ev c.triggers := by
  obtain ⟨tl, pl, hinv⟩ := htimers
  cases c with
  | timerAdd ev tv =>
      simp only [Change.toAct, RilTimer.step] at hstep
      split at hstep
      · rename_i hidle
        cases tv with
        | none =>
            obtain rfl := Option.some.inj hstep
            refine ⟨⟨rfl, rfl, rfl, fun _ h => .inl h⟩, ht, ?_, fun _ _ => rfl⟩
            exact ⟨fun _ _ => rfl, fun _ _ => rfl, fun _ _ _ => Iff.rfl⟩
        | some tv =>
            cases htime : timeradd s.base.clock tv with
            | none =>
                rw [RilTimer.timerAdd, rilTimerAdd_overflow htime] at hstep
                cases hstep
            | some timeout =>
                obtain ⟨L, hadd, -⟩ := rilTimerAdd_spec hinv.rings (hinv.idle_notMem hidle.1)
                  (Nat.lt_succ_of_le hinv.length_tl) htime
                rw [RilTimer.timerAdd, hadd] at hstep
                obtain rfl := Option.some.inj hstep
                obtain ⟨htable, hkept⟩ := table_timed ht hidle.1 timeout L
                exact ⟨⟨rfl, rfl, rfl, fun _ _ => .inr rfl⟩, htable, hkept, fun _ _ => rfl⟩
      · cases hstep
  | eventSet ev fd persist =>
      simp only [Change.toAct, RilTimer.step] at hstep
      split at hstep
      · rename_i hidle
        obtain rfl := Option.some.inj hstep
        obtain ⟨htable, hkept⟩ := table_eventSet ht hidle fd persist
        refine ⟨⟨rfl, rfl, rfl, fun _ h => .inl h⟩, htable, hkept, fun i hi => ?_⟩
        exact absurd hi (not_watches_idle hidle i)
      · cases hstep
  | eventAdd ev =>
      simp only [Change.toAct, RilTimer.step] at hstep
      split at hstep
      · obtain rfl := Option.some.inj hstep
        obtain ⟨htable, hkept, -⟩ := table_eventAdd ht hok.1 hok.2
        exact ⟨⟨rfl, rfl, rfl, fun _ h => .inl h⟩, htable, hkept, fun _ _ => rfl⟩
      · cases hstep
  | eventDel ev =>
      obtain rfl := Option.some.inj hstep
      obtain ⟨htable, hkept, hout⟩ := table_eventDel ht hok
      exact ⟨⟨rfl, rfl, rfl, fun _ h => .inl h⟩, htable, hkept, fun i hi => absurd hi (hout i)⟩

theorem marks_of_ne {known : Nat → Bool} {k : Nat} (hk : k ≠ c.ev) :
    c.marks known k = known k := by
  cases c with
  | eventSet ev fd persist => exact Function.update_of_ne hk _ _
  | timerAdd ev tv => rfl
  | eventAdd ev => rfl
  | eventDel ev => rfl

theorem Changed.watches {m m' : Events} {known known' : Nat → Bool} {ev : Nat} {triggers : Bool}
    (h : Changed m m' known known' ev triggers) {i k : Nat} (hi : Watches m' i k) :
    (Watches m i k ∧ m'.fd k = m.fd k) ∨ triggers = true := by
  by_cases hk : k = ev
  · subst hk
    exact .inr (h.mine i hi)
  · exact .inl ⟨(h.kept.watches i k hk).mp hi, h.kept.fd k hk⟩

theorem Signalled.owe {s' : St} (h : Signalled s) (hpipe : s'.pipe = s.pipe)
    (howed : s.owed ≤ s'.owed) : Signalled s' := by
  rw [Signalled, hpipe]
  exact h.imp id fun h => Nat.lt_of_lt_of_le h howed

theorem le_owe (inLoop : Bool) (c : Change) (owed : Nat) : owed ≤ owe inLoop c owed := by
  rw [owe]
  split
  · exact Nat.le_succ owed
  · exact Nat.le_refl owed

/-- Another thread owes a byte for what the loop must know. -/
theorem owe_pos {owed : Nat} (ht : c.triggers = true) : 0 < owe false c owed := by
  rw [owe, ht]
  exact Nat.succ_pos owed

/-- **CHANGES** keep the invariant: those of other threads owe a byte, and the
    loop's own come while it has nothing in hand. -/
theorem inv_change (h : Inv s) (hev : c.ev ≠ wakeupEvent) (hok : c.Allowed s)
    (hmay : inLoop = true → inCallback s = true)
    (hstep : RilTimer.step s.base c.toAct = some base') :
    Inv { s with
      base := base'
      known := c.marks s.known
      owed := owe inLoop c s.owed } := by
  obtain ⟨hbeside, hchanged⟩ := change_spec h.timers h.table hok hstep
  have hknown : c.marks s.known wakeupEvent = s.known wakeupEvent := marks_of_ne (Ne.symm hev)
  have hfd := hchanged.kept.fd wakeupEvent (Ne.symm hev)
  -- with something in hand the change is another thread's
  have hother : s.fds.isSome = true ∨ looked s.base.pc = true → inLoop = false := by
    intro hhand
    cases hin : inLoop with
    | false => rfl
    | true =>
        have hcall := hmay hin
        have hplace := h.inHand
        rw [inCallback] at hcall
        split at hcall
        · rename_i ev hpc
          rw [InHand, hpc] at hplace
          rw [hplace.1, hpc] at hhand
          exact hhand.elim (fun h => by cases h) fun h => by cases h
        · cases hcall
  have hsignal : ∀ {t : St}, t.pipe = s.pipe → t.owed = owe inLoop c s.owed →
      Signalled s → Signalled t := fun hp ho hs => hs.owe hp (ho ▸ le_owe inLoop c s.owed)
  have howed : inLoop = false → c.triggers = true → 0 < owe inLoop c s.owed := by
    intro hin ht
    rw [hin]
    exact owe_pos ht
  constructor
  case timers => exact RilTimer.inv_step h.timers hstep
  case table => exact hchanged.table
  case wakeup =>
    intro hk
    obtain ⟨i, hi, hread, hp⟩ := h.wakeup (hknown ▸ hk)
    refine ⟨i, (hchanged.kept.watches i wakeupEvent (Ne.symm hev)).mpr hi, ?_, ?_⟩
    · show s.wakeupRead = some (base'.mem.fd wakeupEvent)
      rw [hfd]
      exact hread
    · exact (hchanged.kept.persist wakeupEvent (Ne.symm hev)).trans hp
  case early => exact fun hk => h.early (hknown ▸ hk)
  case inHand =>
    have hplace := h.inHand
    rw [InHand] at hplace ⊢
    show match base'.pc with
      | .top => s.waits = none
      | .calculating _ _ => s.fds.isSome ∧ s.waits = none
      | .selecting _ ptv => s.fds.isSome ∧ WakesFor base'.seen s.asked ptv
      | .timeouts _ _ | .readReadies _ _ | .firing _ | .stopped => s.fds = none ∧ s.waits = none
    rw [hbeside.pc, hbeside.seen]
    exact hplace
  case drain =>
    intro hd
    obtain ⟨ev, hpc⟩ := h.drain hd
    exact ⟨ev, hbeside.pc.trans hpc⟩
  case copied =>
    intro rfds hrfds
    obtain ⟨hpipe, hcopied⟩ := h.copied rfds hrfds
    refine ⟨hpipe, fun i ev hi => ?_⟩
    rcases hchanged.watches hi with ⟨hold, hsame⟩ | ht
    · refine (hcopied i ev hold).imp (fun hset => ?_) (hsignal rfl rfl)
      show rfds (base'.mem.fd ev) = true
      rw [hsame]
      exact hset
    · exact .inr (.inr (howed (hother (.inl (by rw [show s.fds = some rfds from hrfds]; rfl))) ht))
  case seen =>
    intro hlook t ht
    have hlooked : looked s.base.pc = true := hbeside.pc ▸ hlook
    rcases hbeside.waiting ht with hold | htrig
    · refine (h.seen hlooked t hold).imp (fun hin => ?_) (hsignal rfl rfl)
      show t ∈ base'.seen
      rw [hbeside.seen]
      exact hin
    · exact .inr (.inr (howed (hother (.inr hlooked)) htrig))
  case nfds =>
    intro n hn
    obtain ⟨hlow, hbelow⟩ := h.nfds n hn
    refine ⟨hlow, fun i ev hi => ?_⟩
    rcases hchanged.watches hi with ⟨hold, hsame⟩ | ht
    · refine (hbelow i ev hold).imp (fun hlt => ?_) (hsignal rfl rfl)
      show base'.mem.fd ev < n
      rw [hsame]
      exact hlt
    · obtain ⟨rf, ptv, -, hfds, -⟩ := selecting_of_waits h hn
      exact .inr (.inr (howed (hother (.inl hfds)) ht))

-- ── The pipe ──────────────────────────────────────────────────────────────

theorem known_of_fds (h : Inv s) {rfds : Int → Bool} (hfds : s.fds = some rfds) :
    s.known wakeupEvent = true := by
  cases hk : s.known wakeupEvent with
  | true => rfl
  | false => cases hfds.symm.trans (h.early hk).1

theorem known_of_waits (h : Inv s) {n : Int} (hn : s.waits = some n) :
    s.known wakeupEvent = true := by
  cases hk : s.known wakeupEvent with
  | true => rfl
  | false => cases hn.symm.trans (h.early hk).2

theorem fds_of_looked (h : Inv s) (hlook : looked s.base.pc = true) : s.fds.isSome = true := by
  have hin := h.inHand
  rw [InHand] at hin
  split at hin <;> rename_i hpc <;> rw [hpc] at hlook
  · cases hlook
  · exact hin.1
  · exact hin.1
  · cases hlook
  · cases hlook
  · cases hlook
  · cases hlook

theorem inv_openPipe (h : Inv s) {fd : Int} (hnone : s.wakeupRead = none) :
    Inv { s with wakeupRead := some fd } := by
  have hk : s.known wakeupEvent = false := by
    cases hk : s.known wakeupEvent with
    | false => rfl
    | true =>
        obtain ⟨i, -, hread, -⟩ := h.wakeup hk
        cases hnone.symm.trans hread
  obtain ⟨hfds, hwaits⟩ := h.early hk
  exact { h with
    wakeup := fun hk' => by cases hk.symm.trans hk'
    copied := fun _ hrfds => by cases hfds.symm.trans hrfds
    nfds := fun _ hn => by cases hwaits.symm.trans hn }

theorem rilEventAdd_persist (m : Events) (ev : Nat) : (rilEventAdd m ev).persist = m.persist := by
  rw [rilEventAdd]
  split
  · rfl
  · dsimp only
    split <;> rfl

/-- **THE EVENT OF THE PIPE** is watched from now on. -/
theorem inv_addWakeup (h : Inv s) {fd : Int} (hread : s.wakeupRead = some fd)
    (hk : s.known wakeupEvent = false) (hfree : none ∈ s.base.mem.watchTable)
    (hfd : ∀ slot ∈ s.base.mem.watchTable, ∀ ev' ∈ slot, s.base.mem.fd ev' ≠ fd)
    (hset : RilTimer.step s.base (.eventSet wakeupEvent fd true) = some base)
    (hadd : RilTimer.step base (.eventAdd wakeupEvent) = some base') :
    Inv { s with base := base', known := Function.update s.known wakeupEvent true } := by
  obtain ⟨hfds, hwaits⟩ := h.early hk
  have htimers := RilTimer.inv_step h.timers hset
  have htimers' := RilTimer.inv_step htimers hadd
  simp only [RilTimer.step] at hset hadd
  obtain ⟨hidle, hbase⟩ := Option.ite_none_right_eq_some.mp hset
  obtain rfl := Option.some.inj hbase
  obtain ⟨-, hbase'⟩ := Option.ite_none_right_eq_some.mp hadd
  obtain rfl := Option.some.inj hbase'
  obtain ⟨hone, hkept⟩ := table_eventSet h.table hidle fd true
  have hmine : (rilEventSet s.base.mem wakeupEvent fd true).fd wakeupEvent = fd := by
    show Function.update (Function.update s.base.mem.fd wakeupEvent 0) wakeupEvent fd wakeupEvent = fd
    exact Function.update_self _ _ _
  have hothers : ∀ slot ∈ (rilEventSet s.base.mem wakeupEvent fd true).watchTable, ∀ ev' ∈ slot,
      (rilEventSet s.base.mem wakeupEvent fd true).fd ev'
        ≠ (rilEventSet s.base.mem wakeupEvent fd true).fd wakeupEvent := by
    intro slot hslot ev' hev'
    have hne : ev' ≠ wakeupEvent := by
      rintro rfl
      rw [show slot = some wakeupEvent from hev'] at hslot
      exact hidle.2.2 hslot
    rw [hmine, hkept.fd ev' hne]
    exact hfd slot hslot ev' hev'
  obtain ⟨htwo, -, hwatched⟩ := table_eventAdd hone (Function.update_self _ _ _) hothers
  obtain ⟨i, hi⟩ := hwatched hfree
  constructor
  case timers => exact htimers'
  case table => exact htwo
  case wakeup =>
    refine fun _ => ⟨i, hi, ?_, ?_⟩
    · show s.wakeupRead = some ((rilEventAdd _ wakeupEvent).fd wakeupEvent)
      rw [(rilEventAdd_spec _ wakeupEvent).1.fd, hmine]
      exact hread
    · show (rilEventAdd _ wakeupEvent).persist wakeupEvent = true
      rw [rilEventAdd_persist]
      show Function.update (Function.update s.base.mem.persist wakeupEvent false) wakeupEvent true
        wakeupEvent = true
      exact Function.update_self _ _ _
  case early => exact fun _ => ⟨hfds, hwaits⟩
  case inHand => exact h.inHand
  case drain => exact h.drain
  case copied => exact fun _ hrfds => by cases hfds.symm.trans hrfds
  case seen =>
    intro hlook
    have hsome := fds_of_looked h hlook
    rw [hfds] at hsome
    cases hsome
  case nfds => exact fun _ hn => by cases hwaits.symm.trans hn

/-- **THE BYTE** takes the place of the debt. -/
theorem inv_write (h : Inv s) (hstep : step s .write = some s') : Inv s' := by
  rw [step] at hstep
  split at hstep
  · cases hstep
  · rename_i owed howed hnone
    obtain rfl := Option.some.inj hstep
    -- before there is a pipe the loop has looked at nothing
    have hk : s.known wakeupEvent = false := by
      cases hk : s.known wakeupEvent with
      | false => rfl
      | true =>
          obtain ⟨i, -, hread, -⟩ := h.wakeup hk
          cases hnone.symm.trans hread
    obtain ⟨hfds, hwaits⟩ := h.early hk
    refine { h with
      copied := fun _ hrfds => (by cases hfds.symm.trans hrfds)
      seen := fun hlook => ?_
      nfds := fun _ hn => by cases hwaits.symm.trans hn }
    have hsome := fds_of_looked h hlook
    rw [hfds] at hsome
    cases hsome
  · rename_i owed fd howed hsome
    split at hstep
    · obtain rfl := Option.some.inj hstep
      have hsignal : Signalled { s with owed := owed, pipe := s.pipe + 1 } :=
        .inl (Nat.succ_pos s.pipe)
      exact { h with
        copied := fun rfds hrfds => ⟨(h.copied rfds hrfds).1, fun _ _ _ => .inr hsignal⟩
        seen := fun _ _ _ => .inr hsignal
        nfds := fun n hn => ⟨(h.nfds n hn).1, fun _ _ _ => .inr hsignal⟩ }
    · cases hstep

-- ── The loop ──────────────────────────────────────────────────────────────

theorem lift_eq_some {a : RilTimer.Act} (h : lift s a = some s') :
    ∃ base', RilTimer.step s.base a = some base' ∧ s' = { s with base := base' } := by
  obtain ⟨base', hstep, hs'⟩ := Option.map_eq_some_iff.mp h
  exact ⟨base', hstep, hs'.symm⟩

/-- With nothing in hand the loop knows nothing that could be out of date. -/
theorem inv_emptyHanded {t : St} (h : Inv s) (htimers : ∃ tl pl, RilTimer.Inv t.base tl pl)
    (hscan : Scanned s.base.mem t.base.mem s.known) (hknown : t.known = s.known)
    (hread : t.wakeupRead = s.wakeupRead) (hfds : t.fds = none) (hwaits : t.waits = none)
    (hlook : looked t.base.pc = false) (hdrain : t.draining = true → ∃ ev, t.base.pc = .firing ev) :
    Inv t where
  timers := htimers
  table := by
    rw [hknown]
    exact hscan.table
  wakeup := by
    intro hk
    rw [hknown] at hk
    obtain ⟨i, hi, hfd, hp⟩ := h.wakeup hk
    refine ⟨i, hscan.kept i wakeupEvent hi hp, ?_, ?_⟩
    · rw [hread, hscan.fd]
      exact hfd
    · rw [hscan.persist]
      exact hp
  early := fun _ => ⟨hfds, hwaits⟩
  inHand := by
    rw [InHand]
    split <;> rename_i hpc
    · exact hwaits
    · rw [hpc] at hlook
      cases hlook
    · rw [hpc] at hlook
      cases hlook
    all_goals exact ⟨hfds, hwaits⟩
  drain := hdrain
  copied := fun _ hrfds => by cases hfds.symm.trans hrfds
  seen := fun hl => by cases hlook.symm.trans hl
  nfds := fun _ hn => by cases hwaits.symm.trans hn

theorem handsEmpty (h : Inv s) (hlook : looked s.base.pc = false) (hpc : s.base.pc ≠ .top) :
    s.fds = none ∧ s.waits = none := by
  have hin := h.inHand
  rw [InHand] at hin
  split at hin <;> rename_i hp
  · exact absurd hp hpc
  · rw [hp] at hlook
    cases hlook
  · rw [hp] at hlook
    cases hlook
  all_goals exact hin

/-- The loop's look at what it must wait for. -/
theorem inv_look (h : Inv s) (a : Act) (ha : a = .copyFds ∨ a = .readTimerList
    ∨ a = .calcNextTimeout ∨ a = .select) (hstep : step s a = some s') : Inv s' := by
  rcases ha with rfl | rfl | rfl | rfl
  · -- the copy is up to date
    rw [step] at hstep
    split at hstep
    · rename_i hpc
      split at hstep
      · rename_i hready
        obtain rfl := Option.some.inj hstep
        refine { h with
          early := fun hk => by cases hready.1.symm.trans hk
          inHand := ?_
          copied := ?_ }
        · have hin := h.inHand
          rw [InHand, hpc] at hin
          rw [InHand, hpc]
          exact hin
        · rintro rfds ⟨⟩
          refine ⟨fun fd hfd => ?_, fun i ev hi => .inl ((h.table.readFds _).mpr ⟨i, ev, hi, rfl⟩)⟩
          obtain ⟨i, hi, hread, -⟩ := h.wakeup hready.1
          obtain rfl := Option.some.inj (hread.symm.trans hfd)
          exact (h.table.readFds _).mpr ⟨i, wakeupEvent, hi, rfl⟩
      · cases hstep
    · cases hstep
  · -- every timer that waits is seen
    rw [step] at hstep
    split at hstep
    · rename_i hfds
      obtain ⟨base', hlift, rfl⟩ := lift_eq_some hstep
      have htimers := RilTimer.inv_step h.timers hlift
      simp only [RilTimer.step] at hlift
      split at hlift
      · rename_i hpc
        obtain rfl := Option.some.inj hlift
        have hin := h.inHand
        rw [InHand, hpc] at hin
        exact { h with
          timers := htimers
          inHand := ⟨hfds, hin⟩
          drain := fun hd => by
            obtain ⟨ev, hev⟩ := h.drain hd
            cases hpc.symm.trans hev
          seen := fun _ t ht => .inl ht }
      · cases hlift
    · cases hstep
  · -- the timeout ends no later than any timer that was seen is due
    rw [step] at hstep
    obtain ⟨t, hmap, rfl⟩ := Option.map_eq_some_iff.mp hstep
    obtain ⟨base', hlift, rfl⟩ := lift_eq_some hmap
    have htimers := RilTimer.inv_step h.timers hlift
    obtain ⟨tl, pl, hinv⟩ := h.timers
    simp only [RilTimer.step] at hlift
    split at hlift
    · rename_i rf tev hpc
      obtain rfl := Option.some.inj hlift
      have hin := h.inHand
      rw [InHand, hpc] at hin
      exact { h with
        timers := htimers
        inHand := ⟨hin.1, (RilTimer.timers_of_inv hinv).wakesSeen rf tev hpc⟩
        drain := fun hd => by
          obtain ⟨ev, hev⟩ := h.drain hd
          cases hpc.symm.trans hev
        seen := fun _ => h.seen (by rw [hpc]; rfl) }
    · cases hlift
  · -- every watched descriptor is below `nfds`
    rw [step] at hstep
    split at hstep
    · rename_i rf ptv hpc
      split at hstep
      · obtain rfl := Option.some.inj hstep
        obtain ⟨rfds, hrfds⟩ := Option.isSome_iff_exists.mp
          (fds_of_looked h (by rw [hpc]; rfl))
        have hk := known_of_fds h hrfds
        refine { h with
          early := fun hk' => by cases hk.symm.trans hk'
          inHand := ?_
          nfds := ?_ }
        · have hin := h.inHand
          rw [InHand, hpc] at hin
          rw [InHand, hpc]
          exact hin
        · rintro n ⟨⟩
          refine ⟨fun fd hfd => ?_, fun i ev hi => .inl (h.table.nfds i ev hi)⟩
          obtain ⟨i, hi, hread, -⟩ := h.wakeup hk
          obtain rfl := Option.some.inj (hread.symm.trans hfd)
          exact h.table.nfds i wakeupEvent hi
      · cases hstep
    · cases hstep

/-- The rest of the loop has nothing in hand. -/
theorem inv_pass (h : Inv s) (a : Act) (ha : (∃ eintr, a = .selectFails eintr)
    ∨ (∃ ready, a = .selectReturns ready) ∨ a = .processTimeouts ∨ a = .processReadReadies
    ∨ a = .firePending) (hstep : step s a = some s') : Inv s' := by
  have hnotDraining : ∀ {pc : RilTimer.Pc}, s.base.pc = pc → (∀ ev, pc ≠ .firing ev) →
      s.draining = true → ∃ ev, pc = .firing ev := by
    intro pc hpc hother hd
    obtain ⟨ev, hev⟩ := h.drain hd
    exact absurd (hpc.symm.trans hev) (hother ev)
  rcases ha with ⟨eintr, rfl⟩ | ⟨ready, rfl⟩ | rfl | rfl | rfl
  · rw [step] at hstep
    split at hstep
    · obtain ⟨t, hmap, rfl⟩ := Option.map_eq_some_iff.mp hstep
      obtain ⟨base', hlift, rfl⟩ := lift_eq_some hmap
      have htimers := RilTimer.inv_step h.timers hlift
      simp only [RilTimer.step] at hlift
      split at hlift
      · rename_i rf ptv hpc
        obtain rfl := Option.some.inj hlift
        refine inv_emptyHanded h htimers (scanned_refl h.table) rfl rfl rfl rfl ?_ fun hd => ?_
        · cases eintr <;> rfl
        · obtain ⟨ev, hev⟩ := hnotDraining hpc (fun _ h => by cases h) hd
          cases hev
      · cases hlift
    · cases hstep
  · rw [step] at hstep
    split at hstep
    · split at hstep
      · obtain ⟨t, hmap, rfl⟩ := Option.map_eq_some_iff.mp hstep
        obtain ⟨base', hlift, rfl⟩ := lift_eq_some hmap
        have htimers := RilTimer.inv_step h.timers hlift
        simp only [RilTimer.step] at hlift
        split at hlift
        · rename_i rf ptv hpc
          obtain rfl := Option.some.inj hlift
          refine inv_emptyHanded h htimers (scanned_refl h.table) rfl rfl rfl rfl rfl fun hd => ?_
          obtain ⟨ev, hev⟩ := hnotDraining hpc (fun _ h => by cases h) hd
          cases hev
        · cases hlift
      · cases hstep
    · cases hstep
  · obtain ⟨base', hlift, rfl⟩ := lift_eq_some hstep
    have htimers := RilTimer.inv_step h.timers hlift
    obtain ⟨tl, pl, hinv⟩ := h.timers
    cases hpc : s.base.pc with
    | timeouts rf n =>
        obtain ⟨hfds, hwaits⟩ := handsEmpty h (by rw [hpc]; rfl) (by rw [hpc]; exact fun h => by cases h)
        obtain ⟨L, hrun, -⟩ := @processTimeouts_spec _ _ _ s.base.clock _ hinv.rings
          (Nat.lt_succ_of_le hinv.length_tl)
        simp only [RilTimer.step, hpc, hrun] at hlift
        obtain rfl := Option.some.inj hlift
        refine inv_emptyHanded h htimers ?_ rfl rfl hfds hwaits rfl fun hd => ?_
        · exact ⟨table_congr h.table rfl rfl (fun _ _ _ => rfl) rfl rfl, rfl, rfl, fun _ _ h _ => h⟩
        · obtain ⟨ev, hev⟩ := hnotDraining hpc (fun _ h => by cases h) hd
          cases hev
    | _ =>
        simp only [RilTimer.step, hpc] at hlift
        cases hlift
  · obtain ⟨base', hlift, rfl⟩ := lift_eq_some hstep
    have htimers := RilTimer.inv_step h.timers hlift
    simp only [RilTimer.step] at hlift
    split at hlift
    · rename_i rf n hpc
      obtain ⟨hfds, hwaits⟩ := handsEmpty h (by rw [hpc]; rfl) (by rw [hpc]; exact fun h => by cases h)
      obtain rfl := Option.some.inj hlift
      refine inv_emptyHanded h htimers (scanned_processReadReadies h.table rf n) rfl rfl hfds hwaits
        rfl fun hd => ?_
      obtain ⟨ev, hev⟩ := hnotDraining hpc (fun _ h => by cases h) hd
      cases hev
    · cases hlift
  · rw [step] at hstep
    split at hstep
    · cases hstep
    · obtain ⟨t, hmap, rfl⟩ := Option.map_eq_some_iff.mp hstep
      obtain ⟨base', hlift, rfl⟩ := lift_eq_some hmap
      have htimers := RilTimer.inv_step h.timers hlift
      simp only [RilTimer.step] at hlift
      split at hlift
      · rename_i ev hpc
        obtain ⟨hfds, hwaits⟩ := handsEmpty h (by rw [hpc]; rfl)
          (by rw [hpc]; exact fun h => by cases h)
        obtain rfl := Option.some.inj hlift
        have hscan : Scanned s.base.mem (RilTimer.firePending s.base ev).mem s.known := by
          rw [RilTimer.firePending]
          split
          · exact scanned_refl h.table
          · exact ⟨table_congr h.table rfl rfl (fun _ _ _ => rfl) rfl rfl, rfl, rfl,
              fun _ _ h _ => h⟩
        refine inv_emptyHanded h htimers hscan rfl rfl hfds hwaits ?_ fun hd => ?_
        · show looked (RilTimer.firePending s.base ev).pc = false
          rw [RilTimer.firePending]
          split <;> rfl
        · -- the event of the pipe is not the head of the list
          have hmine : ev = wakeupEvent := by
            have hstarts : startsDraining s = true := hd
            rw [startsDraining, hpc] at hstarts
            exact eq_of_beq hstarts
          show ∃ ev', (RilTimer.firePending s.base ev).pc = .firing ev'
          rw [RilTimer.firePending, hmine, if_neg (by decide)]
          exact ⟨_, rfl⟩
      · cases hlift

theorem inv_drain (h : Inv s) (hstep : step s .drain = some s') : Inv s' := by
  rw [step] at hstep
  split at hstep
  · rename_i hd
    obtain ⟨ev, hpc⟩ := h.drain hd
    obtain ⟨hfds, hwaits⟩ := handsEmpty h (by rw [hpc]; rfl) (by rw [hpc]; exact fun h => by cases h)
    obtain rfl := Option.some.inj hstep
    split
    · exact inv_emptyHanded h h.timers (scanned_refl h.table) rfl rfl hfds hwaits
        (by rw [hpc]; rfl) fun h => by cases h
    · exact inv_emptyHanded h h.timers (scanned_refl h.table) rfl rfl hfds hwaits
        (by rw [hpc]; rfl) fun _ => ⟨ev, hpc⟩
  · cases hstep

-- ── Every interleaving ────────────────────────────────────────────────────

/-- **EVERY STEP** keeps the invariant. -/
theorem inv_step (a : Act) (h : Inv s) (hstep : step s a = some s') : Inv s' := by
  cases a with
  | tick now =>
      obtain ⟨base', hlift, rfl⟩ := lift_eq_some hstep
      have htimers := RilTimer.inv_step h.timers hlift
      simp only [RilTimer.step] at hlift
      obtain ⟨-, hbase⟩ := Option.ite_none_right_eq_some.mp hlift
      obtain rfl := Option.some.inj hbase
      exact { h with timers := htimers }
  | openPipe fd =>
      rw [step] at hstep
      split at hstep
      · rename_i hnone
        obtain rfl := Option.some.inj hstep
        exact inv_openPipe h hnone.1
      · cases hstep
  | addWakeup =>
      rw [step] at hstep
      split at hstep
      · cases hstep
      · rename_i fd hread
        split at hstep
        · rename_i hready
          obtain ⟨base, hset, hrest⟩ := Option.bind_eq_some_iff.mp hstep
          obtain ⟨base', hadd, hs'⟩ := Option.bind_eq_some_iff.mp hrest
          obtain rfl := Option.some.inj hs'
          obtain ⟨slot, hfree, rfl⟩ := hready.2.1
          exact inv_addWakeup h hread hready.1 hfree hready.2.2 hset hadd
        · cases hstep
  | change inLoop c =>
      rw [step] at hstep
      split at hstep
      · rename_i hok
        obtain ⟨base', hchange, rfl⟩ := Option.map_eq_some_iff.mp hstep
        exact inv_change h hok.1 hok.2.1 hok.2.2 hchange
      · cases hstep
  | write => exact inv_write h hstep
  | copyFds => exact inv_look h _ (.inl rfl) hstep
  | readTimerList => exact inv_look h _ (.inr (.inl rfl)) hstep
  | calcNextTimeout => exact inv_look h _ (.inr (.inr (.inl rfl))) hstep
  | select => exact inv_look h _ (.inr (.inr (.inr rfl))) hstep
  | selectFails eintr => exact inv_pass h _ (.inl ⟨eintr, rfl⟩) hstep
  | selectReturns ready => exact inv_pass h _ (.inr (.inl ⟨ready, rfl⟩)) hstep
  | processTimeouts => exact inv_pass h _ (.inr (.inr (.inl rfl))) hstep
  | processReadReadies => exact inv_pass h _ (.inr (.inr (.inr (.inl rfl)))) hstep
  | firePending => exact inv_pass h _ (.inr (.inr (.inr (.inr rfl)))) hstep
  | drain => exact inv_drain h hstep

theorem inv_run {acts : List Act} (hrun : run step {} acts = some s) : Inv s :=
  run_invariant (fun _ a _ h hstep => inv_step a h hstep) acts inv_start hrun

/-- **NO WAKEUP IS LOST**: in every run, whatever other threads and callbacks add
    to the events, and whenever, a `select` under way waits for every watched
    descriptor and for no longer than until each timer is due, or there is a byte
    in the pipe, which it waits for too, or a thread about to write one. -/
theorem no_lost_wakeup (acts : List Act) : Always step Woken {} acts := by
  intro done rest s' _ hrun
  exact woken_of_inv (inv_run hrun)

end Invariant

-- ── A byte takes the loop around ──────────────────────────────────────────

/-- The steps that the loop takes by itself. -/
def Act.ofLoop : Act → Bool
  | .copyFds | .readTimerList | .calcNextTimeout | .select | .selectReturns _ | .processTimeouts
  | .processReadReadies | .firePending | .drain => true
  | .tick _ | .openPipe _ | .addWakeup | .change _ _ | .write | .selectFails _ => false

/-- A `select` under way waits for all there is. -/
def AllCovered (s : St) : Prop :=
  ∃ rfds n rf ptv, s.fds = some rfds ∧ s.waits = some n ∧ s.base.pc = .selecting rf ptv
    ∧ (∀ ev, some ev ∈ s.base.mem.watchTable →
      rfds (s.base.mem.fd ev) = true ∧ s.base.mem.fd ev < n)
    ∧ ∀ t ∈ waiting s.base, WakesFor [t] s.asked ptv

section Around

variable {s s' : St} {m : Events} {known : Nat → Bool} {tl pl : List Nat} {ev : Nat}

/-- With only the descriptor of one persistent event ready, only that event is
    queued. -/
theorem processReadReadies_one (h : Table m known) {i : Nat} (hi : Watches m i ev)
    (hp : m.persist ev = true) :
    RilEvent.processReadReadies m (fun fd => decide (fd ∈ ({m.fd ev} : Finset Int))) 1
      = addToList m ev pendingList := by
  have hafter : ∀ (l : List Nat) (m' : Events), l.foldl
      (readReady fun fd => decide (fd ∈ ({m.fd ev} : Finset Int))) (m', 0) = (m', 0) := by
    intro l
    induction l with
    | nil =>
        intro m'
        rfl
    | cons j rest ih =>
        intro m'
        rw [List.foldl_cons, readReady]
        exact ih m'
  have hbefore : ∀ l : List Nat, i ∉ l → l.foldl
      (readReady fun fd => decide (fd ∈ ({m.fd ev} : Finset Int))) (m, 1) = (m, 1) := by
    intro l
    induction l with
    | nil =>
        intro _
        rfl
    | cons j rest ih =>
        intro hj
        have hne : i ≠ j := fun heq => hj (heq ▸ List.mem_cons_self)
        have hrest : i ∉ rest := fun hmem => hj (List.mem_cons_of_mem j hmem)
        have hsame : readReady (fun fd => decide (fd ∈ ({m.fd ev} : Finset Int))) (m, 1) j
            = (m, 1) := by
          rw [readReady]
          dsimp only
          rw [if_pos Int.one_pos]
          split
          · rename_i rev hslot
            rw [if_neg]
            intro hready
            have hfd : m.fd rev = m.fd ev := Finset.mem_singleton.mp (of_decide_eq_true hready)
            exact hne (h.distinct i j ev rev hi hslot hfd.symm)
          · rfl
        rw [List.foldl_cons, hsame]
        exact ih hrest
  have hone : readReady (fun fd => decide (fd ∈ ({m.fd ev} : Finset Int))) (m, 1) i
      = (addToList m ev pendingList, 0) := by
    rw [readReady]
    dsimp only
    rw [if_pos Int.one_pos, show m.watchTable.getD i none = some ev from hi]
    dsimp only
    rw [if_pos (decide_eq_true (Finset.mem_singleton_self _))]
    rw [if_neg (show ¬(addToList m ev pendingList).persist ev = false by
      rw [show (addToList m ev pendingList).persist ev = true from hp]
      exact Bool.noConfusion)]
    rfl
  have hlt : i ∈ List.range maxFdEvents := by
    rw [List.mem_range, ← h.length]
    exact RilWatch.watches_lt hi
  obtain ⟨front, rest, hsplit⟩ := List.append_of_mem hlt
  have hnodup : (front ++ i :: rest).Nodup := hsplit ▸ List.nodup_range
  have hfront : i ∉ front := fun hmem =>
    (List.nodup_append.mp hnodup).2.2 i hmem i List.mem_cons_self rfl
  rw [RilEvent.processReadReadies, hsplit, List.foldl_append, hbefore front hfront,
    List.foldl_cons, hone, hafter]

/-- A watched event that is linked is pending. -/
theorem mem_pending {base : RilTimer.St} (h : RilTimer.Inv base tl pl) {i : Nat}
    (hi : Watches base.mem i ev) (hlinked : base.mem.links.next ev ≠ null) : ev ∈ pl := by
  obtain ⟨hnone, -, hout⟩ := h.watched i ev hi
  have hmem : ev ∈ listed tl pl := by
    by_contra hfree
    exact hlinked (h.rings.unlinked ev hfree)
  have hcat : ev ∈ (null :: timerList :: tl) ++ (pendingList :: pl) := hmem
  simp only [List.mem_append, List.mem_cons] at hcat
  rcases hcat with (rfl | rfl | htl) | (rfl | hpl)
  · exact absurd List.mem_cons_self hout
  · exact absurd (mem_used_left List.mem_cons_self null pendingList []) hout
  · exact absurd hnone (h.timers ev htl)
  · exact absurd (mem_used_right List.mem_cons_self null timerList []) hout
  · exact hpl

/-- **`processWakeupCallback`** reads until the pipe is empty. -/
theorem drains : ∀ (k : Nat) {s : St}, s.pipe ≤ k → s.draining = true →
    ∃ more, (∀ a ∈ more, a = Act.drain)
      ∧ run step s more = some { s with pipe := 0, draining := false } := by
  intro k
  induction k with
  | zero =>
      intro s hle hd
      have hzero : s.pipe = 0 := Nat.le_zero.mp hle
      refine ⟨[.drain], fun a ha => List.mem_singleton.mp ha, ?_⟩
      have hstep : step s .drain = some { s with draining := false } := by
        rw [step, if_pos hd, if_pos hzero]
      rw [run_cons hstep, run, ← hzero]
  | succ k ih =>
      intro s hle hd
      by_cases hzero : s.pipe = 0
      · refine ⟨[.drain], fun a ha => List.mem_singleton.mp ha, ?_⟩
        have hstep : step s .drain = some { s with draining := false } := by
          rw [step, if_pos hd, if_pos hzero]
        rw [run_cons hstep, run, ← hzero]
      · have hstep : step s .drain = some { s with pipe := s.pipe - buffSize } := by
          rw [step, if_pos hd, if_neg hzero]
        have hless : s.pipe - buffSize ≤ k := by
          rw [buffSize]
          omega
        obtain ⟨more, hall, hrun⟩ := @ih { s with pipe := s.pipe - buffSize } hless hd
        refine ⟨.drain :: more, fun a ha => ?_, ?_⟩
        · exact (List.mem_cons.mp ha).elim id (hall a)
        · rw [run_cons hstep]
          exact hrun

/-- What firing leaves as it was. -/
structure Fired (s s' : St) : Prop where
  pc : s'.base.pc = .top
  known : s'.known = s.known
  fds : s'.fds = s.fds
  waits : s'.waits = s.waits
  owed : s'.owed = s.owed

/-- **FIRING** comes to its end, and if the event of the pipe is pending it leaves
    the pipe empty. -/
theorem fires : ∀ (pl : List Nat) {s : St} {ev : Nat}, RilTimer.Inv s.base tl pl →
    s.base.pc = .firing ev → s.draining = false → wakeupEvent ∈ pl ∨ s.pipe = 0 →
    ∃ more s', (∀ a ∈ more, Act.ofLoop a = true) ∧ run step s more = some s' ∧ Fired s s'
      ∧ s'.pipe = 0 := by
  intro pl
  induction pl with
  | nil =>
      intro s ev hinv hpc hd hpipe
      obtain ⟨hend, -⟩ := RilTimer.inv_fireEnd hinv hpc
      have hev : ev = pendingList := by
        have hat := hinv.atPc
        rw [RilTimer.AtPc, hpc] at hat
        exact hat
      have hstarts : startsDraining s = false := by
        rw [startsDraining, hpc, hev]
        rfl
      have hstep : step s .firePending
          = some { s with base := { s.base with pc := .top }, draining := false } := by
        rw [step, if_neg (by rw [hd]; exact Bool.false_ne_true), lift, hend, hstarts]
        rfl
      refine ⟨[.firePending], _, fun a ha => ?_, run_cons hstep, ⟨rfl, rfl, rfl, rfl, rfl⟩, ?_⟩
      · rw [List.mem_singleton.mp ha]
        rfl
      · exact hpipe.resolve_left List.not_mem_nil
  | cons e rest ih =>
      intro s ev hinv hpc hd hpipe
      obtain ⟨base₁, hfire, hinv₁, next, hpc₁⟩ := RilTimer.inv_fireOne hinv hpc
      have hev : ev = e := by
        have hat := hinv.atPc
        rw [RilTimer.AtPc, hpc] at hat
        exact hat
      have hstarts : startsDraining s = (e == wakeupEvent) := by
        rw [startsDraining, hpc, hev]
      have hstep : step s .firePending
          = some { s with base := base₁, draining := e == wakeupEvent } := by
        rw [step, if_neg (by rw [hd]; exact Bool.false_ne_true), lift, hfire, hstarts]
        rfl
      by_cases hwake : e = wakeupEvent
      · -- the callback of the pipe
        rw [hwake, beq_self_eq_true] at hstep
        obtain ⟨reads, hreads, hdrained⟩ :=
          @drains s.pipe { s with base := base₁, draining := true } (Nat.le_refl _) rfl
        obtain ⟨more, s', hmore, hrun, hfired, hempty⟩ :=
          @ih { s with base := base₁, pipe := 0, draining := false } next hinv₁ hpc₁ rfl (.inr rfl)
        refine ⟨.firePending :: (reads ++ more), s', fun a ha => ?_, ?_, ?_, hempty⟩
        · rcases List.mem_cons.mp ha with rfl | ha
          · rfl
          · rcases List.mem_append.mp ha with ha | ha
            · rw [hreads a ha]
              rfl
            · exact hmore a ha
        · rw [run_cons hstep, run_append hdrained]
          exact hrun
        · exact ⟨hfired.pc, hfired.known, hfired.fds, hfired.waits, hfired.owed⟩
      · -- another callback
        rw [beq_false_of_ne hwake] at hstep
        have hrest : wakeupEvent ∈ rest ∨ s.pipe = 0 :=
          hpipe.imp (fun hmem => (List.mem_cons.mp hmem).resolve_left (Ne.symm hwake)) id
        obtain ⟨more, s', hmore, hrun, hfired, hempty⟩ :=
          @ih { s with base := base₁, draining := false } next hinv₁ hpc₁ rfl hrest
        refine ⟨.firePending :: more, s', fun a ha => ?_, ?_, ?_, hempty⟩
        · rcases List.mem_cons.mp ha with rfl | ha
          · rfl
          · exact hmore a ha
        · rw [run_cons hstep]
          exact hrun
        · exact ⟨hfired.pc, hfired.known, hfired.fds, hfired.waits, hfired.owed⟩

/-- **FROM THE TOP** the loop looks at everything and waits. -/
theorem looks (h : Inv s) (hpc : s.base.pc = .top) (hk : s.known wakeupEvent = true)
    (hfds : s.fds = none) : ∃ s', run step s [.copyFds, .readTimerList, .calcNextTimeout, .select]
      = some s' ∧ s'.pipe = s.pipe ∧ s'.owed = s.owed ∧ AllCovered s' := by
  have hwaits : s.waits = none := by
    have hin := h.inHand
    rw [InHand, hpc] at hin
    exact hin
  have hcopy : step s .copyFds = some { s with fds := some s.base.mem.readFds } := by
    rw [step, hpc]
    exact if_pos ⟨hk, by rw [hfds]; rfl⟩
  have hread : step { s with fds := some s.base.mem.readFds } .readTimerList
      = some { s with
          fds := some s.base.mem.readFds
          base := { s.base with
            pc := .calculating s.base.mem.readFds (s.base.mem.links.next timerList)
            seen := waiting s.base } } := by
    rw [step]
    show (if (some s.base.mem.readFds).isSome = true then _ else none) = _
    rw [Option.isSome_some, if_pos rfl, lift, RilTimer.step]
    simp only [hpc]
    rfl
  have hcalc : step { s with
          fds := some s.base.mem.readFds
          base := { s.base with
            pc := .calculating s.base.mem.readFds (s.base.mem.links.next timerList)
            seen := waiting s.base } } .calcNextTimeout
      = some { s with
          fds := some s.base.mem.readFds
          asked := s.base.clock
          base := { s.base with
            pc := .selecting s.base.mem.readFds
              (nextTimeout s.base.mem (s.base.mem.links.next timerList) s.base.clock)
            seen := waiting s.base } } := rfl
  have hselect : step { s with
          fds := some s.base.mem.readFds
          asked := s.base.clock
          base := { s.base with
            pc := .selecting s.base.mem.readFds
              (nextTimeout s.base.mem (s.base.mem.links.next timerList) s.base.clock)
            seen := waiting s.base } } .select
      = some { s with
          fds := some s.base.mem.readFds
          asked := s.base.clock
          waits := some s.base.mem.nfds
          base := { s.base with
            pc := .selecting s.base.mem.readFds
              (nextTimeout s.base.mem (s.base.mem.links.next timerList) s.base.clock)
            seen := waiting s.base } } := by
    rw [step]
    exact if_pos (by rw [show _ = none from hwaits]; rfl)
  refine ⟨_, (run_cons hcopy).trans ((run_cons hread).trans ((run_cons hcalc).trans
    (run_cons hselect))), rfl, rfl, s.base.mem.readFds, s.base.mem.nfds, _, _, rfl, rfl, rfl, ?_, ?_⟩
  · intro ev hev
    obtain ⟨i, hi⟩ := watched_iff.mp hev
    exact ⟨(h.table.readFds _).mpr ⟨i, ev, hi, rfl⟩, h.table.nfds i ev hi⟩
  · have h₄ := inv_step .select (inv_step .calcNextTimeout (inv_step .readTimerList
      (inv_step .copyFds h hcopy) hread) hcalc) hselect
    intro t ht
    exact wakesFor_of_mem h₄.inHand.2 ht

/-- `processTimeouts` moves links. -/
theorem processTimeouts_frame {base base' : RilTimer.St} (hinv : RilTimer.Inv base tl pl)
    {rf : Int → Bool} {n : Int} (hpc : base.pc = .timeouts rf n)
    (hstep : RilTimer.step base .processTimeouts = some base') :
    base'.pc = .readReadies rf n ∧ ∃ L, base'.mem = { base.mem with links := L } := by
  obtain ⟨L, hrun, -⟩ := @processTimeouts_spec _ _ _ base.clock _ hinv.rings
    (Nat.lt_succ_of_le hinv.length_tl)
  simp only [RilTimer.step, hpc, hrun] at hstep
  obtain rfl := Option.some.inj hstep
  exact ⟨rfl, L, rfl⟩

/-- An event that was put into a list is linked. -/
theorem linked_addToList (m : Events) {ev list : Nat} (hev : ev ≠ null) (hlist : list ≠ null) :
    (addToList m ev list).links.next ev ≠ null := by
  rw [addToList, insertBefore_next]
  by_cases hprev : m.links.prev list = ev
  · rw [hprev, Function.update_self]
    exact hev
  · rw [Function.update_of_ne (Ne.symm hprev), Function.update_self]
    exact hlist

/-- **A BYTE IS TAKEN**: if there is a byte in the pipe while the loop waits, the
    loop, by itself, comes around to where it waits for all there is, with the pipe
    empty. -/
theorem wakeup_taken (acts : List Act) (s : St) (hrun : run step {} acts = some s)
    (hwaits : s.waits.isSome = true) (hbyte : 0 < s.pipe) :
    ∃ more s', (∀ a ∈ more, Act.ofLoop a = true) ∧ run step s more = some s'
      ∧ s'.pipe = 0 ∧ s'.owed = s.owed ∧ AllCovered s' := by
  obtain ⟨n, hn⟩ := Option.isSome_iff_exists.mp hwaits
  have h := inv_run hrun
  obtain ⟨rf, ptv, hpc, -, -⟩ := selecting_of_waits h hn
  obtain ⟨rfds, hrfds, ⟨fd, hread, hset, hlow⟩, -, -⟩ := woken_of_inv h n hn
  have hk := known_of_fds h hrfds
  obtain ⟨i, hi, hmine, hp⟩ := h.wakeup hk
  obtain rfl := Option.some.inj (hmine.symm.trans hread)
  have hd : s.draining = false := by
    cases hd : s.draining with
    | false => rfl
    | true =>
        obtain ⟨ev, hev⟩ := h.drain hd
        cases hpc.symm.trans hev
  have hone : ∀ fd ∈ ({s.base.mem.fd wakeupEvent} : Finset Int), rfds fd = true ∧ fd < n
      ∧ (s.wakeupRead = some fd → 0 < s.pipe) := by
    intro fd hfd
    rw [Finset.mem_singleton.mp hfd]
    exact ⟨hset, hlow, fun _ => hbyte⟩
  -- `select` returns with the pipe
  have hreturn : step s (.selectReturns {s.base.mem.fd wakeupEvent}) = some { s with
      base := { s.base with
        pc := .timeouts (fun fd => decide (fd ∈ ({s.base.mem.fd wakeupEvent} : Finset Int))) 1 }
      fds := none
      waits := none } := by
    rw [step, hrfds, hn]
    dsimp only
    rw [if_pos hone, lift, RilTimer.step]
    simp only [hpc]
    rfl
  have h₁ := inv_step _ h hreturn
  -- the timers that are due go first
  obtain ⟨tl, pl, hinv₁⟩ := h₁.timers
  obtain ⟨base₂, tl₂, pl₂, hexpire, hinv₂⟩ := RilTimer.inv_processTimeouts hinv₁ rfl
  obtain ⟨hpc₂, L, hmem₂⟩ := processTimeouts_frame hinv₁ rfl hexpire
  have hmem₂ : base₂.mem = { s.base.mem with links := L } := hmem₂
  have htable₂ : Table base₂.mem s.known := by
    rw [hmem₂]
    exact table_congr h.table rfl rfl (fun _ _ _ => rfl) rfl rfl
  have hi₂ : Watches base₂.mem i wakeupEvent := by
    rw [hmem₂]
    exact hi
  -- the event of the pipe goes behind them
  have hqueue : RilEvent.processReadReadies base₂.mem
      (fun fd => decide (fd ∈ ({s.base.mem.fd wakeupEvent} : Finset Int))) 1
        = addToList base₂.mem wakeupEvent pendingList := by
    have hfd : s.base.mem.fd = base₂.mem.fd := by rw [hmem₂]
    rw [hfd]
    exact processReadReadies_one htable₂ hi₂ (by rw [hmem₂]; exact hp)
  obtain ⟨pl₃, hinv₃⟩ := RilTimer.inv_processReadReadies hinv₂ hpc₂
  have hpending : wakeupEvent ∈ pl₃ := by
    refine mem_pending (i := i) hinv₃ ?_ ?_
    · show Watches (RilEvent.processReadReadies base₂.mem _ 1) i wakeupEvent
      rw [hqueue]
      exact hi₂
    · show (RilEvent.processReadReadies base₂.mem _ 1).links.next wakeupEvent ≠ null
      rw [hqueue]
      exact linked_addToList base₂.mem (by decide) (by decide)
  -- and the callbacks run
  obtain ⟨more, s₄, hmore, hfire, hfired, hempty⟩ :=
    @fires tl₂ pl₃ { s with
      base := { base₂ with
        mem := RilEvent.processReadReadies base₂.mem
          (fun fd => decide (fd ∈ ({s.base.mem.fd wakeupEvent} : Finset Int))) 1
        pc := .firing ((RilEvent.processReadReadies base₂.mem
          (fun fd => decide (fd ∈ ({s.base.mem.fd wakeupEvent} : Finset Int))) 1).links.next
            pendingList) }
      fds := none
      waits := none } _ hinv₃ rfl hd (.inl hpending)
  have hsecond : step { s with
      base := { s.base with
        pc := .timeouts (fun fd => decide (fd ∈ ({s.base.mem.fd wakeupEvent} : Finset Int))) 1 }
      fds := none
      waits := none } .processTimeouts
      = some { s with base := base₂, fds := none, waits := none } := by
    rw [step, lift, hexpire]
    rfl
  have hthird : step { s with base := base₂, fds := none, waits := none } .processReadReadies
      = some { s with
        base := { base₂ with
          mem := RilEvent.processReadReadies base₂.mem
            (fun fd => decide (fd ∈ ({s.base.mem.fd wakeupEvent} : Finset Int))) 1
          pc := .firing ((RilEvent.processReadReadies base₂.mem
            (fun fd => decide (fd ∈ ({s.base.mem.fd wakeupEvent} : Finset Int))) 1).links.next
              pendingList) }
        fds := none
        waits := none } := by
    rw [step, lift, RilTimer.step]
    simp only [hpc₂]
    rfl
  have h₄ : Inv s₄ := run_invariant (fun _ a _ h hstep => inv_step a h hstep) more
    (inv_step _ (inv_step _ h₁ hsecond) hthird) hfire
  obtain ⟨s', hlook, hpipe, howed, hcovered⟩ := looks h₄ hfired.pc
    (by rw [hfired.known]; exact hk) hfired.fds
  refine ⟨.selectReturns {s.base.mem.fd wakeupEvent} :: .processTimeouts :: .processReadReadies
    :: (more ++ [.copyFds, .readTimerList, .calcNextTimeout, .select]), s', ?_, ?_,
    hpipe.trans hempty, howed.trans hfired.owed, hcovered⟩
  · intro a ha
    rcases List.mem_cons.mp ha with rfl | ha
    · rfl
    rcases List.mem_cons.mp ha with rfl | ha
    · rfl
    rcases List.mem_cons.mp ha with rfl | ha
    · rfl
    rcases List.mem_append.mp ha with ha | ha
    · exact hmore a ha
    · simp only [List.mem_cons, List.not_mem_nil, or_false] at ha
      rcases ha with rfl | rfl | rfl | rfl <;> rfl
  · rw [run_cons hreturn, run_cons hsecond, run_cons hthird, run_append hfire]
    exact hlook

/-- A timer that another thread adds while the loop waits with none. -/
def timerWhileWaiting : List Act :=
  [.openPipe 5, .addWakeup, .copyFds, .readTimerList, .calcNextTimeout, .select,
    .change false (.eventSet 10 (-1) false), .change false (.timerAdd 10 (some ⟨3, 0⟩)), .write]

theorem wakeup_taken_timerWhileWaiting :
    ∃ s, run step {} timerWhileWaiting = some s ∧ s.waits.isSome = true ∧ 0 < s.pipe
      ∧ ∃ more s', (∀ a ∈ more, Act.ofLoop a = true) ∧ run step s more = some s'
        ∧ s'.pipe = 0 ∧ s'.owed = s.owed ∧ AllCovered s' := by
  have hwaits : ((run step {} timerWhileWaiting).any
      fun s => s.waits.isSome && decide (0 < s.pipe)) = true := by decide +kernel
  obtain ⟨s, hrun, hs⟩ := (Option.any_eq_true _ _).mp hwaits
  obtain ⟨hselect, hbyte⟩ := (Bool.and_eq_true _ _).mp hs
  have hbyte := of_decide_eq_true hbyte
  exact ⟨s, hrun, hselect, hbyte, wakeup_taken timerWhileWaiting s hrun hselect hbyte⟩

end Around

end RilWakeup

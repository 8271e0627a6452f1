import Mathlib.Algebra.Group.Int.Defs
import Universal7580.RingProofs
import Mathlib.Data.List.Nodup

/-! # The event loop of `ril_event.cpp`

    `ril_event.cpp` waits for file descriptors and timers and calls back.  An
    event that waits for a descriptor is in `watch_table`; one that waits for
    its time is in `timer_list`; one whose callback is about to run is in
    `pending_list`.  The two lists are rings through the events' own links, with
    a head that is an event itself.

    Here is the memory of the loop with the functions that work on it, and what
    each of them does to the two rings.  Events are known by their addresses.

    `Rings` is the shape of the lists: disjoint rings, and every event that is
    in neither has `NULL` for a link. -/

namespace RilEvent

open Ring

-- ── Times ────────────────────────────────────────────────────────────────────

/-- `struct timeval`. -/
structure Timeval where
  sec : Int
  usec : Int
  deriving DecidableEq

namespace Timeval

/-- Microseconds. -/
def toUsec (t : Timeval) : Int := t.sec * 1000000 + t.usec

/-- A time of day or a span that is not negative, as the kernel gives it and as
    callers are asked to give it.  Seconds are a 32-bit `time_t`. -/
def Normal (t : Timeval) : Prop :=
  0 ≤ t.sec ∧ t.sec < 2 ^ 31 ∧ 0 ≤ t.usec ∧ t.usec < 1000000

instance (t : Timeval) : Decidable t.Normal := inferInstanceAs (Decidable (_ ∧ _ ∧ _ ∧ _))

end Timeval

/-- A 32-bit result.  The build has `LOCAL_SANITIZE := integer`: an overflow
    aborts. -/
def checked (v : Int) : Option Int := if -2 ^ 31 ≤ v ∧ v < 2 ^ 31 then some v else none

/-- `timeradd`. -/
def timeradd (tvp uvp : Timeval) : Option Timeval := do
  let sec ← checked (tvp.sec + uvp.sec)
  let usec ← checked (tvp.usec + uvp.usec)
  if usec ≥ 1000000 then
    let sec ← checked (sec + 1)
    return ⟨sec, usec - 1000000⟩
  else
    return ⟨sec, usec⟩

/-- `timercmp`, with the comparison it is given. -/
def timercmp (a b : Timeval) (op : Int → Int → Bool) : Bool :=
  if a.sec = b.sec then op a.usec b.usec else op a.sec b.sec

/-- `timersub`.  Its only caller subtracts the smaller time, and no time is
    negative: nothing overflows. -/
def timersub (a b : Timeval) : Timeval :=
  let sec := a.sec - b.sec
  let usec := a.usec - b.usec
  if usec < 0 then ⟨sec - 1, usec + 1000000⟩ else ⟨sec, usec⟩

-- ── Events and lists ─────────────────────────────────────────────────────────

def null : Nat := 0

/-- `MAX_FD_EVENTS`. -/
def maxFdEvents : Nat := 8

/-- The address of `timer_list`. -/
def timerList : Nat := 1

/-- The address of `pending_list`. -/
def pendingList : Nat := 2

/-- The fields of every `struct ril_event`, by its address, and the statics of
    the file. -/
structure Events where
  links : Links Nat
  fd : Nat → Int
  index : Nat → Int
  persist : Nat → Bool
  timeout : Nat → Timeval
  watchTable : List (Option Nat)
  readFds : Int → Bool
  nfds : Int

/-- Memory before anything ran. -/
def Events.zero : Events where
  links := ⟨fun _ => null, fun _ => null⟩
  fd := fun _ => 0
  index := fun _ => 0
  persist := fun _ => false
  timeout := fun _ => ⟨0, 0⟩
  watchTable := List.replicate maxFdEvents none
  readFds := fun _ => false
  nfds := 0

/-- `memset(ev, 0, sizeof(struct ril_event))`. -/
def clearEvent (m : Events) (ev : Nat) : Events :=
  { m with
    links := ⟨Function.update m.links.next ev null, Function.update m.links.prev ev null⟩
    fd := Function.update m.fd ev 0
    index := Function.update m.index ev 0
    persist := Function.update m.persist ev false
    timeout := Function.update m.timeout ev ⟨0, 0⟩ }

/-- `init_list`. -/
def initList (m : Events) (list : Nat) : Events :=
  let m := clearEvent m list
  { m with
    links := ⟨Function.update m.links.next list list, Function.update m.links.prev list list⟩
    fd := Function.update m.fd list (-1) }

/-- `addToList`. -/
def addToList (m : Events) (ev list : Nat) : Events :=
  { m with links := insertBefore m.links ev list }

/-- `removeFromList`. -/
def removeFromList (m : Events) (ev : Nat) : Events :=
  { m with links := remove null m.links ev }

/-- The loop of `removeWatch` over `watch_table`: the largest descriptor. -/
def largestFd (m : Events) : Int :=
  m.watchTable.foldl
    (fun n slot =>
      match slot with
      | some rev => if m.fd rev > n then m.fd rev else n
      | none => n)
    0

/-- `removeWatch`. -/
def removeWatch (m : Events) (ev index : Nat) : Events :=
  let m : Events := { m with watchTable := m.watchTable.set index none }
  let m : Events := { m with index := Function.update m.index ev (-1) }
  let m : Events := { m with readFds := Function.update m.readFds (m.fd ev) false }
  if m.fd ev + 1 = m.nfds then { m with nfds := largestFd m + 1 } else m

-- ── The passes of the loop ───────────────────────────────────────────────────

/-- The loop of `processTimeouts`; `none` when `fuel` rounds were not enough. -/
def expireLoop (now : Timeval) : Nat → Events → Nat → Option Events
  | 0, _, _ => none
  | fuel + 1, m, tev =>
      if tev ≠ timerList ∧ timercmp now (m.timeout tev) (· > ·) then
        let next := m.links.next tev
        let m := removeFromList m tev
        let m := addToList m tev pendingList
        expireLoop now fuel m next
      else some m

/-- `processTimeouts`. -/
def processTimeouts (fuel : Nat) (m : Events) (now : Timeval) : Option Events :=
  expireLoop now fuel m (m.links.next timerList)

/-- One round of the loop of `processReadReadies`: events queued so far, and the
    descriptors still to be found. -/
def readReady (rfds : Int → Bool) (mn : Events × Int) (i : Nat) : Events × Int :=
  let (m, n) := mn
  if 0 < n then
    match m.watchTable.getD i none with
    | some rev =>
        if rfds (m.fd rev) then
          let m := addToList m rev pendingList
          let m := if m.persist rev = false then removeWatch m rev i else m
          (m, n - 1)
        else (m, n)
    | none => (m, n)
  else (m, n)

/-- `processReadReadies`. -/
def processReadReadies (m : Events) (rfds : Int → Bool) (n : Int) : Events :=
  ((List.range maxFdEvents).foldl (readReady rfds) (m, n)).1

/-- `calcNextTimeout`, after it read `timer_list.next`; `none` when it returns
    `-1`. -/
def nextTimeout (m : Events) (tev : Nat) (now : Timeval) : Option Timeval :=
  if tev = timerList then none
  else if timercmp (m.timeout tev) now (· > ·) then some (timersub (m.timeout tev) now)
  else some ⟨0, 0⟩

/-- `calcNextTimeout`. -/
def calcNextTimeout (m : Events) (now : Timeval) : Option Timeval :=
  nextTimeout m (m.links.next timerList) now

-- ── The interface ────────────────────────────────────────────────────────────

/-- `ril_event_init`. -/
def rilEventInit (m : Events) : Events :=
  let m : Events := { m with readFds := fun _ => false }
  let m := initList m timerList
  let m := initList m pendingList
  { m with watchTable := List.replicate maxFdEvents none }

/-- `ril_event_set`.  The callback of an event is known by the event. -/
def rilEventSet (m : Events) (ev : Nat) (fd : Int) (persist : Bool) : Events :=
  let m := clearEvent m ev
  { m with
    fd := Function.update m.fd ev fd
    index := Function.update m.index ev (-1)
    persist := Function.update m.persist ev persist }

/-- `ril_event_add`: the first free slot, if there is one. -/
def rilEventAdd (m : Events) (ev : Nat) : Events :=
  match m.watchTable.findIdx? Option.isNone with
  | none => m
  | some i =>
      let m : Events := { m with watchTable := m.watchTable.set i (some ev) }
      let m : Events := { m with index := Function.update m.index ev i }
      let m : Events := { m with readFds := Function.update m.readFds (m.fd ev) true }
      if m.fd ev ≥ m.nfds then { m with nfds := m.fd ev + 1 } else m

/-- The loop of `ril_timer_add`: the first event from `list` on that is not
    before `timeout`; `none` when `fuel` rounds were not enough. -/
def sortedPlace (m : Events) (timeout : Timeval) : Nat → Nat → Option Nat
  | 0, _ => none
  | fuel + 1, list =>
      if timercmp (m.timeout list) timeout (· < ·) ∧ list ≠ timerList then
        sortedPlace m timeout fuel (m.links.next list)
      else some list

/-- `ril_timer_add`. -/
def rilTimerAdd (fuel : Nat) (m : Events) (ev : Nat) (tv : Option Timeval) (now : Timeval) :
    Option Events :=
  match tv with
  | none => some m
  | some tv => do
      let list := m.links.next timerList
      let m : Events := { m with fd := Function.update m.fd ev (-1) }
      let timeout ← timeradd now tv
      let m : Events := { m with timeout := Function.update m.timeout ev timeout }
      let list ← sortedPlace m (m.timeout ev) fuel list
      return addToList m ev list

/-- `ril_event_del`. -/
def rilEventDel (m : Events) (ev : Nat) : Events :=
  if m.index ev < 0 ∨ m.index ev ≥ maxFdEvents then m
  else removeWatch m ev (m.index ev).toNat

-- ── Times in microseconds ────────────────────────────────────────────────────

section Times

variable {a b c : Timeval}

theorem timercmp_lt (ha : a.Normal) (hb : b.Normal) :
    timercmp a b (· < ·) = true ↔ a.toUsec < b.toUsec := by
  obtain ⟨-, -, ha0, ha1⟩ := ha
  obtain ⟨-, -, hb0, hb1⟩ := hb
  rw [timercmp, Timeval.toUsec, Timeval.toUsec]
  split
  · rw [decide_eq_true_iff]
    omega
  · rw [decide_eq_true_iff]
    omega

theorem timercmp_gt (ha : a.Normal) (hb : b.Normal) :
    timercmp a b (· > ·) = true ↔ b.toUsec < a.toUsec := by
  rw [← timercmp_lt hb ha, timercmp, timercmp]
  by_cases hsec : a.sec = b.sec
  · rw [if_pos hsec, if_pos hsec.symm]
  · rw [if_neg hsec, if_neg (Ne.symm hsec)]

theorem checked_eq_some {v w : Int} (h : checked v = some w) : w = v ∧ v < 2 ^ 31 := by
  rw [checked] at h
  split at h
  · next hv => exact ⟨(Option.some.inj h).symm, hv.2⟩
  · exact nomatch h

theorem checked_of_lt {v : Int} (h0 : 0 ≤ v) (h1 : v < 2 ^ 31) : checked v = some v :=
  if_pos ⟨by omega, h1⟩

/-- The carry is right: a deadline is the clock plus the time asked for. -/
theorem timeradd_spec (ha : a.Normal) (hb : b.Normal) (h : timeradd a b = some c) :
    c.Normal ∧ c.toUsec = a.toUsec + b.toUsec := by
  obtain ⟨ha0, -, ha1, ha2⟩ := ha
  obtain ⟨hb0, -, hb1, hb2⟩ := hb
  obtain ⟨sec, hsec, h⟩ := Option.bind_eq_some_iff.mp h
  obtain ⟨usec, husec, h⟩ := Option.bind_eq_some_iff.mp h
  obtain ⟨rfl, hsec'⟩ := checked_eq_some hsec
  obtain ⟨rfl, -⟩ := checked_eq_some husec
  simp only [Timeval.Normal, Timeval.toUsec]
  split at h
  · obtain ⟨sec, hcarry, h⟩ := Option.bind_eq_some_iff.mp h
    obtain ⟨rfl, hcarry'⟩ := checked_eq_some hcarry
    obtain rfl := Option.some.inj h
    dsimp only
    omega
  · obtain rfl := Option.some.inj h
    dsimp only
    omega

/-- There is such a deadline as long as its seconds are in range. -/
theorem timeradd_defined (ha : a.Normal) (hb : b.Normal)
    (hfits : a.toUsec + b.toUsec < 2 ^ 31 * 1000000) : ∃ c, timeradd a b = some c := by
  obtain ⟨ha0, -, ha1, ha2⟩ := ha
  obtain ⟨hb0, -, hb1, hb2⟩ := hb
  simp only [Timeval.toUsec] at hfits
  rw [timeradd, checked_of_lt (by omega) (by omega), checked_of_lt (by omega) (by omega)]
  simp only [Option.bind_eq_bind, Option.bind_some]
  split
  · rw [checked_of_lt (by omega) (by omega)]
    exact ⟨_, rfl⟩
  · exact ⟨_, rfl⟩

theorem timersub_toUsec (a b : Timeval) : (timersub a b).toUsec = a.toUsec - b.toUsec := by
  simp only [timersub, Timeval.toUsec]
  split
  · dsimp only
    omega
  · dsimp only
    omega

end Times

-- ── The shape of the lists ───────────────────────────────────────────────────

/-- **THE LISTS**: `timer_list` is a ring through `tl` and `pending_list` one
    through `pl`, with nothing in common. -/
abbrev Rings (m : Events) (tl pl : List Nat) : Prop :=
  TwoRings null m.links timerList tl pendingList pl

/-- The addresses that are in use by the lists. -/
abbrev listed (tl pl : List Nat) : List Nat := used null timerList tl pendingList pl

section Lists

variable {m : Events} {tl pl xs ys : List Nat} {ev : Nat} {now timeout tv : Timeval}

theorem rings_init : Rings (rilEventInit Events.zero) [] [] where
  fst := ⟨List.nodup_singleton timerList, rfl, rfl⟩
  snd := ⟨List.nodup_singleton pendingList, rfl, rfl⟩
  apart := by decide
  unlinked := by
    intro q hq
    simp only [used, List.mem_cons, List.cons_append, List.nil_append, List.not_mem_nil,
      or_false, not_or] at hq
    simp only [rilEventInit, initList, clearEvent, Function.update_of_ne hq.2.1,
      Function.update_of_ne hq.2.2]
    rfl

theorem rings_next_timerList (h : Rings m tl pl) : m.links.next timerList = tl.headD timerList :=
  ring_first h.fst

theorem rings_next_pendingList (h : Rings m tl pl) :
    m.links.next pendingList = pl.headD pendingList :=
  ring_first h.snd

theorem addToList_pending (h : Rings m tl pl) (hev : ev ∉ listed tl pl) :
    Rings (addToList m ev pendingList) tl (pl ++ [ev]) := by
  refine (h.symm.insert_last ?_).symm
  exact fun hmem => hev ((used_swap null pendingList pl timerList tl).mem_iff.mp hmem)

theorem removeFromList_timer (h : Rings m (ev :: tl) pl) :
    Rings (removeFromList m ev) tl pl ∧ ev ∉ listed tl pl :=
  h.remove_first

theorem removeFromList_pending (h : Rings m tl (ev :: pl)) :
    Rings (removeFromList m ev) tl pl :=
  h.symm.remove_first.1.symm

theorem timer_ne_timerList (h : Rings m tl pl) (hev : ev ∈ tl) : ev ≠ timerList := by
  rintro rfl
  exact (List.nodup_cons.mp h.fst.nodup).1 hev

/-- A timer that `processTimeouts` finds expired. -/
def late (m : Events) (now : Timeval) (ev : Nat) : Bool := timercmp now (m.timeout ev) (· > ·)

/-- **`processTimeouts`** moves the timers up to the first one that is not late. -/
theorem expireLoop_spec (now : Timeval) :
    ∀ (tl pl : List Nat) (m : Events) (fuel : Nat), Rings m tl pl → tl.length < fuel →
      ∃ L, expireLoop now fuel m (tl.headD timerList) = some { m with links := L }
        ∧ Rings { m with links := L } (tl.dropWhile (late m now))
            (pl ++ tl.takeWhile (late m now)) := by
  intro tl
  induction tl with
  | nil =>
      intro pl m fuel h hfuel
      obtain ⟨fuel, rfl⟩ := Nat.exists_eq_add_of_lt hfuel
      refine ⟨m.links, ?_, ?_⟩
      · rw [List.length_nil, Nat.zero_add, expireLoop, if_neg (fun hc => hc.1 rfl)]
      · rw [List.dropWhile_nil, List.takeWhile_nil, List.append_nil]
        exact h
  | cons ev tl ih =>
      intro pl m fuel h hfuel
      cases fuel with
      | zero => exact absurd hfuel (Nat.not_lt_zero _)
      | succ fuel =>
          rw [List.headD_cons, expireLoop]
          cases hlate : late m now ev with
          | false =>
              refine ⟨m.links, ?_, ?_⟩
              · rw [if_neg]
                rintro ⟨-, hc⟩
                exact Bool.false_ne_true (hlate.symm.trans hc)
              · rw [List.dropWhile_cons_of_neg (by rw [hlate]; exact Bool.false_ne_true),
                  List.takeWhile_cons_of_neg (by rw [hlate]; exact Bool.false_ne_true),
                  List.append_nil]
                exact h
          | true =>
              -- the event goes to the end of the other ring, and the loop goes on
              have hnext : m.links.next ev = tl.headD timerList :=
                ring_second h.fst
              obtain ⟨hout, hfree⟩ := removeFromList_timer h
              obtain ⟨L, hrun, hrings⟩ := ih (pl ++ [ev]) _ fuel (addToList_pending hout hfree)
                (Nat.lt_of_succ_lt_succ hfuel)
              refine ⟨L, ?_, ?_⟩
              · rw [if_pos ⟨timer_ne_timerList h List.mem_cons_self, hlate⟩, hnext]
                exact hrun
              · rw [List.dropWhile_cons_of_pos hlate, List.takeWhile_cons_of_pos hlate,
                  List.append_cons]
                exact hrings

theorem processTimeouts_spec {fuel : Nat} (h : Rings m tl pl) (hfuel : tl.length < fuel) :
    ∃ L, processTimeouts fuel m now = some { m with links := L }
      ∧ Rings { m with links := L } (tl.dropWhile (late m now))
          (pl ++ tl.takeWhile (late m now)) := by
  rw [processTimeouts, rings_next_timerList h]
  exact expireLoop_spec now tl pl m fuel h hfuel

/-- A timer that `ril_timer_add` passes by. -/
def sooner (m : Events) (timeout : Timeval) (ev : Nat) : Bool :=
  timercmp (m.timeout ev) timeout (· < ·)

/-- The loop of `ril_timer_add` stops at the first timer that is not sooner, and at
    the head when there is none, whatever the head's own `timeout` says. -/
theorem sortedPlace_spec (timeout : Timeval) :
    ∀ (ys xs : List Nat) (fuel : Nat), Rings m (xs ++ ys) pl → ys.length < fuel →
      sortedPlace m timeout fuel (ys.headD timerList)
        = some ((ys.dropWhile (sooner m timeout)).headD timerList) := by
  intro ys
  induction ys with
  | nil =>
      intro xs fuel h hfuel
      obtain ⟨fuel, rfl⟩ := Nat.exists_eq_add_of_lt hfuel
      rw [List.length_nil, Nat.zero_add, sortedPlace, if_neg (fun hc => hc.2 rfl)]
      rfl
  | cons ev ys ih =>
      intro xs fuel h hfuel
      cases fuel with
      | zero => exact absurd hfuel (Nat.not_lt_zero _)
      | succ fuel =>
          rw [List.headD_cons, sortedPlace]
          cases hsooner : sooner m timeout ev with
          | false =>
              rw [if_neg, List.dropWhile_cons_of_neg (by rw [hsooner]; exact Bool.false_ne_true)]
              · rfl
              · rintro ⟨hc, -⟩
                exact Bool.false_ne_true (hsooner.symm.trans hc)
          | true =>
              have hmem : ev ∈ xs ++ ev :: ys := List.mem_append_right xs List.mem_cons_self
              rw [if_pos ⟨hsooner, timer_ne_timerList h hmem⟩, (ring_neighbours h.fst).2,
                List.dropWhile_cons_of_pos hsooner]
              refine ih (xs ++ [ev]) fuel ?_ (Nat.lt_of_succ_lt_succ hfuel)
              rw [List.append_assoc]
              exact h

/-- The event as `ril_timer_add` puts it into the list. -/
def timed (m : Events) (ev : Nat) (timeout : Timeval) : Events :=
  { m with
    fd := Function.update m.fd ev (-1)
    timeout := Function.update m.timeout ev timeout }

/-- **`ril_timer_add`** puts the event before the first timer that is not sooner. -/
theorem rilTimerAdd_spec {fuel : Nat} (h : Rings m tl pl) (hev : ev ∉ listed tl pl)
    (hfuel : tl.length < fuel) (htime : timeradd now tv = some timeout) :
    ∃ L, rilTimerAdd fuel m ev (some tv) now = some { timed m ev timeout with links := L }
      ∧ Rings { timed m ev timeout with links := L }
          (tl.takeWhile (sooner (timed m ev timeout) timeout)
            ++ ev :: tl.dropWhile (sooner (timed m ev timeout) timeout)) pl := by
  have htimed : Rings (timed m ev timeout) ([] ++ tl) pl := h
  have hplace := sortedPlace_spec timeout tl [] fuel htimed hfuel
  have hsplit := List.takeWhile_append_dropWhile (p := sooner (timed m ev timeout) timeout) (l := tl)
  refine ⟨_, ?_, TwoRings.insert (by rw [hsplit]; exact h) (by rw [hsplit]; exact hev)⟩
  rw [rilTimerAdd, htime, rings_next_timerList h]
  show (sortedPlace (timed m ev timeout) (Function.update m.timeout ev timeout ev) fuel
    (tl.headD timerList)).bind _ = _
  rw [Function.update_self, hplace]
  rfl

theorem rilTimerAdd_overflow {fuel : Nat} (htime : timeradd now tv = none) :
    rilTimerAdd fuel m ev (some tv) now = none := by
  rw [rilTimerAdd, htime]
  rfl

theorem rilEventSet_rings (h : Rings m tl pl) (hev : ev ∉ listed tl pl) (fd : Int)
    (persist : Bool) : Rings (rilEventSet m ev fd persist) tl pl :=
  TwoRings.clear h hev

end Lists

-- ── The watch table ──────────────────────────────────────────────────────────

/-- The event in a slot of `watch_table`. -/
def Watches (m : Events) (i ev : Nat) : Prop := m.watchTable.getD i none = some ev

/-- No event is in two slots. -/
def WatchedOnce (m : Events) : Prop := ∀ i j ev, Watches m i ev → Watches m j ev → i = j

section WatchTable

variable {m m' : Events} {tl pl extra : List Nat} {ev i j k : Nat}

theorem mem_watchTable_of_watches (h : Watches m i ev) : some ev ∈ m.watchTable := by
  rw [Watches] at h
  rw [List.getD_eq_getElem?_getD] at h
  cases hget : m.watchTable[i]? with
  | none =>
      rw [hget] at h
      exact nomatch h
  | some slot =>
      rw [hget] at h
      exact List.mem_of_getElem? (hget.trans (congrArg some h))

/-- A slot after one was written. -/
theorem getD_set (table : List (Option Nat)) (i j : Nat) (slot : Option Nat) :
    (table.set i slot).getD j none = table.getD j none
      ∨ i = j ∧ (table.set i slot).getD j none = slot := by
  rw [List.getD_eq_getElem?_getD, List.getD_eq_getElem?_getD, List.getElem?_set]
  split
  · next heq =>
      split
      · exact Or.inr ⟨heq, rfl⟩
      · next hlen =>
          refine Or.inl ?_
          rw [List.getElem?_eq_none (by omega)]
  · exact Or.inl rfl

theorem getD_set_of_ne (table : List (Option Nat)) (slot : Option Nat) (hne : i ≠ j) :
    (table.set i slot).getD j none = table.getD j none := by
  rcases getD_set table i j slot with h | ⟨heq, -⟩
  · exact h
  · exact absurd heq hne

/-- Nothing changed but the table and what goes with it. -/
structure SameEvents (m m' : Events) : Prop where
  links : m'.links = m.links
  timeout : m'.timeout = m.timeout
  fd : m'.fd = m.fd

theorem removeWatch_same (m : Events) (ev i : Nat) : SameEvents m (removeWatch m ev i) := by
  rw [removeWatch]
  dsimp only
  split
  · exact ⟨rfl, rfl, rfl⟩
  · exact ⟨rfl, rfl, rfl⟩

theorem removeWatch_watchTable (m : Events) (ev i : Nat) :
    (removeWatch m ev i).watchTable = m.watchTable.set i none := by
  rw [removeWatch]
  dsimp only
  split
  · rfl
  · rfl

theorem watches_of_removeWatch (h : Watches (removeWatch m ev i) j k) : Watches m j k := by
  rw [Watches] at h ⊢
  rw [removeWatch_watchTable] at h
  rcases getD_set m.watchTable i j none with hkeep | ⟨-, hset⟩
  · exact hkeep ▸ h
  · rw [hset] at h
    exact nomatch h

/-- **`ril_event_del`** takes events out of the table and does nothing else. -/
theorem rilEventDel_spec (m : Events) (ev : Nat) :
    SameEvents m (rilEventDel m ev) ∧ ∀ j k, Watches (rilEventDel m ev) j k → Watches m j k := by
  rw [rilEventDel]
  split
  · exact ⟨⟨rfl, rfl, rfl⟩, fun _ _ h => h⟩
  · exact ⟨removeWatch_same m ev _, fun _ _ h => watches_of_removeWatch h⟩

/-- **`ril_event_add`** puts the event into the table and does nothing else. -/
theorem rilEventAdd_spec (m : Events) (ev : Nat) :
    SameEvents m (rilEventAdd m ev)
      ∧ ((rilEventAdd m ev).watchTable = m.watchTable
        ∨ ∃ i, (rilEventAdd m ev).watchTable = m.watchTable.set i (some ev)) := by
  rw [rilEventAdd]
  split
  · exact ⟨⟨rfl, rfl, rfl⟩, Or.inl rfl⟩
  · next i _ =>
      dsimp only
      split
      · exact ⟨⟨rfl, rfl, rfl⟩, Or.inr ⟨i, rfl⟩⟩
      · exact ⟨⟨rfl, rfl, rfl⟩, Or.inr ⟨i, rfl⟩⟩

theorem watches_rilEventAdd (h : Watches (rilEventAdd m ev) j k) : Watches m j k ∨ k = ev := by
  rw [Watches] at h ⊢
  rcases (rilEventAdd_spec m ev).2 with htable | ⟨i, htable⟩
  · exact Or.inl (htable ▸ h)
  · rw [htable] at h
    rcases getD_set m.watchTable i j (some ev) with hkeep | ⟨-, hset⟩
    · exact Or.inl (hkeep ▸ h)
    · exact Or.inr (Option.some.inj (h.symm.trans hset))

theorem watchedOnce_rilEventAdd (h : WatchedOnce m) (hev : some ev ∉ m.watchTable) :
    WatchedOnce (rilEventAdd m ev) := by
  intro j j' k hj hj'
  rcases (rilEventAdd_spec m ev).2 with htable | ⟨i, htable⟩
  · rw [Watches] at hj hj'
    rw [htable] at hj hj'
    exact h j j' k hj hj'
  · rw [Watches] at hj hj'
    rw [htable] at hj hj'
    have hold : ∀ l, Watches m l k → k ≠ ev :=
      fun l hl heq => hev (heq ▸ mem_watchTable_of_watches hl)
    rcases getD_set m.watchTable i j (some ev) with hkeep | ⟨hij, hset⟩
    · rw [hkeep] at hj
      rcases getD_set m.watchTable i j' (some ev) with hkeep' | ⟨-, hset'⟩
      · rw [hkeep'] at hj'
        exact h j j' k hj hj'
      · exact absurd (Option.some.inj (hj'.symm.trans hset')) (hold j hj)
    · rcases getD_set m.watchTable i j' (some ev) with hkeep' | ⟨hij', -⟩
      · rw [hkeep'] at hj'
        exact absurd (Option.some.inj (hj.symm.trans hset)) (hold j' hj')
      · exact hij.symm.trans hij'

/-- `processReadReadies` after the first `k` slots: `extra` was queued. -/
structure Queued (m : Events) (tl pl : List Nat) (k : Nat) (m' : Events) (extra : List Nat) :
    Prop where
  rings : Rings m' tl (pl ++ extra)
  timeout : m'.timeout = m.timeout
  fd : m'.fd = m.fd
  watched : ∀ ev ∈ extra, ∃ i < k, Watches m i ev
  ahead : ∀ i, k ≤ i → m'.watchTable.getD i none = m.watchTable.getD i none
  kept : ∀ i ev, Watches m' i ev → Watches m i ev

/-- One slot. -/
theorem readReady_spec {rfds : Int → Bool} {n : Int} (honce : WatchedOnce m)
    (hfree : ∀ i ev, Watches m i ev → ev ∉ listed tl pl) (h : Queued m tl pl k m' extra) :
    ∃ extra', Queued m tl pl (k + 1) (readReady rfds (m', n) k).1 extra' := by
  have hsame : Queued m tl pl (k + 1) m' extra :=
    ⟨h.rings, h.timeout, h.fd, fun ev hev => (h.watched ev hev).imp (fun _ hi => ⟨by omega, hi.2⟩),
      fun i hi => h.ahead i (by omega), h.kept⟩
  rw [readReady]
  dsimp only
  split
  · split
    · next rev hrev =>
        have hwatch : Watches m k rev := (h.ahead k (Nat.le_refl k)).symm.trans hrev
        -- the event is in neither list: earlier slots hold other events
        have hout : rev ∉ listed tl (pl ++ extra) := by
          intro hmem
          have hcat : rev ∈ (null :: timerList :: tl) ++ ((pendingList :: pl) ++ extra) := hmem
          rcases List.mem_append.mp hcat with hleft | hright
          · have hold : rev ∈ (null :: timerList :: tl) ++ (pendingList :: pl) :=
              List.mem_append_left _ hleft
            exact hfree k rev hwatch hold
          · rcases List.mem_append.mp hright with hpl | hextra
            · exact hfree k rev hwatch (mem_used_right hpl null timerList tl)
            · obtain ⟨i, hi, hwi⟩ := h.watched rev hextra
              exact absurd (honce i k rev hwi hwatch) (by omega)
        have hrings := addToList_pending h.rings hout
        rw [List.append_assoc] at hrings
        have hwatched : ∀ ev ∈ extra ++ [rev], ∃ i < k + 1, Watches m i ev := by
          intro ev hev
          rcases List.mem_append.mp hev with hextra | hlast
          · exact hsame.watched ev hextra
          · exact List.mem_singleton.mp hlast ▸ ⟨k, Nat.lt_succ_self k, hwatch⟩
        split
        · split
          · have hremoved := removeWatch_same (addToList m' rev pendingList) rev k
            refine ⟨extra ++ [rev], ?_, hremoved.timeout.trans h.timeout, hremoved.fd.trans h.fd,
              hwatched, ?_, ?_⟩
            · rw [Rings, hremoved.links]
              exact hrings
            · intro i hi
              rw [removeWatch_watchTable, getD_set_of_ne _ _ (by omega)]
              exact hsame.ahead i hi
            · intro i ev hev
              have hadded : Watches (addToList m' rev pendingList) i ev :=
                watches_of_removeWatch hev
              exact h.kept i ev hadded
          · exact ⟨extra ++ [rev], hrings, h.timeout, h.fd, hwatched, hsame.ahead, h.kept⟩
        · exact ⟨extra, hsame⟩
    · exact ⟨extra, hsame⟩
  · exact ⟨extra, hsame⟩

/-- **`processReadReadies`** queues watched events and nothing else. -/
theorem processReadReadies_spec (rfds : Int → Bool) (n : Int) (h : Rings m tl pl)
    (honce : WatchedOnce m) (hfree : ∀ i ev, Watches m i ev → ev ∉ listed tl pl) :
    ∃ extra, Queued m tl pl maxFdEvents (processReadReadies m rfds n) extra := by
  rw [processReadReadies]
  induction maxFdEvents with
  | zero =>
      refine ⟨[], ?_, rfl, rfl, fun _ hev => (nomatch hev), fun _ _ => rfl, fun _ _ hev => hev⟩
      rw [List.append_nil]
      exact h
  | succ k ih =>
      obtain ⟨extra, hk⟩ := ih
      rw [List.range_succ, List.foldl_append, List.foldl_cons, List.foldl_nil]
      exact readReady_spec honce hfree hk

end WatchTable

end RilEvent

import Universal7580.RunProofs
import Universal7580.RilEventProofs

/-! # The timers of `ril_event.cpp`

    `ril_event_loop` sleeps in `select` until the first timer is due, moves the
    expired timers to `pending_list`, queues the descriptors that are ready
    behind them, and runs the callbacks.  Callbacks and other threads add events
    and timers meanwhile, between any two steps of the loop.

    What takes `listMutex` is one step here.  The two functions of the loop that
    do not take it are cut where another thread can come in between:
    `calcNextTimeout` after it read the first timer, `firePending` after each
    callback was started.

    `Protocol` is what holds in every state of every run: the shape and the
    order of the lists, that no timer is lost, called twice or called early,
    that a pass calls all that were due, and that the loop does not oversleep. -/

namespace RilTimer

open Run Ring RilEvent

-- ── The state ────────────────────────────────────────────────────────────────

/-- One use of `ril_timer_add`: its event, and when it is due, in microseconds. -/
structure Timer where
  serial : Nat
  ev : Nat
  deadline : Int
  deriving DecidableEq

/-- One `ev->func(ev->fd, 0, ev->param)`: the timer the event was added for, if
    it was, and the time. -/
structure Call where
  ev : Nat
  fd : Int
  timer : Option Timer
  time : Timeval

/-- Where the loop is, with what its local variables hold. -/
inductive Pc where
  | top
  | calculating (rfds : Int → Bool) (tev : Nat)
  | selecting (rfds : Int → Bool) (ptv : Option Timeval)
  | timeouts (rfds : Int → Bool) (n : Int)
  | readReadies (rfds : Int → Bool) (n : Int)
  | firing (ev : Nat)
  | stopped

/-- The memory, the clock and the loop.  The rest is a record of the run: the
    timer each event stands for, every timer added, every callback started, the
    timers that waited when `calcNextTimeout` read the list, and those that were
    due when `processTimeouts` ran, with the number of callbacks before it. -/
structure St where
  mem : Events := rilEventInit Events.zero
  clock : Timeval := ⟨0, 0⟩
  pc : Pc := .top
  armed : Nat → Option Timer := fun _ => none
  added : List Timer := []
  calls : List Call := []
  seen : List Timer := []
  due : List Timer := []
  passStart : Nat := 0

/-- The timers whose callbacks were started. -/
def timersCalled (calls : List Call) : List Timer := calls.filterMap (·.timer)

/-- The timers that a list of events stands for. -/
def timersIn (armed : Nat → Option Timer) (l : List Nat) : List Timer := l.filterMap armed

/-- The timers whose callbacks were not started. -/
def waiting (s : St) : List Timer :=
  s.added.filter (fun t => t ∉ timersCalled s.calls)

/-- The timers called since `processTimeouts` ran. -/
def passCalled (s : St) : List Timer := timersCalled (s.calls.drop s.passStart)

-- ── The steps ────────────────────────────────────────────────────────────────

/-- An event that its owner may set or add: it is in no list and not watched. -/
def Idle (m : Events) (ev : Nat) : Prop :=
  ev ≠ null ∧ m.links.next ev = null ∧ some ev ∉ m.watchTable

instance (m : Events) (ev : Nat) : Decidable (Idle m ev) := inferInstanceAs (Decidable (_ ∧ _ ∧ _))

inductive Act where
  | tick (now : Timeval)
  | timerAdd (ev : Nat) (tv : Option Timeval)
  | eventSet (ev : Nat) (fd : Int) (persist : Bool)
  | eventAdd (ev : Nat)
  | eventDel (ev : Nat)
  | readTimerList
  | calcNextTimeout
  | selectFails (eintr : Bool)
  | selectReturns (rfds : Int → Bool) (n : Nat)
  | processTimeouts
  | processReadReadies
  | firePending

/-- The timer that `ril_timer_add(ev, tv)` stands for. -/
def newTimer (s : St) (ev : Nat) (tv : Timeval) : Timer :=
  ⟨s.added.length, ev, s.clock.toUsec + tv.toUsec⟩

/-- `ril_timer_add`. -/
def timerAdd (s : St) (ev : Nat) (tv : Option Timeval) : Option St := do
  let mem ← rilTimerAdd (s.added.length + 1) s.mem ev tv s.clock
  match tv with
  | none => return { s with mem := mem }
  | some tv =>
      return { s with
        mem := mem
        armed := Function.update s.armed ev (some (newTimer s ev tv))
        added := s.added ++ [newTimer s ev tv] }

/-- One round of `firePending`. -/
def firePending (s : St) (ev : Nat) : St :=
  if ev = pendingList then { s with pc := .top }
  else
    { s with
      mem := removeFromList s.mem ev
      pc := .firing (s.mem.links.next ev)
      armed := Function.update s.armed ev none
      calls := s.calls ++ [⟨ev, s.mem.fd ev, s.armed ev, s.clock⟩] }

/-- `ril_event_loop` and what goes on beside it.  `none`: the clock does not go
    back, an event is added by its owner when it is in no list, times are
    normalized, and the loop goes its own way. -/
def step (s : St) : Act → Option St
  | .tick now =>
      if now.Normal ∧ s.clock.toUsec ≤ now.toUsec then some { s with clock := now } else none
  | .timerAdd ev tv =>
      if Idle s.mem ev ∧ ∀ t ∈ tv, t.Normal then timerAdd s ev tv else none
  | .eventSet ev fd persist =>
      if Idle s.mem ev then some { s with mem := rilEventSet s.mem ev fd persist } else none
  | .eventAdd ev =>
      if Idle s.mem ev ∧ 0 ≤ s.mem.fd ev then some { s with mem := rilEventAdd s.mem ev } else none
  | .eventDel ev => some { s with mem := rilEventDel s.mem ev }
  | .readTimerList =>
      match s.pc with
      | .top =>
          some { s with
            pc := .calculating s.mem.readFds (s.mem.links.next timerList)
            seen := waiting s }
      | _ => none
  | .calcNextTimeout =>
      match s.pc with
      | .calculating rfds tev =>
          some { s with pc := .selecting rfds (nextTimeout s.mem tev s.clock) }
      | _ => none
  | .selectFails eintr =>
      match s.pc with
      | .selecting _ _ => some { s with pc := if eintr then .top else .stopped }
      | _ => none
  | .selectReturns rfds n =>
      match s.pc with
      | .selecting _ _ => some { s with pc := .timeouts rfds n }
      | _ => none
  | .processTimeouts =>
      match s.pc with
      | .timeouts rfds n => do
          let mem ← processTimeouts (s.added.length + 1) s.mem s.clock
          return { s with
            mem := mem
            pc := .readReadies rfds n
            due := (waiting s).filter (fun t => t.deadline < s.clock.toUsec)
            passStart := s.calls.length }
      | _ => none
  | .processReadReadies =>
      match s.pc with
      | .readReadies rfds n =>
          let mem := processReadReadies s.mem rfds n
          some { s with
            mem := mem
            pc := .firing (mem.links.next pendingList) }
      | _ => none
  | .firePending =>
      match s.pc with
      | .firing ev => some (firePending s ev)
      | _ => none

-- ── The protocol ─────────────────────────────────────────────────────────────

/-- A timeout of `select` that ends no later than each of `timers` is due. -/
def WakesFor (timers : List Timer) (clock : Timeval) (ptv : Option Timeval) : Prop :=
  match ptv with
  | none => timers = []
  | some tv => 0 ≤ tv.toUsec ∧ ∀ t ∈ timers, tv.toUsec ≤ max 0 (t.deadline - clock.toUsec)

/-- A callback that was right to run: a timer's is past its deadline, and any
    other is that of a descriptor. -/
def RightCall (c : Call) : Prop :=
  match c.timer with
  | some t => t.ev = c.ev ∧ t.deadline < c.time.toUsec
  | none => 0 ≤ c.fd

/-- **THE TIMERS** in one state, with `timer_list` through `tl` and `pending_list`
    through `pl`. -/
structure Timers (s : St) (tl pl : List Nat) : Prop where
  /-- Both lists are rings, apart from each other. -/
  rings : Rings s.mem tl pl
  /-- `timer_list` is in the order of the deadlines. -/
  sorted : (timersIn s.armed tl).Pairwise (fun t t' => t.deadline ≤ t'.deadline)
  /-- It has timers only, each with its deadline. -/
  timeouts : ∀ ev ∈ tl, ∃ t, s.armed ev = some t ∧ t.ev = ev
    ∧ (s.mem.timeout ev).toUsec = t.deadline
  /-- Every timer is in one of the lists, once, until it is called, once. -/
  once : (timersIn s.armed tl ++ timersIn s.armed pl ++ timersCalled s.calls).Perm s.added
  distinct : s.added.Nodup
  /-- No timer is called before its deadline is past. -/
  calls : ∀ c ∈ s.calls, RightCall c
  /-- After a pass, the timers that were due have been called, in order. -/
  pass : s.pc = .top → (passCalled s).Perm s.due
    ∧ (passCalled s).Pairwise (fun t t' => t.deadline ≤ t'.deadline)
  /-- A pass that calls back comes to its end. -/
  passEnds : ∀ ev, s.pc = .firing ev → ∃ s',
    run step s (List.replicate (pl.length + 1) .firePending) = some s' ∧ s'.pc = .top
  /-- `calcNextTimeout` gives a time that is not too long. -/
  wakes : WakesFor (timersIn s.armed tl) s.clock (calcNextTimeout s.mem s.clock)
  /-- The same for the timers it can know of, if others come in between. -/
  wakesSeen : ∀ rfds tev, s.pc = .calculating rfds tev →
    WakesFor s.seen s.clock (nextTimeout s.mem tev s.clock)
  /-- `ril_timer_add` returns unless the deadline is out of range. -/
  addReturns : ∀ ev tv, Idle s.mem ev → tv.Normal →
    s.clock.toUsec + tv.toUsec < 2 ^ 31 * 1000000 → ∃ s', step s (.timerAdd ev (some tv)) = some s'
  /-- `processTimeouts` returns. -/
  timeoutsReturn : ∀ rfds n, s.pc = .timeouts rfds n → ∃ s', step s .processTimeouts = some s'

/-- **THE TIMER PROTOCOL** in one state. -/
def Protocol (s : St) : Prop := ∃ tl pl, Timers s tl pl

-- ── Timers of lists of events ────────────────────────────────────────────────

section TimersIn

variable {armed armed' : Nat → Option Timer} {l : List Nat} {ev : Nat} {t : Timer}

theorem timersIn_append (armed : Nat → Option Timer) (l l' : List Nat) :
    timersIn armed (l ++ l') = timersIn armed l ++ timersIn armed l' := List.filterMap_append

theorem timersIn_cons (armed : Nat → Option Timer) (ev : Nat) (l : List Nat) :
    timersIn armed (ev :: l) = (armed ev).toList ++ timersIn armed l := by
  rw [timersIn, List.filterMap_cons]
  cases armed ev with
  | none => rfl
  | some t => rfl

theorem timersIn_update (h : ev ∉ l) (armed : Nat → Option Timer) (v : Option Timer) :
    timersIn (Function.update armed ev v) l = timersIn armed l := by
  refine List.filterMap_congr ?_
  intro e hmem
  have hne : e ≠ ev := fun heq => h (heq ▸ hmem)
  exact Function.update_of_ne hne v armed

theorem mem_timersIn : t ∈ timersIn armed l ↔ ∃ ev ∈ l, armed ev = some t := List.mem_filterMap

theorem timersIn_eq_nil (h : ∀ ev ∈ l, armed ev = none) : timersIn armed l = [] :=
  List.filterMap_eq_nil_iff.mpr h

theorem length_timersIn (h : ∀ ev ∈ l, armed ev ≠ none) : (timersIn armed l).length = l.length := by
  induction l with
  | nil => rfl
  | cons ev rest ih =>
      rw [timersIn_cons, List.length_append, ih (fun e he => h e (List.mem_cons_of_mem ev he))]
      cases harmed : armed ev with
      | none => exact absurd harmed (h ev List.mem_cons_self)
      | some t => rw [Option.toList_some, List.length_singleton, List.length_cons, Nat.add_comm]

theorem timersCalled_append (calls : List Call) (c : Call) :
    timersCalled (calls ++ [c]) = timersCalled calls ++ c.timer.toList := by
  rw [timersCalled, List.filterMap_append, timersCalled, List.filterMap_cons]
  cases c.timer with
  | none => rfl
  | some t => rfl

/-- In a list sorted by a key, what is below a bound comes first. -/
theorem sorted_split {key : Nat → Int} {p : Nat → Bool} {bound : Int}
    (hp : ∀ x ∈ l, p x = true ↔ key x < bound)
    (hsorted : l.Pairwise (fun x y => key x ≤ key y)) :
    (∀ x ∈ l.takeWhile p, key x < bound) ∧ ∀ x ∈ l.dropWhile p, bound ≤ key x := by
  induction l with
  | nil => exact ⟨fun _ h => (nomatch h), fun _ h => (nomatch h)⟩
  | cons y rest ih =>
      obtain ⟨hy, hrest⟩ := List.pairwise_cons.mp hsorted
      obtain ⟨htake, hdrop⟩ := ih (fun x hx => hp x (List.mem_cons_of_mem y hx)) hrest
      have hpy := hp y List.mem_cons_self
      cases hc : p y with
      | true =>
          rw [List.takeWhile_cons_of_pos hc, List.dropWhile_cons_of_pos hc]
          refine ⟨?_, hdrop⟩
          intro x hx
          rcases List.mem_cons.mp hx with rfl | hmem
          · exact hpy.mp hc
          · exact htake x hmem
      | false =>
          have hbound : bound ≤ key y := by
            by_contra hlt
            rw [hpy.mpr (by omega)] at hc
            exact nomatch hc
          rw [List.takeWhile_cons_of_neg (by rw [hc]; exact Bool.false_ne_true),
            List.dropWhile_cons_of_neg (by rw [hc]; exact Bool.false_ne_true)]
          refine ⟨fun _ h => (nomatch h), ?_⟩
          intro x hx
          rcases List.mem_cons.mp hx with rfl | hmem
          · exact hbound
          · exact Int.le_trans hbound (hy x hmem)

/-- Timers are in the order of their events. -/
theorem timersIn_sorted {time : Nat → Timeval}
    (harmed : ∀ ev t, armed ev = some t → (time ev).toUsec = t.deadline)
    (hsorted : l.Pairwise (fun a b => (time a).toUsec ≤ (time b).toUsec)) :
    (timersIn armed l).Pairwise (fun t t' => t.deadline ≤ t'.deadline) := by
  refine List.pairwise_filterMap.mpr (hsorted.imp ?_)
  intro a b hle t ha t' hb
  rw [← harmed a t ha, ← harmed b t' hb]
  exact hle

/-- Out of the timers that were added, those that are left over and past the
    bound. -/
theorem filter_due {late later called added : List Timer} {bound : Int}
    (hperm : (later ++ late ++ called).Perm added) (hnodup : added.Nodup)
    (hlate : ∀ t ∈ late, t.deadline < bound) (hlater : ∀ t ∈ later, bound ≤ t.deadline) :
    late.Perm ((added.filter (fun t => t ∉ called)).filter (fun t => t.deadline < bound)) := by
  obtain ⟨-, -, hapart⟩ := List.nodup_append.mp (hperm.nodup_iff.mpr hnodup)
  have hcut : ((later ++ late ++ called).filter (fun t => t ∉ called)).filter
      (fun t => t.deadline < bound) = late := by
    have hnot : called.filter (fun t => t ∉ called) = [] :=
      List.filter_eq_nil_iff.mpr (fun t ht => by simp [ht])
    have hkeep : (later ++ late).filter (fun t => t ∉ called) = later ++ late := by
      refine List.filter_eq_self.mpr ?_
      intro t ht
      exact decide_eq_true (fun hc => hapart t ht t hc rfl)
    have hnone : later.filter (fun t => decide (t.deadline < bound)) = [] := by
      refine List.filter_eq_nil_iff.mpr ?_
      intro t ht
      have := hlater t ht
      simp only [decide_eq_true_eq]
      omega
    have hall : late.filter (fun t => decide (t.deadline < bound)) = late :=
      List.filter_eq_self.mpr (fun t ht => decide_eq_true (hlate t ht))
    rw [List.filter_append, hnot, hkeep, List.append_nil, List.filter_append, hnone, hall,
      List.nil_append]
  have hdue := (hperm.filter (fun t => t ∉ called)).filter (fun t => t.deadline < bound)
  rw [hcut] at hdue
  exact hdue

/-- What goes in where it belongs leaves a list sorted. -/
theorem sorted_insert {time : Nat → Timeval} {v : Timeval} {xs ys : List Nat}
    (hev : ev ∉ xs ++ ys)
    (hsorted : (xs ++ ys).Pairwise (fun a b => (time a).toUsec ≤ (time b).toUsec))
    (hxs : ∀ x ∈ xs, (time x).toUsec < v.toUsec) (hys : ∀ y ∈ ys, v.toUsec ≤ (time y).toUsec) :
    (xs ++ ev :: ys).Pairwise (fun a b =>
      (Function.update time ev v a).toUsec ≤ (Function.update time ev v b).toUsec) := by
  have hne : ∀ e ∈ xs ++ ys, Function.update time ev v e = time e := by
    intro e he
    have hneq : e ≠ ev := fun heq => hev (heq ▸ he)
    exact Function.update_of_ne hneq v time
  have hold : (xs ++ ys).Pairwise (fun a b =>
      (Function.update time ev v a).toUsec ≤ (Function.update time ev v b).toUsec) := by
    refine hsorted.imp_of_mem ?_
    intro a b ha hb hle
    rw [hne a ha, hne b hb]
    exact hle
  obtain ⟨hleft, hright, hcross⟩ := List.pairwise_append.mp hold
  refine List.pairwise_append.mpr ⟨hleft, List.pairwise_cons.mpr ⟨?_, hright⟩, ?_⟩
  · intro y hy
    rw [Function.update_self, hne y (List.mem_append_right xs hy)]
    exact hys y hy
  · intro x hx y hy
    rcases List.mem_cons.mp hy with rfl | hy
    · rw [Function.update_self, hne x (List.mem_append_left ys hx)]
      exact Int.le_of_lt (hxs x hx)
    · exact hcross x hx y hy

end TimersIn

-- ── The invariant ────────────────────────────────────────────────────────────

/-- What each place of the loop knows of the lists. -/
def AtPc (s : St) (tl pl : List Nat) : Prop :=
  match s.pc with
  | .calculating _ tev =>
      pl = [] ∧ (tev = timerList ∧ s.seen = []
        ∨ tev ∈ tl ∧ ∀ t ∈ s.seen, (s.mem.timeout tev).toUsec ≤ t.deadline)
  | .readReadies _ _ => ∀ ev ∈ pl, s.armed ev ≠ none
  | .firing ev => ev = pl.headD pendingList
  | _ => pl = []

/-- What the protocol rests on: events that stand for timers are in the lists,
    watched events stand for none, and what is pending is what is left of the
    pass. -/
structure Inv (s : St) (tl pl : List Nat) : Prop where
  rings : Rings s.mem tl pl
  sorted : tl.Pairwise (fun a b => (s.mem.timeout a).toUsec ≤ (s.mem.timeout b).toUsec)
  armed : ∀ ev t, s.armed ev = some t → t.ev = ev ∧ (s.mem.timeout ev).Normal
    ∧ (s.mem.timeout ev).toUsec = t.deadline ∧ (ev ∈ tl ∨ ev ∈ pl)
  timers : ∀ ev ∈ tl, s.armed ev ≠ none
  once : (timersIn s.armed tl ++ timersIn s.armed pl ++ timersCalled s.calls).Perm s.added
  distinct : s.added.Nodup
  serials : ∀ t ∈ s.added, t.serial < s.added.length
  clock : s.clock.Normal
  late : ∀ t ∈ timersIn s.armed pl, t.deadline < s.clock.toUsec
  calls : ∀ c ∈ s.calls, RightCall c
  watchedOnce : WatchedOnce s.mem
  watched : ∀ i ev, Watches s.mem i ev →
    s.armed ev = none ∧ 0 ≤ s.mem.fd ev ∧ ev ∉ listed [] []
  fds : ∀ ev ∈ pl, s.armed ev = none → 0 ≤ s.mem.fd ev
  passStart : s.passStart ≤ s.calls.length
  pass : (passCalled s ++ timersIn s.armed pl).Perm s.due
  passSorted : (passCalled s ++ timersIn s.armed pl).Pairwise
    (fun t t' => t.deadline ≤ t'.deadline)
  atPc : AtPc s tl pl

section Invariant

variable {s s' : St} {tl tl' pl : List Nat} {ev : Nat}

/-- What the loop knows stays true while others only add. -/
theorem AtPc.mono (h : AtPc s tl pl) (hpc : s'.pc = s.pc) (hseen : s'.seen = s.seen)
    (htl : ∀ e ∈ tl, e ∈ tl' ∧ s'.mem.timeout e = s.mem.timeout e)
    (harmed : ∀ e ∈ pl, s.armed e ≠ none → s'.armed e ≠ none) : AtPc s' tl' pl := by
  rw [AtPc] at h ⊢
  rw [hpc, hseen]
  cases hcase : s.pc with
  | calculating rfds tev =>
      rw [hcase] at h
      refine ⟨h.1, h.2.imp id ?_⟩
      rintro ⟨htev, hle⟩
      rw [(htl tev htev).2]
      exact ⟨(htl tev htev).1, hle⟩
  | readReadies rfds n =>
      rw [hcase] at h
      exact fun e he => harmed e he (h e he)
  | firing e =>
      rw [hcase] at h
      exact h
  | top =>
      rw [hcase] at h
      exact h
  | selecting rfds ptv =>
      rw [hcase] at h
      exact h
  | timeouts rfds n =>
      rw [hcase] at h
      exact h
  | stopped =>
      rw [hcase] at h
      exact h

theorem inv_init : Inv {} [] [] where
  rings := rings_init
  sorted := List.Pairwise.nil
  armed := fun _ _ h => (nomatch h)
  timers := fun _ h => (nomatch h)
  once := List.Perm.nil
  distinct := List.nodup_nil
  serials := fun _ h => (nomatch h)
  clock := by decide
  late := fun _ h => (nomatch h)
  calls := fun _ h => (nomatch h)
  watchedOnce := by
    intro i j ev hi
    have hnone := mem_watchTable_of_watches hi
    exact nomatch List.eq_of_mem_replicate hnone
  watched := by
    intro i ev hi
    have hnone := mem_watchTable_of_watches hi
    exact nomatch List.eq_of_mem_replicate hnone
  fds := fun _ h => (nomatch h)
  passStart := Nat.le_refl 0
  pass := List.Perm.nil
  passSorted := List.Pairwise.nil
  atPc := rfl

/-- An event that is idle is in no list. -/
theorem Inv.idle_notMem (h : Inv s tl pl) (hidle : Idle s.mem ev) : ev ∉ listed tl pl :=
  h.rings.notMem_used hidle.1 hidle.2.1

theorem notMem_listed_tl (h : ev ∉ listed tl pl) : ev ∉ tl :=
  fun hmem => h (mem_used_left (List.mem_cons_of_mem timerList hmem) null pendingList pl)

theorem notMem_listed_pl (h : ev ∉ listed tl pl) : ev ∉ pl :=
  fun hmem => h (mem_used_right (List.mem_cons_of_mem pendingList hmem) null timerList tl)

theorem notMem_listed_nil (h : ev ∉ listed tl pl) : ev ∉ listed [] [] := by
  intro hmem
  simp only [used, List.cons_append, List.nil_append, List.mem_cons, List.not_mem_nil,
    or_false] at hmem
  rcases hmem with rfl | rfl | rfl
  · exact h List.mem_cons_self
  · exact h (mem_used_left List.mem_cons_self null pendingList pl)
  · exact h (mem_used_right List.mem_cons_self null timerList tl)

/-- An event in no list stands for no timer. -/
theorem Inv.unarmed (h : Inv s tl pl) (hev : ev ∉ listed tl pl) : s.armed ev = none := by
  cases harmed : s.armed ev with
  | none => rfl
  | some t =>
      rcases (h.armed ev t harmed).2.2.2 with htl | hpl
      · exact absurd htl (notMem_listed_tl hev)
      · exact absurd hpl (notMem_listed_pl hev)

/-- Between passes nothing is pending. -/
theorem Inv.nothingPending_top (h : Inv s tl pl) (hpc : s.pc = .top) : pl = [] := by
  have hat := h.atPc
  rw [AtPc] at hat
  rw [hpc] at hat
  exact hat

theorem Inv.nothingPending_calculating {rfds : Int → Bool} {tev : Nat} (h : Inv s tl pl)
    (hpc : s.pc = .calculating rfds tev) : pl = [] := by
  have hat := h.atPc
  rw [AtPc] at hat
  rw [hpc] at hat
  exact hat.1

theorem Inv.nothingPending_selecting {rfds : Int → Bool} {ptv : Option Timeval}
    (h : Inv s tl pl) (hpc : s.pc = .selecting rfds ptv) : pl = [] := by
  have hat := h.atPc
  rw [AtPc] at hat
  rw [hpc] at hat
  exact hat

theorem Inv.nothingPending_timeouts {rfds : Int → Bool} {n : Int} (h : Inv s tl pl)
    (hpc : s.pc = .timeouts rfds n) : pl = [] := by
  have hat := h.atPc
  rw [AtPc] at hat
  rw [hpc] at hat
  exact hat

/-- The lists of another memory with the same timers. -/
theorem Inv.setMem (h : Inv s tl pl) {m : Events} (hrings : Rings m tl pl)
    (htimeout : ∀ ev, ev ∈ tl ∨ ev ∈ pl → m.timeout ev = s.mem.timeout ev)
    (hfd : ∀ ev ∈ pl, m.fd ev = s.mem.fd ev) (honce : WatchedOnce m)
    (hwatched : ∀ i ev, Watches m i ev → s.armed ev = none ∧ 0 ≤ m.fd ev ∧ ev ∉ listed [] []) :
    Inv { s with mem := m } tl pl := by
  have hsame : ∀ ev ∈ tl, m.timeout ev = s.mem.timeout ev := fun ev hev => htimeout ev (Or.inl hev)
  refine { h with
    rings := hrings
    watchedOnce := honce
    watched := hwatched
    sorted := ?_
    armed := ?_
    fds := ?_
    atPc := ?_ }
  · refine h.sorted.imp_of_mem ?_
    intro a b ha hb hle
    show (m.timeout a).toUsec ≤ (m.timeout b).toUsec
    rw [hsame a ha, hsame b hb]
    exact hle
  · intro ev t harmed
    have hev := h.armed ev t harmed
    have heq : m.timeout ev = s.mem.timeout ev := htimeout ev hev.2.2.2
    show t.ev = ev ∧ (m.timeout ev).Normal ∧ (m.timeout ev).toUsec = t.deadline ∧ _
    rw [heq]
    exact hev
  · intro ev hev harmed
    show 0 ≤ m.fd ev
    rw [hfd ev hev]
    exact h.fds ev hev harmed
  · exact h.atPc.mono rfl rfl (fun e he => ⟨he, hsame e he⟩) (fun _ _ harmed => harmed)

/-- The loop goes on without touching the lists. -/
theorem Inv.setPc (h : Inv s tl pl) (pc : Pc) (seen : List Timer)
    (hpc : AtPc { s with pc := pc, seen := seen } tl pl) :
    Inv { s with pc := pc, seen := seen } tl pl :=
  { h with atPc := hpc }

theorem inv_tick {now : Timeval} (h : Inv s tl pl) (hnormal : now.Normal)
    (hclock : s.clock.toUsec ≤ now.toUsec) : Inv { s with clock := now } tl pl :=
  { h with
    clock := hnormal
    late := fun t ht => Int.lt_of_lt_of_le (h.late t ht) hclock
    atPc := h.atPc }

theorem inv_eventSet {fd : Int} {persist : Bool} (h : Inv s tl pl) (hidle : Idle s.mem ev) :
    Inv { s with mem := rilEventSet s.mem ev fd persist } tl pl := by
  have hev := h.idle_notMem hidle
  refine h.setMem (rilEventSet_rings h.rings hev fd persist) ?_ ?_ ?_ ?_
  · intro e he
    have hne : e ≠ ev := by
      rintro rfl
      exact he.elim (notMem_listed_tl hev) (notMem_listed_pl hev)
    exact Function.update_of_ne hne _ _
  · intro e he
    have hne : e ≠ ev := by
      rintro rfl
      exact notMem_listed_pl hev he
    exact (Function.update_of_ne hne _ _).trans (Function.update_of_ne hne _ _)
  · exact h.watchedOnce
  · intro i e hi
    have hwatch : Watches s.mem i e := hi
    have hne : e ≠ ev := by
      rintro rfl
      exact hidle.2.2 (mem_watchTable_of_watches hwatch)
    have hfd : (rilEventSet s.mem ev fd persist).fd e = s.mem.fd e :=
      (Function.update_of_ne hne _ _).trans (Function.update_of_ne hne _ _)
    rw [hfd]
    exact h.watched i e hwatch

theorem inv_eventAdd (h : Inv s tl pl) (hidle : Idle s.mem ev) (hfd : 0 ≤ s.mem.fd ev) :
    Inv { s with mem := rilEventAdd s.mem ev } tl pl := by
  have hev := h.idle_notMem hidle
  obtain ⟨hsame, -⟩ := rilEventAdd_spec s.mem ev
  refine h.setMem ?_ ?_ ?_ ?_ ?_
  · rw [Rings, hsame.links]
    exact h.rings
  · exact fun e _ => congrFun hsame.timeout e
  · exact fun e _ => congrFun hsame.fd e
  · exact watchedOnce_rilEventAdd h.watchedOnce hidle.2.2
  · intro i e hi
    rw [hsame.fd]
    rcases watches_rilEventAdd hi with hold | rfl
    · exact h.watched i e hold
    · exact ⟨h.unarmed hev, hfd, notMem_listed_nil hev⟩

theorem inv_eventDel (h : Inv s tl pl) : Inv { s with mem := rilEventDel s.mem ev } tl pl := by
  obtain ⟨hsame, hold⟩ := rilEventDel_spec s.mem ev
  refine h.setMem ?_ ?_ ?_ ?_ ?_
  · rw [Rings, hsame.links]
    exact h.rings
  · exact fun e _ => congrFun hsame.timeout e
  · exact fun e _ => congrFun hsame.fd e
  · exact fun i j e hi hj => h.watchedOnce i j e (hold i e hi) (hold j e hj)
  · intro i e hi
    rw [hsame.fd]
    exact h.watched i e (hold i e hi)

-- ── Adding a timer ───────────────────────────────────────────────────────────

/-- There are no more events in `timer_list` than timers were added. -/
theorem Inv.length_tl (h : Inv s tl pl) : tl.length ≤ s.added.length := by
  have hlength := h.once.length_eq
  rw [List.length_append, List.length_append, length_timersIn h.timers] at hlength
  omega

theorem Inv.timeout_normal (h : Inv s tl pl) (hev : ev ∈ tl) : (s.mem.timeout ev).Normal := by
  cases harmed : s.armed ev with
  | none => exact absurd harmed (h.timers ev hev)
  | some t => exact (h.armed ev t harmed).2.1

theorem Inv.newTimer_notMem (h : Inv s tl pl) (ev : Nat) (tv : Timeval) :
    newTimer s ev tv ∉ s.added := by
  intro hmem
  exact Nat.lt_irrefl s.added.length (h.serials _ hmem)

/-- A new timer in its place: before the first one that is not sooner. -/
theorem Inv.insertTimer {tv timeout : Timeval} {xs ys : List Nat} {L : Links Nat}
    (h : Inv s (xs ++ ys) pl) (hidle : Idle s.mem ev) (hnormal : timeout.Normal)
    (hdeadline : timeout.toUsec = s.clock.toUsec + tv.toUsec)
    (hxs : ∀ x ∈ xs, (s.mem.timeout x).toUsec < timeout.toUsec)
    (hys : ∀ y ∈ ys, timeout.toUsec ≤ (s.mem.timeout y).toUsec)
    (hrings : Rings { timed s.mem ev timeout with links := L } (xs ++ ev :: ys) pl) :
    Inv { s with
      mem := { timed s.mem ev timeout with links := L }
      armed := Function.update s.armed ev (some (newTimer s ev tv))
      added := s.added ++ [newTimer s ev tv] } (xs ++ ev :: ys) pl := by
  have hev := h.idle_notMem hidle
  have hevtl : ev ∉ xs ++ ys := notMem_listed_tl hev
  have hevpl : ev ∉ pl := notMem_listed_pl hev
  have htimeout : ∀ e, e ≠ ev → (timed s.mem ev timeout).timeout e = s.mem.timeout e :=
    fun e hne => Function.update_of_ne hne _ _
  have hself : (timed s.mem ev timeout).timeout ev = timeout := Function.update_self _ _ _
  have hnexs : ∀ x ∈ xs, x ≠ ev := fun x hx heq => hevtl (List.mem_append_left ys (heq ▸ hx))
  have hneys : ∀ y ∈ ys, y ≠ ev := fun y hy heq => hevtl (List.mem_append_right xs (heq ▸ hy))
  have hnepl : ∀ e ∈ pl, e ≠ ev := fun e he heq => hevpl (heq ▸ he)
  have hmem : ∀ e, e ∈ xs ++ ev :: ys ↔ e = ev ∨ e ∈ xs ++ ys := fun e =>
    List.perm_middle.mem_iff.trans List.mem_cons
  have harmed : ∀ e, e ≠ ev →
      Function.update s.armed ev (some (newTimer s ev tv)) e = s.armed e :=
    fun e hne => Function.update_of_ne hne _ _
  have hpl : timersIn (Function.update s.armed ev (some (newTimer s ev tv))) pl
      = timersIn s.armed pl := timersIn_update hevpl _ _
  have htl : timersIn (Function.update s.armed ev (some (newTimer s ev tv))) (xs ++ ev :: ys)
      = timersIn s.armed xs ++ newTimer s ev tv :: timersIn s.armed ys := by
    rw [timersIn_append, timersIn_cons, Function.update_self,
      timersIn_update (fun hx => hnexs ev hx rfl), timersIn_update (fun hy => hneys ev hy rfl)]
    rfl
  constructor
  case rings => exact hrings
  case sorted => exact sorted_insert hevtl h.sorted hxs hys
  case armed =>
    intro e t het
    show t.ev = e ∧ ((timed s.mem ev timeout).timeout e).Normal
      ∧ ((timed s.mem ev timeout).timeout e).toUsec = t.deadline ∧ _
    by_cases hne : e = ev
    · subst hne
      have ht : Function.update s.armed e (some (newTimer s e tv)) e = some t := het
      rw [Function.update_self] at ht
      rw [hself, ← Option.some.inj ht]
      exact ⟨rfl, hnormal, hdeadline, Or.inl ((hmem e).mpr (Or.inl rfl))⟩
    · obtain ⟨hte, hn, hd, hin⟩ := h.armed e t ((harmed e hne).symm.trans het)
      rw [htimeout e hne]
      exact ⟨hte, hn, hd, hin.imp (fun hin => (hmem e).mpr (Or.inr hin)) id⟩
  case timers =>
    intro e he
    by_cases hne : e = ev
    · subst hne
      show Function.update s.armed e _ e ≠ none
      rw [Function.update_self]
      exact fun hnone => nomatch hnone
    · show Function.update s.armed ev _ e ≠ none
      rw [harmed e hne]
      exact h.timers e (((hmem e).mp he).resolve_left hne)
  case once =>
    show (timersIn _ (xs ++ ev :: ys) ++ timersIn _ pl ++ timersCalled s.calls).Perm _
    rw [htl, hpl]
    have honce := h.once
    rw [timersIn_append] at honce
    have hfront : (timersIn s.armed xs ++ newTimer s ev tv :: timersIn s.armed ys
          ++ timersIn s.armed pl ++ timersCalled s.calls).Perm
        (newTimer s ev tv :: (timersIn s.armed xs ++ timersIn s.armed ys
          ++ timersIn s.armed pl ++ timersCalled s.calls)) := by
      refine List.Perm.append_right _ (List.Perm.append_right _ List.perm_middle)
    exact (hfront.trans (honce.cons _)).trans (List.perm_append_singleton _ _).symm
  case distinct =>
    exact (List.perm_append_singleton _ _).nodup_iff.mpr
      (List.nodup_cons.mpr ⟨h.newTimer_notMem ev tv, h.distinct⟩)
  case serials =>
    intro t ht
    show t.serial < (s.added ++ [newTimer s ev tv]).length
    rw [List.length_append, List.length_singleton]
    rcases List.mem_append.mp ht with hold | hnew
    · exact Nat.lt_succ_of_lt (h.serials t hold)
    · rw [List.mem_singleton.mp hnew]
      exact Nat.lt_succ_self _
  case clock => exact h.clock
  case late =>
    show ∀ t ∈ timersIn _ pl, _
    rw [hpl]
    exact h.late
  case calls => exact h.calls
  case watchedOnce => exact h.watchedOnce
  case watched =>
    intro i e hi
    have hwatch : Watches s.mem i e := hi
    have hne : e ≠ ev := by
      rintro rfl
      exact hidle.2.2 (mem_watchTable_of_watches hwatch)
    show Function.update s.armed ev _ e = none ∧ 0 ≤ Function.update s.mem.fd ev _ e ∧ _
    rw [harmed e hne, Function.update_of_ne hne]
    exact h.watched i e hwatch
  case fds =>
    intro e he hnone
    show 0 ≤ Function.update s.mem.fd ev _ e
    rw [Function.update_of_ne (hnepl e he)]
    exact h.fds e he ((harmed e (hnepl e he)).symm.trans hnone)
  case passStart => exact h.passStart
  case pass =>
    show (passCalled s ++ timersIn _ pl).Perm _
    rw [hpl]
    exact h.pass
  case passSorted =>
    show (passCalled s ++ timersIn _ pl).Pairwise _
    rw [hpl]
    exact h.passSorted
  case atPc =>
    refine h.atPc.mono rfl rfl ?_ ?_
    · intro e he
      have hne : e ≠ ev := fun heq => hevtl (heq ▸ he)
      exact ⟨(hmem e).mpr (Or.inr he), htimeout e hne⟩
    · intro e he hold
      show Function.update s.armed ev _ e ≠ none
      rw [harmed e (hnepl e he)]
      exact hold

/-- **`ril_timer_add` KEEPS THE INVARIANT** and returns if the deadline is in range. -/
theorem inv_timerAdd {tv timeout : Timeval} (h : Inv s tl pl) (hidle : Idle s.mem ev)
    (hnormal : tv.Normal) (htime : timeradd s.clock tv = some timeout) :
    ∃ s' tl', timerAdd s ev (some tv) = some s' ∧ Inv s' tl' pl := by
  obtain ⟨htn, hdeadline⟩ := timeradd_spec h.clock hnormal htime
  have hev := h.idle_notMem hidle
  obtain ⟨L, hadd, hrings⟩ := rilTimerAdd_spec h.rings hev
    (Nat.lt_succ_of_le h.length_tl) htime
  have hsooner : ∀ x ∈ tl, sooner (timed s.mem ev timeout) timeout x = true
      ↔ (s.mem.timeout x).toUsec < timeout.toUsec := by
    intro x hx
    have hne : x ≠ ev := fun heq => notMem_listed_tl hev (heq ▸ hx)
    have hsame : (timed s.mem ev timeout).timeout x = s.mem.timeout x :=
      Function.update_of_ne hne _ _
    rw [sooner, hsame]
    exact timercmp_lt (h.timeout_normal hx) htn
  obtain ⟨hxs, hys⟩ := sorted_split hsooner h.sorted
  have hsplit := List.takeWhile_append_dropWhile (p := sooner (timed s.mem ev timeout) timeout)
    (l := tl)
  refine ⟨_, _, ?_, Inv.insertTimer (by rw [hsplit]; exact h) hidle htn hdeadline hxs hys hrings⟩
  rw [timerAdd, hadd]
  rfl

theorem step_timerAdd_none (h : Inv s tl pl) (hstep : timerAdd s ev none = some s') :
    Inv s' tl pl := by
  obtain rfl := Option.some.inj hstep
  exact h

-- ── A pass ───────────────────────────────────────────────────────────────────

theorem Inv.mem_of_waiting {t : Timer} (h : Inv s tl pl) (ht : t ∈ waiting s) :
    t ∈ timersIn s.armed tl ++ timersIn s.armed pl := by
  obtain ⟨hadded, hcalled⟩ := List.mem_filter.mp ht
  rcases List.mem_append.mp (h.once.mem_iff.mpr hadded) with hmem | hmem
  · exact hmem
  · exact absurd hmem (of_decide_eq_true hcalled)

/-- The first timer of the list is the first one due. -/
theorem Inv.head_le {t : Timer} {rest : List Nat} (h : Inv s (ev :: rest) pl)
    (ht : t ∈ timersIn s.armed (ev :: rest)) : (s.mem.timeout ev).toUsec ≤ t.deadline := by
  obtain ⟨e, he, harmed⟩ := mem_timersIn.mp ht
  rw [← (h.armed e t harmed).2.2.1]
  rcases List.mem_cons.mp he with rfl | hrest
  · exact Int.le_refl _
  · exact (List.pairwise_cons.mp h.sorted).1 e hrest

theorem inv_readTimerList (h : Inv s tl pl) (hpc : s.pc = .top) :
    Inv { s with
      pc := .calculating s.mem.readFds (s.mem.links.next timerList)
      seen := waiting s } tl pl := by
  have hnil := h.nothingPending_top hpc
  subst hnil
  refine h.setPc _ _ ⟨rfl, ?_⟩
  show s.mem.links.next timerList = timerList ∧ waiting s = []
    ∨ s.mem.links.next timerList ∈ tl ∧ ∀ t ∈ waiting s, _
  rw [rings_next_timerList h.rings]
  have hseen : ∀ t ∈ waiting s, t ∈ timersIn s.armed tl := by
    intro t ht
    have hmem := h.mem_of_waiting ht
    rw [show timersIn s.armed [] = [] from rfl, List.append_nil] at hmem
    exact hmem
  cases tl with
  | nil => exact Or.inl ⟨rfl, List.eq_nil_iff_forall_not_mem.mpr (fun t ht => nomatch hseen t ht)⟩
  | cons e rest => exact Or.inr ⟨List.mem_cons_self, fun t ht => h.head_le (hseen t ht)⟩

theorem Inv.deadline (h : Inv s tl pl) : ∀ ev t, s.armed ev = some t →
    (s.mem.timeout ev).toUsec = t.deadline := fun ev t harmed => (h.armed ev t harmed).2.2.1

/-- **`processTimeouts`** returns, and what it moved is what was due. -/
theorem inv_processTimeouts {rfds : Int → Bool} {n : Int} (h : Inv s tl pl)
    (hpc : s.pc = .timeouts rfds n) :
    ∃ s' tl' pl', step s .processTimeouts = some s' ∧ Inv s' tl' pl' := by
  have hnil := h.nothingPending_timeouts hpc
  subst hnil
  obtain ⟨L, hrun, hrings⟩ := @processTimeouts_spec _ _ _ s.clock _ h.rings
    (Nat.lt_succ_of_le h.length_tl)
  have hlate : ∀ x ∈ tl, late s.mem s.clock x = true
      ↔ (s.mem.timeout x).toUsec < s.clock.toUsec :=
    fun x hx => timercmp_gt h.clock (h.timeout_normal hx)
  obtain ⟨htake, hdrop⟩ := sorted_split hlate h.sorted
  have hsplit := List.takeWhile_append_dropWhile (p := late s.mem s.clock) (l := tl)
  have hsub : (tl.takeWhile (late s.mem s.clock)).Sublist tl := List.takeWhile_sublist _
  have hsub' : (tl.dropWhile (late s.mem s.clock)).Sublist tl := List.dropWhile_sublist _
  rw [List.nil_append] at hrings
  generalize tl.takeWhile (late s.mem s.clock) = expired at *
  generalize tl.dropWhile (late s.mem s.clock) = rest at *
  have hsorted : (timersIn s.armed expired).Pairwise (fun t t' => t.deadline ≤ t'.deadline) :=
    timersIn_sorted h.deadline (h.sorted.sublist hsub)
  have hexpired : ∀ t ∈ timersIn s.armed expired, t.deadline < s.clock.toUsec := by
    intro t ht
    obtain ⟨e, he, harmed⟩ := mem_timersIn.mp ht
    rw [← h.deadline e t harmed]
    exact htake e he
  have hrest : ∀ t ∈ timersIn s.armed rest, s.clock.toUsec ≤ t.deadline := by
    intro t ht
    obtain ⟨e, he, harmed⟩ := mem_timersIn.mp ht
    rw [← h.deadline e t harmed]
    exact hdrop e he
  have honce : (timersIn s.armed rest ++ timersIn s.armed expired ++ timersCalled s.calls).Perm
      s.added := by
    refine List.Perm.trans ?_ h.once
    refine List.Perm.append_right _ ?_
    rw [← hsplit, timersIn_append, show timersIn s.armed [] = [] from rfl, List.append_nil]
    exact List.perm_append_comm
  refine ⟨{ s with
    mem := { s.mem with links := L }
    pc := .readReadies rfds n
    due := (waiting s).filter (fun t => t.deadline < s.clock.toUsec)
    passStart := s.calls.length }, rest, expired, ?_, ?_⟩
  · simp only [step, hpc, hrun]
    rfl
  · have hpass : timersCalled (s.calls.drop s.calls.length) = [] := by
      rw [List.drop_length]
      rfl
    constructor
    case rings => exact hrings
    case sorted => exact h.sorted.sublist hsub'
    case armed =>
      intro e t harmed
      obtain ⟨hev, hnormal, hdeadline, hin⟩ := h.armed e t harmed
      refine ⟨hev, hnormal, hdeadline, ?_⟩
      have hmem : e ∈ tl := hin.resolve_right (fun hpl => nomatch hpl)
      rw [← hsplit] at hmem
      exact (List.mem_append.mp hmem).symm
    case timers => exact fun e he => h.timers e (hsub'.subset he)
    case once => exact honce
    case distinct => exact h.distinct
    case serials => exact h.serials
    case clock => exact h.clock
    case late => exact hexpired
    case calls => exact h.calls
    case watchedOnce => exact h.watchedOnce
    case watched => exact h.watched
    case fds => exact fun e he hnone => absurd hnone (h.timers e (hsub.subset he))
    case passStart => exact Nat.le_refl _
    case pass =>
      show (timersCalled (s.calls.drop s.calls.length) ++ _).Perm _
      rw [hpass]
      exact filter_due honce h.distinct hexpired hrest
    case passSorted =>
      show (timersCalled (s.calls.drop s.calls.length) ++ _).Pairwise _
      rw [hpass]
      exact hsorted
    case atPc => exact fun e he => h.timers e (hsub.subset he)

/-- **`processReadReadies`** queues descriptors behind the timers. -/
theorem inv_processReadReadies {rfds : Int → Bool} {n : Int} (h : Inv s tl pl)
    (hpc : s.pc = .readReadies rfds n) :
    ∃ pl', Inv { s with
      mem := processReadReadies s.mem rfds n
      pc := .firing ((processReadReadies s.mem rfds n).links.next pendingList) } tl pl' := by
  have harmed : ∀ ev ∈ pl, s.armed ev ≠ none := by
    have hat := h.atPc
    rw [AtPc] at hat
    rw [hpc] at hat
    exact hat
  have hfree : ∀ i ev, Watches s.mem i ev → ev ∉ listed tl pl := by
    intro i ev hi hmem
    obtain ⟨hnone, -, hout⟩ := h.watched i ev hi
    have hcat : ev ∈ (null :: timerList :: tl) ++ (pendingList :: pl) := hmem
    simp only [List.mem_append, List.mem_cons] at hcat
    rcases hcat with (rfl | rfl | htl) | (rfl | hpl)
    · exact hout List.mem_cons_self
    · exact hout (mem_used_left List.mem_cons_self null pendingList [])
    · exact h.timers ev htl hnone
    · exact hout (mem_used_right List.mem_cons_self null timerList [])
    · exact harmed ev hpl hnone
  obtain ⟨extra, hq⟩ := processReadReadies_spec rfds n h.rings h.watchedOnce hfree
  generalize processReadReadies s.mem rfds n = m at *
  have hextra : timersIn s.armed extra = [] := by
    refine timersIn_eq_nil ?_
    intro ev hev
    obtain ⟨i, -, hi⟩ := hq.watched ev hev
    exact (h.watched i ev hi).1
  have hpl : timersIn s.armed (pl ++ extra) = timersIn s.armed pl := by
    rw [timersIn_append, hextra, List.append_nil]
  refine ⟨pl ++ extra, ?_⟩
  constructor
  case rings => exact hq.rings
  case sorted =>
    show tl.Pairwise (fun a b => (m.timeout a).toUsec ≤ (m.timeout b).toUsec)
    rw [hq.timeout]
    exact h.sorted
  case armed =>
    intro ev t het
    show t.ev = ev ∧ (m.timeout ev).Normal ∧ (m.timeout ev).toUsec = t.deadline ∧ _
    rw [hq.timeout]
    obtain ⟨hev, hnormal, hdeadline, hin⟩ := h.armed ev t het
    exact ⟨hev, hnormal, hdeadline, hin.imp id (List.mem_append_left extra)⟩
  case timers => exact h.timers
  case once =>
    show (timersIn s.armed tl ++ timersIn s.armed (pl ++ extra) ++ timersCalled s.calls).Perm _
    rw [hpl]
    exact h.once
  case distinct => exact h.distinct
  case serials => exact h.serials
  case clock => exact h.clock
  case late =>
    show ∀ t ∈ timersIn s.armed (pl ++ extra), _
    rw [hpl]
    exact h.late
  case calls => exact h.calls
  case watchedOnce =>
    exact fun i j ev hi hj => h.watchedOnce i j ev (hq.kept i ev hi) (hq.kept j ev hj)
  case watched =>
    intro i ev hi
    show s.armed ev = none ∧ 0 ≤ m.fd ev ∧ _
    rw [hq.fd]
    exact h.watched i ev (hq.kept i ev hi)
  case fds =>
    intro ev hev hnone
    show 0 ≤ m.fd ev
    rw [hq.fd]
    rcases List.mem_append.mp hev with hold | hnew
    · exact h.fds ev hold hnone
    · obtain ⟨i, -, hi⟩ := hq.watched ev hnew
      exact (h.watched i ev hi).2.1
  case passStart => exact h.passStart
  case pass =>
    show (passCalled s ++ timersIn s.armed (pl ++ extra)).Perm _
    rw [hpl]
    exact h.pass
  case passSorted =>
    show (passCalled s ++ timersIn s.armed (pl ++ extra)).Pairwise _
    rw [hpl]
    exact h.passSorted
  case atPc => exact rings_next_pendingList hq.rings

/-- The loop of `firePending` ends when nothing is pending. -/
theorem inv_fireEnd (h : Inv s tl []) (hpc : s.pc = .firing ev) :
    step s .firePending = some { s with pc := .top } ∧ Inv { s with pc := .top } tl [] := by
  have hev : ev = pendingList := by
    have hat := h.atPc
    rw [AtPc] at hat
    rw [hpc] at hat
    exact hat
  refine ⟨?_, h.setPc _ s.seen rfl⟩
  simp only [step, hpc, firePending, if_pos hev]

/-- **A CALLBACK IS STARTED**, that of the first pending event. -/
theorem inv_fireOne {e : Nat} (h : Inv s tl (e :: pl)) (hpc : s.pc = .firing ev) :
    ∃ s', step s .firePending = some s' ∧ Inv s' tl pl ∧ ∃ next, s'.pc = .firing next := by
  have hev : ev = e := by
    have hat := h.atPc
    rw [AtPc] at hat
    rw [hpc] at hat
    exact hat
  subst hev
  have hhead : ev ≠ pendingList := by
    rintro rfl
    exact (List.nodup_cons.mp h.rings.snd.nodup).1 List.mem_cons_self
  have hevpl : ev ∉ pl := (List.nodup_cons.mp (List.nodup_cons.mp h.rings.snd.nodup).2).1
  have hevtl : ev ∉ tl := fun hmem =>
    h.rings.disjoint ev (List.mem_cons_of_mem _ List.mem_cons_self) (List.mem_cons_of_mem _ hmem)
  have hnext : s.mem.links.next ev = pl.headD pendingList :=
    ring_second h.rings.snd
  have harmed : ∀ e, e ≠ ev → Function.update s.armed ev none e = s.armed e :=
    fun e hne => Function.update_of_ne hne _ _
  have htl : timersIn (Function.update s.armed ev none) tl = timersIn s.armed tl :=
    timersIn_update hevtl _ _
  have hpl : timersIn (Function.update s.armed ev none) pl = timersIn s.armed pl :=
    timersIn_update hevpl _ _
  have hpass : timersCalled
        ((s.calls ++ [(⟨ev, s.mem.fd ev, s.armed ev, s.clock⟩ : Call)]).drop s.passStart)
          ++ timersIn s.armed pl
      = passCalled s ++ timersIn s.armed (ev :: pl) := by
    rw [List.drop_append_of_le_length h.passStart, timersCalled_append, timersIn_cons,
      List.append_assoc]
    rfl
  refine ⟨firePending s ev, by simp only [step, hpc], ?_, s.mem.links.next ev, ?_⟩
  · rw [firePending, if_neg hhead]
    constructor
    case rings => exact removeFromList_pending h.rings
    case sorted => exact h.sorted
    case armed =>
      intro e t het
      by_cases hne : e = ev
      · subst hne
        have hnone : Function.update s.armed e none e = some t := het
        rw [Function.update_self] at hnone
        exact nomatch hnone
      · obtain ⟨hte, hnormal, hdeadline, hin⟩ := h.armed e t ((harmed e hne).symm.trans het)
        refine ⟨hte, hnormal, hdeadline, hin.imp id ?_⟩
        exact fun hmem => (List.mem_cons.mp hmem).resolve_left hne
    case timers =>
      intro e he
      show Function.update s.armed ev none e ≠ none
      rw [harmed e (fun heq => hevtl (heq ▸ he))]
      exact h.timers e he
    case once =>
      show (timersIn _ tl ++ timersIn _ pl ++ timersCalled (s.calls ++ [_])).Perm _
      rw [htl, hpl, timersCalled_append]
      refine List.Perm.trans ?_ h.once
      rw [timersIn_cons, List.append_assoc, List.append_assoc]
      refine List.Perm.append_left _ ?_
      rw [← List.append_assoc, List.append_assoc (s.armed ev).toList]
      exact List.perm_append_comm
    case distinct => exact h.distinct
    case serials => exact h.serials
    case clock => exact h.clock
    case late =>
      show ∀ t ∈ timersIn _ pl, _
      rw [hpl]
      intro t ht
      refine h.late t ?_
      rw [timersIn_cons]
      exact List.mem_append_right _ ht
    case calls =>
      intro c hc
      rcases List.mem_append.mp hc with hold | hnew
      · exact h.calls c hold
      · rw [List.mem_singleton.mp hnew, RightCall]
        cases hcase : s.armed ev with
        | none => exact h.fds ev List.mem_cons_self hcase
        | some t =>
            refine ⟨(h.armed ev t hcase).1, h.late t ?_⟩
            exact mem_timersIn.mpr ⟨ev, List.mem_cons_self, hcase⟩
    case watchedOnce => exact h.watchedOnce
    case watched =>
      intro i e hi
      obtain ⟨hnone, hrest⟩ := h.watched i e hi
      refine ⟨?_, hrest⟩
      show Function.update s.armed ev none e = none
      by_cases hne : e = ev
      · rw [hne, Function.update_self]
      · rw [harmed e hne]
        exact hnone
    case fds =>
      intro e he hnone
      have hne : e ≠ ev := fun heq => hevpl (heq ▸ he)
      exact h.fds e (List.mem_cons_of_mem ev he) ((harmed e hne).symm.trans hnone)
    case passStart =>
      show s.passStart ≤ (s.calls ++ [_]).length
      rw [List.length_append]
      exact Nat.le_add_right_of_le h.passStart
    case pass =>
      show (timersCalled ((s.calls ++ [_]).drop s.passStart) ++ timersIn _ pl).Perm _
      rw [hpl, hpass]
      exact h.pass
    case passSorted =>
      show (timersCalled ((s.calls ++ [_]).drop s.passStart) ++ timersIn _ pl).Pairwise _
      rw [hpl, hpass]
      exact h.passSorted
    case atPc => exact hnext
  · rw [firePending, if_neg hhead]

/-- Every round of `firePending` has one event less to call. -/
theorem firePending_ends : ∀ (pl : List Nat) {s : St} {ev : Nat}, Inv s tl pl →
    s.pc = .firing ev → ∃ s',
      run step s (List.replicate (pl.length + 1) .firePending) = some s' ∧ s'.pc = .top := by
  intro pl
  induction pl with
  | nil =>
      intro s ev h hpc
      obtain ⟨hstep, -⟩ := inv_fireEnd h hpc
      exact ⟨_, run_cons hstep, rfl⟩
  | cons e rest ih =>
      intro s ev h hpc
      obtain ⟨s₁, hstep, h₁, next, hpc₁⟩ := inv_fireOne h hpc
      obtain ⟨s', hrun, hpc'⟩ := ih h₁ hpc₁
      refine ⟨s', ?_, hpc'⟩
      rw [List.length_cons, List.replicate_succ, run_cons hstep]
      exact hrun

-- ── The step ─────────────────────────────────────────────────────────────────

/-- **STEP LEMMA**: every step keeps the invariant, the list of timers and the
    list of pending events being the ones after the step. -/
theorem inv_step {a : Act} (h : ∃ tl pl, Inv s tl pl) (hstep : step s a = some s') :
    ∃ tl pl, Inv s' tl pl := by
  obtain ⟨tl, pl, h⟩ := h
  cases a with
  | tick now =>
      simp only [step] at hstep
      split at hstep
      · next hnow =>
          obtain rfl := Option.some.inj hstep
          exact ⟨tl, pl, inv_tick h hnow.1 hnow.2⟩
      · exact nomatch hstep
  | timerAdd ev tv =>
      simp only [step] at hstep
      split at hstep
      · next hok =>
          cases tv with
          | none => exact ⟨tl, pl, step_timerAdd_none h hstep⟩
          | some tv =>
              cases htime : timeradd s.clock tv with
              | none =>
                  rw [timerAdd, rilTimerAdd_overflow htime] at hstep
                  exact nomatch hstep
              | some timeout =>
                  obtain ⟨s₁, tl', hadd, h₁⟩ := inv_timerAdd h hok.1 (hok.2 tv rfl) htime
                  obtain rfl := Option.some.inj (hadd.symm.trans hstep)
                  exact ⟨tl', pl, h₁⟩
      · exact nomatch hstep
  | eventSet ev fd persist =>
      simp only [step] at hstep
      split at hstep
      · next hidle =>
          obtain rfl := Option.some.inj hstep
          exact ⟨tl, pl, inv_eventSet h hidle⟩
      · exact nomatch hstep
  | eventAdd ev =>
      simp only [step] at hstep
      split at hstep
      · next hok =>
          obtain rfl := Option.some.inj hstep
          exact ⟨tl, pl, inv_eventAdd h hok.1 hok.2⟩
      · exact nomatch hstep
  | eventDel ev =>
      obtain rfl := Option.some.inj hstep
      exact ⟨tl, pl, inv_eventDel h⟩
  | readTimerList =>
      simp only [step] at hstep
      split at hstep
      · next hpc =>
          obtain rfl := Option.some.inj hstep
          exact ⟨tl, pl, inv_readTimerList h hpc⟩
      · exact nomatch hstep
  | calcNextTimeout =>
      simp only [step] at hstep
      split at hstep
      · next hpc =>
          obtain rfl := Option.some.inj hstep
          exact ⟨tl, pl, h.setPc _ s.seen (h.nothingPending_calculating hpc)⟩
      · exact nomatch hstep
  | selectFails eintr =>
      simp only [step] at hstep
      split at hstep
      · next hpc =>
          obtain rfl := Option.some.inj hstep
          refine ⟨tl, pl, h.setPc _ s.seen ?_⟩
          cases eintr with
          | true => exact h.nothingPending_selecting hpc
          | false => exact h.nothingPending_selecting hpc
      · exact nomatch hstep
  | selectReturns rfds n =>
      simp only [step] at hstep
      split at hstep
      · next hpc =>
          obtain rfl := Option.some.inj hstep
          exact ⟨tl, pl, h.setPc _ s.seen (h.nothingPending_selecting hpc)⟩
      · exact nomatch hstep
  | processTimeouts =>
      cases hpc : s.pc with
      | timeouts rfds n =>
          obtain ⟨s₁, tl', pl', hrun, h₁⟩ := inv_processTimeouts h hpc
          obtain rfl := Option.some.inj (hrun.symm.trans hstep)
          exact ⟨tl', pl', h₁⟩
      | _ =>
          simp only [step, hpc] at hstep
          exact nomatch hstep
  | processReadReadies =>
      simp only [step] at hstep
      split at hstep
      · next hpc =>
          obtain rfl := Option.some.inj hstep
          obtain ⟨pl', h₁⟩ := inv_processReadReadies h hpc
          exact ⟨tl, pl', h₁⟩
      · exact nomatch hstep
  | firePending =>
      cases hpc : s.pc with
      | firing ev =>
          cases pl with
          | nil =>
              obtain ⟨hrun, h₁⟩ := inv_fireEnd h hpc
              obtain rfl := Option.some.inj (hrun.symm.trans hstep)
              exact ⟨tl, [], h₁⟩
          | cons e rest =>
              obtain ⟨s₁, hrun, h₁, -⟩ := inv_fireOne h hpc
              obtain rfl := Option.some.inj (hrun.symm.trans hstep)
              exact ⟨tl, rest, h₁⟩
      | _ =>
          simp only [step, hpc] at hstep
          exact nomatch hstep

-- ── The protocol of every run ────────────────────────────────────────────────

/-- `calcNextTimeout` with a timer that none of the others is due before. -/
theorem nextTimeout_wakes {m : Events} {tev : Nat} {clock : Timeval} {timers : List Timer}
    (hclock : clock.Normal)
    (h : tev = timerList ∧ timers = []
      ∨ tev ≠ timerList ∧ (m.timeout tev).Normal
        ∧ ∀ t ∈ timers, (m.timeout tev).toUsec ≤ t.deadline) :
    WakesFor timers clock (nextTimeout m tev clock) := by
  rcases h with ⟨rfl, hnil⟩ | ⟨hne, hnormal, hfirst⟩
  · exact hnil
  · rw [nextTimeout, if_neg hne]
    split
    · next hlater =>
        have hlt := (timercmp_gt hnormal hclock).mp hlater
        have hsub := timersub_toUsec (m.timeout tev) clock
        refine ⟨by omega, ?_⟩
        intro t ht
        have := hfirst t ht
        omega
    · exact ⟨by decide, fun t _ => Int.le_max_left 0 _⟩

/-- The invariant gives the protocol. -/
theorem timers_of_inv (h : Inv s tl pl) : Timers s tl pl where
  rings := h.rings
  sorted := timersIn_sorted h.deadline h.sorted
  timeouts := by
    intro ev hev
    cases harmed : s.armed ev with
    | none => exact absurd harmed (h.timers ev hev)
    | some t => exact ⟨t, rfl, (h.armed ev t harmed).1, h.deadline ev t harmed⟩
  once := h.once
  distinct := h.distinct
  calls := h.calls
  pass := by
    intro hpc
    have hnil := h.nothingPending_top hpc
    subst hnil
    have hpass := h.pass
    have hsorted := h.passSorted
    rw [show timersIn s.armed [] = [] from rfl, List.append_nil] at hpass hsorted
    exact ⟨hpass, hsorted⟩
  passEnds := fun ev hpc => firePending_ends pl h hpc
  wakes := by
    rw [calcNextTimeout, rings_next_timerList h.rings]
    refine nextTimeout_wakes h.clock ?_
    cases tl with
    | nil => exact Or.inl ⟨rfl, rfl⟩
    | cons e rest =>
        exact Or.inr ⟨timer_ne_timerList h.rings List.mem_cons_self,
          h.timeout_normal List.mem_cons_self, fun t ht => h.head_le ht⟩
  wakesSeen := by
    intro rfds tev hpc
    have hat := h.atPc
    rw [AtPc] at hat
    rw [hpc] at hat
    refine nextTimeout_wakes h.clock (hat.2.imp id ?_)
    rintro ⟨htev, hseen⟩
    exact ⟨timer_ne_timerList h.rings htev, h.timeout_normal htev, hseen⟩
  addReturns := by
    intro ev tv hidle hnormal hfits
    obtain ⟨timeout, htime⟩ := timeradd_defined h.clock hnormal hfits
    obtain ⟨s', -, hadd, -⟩ := inv_timerAdd h hidle hnormal htime
    refine ⟨s', ?_⟩
    rw [step, if_pos ⟨hidle, fun t ht => Option.some.inj ht ▸ hnormal⟩]
    exact hadd
  timeoutsReturn := by
    intro rfds n hpc
    obtain ⟨s', -, -, hrun, -⟩ := inv_processTimeouts h hpc
    exact ⟨s', hrun⟩

/-- **THE TIMER PROTOCOL HOLDS IN EVERY STATE OF EVERY RUN.** -/
theorem timer_protocol (acts : List Act) : Always step Protocol {} acts := by
  intro done rest s' _ hrun
  have hkeep : ∀ s a s', (∃ tl pl, Inv s tl pl) → step s a = some s' → ∃ tl pl, Inv s' tl pl :=
    fun _ _ _ h hstep => inv_step h hstep
  obtain ⟨tl, pl, h⟩ := run_invariant hkeep done ⟨[], [], inv_init⟩ hrun
  exact ⟨tl, pl, timers_of_inv h⟩

end Invariant

end RilTimer

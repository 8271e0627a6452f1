import Mathlib.Data.Finset.Card
import Universal7580.RilTimerProofs

/-! # The watch table of `ril_event.cpp`

    What `ril_event_loop` knows of the descriptors it waits for is in four
    places: the slots of `watch_table`, the `index` of each event, the bits of
    `readFds`, and `nfds`.  `ril_event_add`, `ril_event_del` and the one-shot
    removal of `processReadReadies` change them piece by piece.

    `Table` says how the four hang together.  One lemma for `ril_event_add` and
    one for `removeWatch` keep it, and the scan of `processReadReadies` is an
    induction over the slots with the events that it has queued so far.  What a
    pass does is in `Passed`, and `watch_table_exact` has both for all runs. -/

namespace RilWatch

open Run Ring RilEvent
open RilTimer (Idle)

-- ── The steps ────────────────────────────────────────────────────────────────

/-- The memory, and the events that `ril_event_set` was called for. -/
structure St where
  mem : Events := rilEventInit Events.zero
  known : Nat → Bool := fun _ => false

inductive Act where
  | eventSet (ev : Nat) (fd : Int) (persist : Bool)
  | eventAdd (ev : Nat)
  | eventDel (ev : Nat)
  /-- `select` returns, with the descriptors that are ready. -/
  | pass (ready : Finset Int)
  | firePending

/-- The event is in some slot. -/
def Watched (m : Events) (ev : Nat) : Prop := some ev ∈ m.watchTable

instance (m : Events) (ev : Nat) : Decidable (Watched m ev) :=
  inferInstanceAs (Decidable (some ev ∈ m.watchTable))

/-- `none`: an event is set by its owner when it is in no list, and then added
    when there is a free slot and its descriptor is not watched; `select` finds
    descriptors that it was asked for; and the loop passes when nothing is
    pending any more.  Callbacks are steps of their own. -/
def step (s : St) : Act → Option St
  | .eventSet ev fd persist =>
      if Idle s.mem ev then
        some { mem := rilEventSet s.mem ev fd persist, known := Function.update s.known ev true }
      else none
  | .eventAdd ev =>
      if s.known ev = true ∧ none ∈ s.mem.watchTable
          ∧ ∀ slot ∈ s.mem.watchTable, ∀ ev' ∈ slot, s.mem.fd ev' ≠ s.mem.fd ev then
        some { s with mem := rilEventAdd s.mem ev }
      else none
  | .eventDel ev =>
      if s.known ev = true then some { s with mem := rilEventDel s.mem ev } else none
  | .pass ready =>
      if s.mem.links.next pendingList = pendingList
          ∧ ∀ fd ∈ ready, s.mem.readFds fd = true ∧ fd < s.mem.nfds then
        some { s with
          mem := processReadReadies s.mem (fun fd => decide (fd ∈ ready)) ready.card }
      else none
  | .firePending =>
      let ev := s.mem.links.next pendingList
      if ev ≠ pendingList then some { s with mem := removeFromList s.mem ev } else none

-- ── What is promised ─────────────────────────────────────────────────────────

/-- **A PASS**: it queues the watched events that are ready, each once, and the
    ones among them that are not persistent are not watched any more. -/
structure Passed (s : St) (ready : Finset Int) (s' : St) : Prop where
  queued : ∃ pl, IsRing s'.mem.links pendingList pl ∧ pl.Nodup
    ∧ ∀ ev, ev ∈ pl ↔ Watched s.mem ev ∧ s.mem.fd ev ∈ ready
  watched : ∀ ev, Watched s'.mem ev
    ↔ Watched s.mem ev ∧ ¬(s.mem.fd ev ∈ ready ∧ s.mem.persist ev = false)
  fd : s'.mem.fd = s.mem.fd
  persist : s'.mem.persist = s.mem.persist

/-- **THE WATCH TABLE** in one state. -/
structure WatchTable (s : St) : Prop where
  readFds : ∀ fd, s.mem.readFds fd = true ↔ ∃ ev, Watched s.mem ev ∧ s.mem.fd ev = fd
  nfds : ∀ ev, Watched s.mem ev → s.mem.fd ev < s.mem.nfds
  index : ∀ ev, Watched s.mem ev → ∃ i : Nat, s.mem.index ev = i ∧ Watches s.mem i ev
  removed : ∀ ev, s.known ev = true → ¬Watched s.mem ev → s.mem.index ev = -1
  passes : ∀ ready s', step s (.pass ready) = some s' → Passed s ready s'

-- ── The table ────────────────────────────────────────────────────────────────

/-- How the slots, the indices, the bits and `nfds` hang together. -/
structure Table (m : Events) (known : Nat → Bool) : Prop where
  index : ∀ i ev, Watches m i ev → m.index ev = i
  removed : ∀ ev, known ev = true → (∀ i, ¬Watches m i ev) → m.index ev = -1
  known : ∀ i ev, Watches m i ev → known ev = true
  distinct : ∀ i j ev ev', Watches m i ev → Watches m j ev' → m.fd ev = m.fd ev' → i = j
  readFds : ∀ fd, m.readFds fd = true ↔ ∃ i ev, Watches m i ev ∧ m.fd ev = fd
  nfds : ∀ i ev, Watches m i ev → m.fd ev < m.nfds
  length : m.watchTable.length = maxFdEvents

section Table

variable {m : Events} {known : Nat → Bool} {ev ev' i j k : Nat}

theorem watches_lt (h : Watches m i ev) : i < m.watchTable.length := by
  by_contra hge
  rw [Watches, List.getD_eq_getElem?_getD, List.getElem?_eq_none (by omega)] at h
  cases h

theorem watched_iff : Watched m ev ↔ ∃ i, Watches m i ev := by
  constructor
  · intro h
    obtain ⟨i, hi⟩ := List.mem_iff_getElem?.mp h
    refine ⟨i, ?_⟩
    rw [Watches, List.getD_eq_getElem?_getD, hi]
    rfl
  · rintro ⟨i, hi⟩
    exact mem_watchTable_of_watches hi

/-- A slot has one event. -/
theorem watches_inj (h : Watches m i ev) (h' : Watches m i ev') : ev = ev' :=
  Option.some.inj (h.symm.trans h')

theorem Table.slot_eq (h : Table m known) (hi : Watches m i ev) (hj : Watches m j ev) : i = j :=
  h.distinct i j ev ev hi hj rfl

/-- A loop that never lowers its result ends above all it went through. -/
theorem le_foldl {α : Type} {f : Int → α → Int} (hf : ∀ n a, n ≤ f n a) {k : Int} {l : List α} :
    ∀ n, (k ≤ n ∨ ∃ a ∈ l, ∀ n, k ≤ f n a) → k ≤ l.foldl f n := by
  induction l with
  | nil =>
      rintro n (hle | ⟨a, ha, -⟩)
      · exact hle
      · exact absurd ha List.not_mem_nil
  | cons b l ih =>
      rintro n (hle | ⟨a, ha, hall⟩)
      · exact ih (f n b) (Or.inl (Int.le_trans hle (hf n b)))
      · rcases List.mem_cons.mp ha with rfl | hmem
        · exact ih (f n a) (Or.inl (hall n))
        · exact ih (f n b) (Or.inr ⟨a, hmem, hall⟩)

/-- `nfds` is counted from the largest descriptor of the table. -/
theorem le_largestFd (h : Watches m i ev) : m.fd ev ≤ largestFd m := by
  rw [largestFd]
  refine le_foldl ?_ 0 (Or.inr ⟨_, mem_watchTable_of_watches h, ?_⟩)
  · intro n slot
    cases slot with
    | none => exact Int.le_refl n
    | some rev =>
        dsimp only
        split <;> omega
  · intro n
    dsimp only
    split <;> omega

theorem watches_removeWatch_iff : Watches (removeWatch m ev i) j k ↔ Watches m j k ∧ j ≠ i := by
  constructor
  · intro h
    refine ⟨watches_of_removeWatch h, ?_⟩
    rintro rfl
    have hlt : j < m.watchTable.length := by
      have hlt := watches_lt h
      rw [removeWatch_watchTable, List.length_set] at hlt
      exact hlt
    rw [Watches, removeWatch_watchTable, List.getD_eq_getElem?_getD,
      List.getElem?_set_self hlt] at h
    cases h
  · rintro ⟨h, hne⟩
    rw [Watches, removeWatch_watchTable, getD_set_of_ne _ _ (Ne.symm hne)]
    exact h

theorem removeWatch_index (m : Events) (ev i : Nat) :
    (removeWatch m ev i).index = Function.update m.index ev (-1) := by
  rw [removeWatch]
  dsimp only
  split <;> rfl

theorem removeWatch_readFds (m : Events) (ev i : Nat) :
    (removeWatch m ev i).readFds = Function.update m.readFds (m.fd ev) false := by
  rw [removeWatch]
  dsimp only
  split <;> rfl

theorem removeWatch_persist (m : Events) (ev i : Nat) :
    (removeWatch m ev i).persist = m.persist := by
  rw [removeWatch]
  dsimp only
  split <;> rfl

/-- `nfds` is above every descriptor that is left. -/
theorem fd_lt_nfds_removeWatch (h : Watches (removeWatch m ev i) j k) (hlt : m.fd k < m.nfds) :
    m.fd k < (removeWatch m ev i).nfds := by
  have hle : m.fd k ≤ largestFd (removeWatch m ev i) := by
    have hmax := le_largestFd h
    rw [(removeWatch_same m ev i).fd] at hmax
    exact hmax
  have hnfds : (removeWatch m ev i).nfds = m.nfds
      ∨ (removeWatch m ev i).nfds = largestFd (removeWatch m ev i) + 1 := by
    rw [removeWatch]
    dsimp only
    split
    · exact Or.inr rfl
    · exact Or.inl rfl
  rcases hnfds with hnfds | hnfds <;> omega

/-- **`removeWatch`** keeps the table in order. -/
theorem Table.removeWatch (h : Table m known) (hi : Watches m i ev) :
    Table (RilEvent.removeWatch m ev i) known := by
  have hfd := (removeWatch_same m ev i).fd
  have hother : ∀ j k, Watches (RilEvent.removeWatch m ev i) j k → k ≠ ev := by
    rintro j k hj rfl
    obtain ⟨hold, hne⟩ := watches_removeWatch_iff.mp hj
    exact hne (h.slot_eq hold hi)
  constructor
  case index =>
    intro j k hj
    rw [removeWatch_index, Function.update_of_ne (hother j k hj)]
    exact h.index j k (watches_removeWatch_iff.mp hj).1
  case removed =>
    intro k hk hout
    rw [removeWatch_index]
    by_cases hev : k = ev
    · rw [hev, Function.update_self]
    · rw [Function.update_of_ne hev]
      refine h.removed k hk (fun j hj => ?_)
      refine hout j (watches_removeWatch_iff.mpr ⟨hj, ?_⟩)
      rintro rfl
      exact hev (watches_inj hj hi)
  case known => exact fun j k hj => h.known j k (watches_removeWatch_iff.mp hj).1
  case distinct =>
    intro j j' k k' hj hj'
    rw [hfd]
    exact h.distinct j j' k k' (watches_removeWatch_iff.mp hj).1 (watches_removeWatch_iff.mp hj').1
  case readFds =>
    intro fd
    rw [removeWatch_readFds, hfd]
    by_cases hsame : fd = m.fd ev
    · subst hsame
      rw [Function.update_self]
      refine iff_of_false Bool.false_ne_true ?_
      rintro ⟨j, k, hj, heq⟩
      obtain ⟨hold, hne⟩ := watches_removeWatch_iff.mp hj
      exact hne (h.distinct j i k ev hold hi heq)
    · rw [Function.update_of_ne hsame, h.readFds]
      constructor
      · rintro ⟨j, k, hj, rfl⟩
        refine ⟨j, k, watches_removeWatch_iff.mpr ⟨hj, ?_⟩, rfl⟩
        rintro rfl
        exact hsame (congrArg m.fd (watches_inj hj hi))
      · rintro ⟨j, k, hj, heq⟩
        exact ⟨j, k, (watches_removeWatch_iff.mp hj).1, heq⟩
  case nfds =>
    intro j k hj
    rw [hfd]
    exact fd_lt_nfds_removeWatch hj (h.nfds j k (watches_removeWatch_iff.mp hj).1)
  case length =>
    rw [removeWatch_watchTable, List.length_set]
    exact h.length

/-- **`ril_event_add`** takes the first free slot. -/
theorem rilEventAdd_free (hfree : none ∈ m.watchTable) (ev : Nat) :
    ∃ i, i < m.watchTable.length ∧ m.watchTable.getD i none = none
      ∧ rilEventAdd m ev = { m with
          watchTable := m.watchTable.set i (some ev)
          index := Function.update m.index ev i
          readFds := Function.update m.readFds (m.fd ev) true
          nfds := if m.fd ev ≥ m.nfds then m.fd ev + 1 else m.nfds } := by
  rw [rilEventAdd]
  split
  · next hnone =>
      have hall := List.findIdx?_eq_none_iff.mp hnone none hfree
      cases hall
  · next i hsome =>
      obtain ⟨hlt, hslot, -⟩ := List.findIdx?_eq_some_iff_getElem.mp hsome
      refine ⟨i, hlt, ?_, ?_⟩
      · rw [List.getD_eq_getElem?_getD, List.getElem?_eq_getElem hlt]
        exact Option.isNone_iff_eq_none.mp hslot
      · dsimp only
        split <;> rfl

theorem watches_set (hlt : i < m.watchTable.length) (hslot : m.watchTable.getD i none = none)
    {m' : Events} (htable : m'.watchTable = m.watchTable.set i (some ev)) (j k : Nat) :
    Watches m' j k ↔ Watches m j k ∨ j = i ∧ k = ev := by
  rw [Watches, htable]
  by_cases hj : j = i
  · subst hj
    rw [List.getD_eq_getElem?_getD, List.getElem?_set_self hlt, Option.getD_some]
    constructor
    · intro h
      exact Or.inr ⟨rfl, (Option.some.inj h).symm⟩
    · rintro (h | ⟨-, rfl⟩)
      · cases hslot.symm.trans h
      · rfl
  · rw [getD_set_of_ne _ _ (Ne.symm hj)]
    constructor
    · exact Or.inl
    · rintro (h | ⟨heq, -⟩)
      · exact h
      · exact absurd heq hj

theorem Table.add (h : Table m known) (hknown : known ev = true) (hfree : none ∈ m.watchTable)
    (hfd : ∀ i k, Watches m i k → m.fd k ≠ m.fd ev) : Table (rilEventAdd m ev) known := by
  obtain ⟨i, hlt, hslot, heq⟩ := rilEventAdd_free hfree ev
  rw [heq]
  have hwatches : ∀ j k, Watches { m with
      watchTable := m.watchTable.set i (some ev)
      index := Function.update m.index ev i
      readFds := Function.update m.readFds (m.fd ev) true
      nfds := if m.fd ev ≥ m.nfds then m.fd ev + 1 else m.nfds } j k
        ↔ Watches m j k ∨ j = i ∧ k = ev := watches_set hlt hslot rfl
  have hother : ∀ j k, Watches m j k → k ≠ ev := fun j k hj heq => hfd j k hj (congrArg m.fd heq)
  constructor
  case index =>
    intro j k hj
    rcases (hwatches j k).mp hj with hold | ⟨rfl, rfl⟩
    · show Function.update m.index ev (i : Int) k = j
      rw [Function.update_of_ne (hother j k hold)]
      exact h.index j k hold
    · exact Function.update_self _ _ _
  case removed =>
    intro k hk hout
    show Function.update m.index ev (i : Int) k = -1
    have hne : k ≠ ev := fun heq => hout i ((hwatches i k).mpr (Or.inr ⟨rfl, heq⟩))
    rw [Function.update_of_ne hne]
    exact h.removed k hk fun j hj => hout j ((hwatches j k).mpr (Or.inl hj))
  case known =>
    intro j k hj
    rcases (hwatches j k).mp hj with hold | ⟨-, rfl⟩
    · exact h.known j k hold
    · exact hknown
  case distinct =>
    intro j j' k k' hj hj' hsame
    rcases (hwatches j k).mp hj with hold | ⟨rfl, rfl⟩
    · rcases (hwatches j' k').mp hj' with hold' | ⟨rfl, rfl⟩
      · exact h.distinct j j' k k' hold hold' hsame
      · exact absurd hsame (hfd j k hold)
    · rcases (hwatches j' k').mp hj' with hold' | ⟨rfl, rfl⟩
      · exact absurd hsame.symm (hfd j' k' hold')
      · rfl
  case readFds =>
    intro fd
    show Function.update m.readFds (m.fd ev) true fd = true ↔ _
    by_cases hsame : fd = m.fd ev
    · rw [hsame, Function.update_self]
      exact iff_of_true rfl ⟨i, ev, (hwatches i ev).mpr (Or.inr ⟨rfl, rfl⟩), rfl⟩
    · rw [Function.update_of_ne hsame, h.readFds]
      constructor
      · rintro ⟨j, k, hj, heq⟩
        exact ⟨j, k, (hwatches j k).mpr (Or.inl hj), heq⟩
      · rintro ⟨j, k, hj, heq⟩
        rcases (hwatches j k).mp hj with hold | ⟨-, rfl⟩
        · exact ⟨j, k, hold, heq⟩
        · exact absurd heq.symm hsame
  case nfds =>
    intro j k hj
    show m.fd k < if m.fd ev ≥ m.nfds then m.fd ev + 1 else m.nfds
    have hlt : m.fd k < m.nfds ∨ k = ev :=
      ((hwatches j k).mp hj).imp (h.nfds j k) And.right
    rcases hlt with hlt | rfl <;> split <;> omega
  case length =>
    show (m.watchTable.set i (some ev)).length = maxFdEvents
    rw [List.length_set]
    exact h.length

/-- **`ril_event_del`** takes a watched event out, and leaves the table alone
    otherwise: the index of any other event is out of range. -/
theorem Table.del (h : Table m known) (hknown : known ev = true) :
    Table (rilEventDel m ev) known := by
  rw [rilEventDel]
  by_cases hev : ∃ i, Watches m i ev
  · obtain ⟨i, hi⟩ := hev
    have hlt := watches_lt hi
    rw [h.length] at hlt
    rw [h.index i ev hi, if_neg (by omega), Int.toNat_natCast]
    exact h.removeWatch hi
  · rw [h.removed ev hknown fun i hi => hev ⟨i, hi⟩, if_pos (by omega)]
    exact h

end Table

-- ── The scan ─────────────────────────────────────────────────────────────────

/-- The event of a slot, if it is ready. -/
def readyAt (m : Events) (ready : Finset Int) (i : Nat) : Option Nat :=
  (m.watchTable.getD i none).filter fun ev => decide (m.fd ev ∈ ready)

/-- The ready events of the first `k` slots. -/
def readyUpTo (m : Events) (ready : Finset Int) (k : Nat) : List Nat :=
  (List.range k).filterMap (readyAt m ready)

section Scan

variable {m : Events} {known : Nat → Bool} {ready : Finset Int} {ev i k : Nat}

theorem readyAt_eq_some : readyAt m ready i = some ev ↔ Watches m i ev ∧ m.fd ev ∈ ready := by
  rw [readyAt, Option.filter_eq_some_iff, decide_eq_true_iff, Watches]

theorem mem_readyUpTo :
    ev ∈ readyUpTo m ready k ↔ ∃ i < k, Watches m i ev ∧ m.fd ev ∈ ready := by
  rw [readyUpTo, List.mem_filterMap]
  simp only [List.mem_range, readyAt_eq_some]

theorem readyUpTo_succ (m : Events) (ready : Finset Int) (k : Nat) :
    readyUpTo m ready (k + 1) = readyUpTo m ready k ++ (readyAt m ready k).toList := by
  rw [readyUpTo, readyUpTo, List.range_succ, List.filterMap_append]
  cases hslot : readyAt m ready k with
  | none => rw [List.filterMap_cons_none hslot]; rfl
  | some ev => rw [List.filterMap_cons_some hslot]; rfl

/-- No descriptor is found twice. -/
theorem nodup_readyUpTo (h : Table m known) (ready : Finset Int) :
    ∀ k, ((readyUpTo m ready k).map m.fd).Nodup := by
  intro k
  induction k with
  | zero => exact List.nodup_nil
  | succ k ih =>
      rw [readyUpTo_succ]
      cases hslot : readyAt m ready k with
      | none =>
          rw [Option.toList_none, List.append_nil]
          exact ih
      | some ev =>
          rw [Option.toList_some, List.map_append, List.nodup_append]
          refine ⟨ih, List.nodup_singleton _, ?_⟩
          intro fd hfd fd' hfd' heq
          obtain ⟨ev', hev', rfl⟩ := List.mem_map.mp hfd
          obtain ⟨i, hi, hwatch, -⟩ := mem_readyUpTo.mp hev'
          rw [List.map_singleton, List.mem_singleton] at hfd'
          have hk := (readyAt_eq_some.mp hslot).1
          have hsame := h.distinct i k ev' ev hwatch hk (heq.trans hfd')
          omega

/-- The scan finds no more than `select` counted. -/
theorem length_readyUpTo_le (h : Table m known) (ready : Finset Int) (k : Nat) :
    (readyUpTo m ready k).length ≤ ready.card := by
  rw [← List.length_map (f := m.fd), ← List.toFinset_card_of_nodup (nodup_readyUpTo h ready k)]
  refine Finset.card_le_card (fun fd hfd => ?_)
  obtain ⟨ev, hev, rfl⟩ := List.mem_map.mp (List.mem_toFinset.mp hfd)
  obtain ⟨i, -, -, hready⟩ := mem_readyUpTo.mp hev
  exact hready

/-- **THE SCAN** after the first `k` slots, with what is left of the count. -/
structure Scanned (m : Events) (known : Nat → Bool) (ready : Finset Int) (k : Nat)
    (mn : Events × Int) : Prop where
  rings : Rings mn.1 [] (readyUpTo m ready k)
  count : mn.2 = ready.card - (readyUpTo m ready k).length
  watches : ∀ i ev, Watches mn.1 i ev
    ↔ Watches m i ev ∧ ¬(i < k ∧ m.fd ev ∈ ready ∧ m.persist ev = false)
  table : Table mn.1 known
  fd : mn.1.fd = m.fd
  persist : mn.1.persist = m.persist

/-- A slot with nothing to queue. -/
theorem scanned_none {mn : Events × Int} (hs : Scanned m known ready k mn)
    (hslot : readyAt m ready k = none) :
    Scanned m known ready (k + 1) (readReady (fun fd => decide (fd ∈ ready)) mn k) := by
  have hnot : ∀ ev, Watches m k ev → m.fd ev ∉ ready := by
    intro ev hk hready
    exact nomatch hslot.symm.trans (readyAt_eq_some.mpr ⟨hk, hready⟩)
  have hkeep : readReady (fun fd => decide (fd ∈ ready)) mn k = mn := by
    obtain ⟨m', n⟩ := mn
    rw [readReady]
    dsimp only
    split
    · split
      · next rev hrev =>
          have hk := ((hs.watches k rev).mp hrev).1
          rw [if_neg]
          rw [show m'.fd = m.fd from hs.fd, decide_eq_true_iff]
          exact hnot rev hk
      · rfl
    · rfl
  have hlist : readyUpTo m ready (k + 1) = readyUpTo m ready k := by
    rw [readyUpTo_succ, hslot, Option.toList_none, List.append_nil]
  rw [hkeep]
  constructor
  case rings => exact hlist ▸ hs.rings
  case count => exact hlist ▸ hs.count
  case watches =>
    intro i ev
    rw [hs.watches]
    refine and_congr_right (fun hi => not_congr ?_)
    constructor
    · exact fun h => ⟨Nat.lt_succ_of_lt h.1, h.2⟩
    · rintro ⟨hlt, hready, hpersist⟩
      refine ⟨?_, hready, hpersist⟩
      have hne : i ≠ k := by
        rintro rfl
        exact hnot ev hi hready
      omega
  case table => exact hs.table
  case fd => exact hs.fd
  case persist => exact hs.persist

/-- A slot with a ready event, before the count is used up. -/
theorem readReady_of_watches {n : Int} (hn : n > 0) (hk : Watches m k ev) (hready : m.fd ev ∈ ready) :
    readReady (fun fd => decide (fd ∈ ready)) (m, n) k
      = (if m.persist ev = false then RilEvent.removeWatch (addToList m ev pendingList) ev k
          else addToList m ev pendingList, n - 1) := by
  have hslot : m.watchTable.getD k none = some ev := hk
  rw [readReady]
  dsimp only
  rw [if_pos hn, hslot]
  dsimp only
  rw [if_pos (decide_eq_true hready)]
  rfl

/-- A slot with a ready event: it is queued, and taken out of the table unless it
    is persistent. -/
theorem scanned_some {mn : Events × Int} (h : Table m known)
    (hout : ∀ ev, known ev = true → ev ∉ listed [] []) (hs : Scanned m known ready k mn)
    (hslot : readyAt m ready k = some ev) :
    Scanned m known ready (k + 1) (readReady (fun fd => decide (fd ∈ ready)) mn k) := by
  obtain ⟨m', n⟩ := mn
  obtain ⟨hk, hready⟩ := readyAt_eq_some.mp hslot
  have hlist : readyUpTo m ready (k + 1) = readyUpTo m ready k ++ [ev] := by
    rw [readyUpTo_succ, hslot, Option.toList_some]
  have hlength : (readyUpTo m ready (k + 1)).length = (readyUpTo m ready k).length + 1 := by
    rw [hlist, List.length_append, List.length_singleton]
  have hle := length_readyUpTo_le h ready (k + 1)
  have hcount : n = ready.card - (readyUpTo m ready k).length := hs.count
  have hk' : Watches m' k ev := (hs.watches k ev).mpr ⟨hk, fun hlt => Nat.lt_irrefl k hlt.1⟩
  have hfd : m'.fd = m.fd := hs.fd
  have hpersist : m'.persist = m.persist := hs.persist
  -- the event is not in the ring: the slots before hold other events
  have hfree : ev ∉ listed [] (readyUpTo m ready k) := by
    intro hmem
    have hcat : ev ∈ listed [] [] ++ readyUpTo m ready k := hmem
    rcases List.mem_append.mp hcat with hhead | hqueued
    · exact hout ev (h.known k ev hk) hhead
    · obtain ⟨i, hi, hwatch, -⟩ := mem_readyUpTo.mp hqueued
      exact absurd (h.slot_eq hwatch hk) (Nat.ne_of_lt hi)
  have hrings := addToList_pending hs.rings hfree
  rw [← hlist] at hrings
  have hadded : Table (addToList m' ev pendingList) known :=
    ⟨hs.table.index, hs.table.removed, hs.table.known, hs.table.distinct, hs.table.readFds,
      hs.table.nfds, hs.table.length⟩
  have hready' : m'.fd ev ∈ ready := by
    rw [hfd]
    exact hready
  have hbefore : ∀ i ev', Watches m' i ev' ∧ i ≠ k
      ↔ (Watches m i ev' ∧ ¬(i < k + 1 ∧ m.fd ev' ∈ ready ∧ m.persist ev' = false)) ∧ i ≠ k := by
    intro i ev'
    rw [hs.watches]
    refine and_congr_left (fun hne => and_congr_right (fun _ => not_congr ?_))
    exact and_congr_left (fun _ => ⟨fun hlt => by omega, fun hlt => by omega⟩)
  rw [readReady_of_watches (by omega) hk' hready', hpersist]
  by_cases hone : m.persist ev = false
  · rw [if_pos hone]
    have hsame := removeWatch_same (addToList m' ev pendingList) ev k
    constructor
    case rings =>
      rw [Rings, hsame.links]
      exact hrings
    case count =>
      show n - 1 = _
      omega
    case watches =>
      intro i ev'
      rw [watches_removeWatch_iff]
      refine (hbefore i ev').trans ⟨And.left, fun hwatch => ⟨hwatch, ?_⟩⟩
      rintro rfl
      obtain rfl := watches_inj hwatch.1 hk
      exact hwatch.2 ⟨Nat.lt_succ_self _, hready, hone⟩
    case table => exact hadded.removeWatch hk'
    case fd => exact hsame.fd.trans hfd
    case persist => exact (removeWatch_persist _ ev k).trans hpersist
  · rw [if_neg hone]
    constructor
    case rings => exact hrings
    case count =>
      show n - 1 = _
      omega
    case watches =>
      intro i ev'
      by_cases hi : i = k
      · subst hi
        have hboth : Watches m' i ev' ↔ Watches m i ev' := by
          rw [hs.watches]
          exact and_iff_left (fun hlt => Nat.lt_irrefl i hlt.1)
        refine hboth.trans ⟨fun hwatch => ⟨hwatch, ?_⟩, And.left⟩
        obtain rfl := watches_inj hwatch hk
        exact fun hall => hone hall.2.2
      · have hiff := hbefore i ev'
        rw [and_iff_left hi, and_iff_left hi] at hiff
        exact hiff
    case table => exact hadded
    case fd => exact hfd
    case persist => exact hpersist

/-- **`processReadReadies`** over the whole table. -/
theorem scanned_processReadReadies (ready : Finset Int) (h : Table m known) (hrings : Rings m [] [])
    (hout : ∀ ev, known ev = true → ev ∉ listed [] []) :
    ∃ n, Scanned m known ready maxFdEvents
      (processReadReadies m (fun fd => decide (fd ∈ ready)) ready.card, n) := by
  have hscan : ∀ k, Scanned m known ready k
      ((List.range k).foldl (readReady fun fd => decide (fd ∈ ready)) (m, ready.card)) := by
    intro k
    induction k with
    | zero =>
        refine ⟨hrings, ?_, ?_, h, rfl, rfl⟩
        · exact (Int.sub_zero _).symm
        · exact fun i ev => ⟨fun hi => ⟨hi, fun hlt => Nat.not_lt_zero i hlt.1⟩, And.left⟩
    | succ k ih =>
        rw [List.range_succ, List.foldl_append, List.foldl_cons, List.foldl_nil]
        cases hslot : readyAt m ready k with
        | none => exact scanned_none ih hslot
        | some ev => exact scanned_some h hout ih hslot
  exact ⟨_, hscan maxFdEvents⟩

end Scan

-- ── Runs ─────────────────────────────────────────────────────────────────────

/-- The table is in order, and what is pending is a ring of known events. -/
structure Inv (s : St) : Prop where
  table : Table s.mem s.known
  rings : ∃ pl, Rings s.mem [] pl
  outside : ∀ ev, s.known ev = true → ev ∉ listed [] []

section Runs

variable {s s' : St} {a : Act} {ready : Finset Int} {ev : Nat}

theorem not_watches_init (i ev : Nat) : ¬Watches (rilEventInit Events.zero) i ev := by
  intro h
  have hslot := List.eq_of_mem_replicate (mem_watchTable_of_watches h)
  exact nomatch hslot

theorem inv_init : Inv {} where
  table :=
    { index := fun i ev h => absurd h (not_watches_init i ev)
      removed := fun _ h => nomatch h
      known := fun i ev h => absurd h (not_watches_init i ev)
      distinct := fun i _ ev _ h => absurd h (not_watches_init i ev)
      readFds := fun _ => iff_of_false Bool.false_ne_true
        (fun ⟨i, ev, h, _⟩ => not_watches_init i ev h)
      nfds := fun i ev h => absurd h (not_watches_init i ev)
      length := rfl }
  rings := ⟨[], rings_init⟩
  outside := fun _ h => nomatch h

/-- A pass meets an empty ring. -/
theorem nil_of_next_pendingList {pl : List Nat} (h : Rings s.mem [] pl)
    (hnext : s.mem.links.next pendingList = pendingList) : pl = [] := by
  cases pl with
  | nil => rfl
  | cons ev pl =>
      have hev : pendingList = ev := hnext.symm.trans (rings_next_pendingList h)
      exact absurd (hev ▸ List.mem_cons_self) (List.nodup_cons.mp h.snd.nodup).1

theorem inv_eventSet {fd : Int} {persist : Bool} (h : Inv s) (hidle : Idle s.mem ev) :
    Inv { mem := rilEventSet s.mem ev fd persist, known := Function.update s.known ev true } := by
  obtain ⟨pl, hrings⟩ := h.rings
  have hfree := hrings.notMem_used hidle.1 hidle.2.1
  have hother : ∀ i k, Watches s.mem i k → k ≠ ev := by
    rintro i k hi rfl
    exact hidle.2.2 (mem_watchTable_of_watches hi)
  have hfd : ∀ i k, Watches s.mem i k → (rilEventSet s.mem ev fd persist).fd k = s.mem.fd k := by
    intro i k hi
    show Function.update (Function.update s.mem.fd ev 0) ev fd k = s.mem.fd k
    rw [Function.update_of_ne (hother i k hi), Function.update_of_ne (hother i k hi)]
  have hindex : ∀ k, k ≠ ev → (rilEventSet s.mem ev fd persist).index k = s.mem.index k := by
    intro k hk
    show Function.update (Function.update s.mem.index ev 0) ev (-1) k = s.mem.index k
    rw [Function.update_of_ne hk, Function.update_of_ne hk]
  have hknown : ∀ k, k ≠ ev → Function.update s.known ev true k = s.known k :=
    fun k hk => Function.update_of_ne hk _ _
  refine ⟨?_, ⟨pl, rilEventSet_rings hrings hfree fd persist⟩, ?_⟩
  · constructor
    case index =>
      intro i k hi
      rw [hindex k (hother i k hi)]
      exact h.table.index i k hi
    case removed =>
      intro k hk hout
      by_cases hev : k = ev
      · subst hev
        exact Function.update_self _ _ _
      · rw [hindex k hev]
        exact h.table.removed k ((hknown k hev).symm.trans hk) hout
    case known =>
      exact fun i k hi => (hknown k (hother i k hi)).trans (h.table.known i k hi)
    case distinct =>
      intro i j k k' hi hj hsame
      rw [hfd i k hi, hfd j k' hj] at hsame
      exact h.table.distinct i j k k' hi hj hsame
    case readFds =>
      intro fd'
      refine (h.table.readFds fd').trans ⟨?_, ?_⟩
      · rintro ⟨i, k, hi, rfl⟩
        exact ⟨i, k, hi, hfd i k hi⟩
      · rintro ⟨i, k, hi, heq⟩
        exact ⟨i, k, hi, (hfd i k hi).symm.trans heq⟩
    case nfds =>
      intro i k hi
      rw [hfd i k hi]
      exact h.table.nfds i k hi
    case length => exact h.table.length
  · intro k hk
    by_cases hev : k = ev
    · subst hev
      exact RilTimer.notMem_listed_nil hfree
    · exact h.outside k ((hknown k hev).symm.trans hk)

theorem inv_pass (h : Inv s) (hnext : s.mem.links.next pendingList = pendingList) :
    Inv { s with mem := processReadReadies s.mem (fun fd => decide (fd ∈ ready)) ready.card } := by
  obtain ⟨pl, hrings⟩ := h.rings
  obtain rfl := nil_of_next_pendingList hrings hnext
  obtain ⟨n, hscan⟩ := scanned_processReadReadies ready h.table hrings h.outside
  exact ⟨hscan.table, ⟨_, hscan.rings⟩, h.outside⟩

theorem inv_firePending (h : Inv s) (hnext : s.mem.links.next pendingList ≠ pendingList) :
    Inv { s with mem := removeFromList s.mem (s.mem.links.next pendingList) } := by
  obtain ⟨pl, hrings⟩ := h.rings
  have hhead := rings_next_pendingList hrings
  refine ⟨⟨h.table.index, h.table.removed, h.table.known, h.table.distinct, h.table.readFds,
    h.table.nfds, h.table.length⟩, ?_, h.outside⟩
  cases pl with
  | nil => exact absurd hhead hnext
  | cons ev pl =>
      rw [List.headD_cons] at hhead
      rw [hhead]
      exact ⟨pl, removeFromList_pending hrings⟩

/-- **STEP LEMMA**: every step keeps the table in order. -/
theorem inv_step (s : St) (a : Act) (s' : St) (h : Inv s) (hstep : step s a = some s') :
    Inv s' := by
  cases a with
  | eventSet ev fd persist =>
      obtain ⟨hidle, hs'⟩ := Option.ite_none_right_eq_some.mp hstep
      exact Option.some.inj hs' ▸ inv_eventSet h hidle
  | eventAdd ev =>
      obtain ⟨⟨hknown, hfree, hfd⟩, hs'⟩ := Option.ite_none_right_eq_some.mp hstep
      obtain rfl := Option.some.inj hs'
      have hsame := (rilEventAdd_spec s.mem ev).1
      refine ⟨h.table.add hknown hfree ?_, ?_, h.outside⟩
      · intro i k hi
        exact hfd (some k) (mem_watchTable_of_watches hi) k rfl
      · obtain ⟨pl, hrings⟩ := h.rings
        refine ⟨pl, ?_⟩
        rw [Rings, hsame.links]
        exact hrings
  | eventDel ev =>
      obtain ⟨hknown, hs'⟩ := Option.ite_none_right_eq_some.mp hstep
      obtain rfl := Option.some.inj hs'
      have hsame := (rilEventDel_spec s.mem ev).1
      refine ⟨h.table.del hknown, ?_, h.outside⟩
      obtain ⟨pl, hrings⟩ := h.rings
      refine ⟨pl, ?_⟩
      rw [Rings, hsame.links]
      exact hrings
  | pass ready =>
      obtain ⟨⟨hnext, -⟩, hs'⟩ := Option.ite_none_right_eq_some.mp hstep
      exact Option.some.inj hs' ▸ inv_pass h hnext
  | firePending =>
      obtain ⟨hnext, hs'⟩ := Option.ite_none_right_eq_some.mp hstep
      exact Option.some.inj hs' ▸ inv_firePending h hnext

/-- What the scan leaves is what a pass is for. -/
theorem passed_of_inv (h : Inv s) (hstep : step s (.pass ready) = some s') :
    Passed s ready s' := by
  obtain ⟨⟨hnext, -⟩, hs'⟩ := Option.ite_none_right_eq_some.mp hstep
  obtain rfl := Option.some.inj hs'
  obtain ⟨pl, hrings⟩ := h.rings
  obtain rfl := nil_of_next_pendingList hrings hnext
  obtain ⟨n, hscan⟩ := scanned_processReadReadies ready h.table hrings h.outside
  have hslot : ∀ {i ev}, Watches s.mem i ev → i < maxFdEvents := by
    intro i ev hi
    have hlt := watches_lt hi
    rw [h.table.length] at hlt
    exact hlt
  refine ⟨⟨_, hscan.rings.snd, ?_, ?_⟩, ?_, hscan.fd, hscan.persist⟩
  · exact (List.nodup_cons.mp hscan.rings.snd.nodup).2
  · intro ev
    rw [mem_readyUpTo, watched_iff]
    constructor
    · rintro ⟨i, -, hi, hready⟩
      exact ⟨⟨i, hi⟩, hready⟩
    · rintro ⟨⟨i, hi⟩, hready⟩
      exact ⟨i, hslot hi, hi, hready⟩
  · intro ev
    rw [watched_iff, watched_iff]
    constructor
    · rintro ⟨i, hi⟩
      obtain ⟨hold, hnot⟩ := (hscan.watches i ev).mp hi
      exact ⟨⟨i, hold⟩, fun hall => hnot ⟨hslot hold, hall⟩⟩
    · rintro ⟨⟨i, hi⟩, hnot⟩
      exact ⟨i, (hscan.watches i ev).mpr ⟨hi, fun hall => hnot hall.2⟩⟩

theorem watchTable_of_inv (s : St) (h : Inv s) : WatchTable s where
  readFds := by
    intro fd
    rw [h.table.readFds]
    constructor
    · rintro ⟨i, ev, hi, hfd⟩
      exact ⟨ev, watched_iff.mpr ⟨i, hi⟩, hfd⟩
    · rintro ⟨ev, hev, hfd⟩
      obtain ⟨i, hi⟩ := watched_iff.mp hev
      exact ⟨i, ev, hi, hfd⟩
  nfds := by
    intro ev hev
    obtain ⟨i, hi⟩ := watched_iff.mp hev
    exact h.table.nfds i ev hi
  index := by
    intro ev hev
    obtain ⟨i, hi⟩ := watched_iff.mp hev
    exact ⟨i, h.table.index i ev hi, hi⟩
  removed := fun ev hknown hout =>
    h.table.removed ev hknown fun i hi => hout (watched_iff.mpr ⟨i, hi⟩)
  passes := fun _ _ hstep => passed_of_inv h hstep

end Runs

-- ── Any run ──────────────────────────────────────────────────────────────────

/-- **THE WATCH TABLE IS EXACT** in every state of every run: the bits are the
    descriptors of the watched events, `nfds` is above them, every event knows
    its slot or that it has none, and every pass queues what is ready and
    forgets the one-shot events among it. -/
theorem watch_table_exact (acts : List Act) : Always step WatchTable {} acts := by
  intro done rest s' _ hrun
  exact watchTable_of_inv s' (run_invariant inv_step done inv_init hrun)

/-- Two events are ready in one pass, and only the persistent one is watched
    after it. -/
example :
    ((run step {}
      [.eventSet 10 7 true, .eventSet 11 4 false, .eventAdd 10, .eventAdd 11, .pass {4, 7}]).map
        fun s => (s.mem.watchTable.take 2, s.mem.nfds, s.mem.index 11, s.mem.links.next pendingList))
      = some ([some 10, none], 8, -1, 10) := by
  decide

end RilWatch

import Mathlib.Data.List.Nodup
import Universal7580.CameraCallbackProofs

/-! # Who deletes the worker's messages

    A message is allocated by whoever posts it, and so is what it points to: the
    callback, or the new functions.  From then on both are the worker's.
    `Process` deletes the payload and the message when it has worked on them.
    The loops that empty the queue, in `ClearCallbacks` and where the worker
    ends, delete the messages; to them the payloads are untyped pointers.

    The worker is the one of `CameraCallbackProofs`, with the pointers that were
    deleted beside it.  `ownership` says which runs delete everything once:
    those in which the loops find no payload, and nothing is posted to a worker
    that has ended. -/

namespace CameraOwnership

open Run Mailbox CameraCallback

-- ── Pointers ─────────────────────────────────────────────────────────────────

/-- What was allocated for the message with a number. -/
inductive Pointer where
  | threadMsg (number : Nat)
  | payload (number : Nat)
  deriving DecidableEq, Repr

/-- What was deleted, the last one first, and whether something was used or
    deleted after that. -/
structure Heap where
  deleted : List Pointer
  usedDeleted : Bool
  deriving DecidableEq, Repr

def Heap.use (h : Heap) (p : Pointer) : Heap :=
  { h with usedDeleted := h.usedDeleted || h.deleted.contains p }

def Heap.delete (h : Heap) (p : Pointer) : Heap :=
  { h.use p with deleted := p :: h.deleted }

def Heap.deleteAll (h : Heap) (ps : List Pointer) : Heap := ps.foldl Heap.delete h

/-- The pointers of a message; an exit message has no payload. -/
def pointers (m : ThreadMsg) : List Pointer :=
  match m.msg with
  | .MSG_EXIT_THREAD => [.threadMsg m.number]
  | _ => [.payload m.number, .threadMsg m.number]

-- ── The worker and its heap ──────────────────────────────────────────────────

structure State where
  worker : Worker
  heap : Heap

def init : State where
  worker := workerInit
  heap := { deleted := [], usedDeleted := false }

/-- The loop that empties the queue: `delete msg` for every message. -/
def deleteMessages (h : Heap) (queue : List ThreadMsg) : Heap :=
  h.deleteAll (queue.map fun m => .threadMsg m.number)

/-- `Process` with the message it took. -/
def processHeap (h : Heap) (queue : List ThreadMsg) (m : ThreadMsg) : Heap :=
  let h := h.use (.threadMsg m.number)
  match m.msg with
  | .MSG_EXECUTE_CALLBACK _ =>
      -- `delete userData`, `delete msg`
      ((h.use (.payload m.number)).delete (.payload m.number)).delete (.threadMsg m.number)
  | .MSG_UPDATE_CALLBACKS _ =>
      -- `delete callbackData`, `delete msg`
      ((h.use (.payload m.number)).delete (.payload m.number)).delete (.threadMsg m.number)
  | .MSG_EXIT_THREAD => deleteMessages (h.delete (.threadMsg m.number)) queue

def heapAfter (s : State) : Act → Heap
  | .clearCallbacks => deleteMessages s.heap s.worker.box.queue
  | .workOn _ =>
      match s.worker.box.hand with
      | none => s.heap
      | some m => processHeap s.heap s.worker.box.queue m
  | _ => s.heap

def step (s : State) (a : Act) : Option State :=
  (CameraCallback.step s.worker a).map fun w => { worker := w, heap := heapAfter s a }

-- ── What is promised ─────────────────────────────────────────────────────────

/-- The message is neither in the queue nor in the worker's hands. -/
def Left (b : Box ThreadMsg) (m : ThreadMsg) : Prop := m ∉ b.queue ∧ b.hand ≠ some m

/-- Each message that left the worker was deleted once, and what it points to as
    well; no other was deleted, and nothing is used that was; and when the
    thread has been joined nothing is left behind. -/
structure Owned (s : State) : Prop where
  once : s.heap.deleted.Nodup
  unused : s.heap.usedDeleted = false
  deleted : ∀ p, p ∈ s.heap.deleted
    ↔ ∃ m ∈ posted s.worker.box, Left s.worker.box m ∧ p ∈ pointers m
  emptied : s.worker.m_thread = false → s.worker.box.queue = []

/-- **THE CONDITION**: whoever empties the queue finds no payload in it, and the
    thread is joined with an empty queue. -/
def KeepsPayloads (s : State) : Act → Prop
  | .clearCallbacks => ∀ m ∈ s.worker.box.queue, IsExit m
  | .workOn _ => HoldsExit s.worker → ∀ m ∈ s.worker.box.queue, IsExit m
  | .joinThread => s.worker.box.queue = []
  | _ => True

-- ── Deleting ─────────────────────────────────────────────────────────────────

section Heaps

variable {h : Heap} {p : Pointer} {ps : List Pointer}

theorem use_of_not_mem (hp : p ∉ h.deleted) : h.use p = h := by
  have hnot : h.deleted.contains p = false := by
    rw [List.contains_eq_mem, decide_eq_false_iff_not]
    exact hp
  rw [Heap.use, hnot, Bool.or_false]

/-- Distinct pointers that are not deleted can be deleted. -/
theorem deleteAll_eq : ∀ {ps : List Pointer} {h : Heap}, (ps ++ h.deleted).Nodup →
    h.deleteAll ps = { h with deleted := ps.reverse ++ h.deleted } := by
  intro ps
  induction ps with
  | nil => exact fun _ => rfl
  | cons p ps ih =>
      intro h hnodup
      obtain ⟨hp, hrest⟩ := List.nodup_cons.mp hnodup
      have hdelete : h.delete p = { h with deleted := p :: h.deleted } := by
        rw [Heap.delete, use_of_not_mem fun hmem => hp (List.mem_append_right _ hmem)]
      have hnodup' : (ps ++ (h.delete p).deleted).Nodup := by
        rw [hdelete]
        exact List.perm_middle.nodup_iff.mpr hnodup
      show (h.delete p).deleteAll ps = _
      rw [ih hnodup', hdelete, List.reverse_cons, List.append_assoc]
      rfl

theorem deleteAll_deleted : ∀ (ps : List Pointer) (h : Heap),
    (h.deleteAll ps).deleted = ps.reverse ++ h.deleted := by
  intro ps
  induction ps with
  | nil => exact fun _ => rfl
  | cons p ps ih =>
      intro h
      show ((h.delete p).deleteAll ps).deleted = _
      rw [ih, List.reverse_cons, List.append_assoc]
      rfl

end Heaps

theorem mem_pointers {p : Pointer} {m : ThreadMsg} (h : p ∈ pointers m) :
    p = .threadMsg m.number ∨ p = .payload m.number := by
  rw [pointers] at h
  split at h
  · exact Or.inl (List.mem_singleton.mp h)
  · rcases List.mem_cons.mp h with rfl | h
    · exact Or.inr rfl
    · exact Or.inl (List.mem_singleton.mp h)

/-- A pointer tells the number of its message. -/
theorem number_eq {p : Pointer} {m m' : ThreadMsg} (h : p ∈ pointers m) (h' : p ∈ pointers m') :
    m.number = m'.number := by
  rcases mem_pointers h with rfl | rfl
  · rcases mem_pointers h' with heq | heq
    · exact Pointer.threadMsg.inj heq
    · exact nomatch heq
  · rcases mem_pointers h' with heq | heq
    · exact nomatch heq
    · exact Pointer.payload.inj heq

theorem nodup_pointers (m : ThreadMsg) : (pointers m).Nodup := by
  rw [pointers]
  split
  · exact List.nodup_singleton _
  · exact List.nodup_cons.mpr ⟨fun h => (nomatch List.mem_singleton.mp h), List.nodup_singleton _⟩

theorem threadMsg_mem_pointers (m : ThreadMsg) : .threadMsg m.number ∈ pointers m := by
  rw [pointers]
  split
  · exact List.mem_singleton_self _
  · exact List.mem_cons_of_mem _ (List.mem_singleton_self _)

theorem pointers_of_exit {m : ThreadMsg} (h : IsExit m) : pointers m = [.threadMsg m.number] := by
  rw [IsExit] at h
  rw [pointers, h]

theorem pointers_of_not_exit {m : ThreadMsg} (h : ¬IsExit m) :
    pointers m = [.payload m.number, .threadMsg m.number] := by
  rw [pointers]
  split
  · rename_i hexit
    exact absurd hexit h
  · rfl

/-- Only the exit message has no payload. -/
theorem payload_mem_pointers {m : ThreadMsg} (h : ¬IsExit m) : .payload m.number ∈ pointers m := by
  rw [pointers_of_not_exit h]
  exact List.mem_cons_self

-- ── Numbers ──────────────────────────────────────────────────────────────────

/-- Messages are posted once each, with a number of their own. -/
structure Numbered (w : Worker) : Prop where
  ordered : Ordered w.box
  numbers : (posted w.box).map ThreadMsg.number = List.range (posted w.box).length

section Numbers

variable {w w' : Worker} {m m' : ThreadMsg}

theorem Numbered.inj (h : Numbered w) (hm : m ∈ posted w.box) (hm' : m' ∈ posted w.box)
    (heq : m.number = m'.number) : m = m' := by
  have hnodup : ((posted w.box).map ThreadMsg.number).Nodup := by
    rw [h.numbers]
    exact List.nodup_range
  exact List.inj_on_of_nodup_map hnodup hm hm' heq

theorem numbered_push (h : Numbered w) (msg : Msg) (ts : Int) : Numbered (push w msg ts) := by
  have hposted : posted (push w msg ts).box = posted w.box ++ [_] := posted_post w.box _
  refine ⟨ordered_post h.ordered ?_, ?_⟩
  · intro hmem
    have hnumber := List.mem_map_of_mem (f := ThreadMsg.number) hmem
    rw [h.numbers, List.mem_range] at hnumber
    exact Nat.lt_irrefl _ hnumber
  · rw [hposted, List.map_append, h.numbers, List.length_append]
    exact List.range_succ.symm

/-- What a step does to the messages, whoever takes it: a message more, the
    queue emptied, a message taken, a message done with, or both at the end. -/
theorem numbered_step (h : Numbered w) {a : Act} (hstep : CameraCallback.step w a = some w') :
    Numbered w' := by
  cases a with
  | addCallback data ts =>
      obtain ⟨-, rfl⟩ := addCallback_eq_some hstep
      exact numbered_push h _ ts
  | setCallbacks data ts =>
      obtain ⟨-, rfl⟩ := setCallbacks_eq_some hstep
      exact numbered_push h _ ts
  | clearCallbacks =>
      obtain ⟨-, rfl⟩ := clearCallbacks_eq_some hstep
      refine ⟨ordered_wipe h.ordered, ?_⟩
      show (posted (wipe w.box)).map _ = List.range (posted (wipe w.box)).length
      rw [posted_wipe]
      exact h.numbers
  | exitThread ts =>
      obtain rfl := Option.some.inj hstep
      rw [exitThread]
      split
      · exact numbered_push h _ ts
      · exact h
  | joinThread =>
      obtain ⟨-, -, rfl⟩ := joinThread_eq_some hstep
      exact ⟨h.ordered, h.numbers⟩
  | takeMessage =>
      obtain ⟨-, box, htake, rfl⟩ := takeMessage_eq_some hstep
      refine ⟨ordered_take h.ordered htake, ?_⟩
      rw [posted_take htake]
      exact h.numbers
  | workOn now =>
      obtain ⟨-, m, -, rfl⟩ := workOn_eq_some hstep
      refine ⟨?_, ?_⟩
      · rcases processMessage_cases w m now with ⟨-, -, hbox⟩ | ⟨-, -, hbox, -⟩
        · rw [hbox]
          exact ordered_wipe (ordered_finish h.ordered)
        · rw [hbox]
          exact ordered_finish h.ordered
      · rw [posted_processMessage]
        exact h.numbers

/-- What the worker holds is not in the queue any more. -/
theorem hand_not_queued (h : Numbered w) (hhand : w.box.hand = some m) : m ∉ w.box.queue := by
  have hpast : m ∈ w.box.past := by
    refine h.ordered.inOrder.subset (List.mem_append_right _ ?_)
    rw [hhand]
    exact List.mem_singleton_self m
  intro hqueue
  exact (List.nodup_append.mp h.ordered.nodup).2.2 m hpast m hqueue rfl

theorem hand_posted (h : Numbered w) (hhand : w.box.hand = some m) : m ∈ posted w.box := by
  refine List.mem_append_left _ (h.ordered.inOrder.subset (List.mem_append_right _ ?_))
  rw [hhand]
  exact List.mem_singleton_self m

end Numbers

-- ── Steps ────────────────────────────────────────────────────────────────────

structure Inv (s : State) : Prop where
  owned : Owned s
  numbered : Numbered s.worker

theorem inv_init : Inv init where
  owned :=
    { once := List.nodup_nil
      unused := rfl
      deleted := fun _ => ⟨fun h => (nomatch h), fun ⟨_, h, _⟩ => (nomatch h)⟩
      emptied := fun h => nomatch h }
  numbered := ⟨ordered_empty, rfl⟩

section Steps

variable {s s' : State} {m : ThreadMsg} {p : Pointer}

/-- Nothing is deleted of a message that the worker still has. -/
theorem not_deleted (hs : Inv s) (hm : m ∈ posted s.worker.box) (hkept : ¬Left s.worker.box m)
    (hp : p ∈ pointers m) : p ∉ s.heap.deleted := by
  intro hdeleted
  obtain ⟨m', hm', hleft, hp'⟩ := (hs.owned.deleted p).mp hdeleted
  obtain rfl := hs.numbered.inj hm hm' (number_eq hp hp')
  exact hkept hleft

/-- **LEAVING**: some messages leave the worker, and what is deleted is theirs. -/
theorem owned_leave (hs : Inv s) (leaving : List ThreadMsg) {ps : List Pointer}
    (hnodup : leaving.Nodup)
    (hleaving : ∀ m ∈ leaving, m ∈ posted s.worker.box ∧ ¬Left s.worker.box m)
    (hps : ps.Perm (leaving.flatMap pointers)) (hheap : s'.heap = s.heap.deleteAll ps)
    (hposted : posted s'.worker.box = posted s.worker.box)
    (hleft : ∀ m ∈ posted s.worker.box,
      (Left s'.worker.box m ↔ Left s.worker.box m ∨ m ∈ leaving))
    (hemptied : s'.worker.m_thread = false → s'.worker.box.queue = []) : Owned s' := by
  have hmem : ∀ p, p ∈ ps ↔ ∃ m ∈ leaving, p ∈ pointers m := by
    intro p
    rw [hps.mem_iff, List.mem_flatMap]
  have hdistinct : ps.Nodup := by
    refine hps.nodup_iff.mpr (List.nodup_flatMap.mpr ⟨fun m _ => nodup_pointers m, ?_⟩)
    refine hnodup.imp_of_mem ?_
    intro m m' hm hm' hne p hp hp'
    exact hne (hs.numbered.inj (hleaving m hm).1 (hleaving m' hm').1 (number_eq hp hp'))
  have hfresh : (ps ++ s.heap.deleted).Nodup := by
    refine List.nodup_append'.mpr ⟨hdistinct, hs.owned.once, ?_⟩
    intro p hp hdeleted
    obtain ⟨m, hm, hpm⟩ := (hmem p).mp hp
    obtain ⟨hpost, hkept⟩ := hleaving m hm
    exact not_deleted hs hpost hkept hpm hdeleted
  rw [deleteAll_eq hfresh] at hheap
  refine ⟨?_, ?_, ?_, hemptied⟩
  · rw [hheap]
    exact ((List.reverse_perm ps).append_right _).nodup_iff.mpr hfresh
  · rw [hheap]
    exact hs.owned.unused
  · intro p
    rw [hheap, List.mem_append, List.mem_reverse, hmem, hs.owned.deleted, hposted]
    constructor
    · rintro (⟨m, hm, hp⟩ | ⟨m, hm, hgone, hp⟩)
      · have hpost := (hleaving m hm).1
        exact ⟨m, hpost, (hleft m hpost).mpr (Or.inr hm), hp⟩
      · exact ⟨m, hm, (hleft m hm).mpr (Or.inl hgone), hp⟩
    · rintro ⟨m, hm, hgone, hp⟩
      rcases (hleft m hm).mp hgone with hold | hnew
      · exact Or.inr ⟨m, hm, hold, hp⟩
      · exact Or.inl ⟨m, hnew, hp⟩

/-- Nothing leaves. -/
theorem owned_stay (hs : Inv s) (hheap : s'.heap = s.heap)
    (hposted : ∀ m, m ∈ posted s'.worker.box ∧ Left s'.worker.box m
      ↔ m ∈ posted s.worker.box ∧ Left s.worker.box m)
    (hemptied : s'.worker.m_thread = false → s'.worker.box.queue = []) : Owned s' where
  once := hheap ▸ hs.owned.once
  unused := hheap ▸ hs.owned.unused
  deleted := by
    intro p
    rw [hheap, hs.owned.deleted]
    constructor
    · rintro ⟨m, hm, hleft, hp⟩
      obtain ⟨hm', hleft'⟩ := (hposted m).mpr ⟨hm, hleft⟩
      exact ⟨m, hm', hleft', hp⟩
    · rintro ⟨m, hm, hleft, hp⟩
      obtain ⟨hm', hleft'⟩ := (hposted m).mp ⟨hm, hleft⟩
      exact ⟨m, hm', hleft', hp⟩
  emptied := hemptied

/-- A message more is in the queue. -/
theorem left_post {b : Box ThreadMsg} {m : ThreadMsg} (hm : m ∉ posted b) (m' : ThreadMsg) :
    m' ∈ posted (post b m) ∧ Left (post b m) m' ↔ m' ∈ posted b ∧ Left b m' := by
  rw [posted_post]
  constructor
  · rintro ⟨hmem, hqueue, hhand⟩
    have hne : m' ≠ m := by
      rintro rfl
      exact hqueue (List.mem_append_right _ (List.mem_singleton_self _))
    rcases List.mem_append.mp hmem with hold | hnew
    · exact ⟨hold, fun h => hqueue (List.mem_append_left _ h), hhand⟩
    · exact absurd (List.mem_singleton.mp hnew) hne
  · rintro ⟨hmem, hqueue, hhand⟩
    refine ⟨List.mem_append_left _ hmem, ?_, hhand⟩
    intro h
    rcases List.mem_append.mp h with hold | hnew
    · exact hqueue hold
    · exact hm (List.mem_singleton.mp hnew ▸ hmem)

theorem owned_push (hs : Inv s) (msg : Msg) (ts : Int) (hthread : s.worker.m_thread = true) :
    Owned { worker := push s.worker msg ts, heap := s.heap } := by
  have hnew := (numbered_push hs.numbered msg ts).ordered.nodup
  refine owned_stay hs rfl (left_post ?_) fun h => nomatch hthread.symm.trans h
  rw [show posted (push s.worker msg ts).box = posted s.worker.box ++ [_] from
    posted_post s.worker.box _] at hnew
  exact fun hmem => (List.nodup_append.mp hnew).2.2 _ hmem _ (List.mem_singleton_self _) rfl

theorem queue_nodup (hs : Inv s) : s.worker.box.queue.Nodup :=
  (List.nodup_append.mp hs.numbered.ordered.nodup).2.1

/-- Messages without a payload are deleted with all their pointers. -/
theorem flatMap_pointers_of_exits {queue : List ThreadMsg} (h : ∀ m ∈ queue, IsExit m) :
    queue.flatMap pointers = queue.map fun m => .threadMsg m.number := by
  induction queue with
  | nil => rfl
  | cons m queue ih =>
      rw [List.flatMap_cons, List.map_cons, pointers_of_exit (h m List.mem_cons_self),
        ih fun m' hm' => h m' (List.mem_cons_of_mem m hm')]
      rfl

/-- **THE QUEUE IS EMPTIED** of messages without a payload. -/
theorem owned_wipe (hs : Inv s) (hexits : ∀ m ∈ s.worker.box.queue, IsExit m) :
    Owned { worker := { s.worker with box := wipe s.worker.box }
            heap := deleteMessages s.heap s.worker.box.queue } := by
  refine owned_leave hs s.worker.box.queue (queue_nodup hs) ?_
    (List.Perm.of_eq (flatMap_pointers_of_exits hexits).symm) rfl (posted_wipe _) ?_ fun _ => rfl
  · intro m hm
    exact ⟨List.mem_append_right _ hm, fun hleft => hleft.1 hm⟩
  · intro m _
    constructor
    · rintro ⟨-, hhand⟩
      by_cases hm : m ∈ s.worker.box.queue
      · exact Or.inr hm
      · exact Or.inl ⟨hm, hhand⟩
    · rintro (⟨-, hhand⟩ | hm)
      · exact ⟨List.not_mem_nil, hhand⟩
      · exact ⟨List.not_mem_nil, fun hhand => hand_not_queued hs.numbered hhand hm⟩

theorem owned_take (hs : Inv s) {box : Box ThreadMsg} (h : take s.worker.box = some box) :
    Owned { worker := { s.worker with box := box }, heap := s.heap } := by
  have hposted := posted_take h
  obtain ⟨m, rest, hhand, hqueue, rfl⟩ := take_cases h
  refine owned_stay hs rfl (fun m' => ?_) fun hthread => ?_
  · refine and_congr (by rw [hposted]) ?_
    constructor
    · rintro ⟨hrest, hne⟩
      refine ⟨?_, fun h => nomatch hhand.symm.trans h⟩
      rw [hqueue]
      intro hmem
      rcases List.mem_cons.mp hmem with rfl | hmem
      · exact hne rfl
      · exact hrest hmem
    · rintro ⟨hnot, -⟩
      rw [hqueue] at hnot
      refine ⟨fun hmem => hnot (List.mem_cons_of_mem m hmem), fun heq => ?_⟩
      exact hnot (Option.some.inj heq ▸ List.mem_cons_self)
  · have hempty := hs.owned.emptied hthread
    rw [hqueue] at hempty
    exact nomatch hempty

/-- The uses of a message and its payload find nothing deleted. -/
theorem processHeap_of_not_exit (hs : Inv s) (hhand : s.worker.box.hand = some m)
    (hm : ¬IsExit m) (queue : List ThreadMsg) :
    processHeap s.heap queue m = s.heap.deleteAll [.payload m.number, .threadMsg m.number] := by
  have hkept : ¬Left s.worker.box m := fun hleft => hleft.2 hhand
  have hposted := hand_posted hs.numbered hhand
  have hmsg := use_of_not_mem (not_deleted hs hposted hkept (threadMsg_mem_pointers m))
  have hpayload := use_of_not_mem (not_deleted hs hposted hkept (payload_mem_pointers hm))
  rw [processHeap, hmsg]
  cases hkind : m.msg with
  | MSG_EXECUTE_CALLBACK userData =>
      dsimp only
      rw [hpayload]
      rfl
  | MSG_UPDATE_CALLBACKS callbackData =>
      dsimp only
      rw [hpayload]
      rfl
  | MSG_EXIT_THREAD => exact absurd hkind hm

theorem processHeap_of_exit (hs : Inv s) (hhand : s.worker.box.hand = some m) (hm : IsExit m)
    (queue : List ThreadMsg) :
    processHeap s.heap queue m
      = s.heap.deleteAll (.threadMsg m.number :: queue.map fun m => .threadMsg m.number) := by
  have hkept : ¬Left s.worker.box m := fun hleft => hleft.2 hhand
  have hposted := hand_posted hs.numbered hhand
  have hmsg := use_of_not_mem (not_deleted hs hposted hkept (threadMsg_mem_pointers m))
  rw [IsExit] at hm
  rw [processHeap, hmsg, hm]
  rfl

theorem owned_process (hs : Inv s) (hhand : s.worker.box.hand = some m) (now : Int)
    (hexits : IsExit m → ∀ m' ∈ s.worker.box.queue, IsExit m') :
    Owned { worker := processMessage s.worker m now
            heap := processHeap s.heap s.worker.box.queue m } := by
  have hposted := hand_posted hs.numbered hhand
  have hqueue := hand_not_queued hs.numbered hhand
  have hkept : ¬Left s.worker.box m := fun hleft => hleft.2 hhand
  rcases processMessage_cases s.worker m now with ⟨hm, hrun, hbox⟩ | ⟨hm, -, hbox, -⟩
  · refine owned_leave hs (m :: s.worker.box.queue)
      (List.nodup_cons.mpr ⟨hqueue, queue_nodup hs⟩) ?_ ?_ (processHeap_of_exit hs hhand hm _) ?_ ?_ ?_
    · intro m' hm'
      rcases List.mem_cons.mp hm' with rfl | hm'
      · exact ⟨hposted, hkept⟩
      · exact ⟨List.mem_append_right _ hm', fun hleft => hleft.1 hm'⟩
    · rw [List.flatMap_cons, pointers_of_exit hm, flatMap_pointers_of_exits (hexits hm)]
      exact List.Perm.refl _
    · show posted (processMessage s.worker m now).box = _
      rw [hbox, posted_wipe, posted_finish]
    · intro m' hm'
      show Left (processMessage s.worker m now).box m' ↔ _
      rw [hbox]
      refine iff_of_true ⟨List.not_mem_nil, fun h => nomatch h⟩ ?_
      by_cases hleft : Left s.worker.box m'
      · exact Or.inl hleft
      · refine Or.inr ?_
        rw [Left, not_and_or, not_not, not_not] at hleft
        rcases hleft with hqueued | heq
        · exact List.mem_cons_of_mem m hqueued
        · exact Option.some.inj (hhand.symm.trans heq) ▸ List.mem_cons_self
    · intro _
      show (processMessage s.worker m now).box.queue = []
      rw [hbox]
      rfl
  · refine owned_leave hs [m] (List.nodup_singleton m) ?_ ?_
      (processHeap_of_not_exit hs hhand hm _) ?_ ?_ ?_
    · intro m' hm'
      obtain rfl := List.mem_singleton.mp hm'
      exact ⟨hposted, hkept⟩
    · rw [List.flatMap_singleton, pointers_of_not_exit hm]
    · show posted (processMessage s.worker m now).box = _
      rw [hbox, posted_finish]
    · intro m' _
      show Left (processMessage s.worker m now).box m' ↔ _
      rw [hbox]
      constructor
      · rintro ⟨hnot, -⟩
        by_cases heq : m' = m
        · exact Or.inr (List.mem_singleton.mpr heq)
        · exact Or.inl ⟨hnot, fun h => heq (Option.some.inj (hhand.symm.trans h)).symm⟩
      · rintro (⟨hnot, -⟩ | hmem)
        · exact ⟨hnot, fun h => nomatch h⟩
        · exact ⟨List.mem_singleton.mp hmem ▸ hqueue, fun h => nomatch h⟩
    · intro hthread
      show (processMessage s.worker m now).box.queue = []
      rw [hbox]
      exact hs.owned.emptied ((processMessage_m_thread s.worker m now).symm.trans hthread)

/-- A step is one of the worker and its callers. -/
theorem step_eq_some {a : Act} (h : step s a = some s') :
    CameraCallback.step s.worker a = some s'.worker ∧ s'.heap = heapAfter s a := by
  obtain ⟨w, hw, rfl⟩ := Option.map_eq_some_iff.mp h
  exact ⟨hw, rfl⟩

/-- **STEP**: what leaves the worker is deleted once, if nobody empties the queue
    of payloads. -/
theorem inv_step (s : State) (a : Act) (s' : State) (hs : Inv s) (hok : KeepsPayloads s a)
    (h : step s a = some s') : Inv s' := by
  obtain ⟨hstep, hheap⟩ := step_eq_some h
  refine ⟨?_, numbered_step hs.numbered hstep⟩
  obtain ⟨w, heap⟩ := s'
  obtain rfl : heap = heapAfter s a := hheap
  cases a with
  | addCallback data ts =>
      obtain ⟨hthread, rfl⟩ := addCallback_eq_some hstep
      exact owned_push hs _ ts hthread
  | setCallbacks data ts =>
      obtain ⟨hthread, rfl⟩ := setCallbacks_eq_some hstep
      exact owned_push hs _ ts hthread
  | clearCallbacks =>
      obtain ⟨-, rfl⟩ := clearCallbacks_eq_some hstep
      exact owned_wipe hs hok
  | exitThread ts =>
      obtain rfl := Option.some.inj hstep
      rw [exitThread]
      split
      · rename_i hthread
        exact owned_push hs _ ts hthread
      · exact hs.owned
  | joinThread =>
      obtain ⟨-, -, rfl⟩ := joinThread_eq_some hstep
      exact ⟨hs.owned.once, hs.owned.unused, hs.owned.deleted, fun _ => hok⟩
  | takeMessage =>
      obtain ⟨-, box, htake, rfl⟩ := takeMessage_eq_some hstep
      exact owned_take hs htake
  | workOn now =>
      obtain ⟨-, m, hhand, rfl⟩ := workOn_eq_some hstep
      rw [heapAfter, hhand]
      exact owned_process hs hhand now fun hm => hok ⟨m, hhand, hm⟩

/-- A payload that is not deleted when its message leaves is lost. -/
theorem exits_of_owned (hs : Inv s) (numbers : List Nat) (howned : Owned s')
    (hheap : s'.heap = s.heap.deleteAll (numbers.map .threadMsg))
    (hposted : posted s'.worker.box = posted s.worker.box)
    (hleft : ∀ m ∈ s.worker.box.queue, Left s'.worker.box m) :
    ∀ m ∈ s.worker.box.queue, IsExit m := by
  intro m hm
  by_contra hexit
  have hmem : m ∈ posted s.worker.box := List.mem_append_right _ hm
  have hpayload := payload_mem_pointers hexit
  have hdeleted := (howned.deleted _).mpr ⟨m, hposted ▸ hmem, hleft m hm, hpayload⟩
  rw [hheap, deleteAll_deleted, List.mem_append, List.mem_reverse] at hdeleted
  rcases hdeleted with hnew | hold
  · obtain ⟨n, -, heq⟩ := List.mem_map.mp hnew
    exact nomatch heq
  · exact not_deleted hs hmem (fun hleft => hleft.1 hm) hpayload hold

/-- **EXACT STEP**: a step that loses nothing met the condition. -/
theorem keepsPayloads_of_owned (s : State) (a : Act) (s' : State) (hs : Inv s)
    (h : step s a = some s') (howned : Owned s') : KeepsPayloads s a := by
  obtain ⟨hstep, hheap⟩ := step_eq_some h
  cases a with
  | clearCallbacks =>
      obtain ⟨-, hworker⟩ := clearCallbacks_eq_some hstep
      refine exits_of_owned hs (s.worker.box.queue.map ThreadMsg.number) howned ?_ ?_ ?_
      · rw [hheap, List.map_map]
        rfl
      · rw [hworker]
        exact posted_wipe _
      · intro m hm
        rw [hworker]
        exact ⟨List.not_mem_nil, fun hhand => hand_not_queued hs.numbered hhand hm⟩
  | joinThread =>
      obtain ⟨-, -, hworker⟩ := joinThread_eq_some hstep
      have hempty := howned.emptied (by rw [hworker])
      rw [hworker] at hempty
      exact hempty
  | workOn now =>
      rintro ⟨m, hhand, hexit⟩
      obtain ⟨-, m', hhand', hworker⟩ := workOn_eq_some hstep
      obtain rfl : m = m' := Option.some.inj (hhand.symm.trans hhand')
      rcases processMessage_cases s.worker m now with ⟨-, -, hbox⟩ | ⟨hno, -⟩
      · refine exits_of_owned hs
          (m.number :: s.worker.box.queue.map ThreadMsg.number) howned ?_ ?_ ?_
        · rw [hheap, heapAfter, hhand, List.map_cons, List.map_map]
          exact processHeap_of_exit hs hhand hexit _
        · rw [hworker, hbox, posted_wipe, posted_finish]
        · intro m'' _
          rw [hworker, hbox]
          exact ⟨List.not_mem_nil, fun h => by cases h⟩
      · exact absurd hexit hno
  | _ => trivial

end Steps

-- ── Runs ─────────────────────────────────────────────────────────────────────

/-- **OWNERSHIP**: in every state of a run each message that left the worker was
    deleted once, and its payload as well, exactly if `ClearCallbacks` and the
    end of the worker find no payload in the queue whenever they empty it, and
    nothing is in the queue when the thread is joined. -/
theorem ownership (acts : List Act) :
    Always step Owned init acts ↔ StepsMeet step KeepsPayloads init acts :=
  always_iff_stepsMeet (fun _ hs => hs.owned) inv_step keepsPayloads_of_owned acts inv_init

/-- **A PAYLOAD IS LOST**: a callback that waits when `stop_preview` clears the
    queue. -/
theorem payload_lost :
    ¬Always step Owned init
      [.addCallback { CbType := CB_TYPE_NOTIFY, msg_type := 1, data := 0, index := 0, metadata := 0,
                      user := 0, ext1 := 0, ext2 := 0 } 0, .clearCallbacks] := by
  intro h
  have howned := h _ [] _ (List.append_nil _).symm rfl
  have hdeleted := (howned.deleted (.payload 0)).mpr
    ⟨_, List.mem_singleton.mpr rfl, ⟨List.not_mem_nil, fun h => nomatch h⟩, List.mem_cons_self⟩
  exact absurd hdeleted (by decide)

end CameraOwnership

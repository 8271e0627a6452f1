import Mathlib.Logic.Function.Basic
import Universal7580.RunProofs
import Universal7580.RwLockProofs

/-! # Variables that a mutex guards

    Threads that run programs over shared state, one access at a time and in any
    order.  A program is a tree: taking and releasing mutexes, accesses in
    between, branches, and assertions that abort.

    One mutex guards one value of the shared state.  `Safe` is the discipline
    that goes with it: a program changes the value only while it holds the
    mutex, releases the mutex only while it holds it, and where it holds the
    mutex its assertions may count on the value not having changed under it.  If
    the programs are safe, then no assertion fails in any interleaving
    (`safe_always`), and whoever changes the value holds the mutex
    (`heldBy_of_change`). -/

namespace Guarded

open Run RwLock

-- ── Programs and threads ──────────────────────────────────────────────────

/-- A program over mutexes `M`, shared state `S` and local state `L`. -/
inductive Code (M S L : Type) where
  | ret
  | lock (m : L → M) (k : Code M S L)
  | unlock (m : L → M) (k : Code M S L)
  | act (f : S → L → S × L) (k : Code M S L)
  | branch (p : S → L → Bool) (yes no : Code M S L)
  | fatalIf (p : S → L → Bool) (k : Code M S L)

/-- Threads `T`, each with the rest of its program and its local state. -/
structure Config (T M S L : Type) where
  code : T → Code M S L
  loc : T → L
  locks : M → Lock T
  shared : S
  failed : Bool

/-- A thread that has nothing to do enters program `p`, or a thread goes on. -/
inductive Event (T P : Type) where
  | call (t : T) (p : P)
  | go (t : T)
  deriving DecidableEq, Repr

section Steps

variable {T M S L P : Type} [DecidableEq T] [DecidableEq M] (program : P → Code M S L) (enter : L)

/-- The thread goes on with `k`. -/
def Config.proceed (c : Config T M S L) (t : T) (k : Code M S L) : Config T M S L :=
  { c with code := Function.update c.code t k }

def step (c : Config T M S L) : Event T P → Option (Config T M S L)
  | .call t p =>
      match c.code t with
      | .ret => some { c.proceed t (program p) with loc := Function.update c.loc t enter }
      | _ => none
  | .go t =>
      match c.code t with
      | .ret => none
      | .lock m k =>
          ((c.locks (m (c.loc t))).acquire t .write).map fun l =>
            { c.proceed t k with locks := Function.update c.locks (m (c.loc t)) l }
      | .unlock m k =>
          some
            { c.proceed t k with
              locks := Function.update c.locks (m (c.loc t)) ((c.locks (m (c.loc t))).release t) }
      | .act f k =>
          some
            { c.proceed t k with
              shared := (f c.shared (c.loc t)).1
              loc := Function.update c.loc t (f c.shared (c.loc t)).2 }
      | .branch p yes no => some (c.proceed t (if p c.shared (c.loc t) then yes else no))
      | .fatalIf p k =>
          some { c.proceed t k with failed := c.failed || p c.shared (c.loc t) }

end Steps

-- ── A thread by itself ────────────────────────────────────────────────────

section Alone

variable {T M S L P : Type} [DecidableEq T] [DecidableEq M] {program : P → Code M S L} {enter : L}

/-- What a program does when nothing else runs and no mutex makes it wait. -/
def Code.alone : Code M S L → S → L → S × L
  | .ret, s, l => (s, l)
  | .lock _ k, s, l => k.alone s l
  | .unlock _ k, s, l => k.alone s l
  | .act f k, s, l => k.alone (f s l).1 (f s l).2
  | .branch p yes no, s, l => if p s l then yes.alone s l else no.alone s l
  | .fatalIf _ k, s, l => k.alone s l

theorem alone_step {c c' : Config T M S L} {t : T}
    (hstep : step program enter c (.go t) = some c') :
    (c'.code t).alone c'.shared (c'.loc t) = (c.code t).alone c.shared (c.loc t) := by
  rw [step] at hstep
  split at hstep
  · exact nomatch hstep
  · rename_i m k hcode
    obtain ⟨l, -, rfl⟩ := Option.map_eq_some_iff.mp hstep
    simp only [Config.proceed, Function.update_self, hcode, Code.alone]
  · rename_i m k hcode
    obtain rfl := Option.some.inj hstep
    simp only [Config.proceed, Function.update_self, hcode, Code.alone]
  · rename_i f k hcode
    obtain rfl := Option.some.inj hstep
    simp only [Config.proceed, Function.update_self, hcode, Code.alone]
  · rename_i p yes no hcode
    obtain rfl := Option.some.inj hstep
    simp only [Config.proceed, Function.update_self, hcode, Code.alone]
    split <;> rfl
  · rename_i p k hcode
    obtain rfl := Option.some.inj hstep
    simp only [Config.proceed, Function.update_self, hcode, Code.alone]

/-- **ALONE**: a thread that runs by itself until it returns does what its
    program says. -/
theorem alone_run {t : T} (steps : Nat) {c c' : Config T M S L}
    (hrun : run (step program enter) c (List.replicate steps (.go t)) = some c')
    (hret : c'.code t = .ret) : (c.code t).alone c.shared (c.loc t) = (c'.shared, c'.loc t) := by
  induction steps generalizing c with
  | zero =>
      obtain rfl := Option.some.inj hrun
      rw [hret]
      rfl
  | succ steps ih =>
      obtain ⟨c₁, hstep, hrest⟩ := run_cons_eq_some hrun
      rw [← alone_step hstep]
      exact ih hrest

end Alone

-- ── The discipline ────────────────────────────────────────────────────────

section Discipline

variable {T M S L P V : Type} (guard : M) (val : S → V) (Q : Option V → L → Prop)

/-- `held` is the value while the mutex is held, and `none` while it is not. -/
def Agrees (held : Option V) (s : S) : Prop := ∀ v, held = some v → val s = v

/-- **SAFE**: the rest of a program, at a point where it holds the mutex and the
    value is `held`, or does not hold it.  `Q` is true at every point. -/
def Safe : Code M S L → Option V → L → Prop
  | .ret, held, l => Q held l
  | .lock m k, held, l =>
      Q held l ∧ (m l = guard → held = none → ∀ v, Safe k (some v) l)
        ∧ (m l ≠ guard → Safe k held l)
  | .unlock m k, held, l =>
      Q held l ∧ (m l = guard → held ≠ none ∧ Safe k none l) ∧ (m l ≠ guard → Safe k held l)
  | .act f k, held, l =>
      Q held l ∧ ∀ s, Agrees val held s →
        (held = none → val (f s l).1 = val s)
          ∧ Safe k (held.map fun _ => val (f s l).1) (f s l).2
  | .branch p yes no, held, l =>
      Q held l ∧ ∀ s, Agrees val held s →
        (p s l = true → Safe yes held l) ∧ (p s l = false → Safe no held l)
  | .fatalIf p k, held, l =>
      Q held l ∧ ∀ s, Agrees val held s → p s l = false ∧ Safe k held l

variable {guard val Q}

theorem safe_here {k : Code M S L} {held : Option V} {l : L} (h : Safe guard val Q k held l) :
    Q held l := by
  cases k with
  | ret => exact h
  | lock m k => exact h.1
  | unlock m k => exact h.1
  | act f k => exact h.1
  | branch p yes no => exact h.1
  | fatalIf p k => exact h.1

/-- While the mutex is held the value stays what it is known to be. -/
theorem map_of_agrees {held : Option V} {s : S} (h : Agrees val held s) :
    (held.map fun _ => val s) = held := by
  cases held with
  | none => rfl
  | some v => exact congrArg some (h v rfl)

theorem safe_lock {m : L → M} {k : Code M S L} {held : Option V} {l : L} (hm : m l ≠ guard)
    (hk : Safe guard val Q k held l) : Safe guard val Q (.lock m k) held l :=
  ⟨safe_here hk, fun h => absurd h hm, fun _ => hk⟩

theorem safe_unlock {m : L → M} {k : Code M S L} {held : Option V} {l : L} (hm : m l ≠ guard)
    (hk : Safe guard val Q k held l) : Safe guard val Q (.unlock m k) held l :=
  ⟨safe_here hk, fun h => absurd h hm, fun _ => hk⟩

/-- Taking the mutex that guards the value. -/
theorem safe_lock_guard {m : L → M} {k : Code M S L} {held : Option V} {l : L} (hQ : Q held l)
    (hm : m l = guard) (hk : ∀ v, Safe guard val Q k (some v) l) :
    Safe guard val Q (.lock m k) held l :=
  ⟨hQ, fun _ _ => hk, fun h => absurd hm h⟩

theorem safe_unlock_guard {m : L → M} {k : Code M S L} {v : V} {l : L} (hQ : Q (some v) l)
    (hm : m l = guard) (hk : Safe guard val Q k none l) :
    Safe guard val Q (.unlock m k) (some v) l :=
  ⟨hQ, fun _ => ⟨fun h => (nomatch h), hk⟩, fun h => absurd hm h⟩

/-- An access that leaves the value alone. -/
theorem safe_act {f : S → L → S × L} {k : Code M S L} {held : Option V} {l : L} (hQ : Q held l)
    (hval : ∀ s, val (f s l).1 = val s)
    (hk : ∀ s, Agrees val held s → Safe guard val Q k held (f s l).2) :
    Safe guard val Q (.act f k) held l := by
  refine ⟨hQ, fun s hs => ⟨fun _ => hval s, ?_⟩⟩
  rw [hval, map_of_agrees hs]
  exact hk s hs

/-- An access under the mutex. -/
theorem safe_act_held {f : S → L → S × L} {k : Code M S L} {v : V} {l : L} (hQ : Q (some v) l)
    (hk : ∀ s v', Safe guard val Q k (some v') (f s l).2) :
    Safe guard val Q (.act f k) (some v) l :=
  ⟨hQ, fun s _ => ⟨fun h => (nomatch h), hk s _⟩⟩

theorem safe_branch {p : S → L → Bool} {yes no : Code M S L} {held : Option V} {l : L}
    (hyes : Safe guard val Q yes held l) (hno : Safe guard val Q no held l) :
    Safe guard val Q (.branch p yes no) held l :=
  ⟨safe_here hyes, fun _ _ => ⟨fun _ => hyes, fun _ => hno⟩⟩

end Discipline

-- ── Every interleaving ────────────────────────────────────────────────────

section Interleaving

variable {T M S L P V : Type} (guard : M) (val : S → V) (Q : Option V → L → Prop)

/-- A thread is safe where it is. -/
def ThreadSafe (c : Config T M S L) (t : T) : Prop :=
  ((c.locks guard).HeldBy t .write → Safe guard val Q (c.code t) (some (val c.shared)) (c.loc t))
    ∧ (¬ (c.locks guard).HeldBy t .write → Safe guard val Q (c.code t) none (c.loc t))

structure AllSafe (c : Config T M S L) : Prop where
  failed : c.failed = false
  threads : ∀ t, ThreadSafe guard val Q c t

variable {guard val Q} {c c' : Config T M S L} {t u : T}

/-- A thread that did not move, and whose mutex and value are as before. -/
theorem threadSafe_of_same (h : ThreadSafe guard val Q c u) (hcode : c'.code u = c.code u)
    (hloc : c'.loc u = c.loc u)
    (hheld : (c'.locks guard).HeldBy u .write ↔ (c.locks guard).HeldBy u .write)
    (hval : (c.locks guard).HeldBy u .write → val c'.shared = val c.shared) :
    ThreadSafe guard val Q c' u := by
  rw [ThreadSafe, hcode, hloc]
  refine ⟨fun hu => ?_, fun hu => h.2 fun hc => hu (hheld.mpr hc)⟩
  have hc := hheld.mp hu
  rw [hval hc]
  exact h.1 hc

variable [DecidableEq T]

@[simp]
theorem proceed_code_self (k : Code M S L) : (c.proceed t k).code t = k := Function.update_self ..

theorem proceed_code_of_ne (k : Code M S L) (h : u ≠ t) : (c.proceed t k).code u = c.code u :=
  Function.update_of_ne h ..

/-- A move of one thread that leaves the mutexes alone. -/
theorem allSafe_move (h : AllSafe guard val Q c) (hlocks : c'.locks = c.locks)
    (hfailed : c'.failed = false) (hcode : ∀ u, u ≠ t → c'.code u = c.code u)
    (hloc : ∀ u, u ≠ t → c'.loc u = c.loc u)
    (hval : ∀ u, u ≠ t → (c.locks guard).HeldBy u .write → val c'.shared = val c.shared)
    (ht : ThreadSafe guard val Q c' t) : AllSafe guard val Q c' := by
  refine ⟨hfailed, fun u => ?_⟩
  by_cases hut : u = t
  · exact hut ▸ ht
  · refine threadSafe_of_same (h.threads u) (hcode u hut) (hloc u hut) ?_ (hval u hut)
    rw [hlocks]

/-- Changing the shared state: without the mutex the value stays. -/
theorem allSafe_act (h : AllSafe guard val Q c) {f : S → L → S × L} {k : Code M S L}
    (hcode : c.code t = .act f k) :
    AllSafe guard val Q
      { c.proceed t k with
        shared := (f c.shared (c.loc t)).1
        loc := Function.update c.loc t (f c.shared (c.loc t)).2 } := by
  have ht := h.threads t
  rw [ThreadSafe, hcode] at ht
  refine allSafe_move h rfl h.failed (fun u hut => proceed_code_of_ne k hut)
    (fun u hut => Function.update_of_ne hut ..) (fun u hut hu => ?_) ?_
  · -- another thread has the mutex, so this one has not
    have hfree : ¬ (c.locks guard).HeldBy t .write := fun hheld =>
      hut (eq_of_heldBy_write hheld hu)
    exact ((ht.2 hfree).2 c.shared fun _ h => (nomatch h)).1 rfl
  · rw [ThreadSafe]
    simp only [proceed_code_self, Function.update_self]
    refine ⟨fun hheld => ?_, fun hfree => ?_⟩
    · exact ((ht.1 hheld).2 c.shared fun _ h => Option.some.inj h).2
    · exact ((ht.2 hfree).2 c.shared fun _ h => (nomatch h)).2

theorem allSafe_branch (h : AllSafe guard val Q c) {p : S → L → Bool} {yes no : Code M S L}
    (hcode : c.code t = .branch p yes no) :
    AllSafe guard val Q (c.proceed t (if p c.shared (c.loc t) then yes else no)) := by
  have ht := h.threads t
  rw [ThreadSafe, hcode] at ht
  refine allSafe_move h rfl h.failed (fun u hut => proceed_code_of_ne _ hut) (fun _ _ => rfl)
    (fun _ _ _ => rfl) ?_
  rw [ThreadSafe]
  simp only [proceed_code_self]
  refine ⟨fun hheld => ?_, fun hfree => ?_⟩
  · have hsafe := (ht.1 hheld).2 c.shared fun _ h => Option.some.inj h
    cases hp : p c.shared (c.loc t) with
    | true => exact hsafe.1 hp
    | false => exact hsafe.2 hp
  · have hsafe := (ht.2 hfree).2 c.shared fun _ h => (nomatch h)
    cases hp : p c.shared (c.loc t) with
    | true => exact hsafe.1 hp
    | false => exact hsafe.2 hp

/-- An assertion holds: the value is what the thread knows it to be. -/
theorem allSafe_fatalIf (h : AllSafe guard val Q c) {p : S → L → Bool} {k : Code M S L}
    (hcode : c.code t = .fatalIf p k) :
    AllSafe guard val Q { c.proceed t k with failed := c.failed || p c.shared (c.loc t) } := by
  have ht := h.threads t
  rw [ThreadSafe, hcode] at ht
  have hpasses : p c.shared (c.loc t) = false := by
    by_cases hheld : (c.locks guard).HeldBy t .write
    · exact ((ht.1 hheld).2 c.shared fun _ h => Option.some.inj h).1
    · exact ((ht.2 hheld).2 c.shared fun _ h => (nomatch h)).1
  refine allSafe_move h rfl ?_ (fun u hut => proceed_code_of_ne _ hut) (fun _ _ => rfl)
    (fun _ _ _ => rfl) ?_
  · rw [h.failed, hpasses]
    rfl
  · rw [ThreadSafe]
    simp only [proceed_code_self]
    refine ⟨fun hheld => ?_, fun hfree => ?_⟩
    · exact ((ht.1 hheld).2 c.shared fun _ h => Option.some.inj h).2
    · exact ((ht.2 hfree).2 c.shared fun _ h => (nomatch h)).2

/-- Entering a program: a thread may have kept the mutex from the last one. -/
theorem allSafe_call (h : AllSafe guard val Q c) {k : Code M S L} {enter : L}
    (hk : ∀ held, Safe guard val Q k held enter) :
    AllSafe guard val Q { c.proceed t k with loc := Function.update c.loc t enter } := by
  refine allSafe_move h rfl h.failed (fun u hut => proceed_code_of_ne k hut)
    (fun u hut => Function.update_of_ne hut ..) (fun _ _ _ => rfl) ?_
  rw [ThreadSafe]
  simp only [proceed_code_self, Function.update_self]
  exact ⟨fun _ => hk _, fun _ => hk _⟩

variable [DecidableEq M]

/-- Taking a mutex. -/
theorem allSafe_lock (h : AllSafe guard val Q c) {m : L → M} {k : Code M S L}
    (hcode : c.code t = .lock m k) {l : Lock T}
    (hl : (c.locks (m (c.loc t))).acquire t .write = some l) :
    AllSafe guard val Q
      { c.proceed t k with locks := Function.update c.locks (m (c.loc t)) l } := by
  have ht := h.threads t
  rw [ThreadSafe, hcode] at ht
  have hgrants : (c.locks (m (c.loc t))).holders = [] := by
    rw [Lock.acquire] at hl
    split at hl
    · rename_i hgrants
      exact List.isEmpty_iff.mp hgrants
    · cases hl
  refine ⟨h.failed, fun u => ?_⟩
  by_cases hguard : m (c.loc t) = guard
  · have hnone : ∀ u, ¬ (c.locks guard).HeldBy u .write := by
      intro u hu
      rw [← hguard, Lock.HeldBy, hgrants] at hu
      exact List.not_mem_nil hu
    by_cases hut : u = t
    · subst hut
      refine ⟨fun _ => ?_, fun hfree => absurd ?_ hfree⟩
      · show Safe guard val Q ((c.proceed u k).code u) (some (val c.shared)) (c.loc u)
        rw [proceed_code_self]
        exact (ht.2 (hnone u)).2.1 hguard rfl _
      · show (Function.update c.locks (m (c.loc u)) l guard).HeldBy u .write
        rw [hguard, Function.update_self]
        exact (heldBy_acquire hl).mpr (.inl ⟨rfl, rfl⟩)
    · refine threadSafe_of_same (h.threads u) (proceed_code_of_ne k hut) rfl ?_ (fun _ => rfl)
      show (Function.update c.locks (m (c.loc t)) l guard).HeldBy u .write ↔ _
      rw [hguard, Function.update_self, heldBy_acquire hl, hguard]
      exact ⟨fun hor => hor.resolve_left fun hand => hut hand.1, .inr⟩
  · have hlocks : Function.update c.locks (m (c.loc t)) l guard = c.locks guard :=
      Function.update_of_ne (Ne.symm hguard) ..
    by_cases hut : u = t
    · subst hut
      rw [ThreadSafe]
      show ((Function.update c.locks (m (c.loc u)) l guard).HeldBy u .write → _) ∧ _
      simp only [hlocks, proceed_code_self]
      exact ⟨fun hheld => (ht.1 hheld).2.2 hguard, fun hfree => (ht.2 hfree).2.2 hguard⟩
    · refine threadSafe_of_same (h.threads u) (proceed_code_of_ne k hut) rfl ?_ (fun _ => rfl)
      show (Function.update c.locks (m (c.loc t)) l guard).HeldBy u .write ↔ _
      rw [hlocks]

/-- Releasing a mutex. -/
theorem allSafe_unlock (h : AllSafe guard val Q c) {m : L → M} {k : Code M S L}
    (hcode : c.code t = .unlock m k) :
    AllSafe guard val Q
      { c.proceed t k with
        locks := Function.update c.locks (m (c.loc t)) ((c.locks (m (c.loc t))).release t) } := by
  have ht := h.threads t
  rw [ThreadSafe, hcode] at ht
  refine ⟨h.failed, fun u => ?_⟩
  by_cases hguard : m (c.loc t) = guard
  · have hlocks : Function.update c.locks (m (c.loc t)) ((c.locks (m (c.loc t))).release t) guard
        = (c.locks guard).release t := by
      rw [hguard, Function.update_self]
    by_cases hut : u = t
    · subst hut
      rw [ThreadSafe]
      simp only [hlocks, proceed_code_self]
      refine ⟨fun hheld => absurd rfl (heldBy_release.mp hheld).1, fun _ => ?_⟩
      -- whoever releases the mutex has it
      by_cases hheld : (c.locks guard).HeldBy u .write
      · exact ((ht.1 hheld).2.1 hguard).2
      · exact absurd rfl ((ht.2 hheld).2.1 hguard).1
    · refine threadSafe_of_same (h.threads u) (proceed_code_of_ne k hut) rfl ?_ (fun _ => rfl)
      simp only [hlocks, heldBy_release]
      exact ⟨fun hand => hand.2, fun hheld => ⟨hut, hheld⟩⟩
  · have hlocks : Function.update c.locks (m (c.loc t)) ((c.locks (m (c.loc t))).release t) guard
        = c.locks guard := Function.update_of_ne (Ne.symm hguard) ..
    by_cases hut : u = t
    · subst hut
      rw [ThreadSafe]
      simp only [hlocks, proceed_code_self]
      exact ⟨fun hheld => (ht.1 hheld).2.2 hguard, fun hfree => (ht.2 hfree).2.2 hguard⟩
    · refine threadSafe_of_same (h.threads u) (proceed_code_of_ne k hut) rfl ?_ (fun _ => rfl)
      simp only [hlocks]

variable {program : P → Code M S L} {enter : L}

theorem allSafe_step (hprogram : ∀ p held, Safe guard val Q (program p) held enter)
    (c : Config T M S L) (e : Event T P) (c' : Config T M S L) (h : AllSafe guard val Q c)
    (hstep : step program enter c e = some c') : AllSafe guard val Q c' := by
  cases e with
  | call t p =>
      rw [step] at hstep
      split at hstep
      · exact Option.some.inj hstep ▸ allSafe_call h (hprogram p)
      · exact nomatch hstep
  | go t =>
      rw [step] at hstep
      split at hstep
      · exact nomatch hstep
      · rename_i m k hcode
        obtain ⟨l, hl, rfl⟩ := Option.map_eq_some_iff.mp hstep
        exact allSafe_lock h hcode hl
      · rename_i m k hcode
        exact Option.some.inj hstep ▸ allSafe_unlock h hcode
      · rename_i f k hcode
        exact Option.some.inj hstep ▸ allSafe_act h hcode
      · rename_i p yes no hcode
        exact Option.some.inj hstep ▸ allSafe_branch h hcode
      · rename_i p k hcode
        exact Option.some.inj hstep ▸ allSafe_fatalIf h hcode

/-- **NO ASSERTION FAILS** in any interleaving of safe programs. -/
theorem safe_always (hprogram : ∀ p held, Safe guard val Q (program p) held enter)
    (events : List (Event T P)) {c : Config T M S L} (h : AllSafe guard val Q c) :
    Always (step program enter) (AllSafe guard val Q) c events := by
  intro done rest c' _ hrun
  exact run_invariant (allSafe_step hprogram) done h hrun

/-- **WHOEVER CHANGES THE VALUE HOLDS THE MUTEX.** -/
theorem heldBy_of_change (h : AllSafe guard val Q c) {e : Event T P}
    (hstep : step program enter c e = some c') (hchange : val c'.shared ≠ val c.shared) :
    ∃ t, e = .go t ∧ (c.locks guard).HeldBy t .write := by
  cases e with
  | call t p =>
      rw [step] at hstep
      split at hstep
      · exact absurd (Option.some.inj hstep ▸ rfl) hchange
      · exact nomatch hstep
  | go t =>
      refine ⟨t, rfl, ?_⟩
      have ht := (h.threads t).2
      rw [step] at hstep
      split at hstep
      · exact nomatch hstep
      · obtain ⟨l, -, rfl⟩ := Option.map_eq_some_iff.mp hstep
        exact absurd rfl hchange
      · exact absurd (Option.some.inj hstep ▸ rfl) hchange
      · rename_i f k hcode
        by_contra hfree
        have hsafe := ht hfree
        rw [hcode] at hsafe
        obtain rfl := Option.some.inj hstep
        exact hchange ((hsafe.2 c.shared fun _ h => (nomatch h)).1 rfl)
      · exact absurd (Option.some.inj hstep ▸ rfl) hchange
      · exact absurd (Option.some.inj hstep ▸ rfl) hchange

end Interleaving

end Guarded

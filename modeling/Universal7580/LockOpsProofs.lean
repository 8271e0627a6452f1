import Mathlib.Data.List.Count
import Universal7580.GuardedProofs
import Universal7580.TraceProofs

/-! # The mutexes one thread takes and releases

    Of a run of many threads, `lockOps` is what one of them does to the mutexes,
    and `looks` the shared states it meets, one for each of its accesses; between
    them the other threads may do anything.

    `Code.ops` is the same for a program by itself, over any sequence of shared
    states.  By `lockOps_eq_ops` a thread that enters a program and returns from
    it has done what the program says over what it met, so that whether a
    program gives its mutexes back (`Released`) is a question about the program
    alone. -/

namespace Guarded

open Run RwLock Trace

inductive LockOp (M : Type) where
  | lock (m : M)
  | unlock (m : M)
  deriving DecidableEq, Repr

/-- The mutex was unlocked as often as it was locked, and after every lock. -/
structure Released {M : Type} [DecidableEq M] (m : M) (ops : List (LockOp M)) : Prop where
  balanced : ops.count (.lock m) = ops.count (.unlock m)
  later : Followed (· = .lock m) (· = .unlock m) ops

section Holds

variable {M : Type} [DecidableEq M]

/-- Whether a thread holds a mutex after some operations, if before them it did
    or did not; `none` when it takes the mutex again or gives back what it does
    not hold. -/
def holds (m : M) : Bool → List (LockOp M) → Option Bool
  | held, [] => some held
  | held, .lock m' :: rest =>
      if m' = m then (if held then none else holds m true rest) else holds m held rest
  | held, .unlock m' :: rest =>
      if m' = m then (if held then holds m false rest else none) else holds m held rest

variable {m : M}

theorem holds_append (m : M) : ∀ (ops more : List (LockOp M)) (held : Bool),
    holds m held (ops ++ more) = (holds m held ops).bind fun held => holds m held more := by
  intro ops
  induction ops with
  | nil => intro more held; rfl
  | cons op rest ih =>
      intro more held
      cases op with
      | lock m' =>
          rw [List.cons_append, holds, holds, ih, ih]
          cases held <;> split <;> rfl
      | unlock m' =>
          rw [List.cons_append, holds, holds, ih, ih]
          cases held <;> split <;> rfl

/-- What comes between the two states. -/
theorem count_of_holds : ∀ {ops : List (LockOp M)} {held held' : Bool},
    holds m held ops = some held' →
      ops.count (.lock m) + held.toNat = ops.count (.unlock m) + held'.toNat := by
  intro ops
  induction ops with
  | nil =>
      intro held held' h
      obtain rfl := Option.some.inj h
      rfl
  | cons op rest ih =>
      intro held held' h
      cases op with
      | lock m' =>
          rw [holds] at h
          split at h
          · rename_i hm
            cases held with
            | true => cases h
            | false =>
                have hrest := ih h
                rw [Bool.toNat_true] at hrest
                rw [hm, List.count_cons_self, List.count_cons_of_ne (fun h => by cases h),
                  Bool.toNat_false]
                omega
          · rename_i hm
            rw [List.count_cons_of_ne (fun h => hm (LockOp.lock.inj h)),
              List.count_cons_of_ne (fun h => by cases h)]
            exact ih h
      | unlock m' =>
          rw [holds] at h
          split at h
          · rename_i hm
            cases held with
            | false => cases h
            | true =>
                have hrest := ih h
                rw [Bool.toNat_false] at hrest
                rw [hm, List.count_cons_self, List.count_cons_of_ne (fun h => by cases h),
                  Bool.toNat_true]
                omega
          · rename_i hm
            rw [List.count_cons_of_ne (fun h => by cases h),
              List.count_cons_of_ne (fun h => hm (LockOp.unlock.inj h))]
            exact ih h

/-- A mutex that is held, and in the end is not, is given back in between. -/
theorem unlock_mem_of_holds : ∀ {ops : List (LockOp M)},
    holds m true ops = some false → .unlock m ∈ ops := by
  intro ops
  induction ops with
  | nil => exact fun h => by cases h
  | cons op rest ih =>
      intro h
      cases op with
      | lock m' =>
          rw [holds] at h
          split at h
          · cases h
          · exact List.mem_cons_of_mem _ (ih h)
      | unlock m' =>
          rw [holds] at h
          split at h
          · rename_i hm
            exact hm ▸ List.mem_cons_self
          · exact List.mem_cons_of_mem _ (ih h)

theorem later_of_holds {ops : List (LockOp M)} {held : Bool} (h : holds m held ops = some false) :
    Followed (· = .lock m) (· = .unlock m) ops := by
  intro before op after hsplit hop
  rw [hsplit, hop, holds_append] at h
  obtain ⟨held', -, h⟩ := Option.bind_eq_some_iff.mp h
  rw [holds, if_pos rfl] at h
  cases held' with
  | true => cases h
  | false => exact ⟨_, unlock_mem_of_holds h, rfl⟩

/-- **WHO HOLDS NOTHING** has released what it took, and only who holds nothing
    has. -/
theorem released_iff_of_holds {ops : List (LockOp M)} {held : Bool}
    (h : holds m false ops = some held) : Released m ops ↔ held = false := by
  cases held with
  | false => exact ⟨fun _ => rfl, fun _ => ⟨count_of_holds h, later_of_holds h⟩⟩
  | true =>
      refine ⟨fun hreleased => ?_, fun h => by cases h⟩
      have hcount := count_of_holds h
      rw [hreleased.balanced, Bool.toNat_false, Bool.toNat_true] at hcount
      omega

end Holds

-- ── One program ──────────────────────────────────────────────────────────────

section Program

variable {M S L : Type}

/-- What a program does to the mutexes when its accesses meet the states
    `met 0`, `met 1`, … -/
def Code.ops : Code M S L → (Nat → S) → L → List (LockOp M)
  | .ret, _, _ => []
  | .lock m k, met, l => .lock (m l) :: k.ops met l
  | .unlock m k, met, l => .unlock (m l) :: k.ops met l
  | .act f k, met, l => k.ops (fun i => met (i + 1)) (f (met 0) l).2
  | .branch p yes no, met, l =>
      if p (met 0) l then yes.ops (fun i => met (i + 1)) l else no.ops (fun i => met (i + 1)) l
  | .fatalIf _ k, met, l => k.ops (fun i => met (i + 1)) l

/-- The first thing a program does, where that is to a mutex. -/
def Code.firstOp : Code M S L → L → List (LockOp M)
  | .lock m _, l => [.lock (m l)]
  | .unlock m _, l => [.unlock (m l)]
  | _, _ => []

/-- The first thing a program does, where that is an access. -/
def Code.firstLook : Code M S L → S → List S
  | .act _ _, s => [s]
  | .branch _ _ _, s => [s]
  | .fatalIf _ _, s => [s]
  | _, _ => []

def Code.returned : Code M S L → Bool
  | .ret => true
  | _ => false

theorem Code.eq_ret {k : Code M S L} (h : k.returned = true) : k = .ret := by
  cases k with
  | ret => rfl
  | lock m k => cases h
  | unlock m k => cases h
  | act f k => cases h
  | branch p yes no => cases h
  | fatalIf p k => cases h

/-- There is one first thing. -/
theorem firstLook_of_mem {k : Code M S L} {s s' : S} (h : s' ∈ k.firstLook s) :
    k.firstLook s = [s'] := by
  cases k with
  | ret => cases h
  | lock m k => cases h
  | unlock m k => cases h
  | act f k => exact congrArg (fun s => [s]) (List.mem_singleton.mp h).symm
  | branch p yes no => exact congrArg (fun s => [s]) (List.mem_singleton.mp h).symm
  | fatalIf p k => exact congrArg (fun s => [s]) (List.mem_singleton.mp h).symm

end Program

-- ── One thread of many ───────────────────────────────────────────────────────

section Thread

variable {T M S L P : Type} [DecidableEq T] [DecidableEq M] (program : P → Code M S L) (enter : L)

/-- What is noted of each step of a run, one after the other. -/
def notes {β : Type} (note : Config T M S L → Event T P → List β) :
    Config T M S L → List (Event T P) → List β
  | _, [] => []
  | c, e :: rest =>
      match step program enter c e with
      | none => []
      | some c' => note c e ++ notes note c' rest

def lockOpAt (t : T) (c : Config T M S L) : Event T P → List (LockOp M)
  | .go u => if u = t then (c.code t).firstOp (c.loc t) else []
  | .call _ _ => []

def lookAt (t : T) (c : Config T M S L) : Event T P → List S
  | .go u => if u = t then (c.code t).firstLook c.shared else []
  | .call _ _ => []

/-- What a thread does to the mutexes in a run. -/
def lockOps (t : T) (c : Config T M S L) (events : List (Event T P)) : List (LockOp M) :=
  notes program enter (lockOpAt t) c events

/-- The shared states that the accesses of a thread meet in a run. -/
def looks (t : T) (c : Config T M S L) (events : List (Event T P)) : List S :=
  notes program enter (lookAt t) c events

/-- No call of the thread is among the events. -/
def NotCalled (t : T) (events : List (Event T P)) : Prop := ∀ p, .call t p ∉ events

variable {program enter} {t : T} {c c' : Config T M S L}

theorem notes_cons {β : Type} {note : Config T M S L → Event T P → List β} {e : Event T P}
    {rest : List (Event T P)} (h : step program enter c e = some c') :
    notes program enter note c (e :: rest) = note c e ++ notes program enter note c' rest := by
  rw [notes, h]

/-- **OTHERS**: a step that is not the thread's leaves its program and its
    local state alone. -/
theorem thread_of_other {e : Event T P} (h : step program enter c e = some c')
    (hgo : e ≠ .go t) (hcall : ∀ p, e ≠ .call t p) :
    c'.code t = c.code t ∧ c'.loc t = c.loc t := by
  have hkeep : ∀ {A : Type} {u : T} (f : T → A) (a : A), u ≠ t → Function.update f u a t = f t :=
    fun f a hne => Function.update_of_ne (Ne.symm hne) a f
  cases e with
  | call u p =>
      have hne : u ≠ t := fun heq => hcall p (heq ▸ rfl)
      rw [step] at h
      split at h
      · obtain rfl := Option.some.inj h
        exact ⟨hkeep _ _ hne, hkeep _ _ hne⟩
      · cases h
  | go u =>
      have hne : u ≠ t := fun heq => hgo (heq ▸ rfl)
      rw [step] at h
      split at h
      · cases h
      · obtain ⟨l, -, rfl⟩ := Option.map_eq_some_iff.mp h
        exact ⟨hkeep _ _ hne, rfl⟩
      · obtain rfl := Option.some.inj h
        exact ⟨hkeep _ _ hne, rfl⟩
      · obtain rfl := Option.some.inj h
        exact ⟨hkeep _ _ hne, hkeep _ _ hne⟩
      · obtain rfl := Option.some.inj h
        exact ⟨hkeep _ _ hne, rfl⟩
      · obtain rfl := Option.some.inj h
        exact ⟨hkeep _ _ hne, rfl⟩

/-- **ONE STEP** of the thread: what its program does is what the step did, and
    then what the rest of the program does. -/
theorem ops_step {met : Nat → S} (h : step program enter c (.go t) = some c')
    (hmet : ∀ s ∈ (c.code t).firstLook c.shared, met 0 = s) :
    (c.code t).ops met (c.loc t)
      = (c.code t).firstOp (c.loc t)
        ++ (c'.code t).ops (fun i => met (i + ((c.code t).firstLook c.shared).length))
            (c'.loc t) := by
  rw [step] at h
  split at h
  · cases h
  · rename_i m k hcode
    obtain ⟨l, -, rfl⟩ := Option.map_eq_some_iff.mp h
    simp [hcode, Code.ops, Code.firstOp, Code.firstLook, Config.proceed]
  · rename_i m k hcode
    obtain rfl := Option.some.inj h
    simp [hcode, Code.ops, Code.firstOp, Code.firstLook, Config.proceed]
  · rename_i f k hcode
    obtain rfl := Option.some.inj h
    have hhere : met 0 = c.shared := hmet c.shared (by rw [hcode]; exact List.mem_singleton_self _)
    simp [hcode, Code.ops, Code.firstOp, Code.firstLook, Config.proceed, hhere]
  · rename_i p yes no hcode
    obtain rfl := Option.some.inj h
    have hhere : met 0 = c.shared := hmet c.shared (by rw [hcode]; exact List.mem_singleton_self _)
    simp only [hcode, Code.ops, Code.firstOp, Code.firstLook, Config.proceed, hhere,
      Function.update_self, List.nil_append, List.length_singleton]
    split <;> rfl
  · rename_i p k hcode
    obtain rfl := Option.some.inj h
    simp [hcode, Code.ops, Code.firstOp, Code.firstLook, Config.proceed]

/-- **THE THREAD'S PROGRAM**: a thread that returns in a run has done to the
    mutexes what its program does over the states that it met. -/
theorem lockOps_eq_ops : ∀ (events : List (Event T P)) {c c' : Config T M S L} {met : Nat → S},
    run (step program enter) c events = some c' → NotCalled t events → c'.code t = .ret →
    (∀ (i : Nat) s, (looks program enter t c events)[i]? = some s → met i = s) →
    lockOps program enter t c events = (c.code t).ops met (c.loc t) := by
  intro events
  induction events with
  | nil =>
      intro c c' met hrun _ hret _
      obtain rfl := Option.some.inj hrun
      rw [hret]
      rfl
  | cons e rest ih =>
      intro c c' met hrun hown hret hmet
      obtain ⟨c₁, hstep, hrest⟩ := run_cons_eq_some hrun
      have hown' : NotCalled t rest := fun p hp => hown p (List.mem_cons_of_mem e hp)
      rw [looks, notes_cons hstep] at hmet
      rw [lockOps, notes_cons hstep]
      by_cases hgo : e = .go t
      · subst hgo
        have hop : lockOpAt (P := P) t c (.go t) = (c.code t).firstOp (c.loc t) := if_pos rfl
        have hlook : lookAt (P := P) t c (.go t) = (c.code t).firstLook c.shared := if_pos rfl
        rw [hlook] at hmet
        rw [hop, @ops_step T M S L P _ _ program enter t c c₁ met hstep, ← ih hrest hown' hret]
        · rfl
        · intro i s hi
          refine hmet _ s ?_
          rw [List.getElem?_append_right (Nat.le_add_left ..), Nat.add_sub_cancel]
          exact hi
        · intro s hs
          exact hmet 0 s (by rw [firstLook_of_mem hs]; rfl)
      · have hcall : ∀ p, e ≠ .call t p := fun p heq => hown p (heq ▸ List.mem_cons_self)
        obtain ⟨hcode, hloc⟩ := thread_of_other hstep hgo hcall
        have hop : lockOpAt t c e = ([] : List (LockOp M)) ∧ lookAt t c e = ([] : List S) := by
          cases e with
          | call u p => exact ⟨rfl, rfl⟩
          | go u =>
              have hne : u ≠ t := fun heq => hgo (heq ▸ rfl)
              exact ⟨if_neg hne, if_neg hne⟩
        rw [hop.2] at hmet
        rw [hop.1, ← hcode, ← hloc]
        exact ih hrest hown' hret hmet

/-- A call that a thread makes, and returns from. -/
theorem lockOps_call {p : P} {events : List (Event T P)} {met : Nat → S}
    (hrun : run (step program enter) c (.call t p :: events) = some c') (hown : NotCalled t events)
    (hret : c'.code t = .ret)
    (hmet : ∀ (i : Nat) s, (looks program enter t c (.call t p :: events))[i]? = some s →
      met i = s) :
    lockOps program enter t c (.call t p :: events) = (program p).ops met enter := by
  obtain ⟨c₁, hstep, hrest⟩ := run_cons_eq_some hrun
  rw [looks, notes_cons hstep] at hmet
  rw [lockOps, notes_cons hstep]
  have hcalled : c₁.code t = program p ∧ c₁.loc t = enter := by
    rw [step] at hstep
    split at hstep
    · obtain rfl := Option.some.inj hstep
      exact ⟨Function.update_self .., Function.update_self ..⟩
    · cases hstep
  have hops := lockOps_eq_ops events hrest hown hret hmet
  rw [hcalled.1, hcalled.2] at hops
  exact hops

end Thread

end Guarded

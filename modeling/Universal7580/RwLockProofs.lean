import Mathlib.Data.List.Basic

/-! # Read-write locks

    A read-write lock as the list of the threads that hold it, each with the
    mode it holds it in.  Any number of threads may read together, a thread that
    writes is alone: the structure carries this as a field, so a lock shared
    between a writer and anybody else cannot be built.

    `acquire` is the moment the lock is granted (`none` while it is not), and
    `release` gives it back.  A mutex is a lock that is only ever taken with
    `Mode.write`. -/

namespace RwLock

/-- How a lock is held: together with other readers, or alone. -/
inductive Mode where
  | read
  | write
  deriving DecidableEq, Repr

variable {τ : Type}

/-- A lock with its holders.  A writer has no company. -/
structure Lock (τ : Type) where
  holders : List (τ × Mode)
  alone : ∀ t, (t, Mode.write) ∈ holders → ∀ p ∈ holders, p = (t, Mode.write)

/-- A lock nobody holds. -/
def free : Lock τ where
  holders := []
  alone := fun _ h => absurd h List.not_mem_nil

/-- A read lock is granted while nobody writes, a write lock while nobody holds
    the lock. -/
def Lock.grants (l : Lock τ) : Mode → Bool
  | .read => l.holders.all fun p => p.2 == .read
  | .write => l.holders.isEmpty

theorem Lock.alone_acquire {l : Lock τ} {m : Mode} (h : l.grants m = true) (t : τ) :
    ∀ u, (u, Mode.write) ∈ (t, m) :: l.holders →
      ∀ p ∈ (t, m) :: l.holders, p = (u, Mode.write) := by
  intro u hu p hp
  cases m with
  | read =>
      -- every holder reads, the new one too, so there is no writer to ask about
      rcases List.mem_cons.mp hu with heq | hmem
      · exact nomatch congrArg Prod.snd heq
      · have hread := List.all_eq_true.mp h _ hmem
        exact nomatch hread
  | write =>
      have hnil : l.holders = [] := List.isEmpty_iff.mp h
      rw [hnil] at hu hp
      rw [List.mem_singleton.mp hp, List.mem_singleton.mp hu]

/-- The thread gets the lock, if it can have it now. -/
def Lock.acquire (l : Lock τ) (t : τ) (m : Mode) : Option (Lock τ) :=
  if h : l.grants m = true then
    some { holders := (t, m) :: l.holders, alone := Lock.alone_acquire h t }
  else
    none

/-- `t` holds the lock in mode `m`. -/
def Lock.HeldBy (l : Lock τ) (t : τ) (m : Mode) : Prop := (t, m) ∈ l.holders

theorem acquire_holders {l l' : Lock τ} {t : τ} {m : Mode} (h : l.acquire t m = some l') :
    l'.holders = (t, m) :: l.holders := by
  rw [Lock.acquire] at h
  split at h
  · exact (Option.some.inj h) ▸ rfl
  · exact nomatch h

/-- After a grant the lock is held as before, and by the new holder. -/
theorem heldBy_acquire {l l' : Lock τ} {t u : τ} {m n : Mode} (h : l.acquire t m = some l') :
    l'.HeldBy u n ↔ (u = t ∧ n = m) ∨ l.HeldBy u n := by
  rw [Lock.HeldBy, acquire_holders h, List.mem_cons, Prod.mk.injEq]
  exact Iff.rfl

/-- **EXCLUSION**: whoever holds a lock that a thread writes under is that
    thread. -/
theorem eq_of_heldBy_write {l : Lock τ} {t u : τ} {m : Mode}
    (hw : l.HeldBy t Mode.write) (h : l.HeldBy u m) : u = t :=
  congrArg Prod.fst (l.alone t hw (u, m) h)

variable [DecidableEq τ]

/-- The thread gives the lock back. -/
def Lock.release (l : Lock τ) (t : τ) : Lock τ where
  holders := l.holders.filter fun p => p.1 ≠ t
  alone := fun u hu p hp =>
    l.alone u (List.mem_of_mem_filter hu) p (List.mem_of_mem_filter hp)

/-- After a release the others hold the lock as before. -/
theorem heldBy_release {l : Lock τ} {t u : τ} {n : Mode} :
    (l.release t).HeldBy u n ↔ u ≠ t ∧ l.HeldBy u n := by
  simp [Lock.HeldBy, Lock.release, and_comm]

end RwLock

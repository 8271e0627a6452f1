import Mathlib.Data.List.Nodup
import Mathlib.Data.List.Count

/-! # Cells that are created, used and released

    A store that hands out numbered cells.  It takes note of every release, and
    of whether a cell was used or released after its release.

    Which cells somebody answers for is a predicate `owns` of the program over
    the store.  `Proper` says that these are exactly the cells that are live;
    creating a cell, using one that is owned and releasing one that is owned
    keep it.  In a proper store no cell was misused, and every cell that nobody
    owns any more was released exactly once (`Proper.count_eq_one`). -/

namespace Lifetime

/-- The cells `0, …, created - 1` exist. -/
structure Cells where
  created : Nat
  released : List Nat
  misused : Bool
  deriving DecidableEq, Repr

def Cells.empty : Cells := { created := 0, released := [], misused := false }

/-- Reading or writing a cell. -/
def Cells.use (c : Cells) (r : Nat) : Cells :=
  { c with misused := c.misused || c.released.contains r }

def Cells.release (c : Cells) (r : Nat) : Cells :=
  { c.use r with released := r :: c.released }

def Cells.create (c : Cells) : Cells := { c with created := c.created + 1 }

def Cells.Live (c : Cells) (r : Nat) : Prop := r < c.created ∧ r ∉ c.released

/-- **PROPER**: the live cells are the ones that somebody owns. -/
structure Proper (c : Cells) (owns : Nat → Prop) : Prop where
  unmisused : c.misused = false
  once : c.released.Nodup
  exist : ∀ r ∈ c.released, r < c.created
  live : ∀ r, owns r ↔ c.Live r

section Rules

variable {c : Cells} {owns owns' : Nat → Prop} {r : Nat}

theorem proper_empty (h : ∀ r, ¬ owns r) : Proper Cells.empty owns where
  unmisused := rfl
  once := List.nodup_nil
  exist := fun _ hr => nomatch hr
  live := fun r => ⟨fun hr => absurd hr (h r), fun hr => absurd hr.1 (Nat.not_lt_zero r)⟩

theorem proper_congr (h : Proper c owns) (howns : ∀ q, owns' q ↔ owns q) : Proper c owns' :=
  { h with live := fun q => (howns q).trans (h.live q) }

/-- An owned cell can be used. -/
theorem use_of_owned (h : Proper c owns) (hr : owns r) : c.use r = c := by
  have hlive : c.released.contains r = false := by
    rw [List.contains_eq_mem, decide_eq_false_iff_not]
    exact ((h.live r).mp hr).2
  rw [Cells.use, hlive, Bool.or_false]

/-- Releasing a cell ends its ownership. -/
theorem proper_release (h : Proper c owns) (hr : owns r)
    (howns : ∀ q, owns' q ↔ owns q ∧ q ≠ r) : Proper (c.release r) owns' := by
  rw [Cells.release, use_of_owned h hr]
  obtain ⟨hlt, hfresh⟩ := (h.live r).mp hr
  refine ⟨h.unmisused, List.nodup_cons.mpr ⟨hfresh, h.once⟩, ?_, fun q => ?_⟩
  · intro q hq
    obtain rfl | hq := List.mem_cons.mp hq
    · exact hlt
    · exact h.exist q hq
  · rw [howns, h.live]
    simp only [Cells.Live, List.mem_cons, not_or]
    exact ⟨fun hq => ⟨hq.1.1, hq.2, hq.1.2⟩, fun hq => ⟨⟨hq.1, hq.2.2⟩, hq.2.1⟩⟩

/-- A new cell is owned from the start. -/
theorem proper_create (h : Proper c owns) (howns : ∀ q, owns' q ↔ owns q ∨ q = c.created) :
    Proper c.create owns' := by
  refine ⟨h.unmisused, h.once, fun q hq => Nat.lt_succ_of_lt (h.exist q hq), fun q => ?_⟩
  rw [howns, h.live]
  constructor
  · rintro (⟨hlt, hlive⟩ | rfl)
    · exact ⟨Nat.lt_succ_of_lt hlt, hlive⟩
    · exact ⟨Nat.lt_succ_self _, fun hmem => absurd (h.exist _ hmem) (Nat.lt_irrefl _)⟩
  · rintro ⟨hlt, hlive⟩
    obtain hlt | rfl := Nat.lt_succ_iff_lt_or_eq.mp hlt
    · exact .inl ⟨hlt, hlive⟩
    · exact .inr rfl

/-- Cells for themselves, whoever owned them. -/
theorem proper_self (h : Proper c owns) : Proper c c.Live :=
  proper_congr h fun q => (h.live q).symm

theorem Proper.lt_created (h : Proper c owns) (hr : owns r) : r < c.created :=
  ((h.live r).mp hr).1

theorem Proper.count_le_one (h : Proper c owns) (r : Nat) : c.released.count r ≤ 1 :=
  List.nodup_iff_count_le_one.mp h.once r

/-- **RELEASED EXACTLY ONCE**, as soon as nobody owns it. -/
theorem Proper.count_eq_one (h : Proper c owns) (hlt : r < c.created) (hr : ¬ owns r) :
    c.released.count r = 1 := by
  have hmem : r ∈ c.released := by
    by_contra hlive
    exact hr ((h.live r).mpr ⟨hlt, hlive⟩)
  exact List.count_eq_one_of_mem h.once hmem

end Rules

section Lists

variable {c : Cells} {rs rs' : List Nat} {r : Nat}

theorem proper_perm (h : Proper c (· ∈ rs)) (hperm : rs.Perm rs') : Proper c (· ∈ rs') :=
  proper_congr h fun _ => hperm.symm.mem_iff

theorem proper_fresh (h : Proper c (· ∈ rs)) : c.created ∉ rs :=
  fun hmem => Nat.lt_irrefl _ (h.lt_created hmem)

theorem proper_create_cons (h : Proper c (· ∈ rs)) : Proper c.create (· ∈ c.created :: rs) :=
  proper_create h fun _ => List.mem_cons.trans or_comm

theorem proper_release_cons (h : Proper c (· ∈ r :: rs)) (hr : r ∉ rs) :
    Proper (c.release r) (· ∈ rs) := by
  refine proper_release h List.mem_cons_self ?_
  intro q
  rw [List.mem_cons]
  constructor
  · intro hq
    exact ⟨Or.inr hq, fun heq => hr (heq ▸ hq)⟩
  · rintro ⟨hq | hq, hne⟩
    · exact absurd hq hne
    · exact hq

/-- **EVERY CELL** is owned or was released. -/
theorem created_eq_length (h : Proper c (· ∈ rs)) (hrs : rs.Nodup) :
    c.created = c.released.length + rs.length := by
  have hapart : ∀ q ∈ c.released, q ∉ rs := fun q hq hmem => ((h.live q).mp hmem).2 hq
  have hnodup : (c.released ++ rs).Nodup :=
    List.nodup_append.mpr ⟨h.once, hrs, fun q hq q' hq' heq => hapart q hq (heq ▸ hq')⟩
  have hperm : (c.released ++ rs).Perm (List.range c.created) := by
    rw [List.perm_ext_iff_of_nodup hnodup List.nodup_range]
    intro q
    rw [List.mem_append, List.mem_range]
    constructor
    · rintro (hq | hq)
      · exact h.exist q hq
      · exact h.lt_created hq
    · intro hq
      by_cases hrel : q ∈ c.released
      · exact .inl hrel
      · exact .inr ((h.live q).mpr ⟨hq, hrel⟩)
  rw [← List.length_append, hperm.length_eq, List.length_range]

end Lists

end Lifetime

import Universal7580.LifetimeProofs
import Mathlib.Logic.Function.Basic

/-! # Blocks that are kept in slots

    A routine that allocates keeps the pointers it gets in slots: variables,
    members of a structure, elements of an array that was allocated too.  When it
    gives up, or is done, it frees a list of slots.

    `Owns` says which slots hold the blocks that the routine has to free; other
    blocks belong to others.  `Orderly` is what a list of slots must be like so
    that freeing it is right: no slot twice, and no slot after the array it is in.
    Freeing an orderly list takes just its slots away (`owns_freeAll`). -/

namespace OwnedSlots

open Lifetime

variable {κ : Type}

/-- The heap, and what the slots hold; `none` is a `NULL` pointer. -/
structure Mem (κ : Type) where
  cells : Cells := Cells.empty
  ptr : κ → Option Nat := fun _ => none

-- ── What a routine does ───────────────────────────────────────────────────

section Operations

variable (home : κ → Option κ)

/-- Going to a slot: one with a home is in the block that its home holds. -/
def Mem.visit (m : Mem κ) (k : κ) : Mem κ :=
  match home k with
  | none => m
  | some a =>
      match m.ptr a with
      | none => { m with cells := { m.cells with misused := true } }
      | some r => { m with cells := m.cells.use r }

/-- `free`, which does nothing to a `NULL` pointer; the slot keeps its pointer. -/
def Mem.free (m : Mem κ) (k : κ) : Mem κ :=
  let m := m.visit home k
  match m.ptr k with
  | none => m
  | some r => { m with cells := m.cells.release r }

def Mem.freeAll (m : Mem κ) (l : List κ) : Mem κ := l.foldl (Mem.free home) m

/-- Somebody looks at the block behind a slot. -/
def Mem.read (m : Mem κ) (k : κ) : Mem κ :=
  let m := m.visit home k
  match m.ptr k with
  | none => m
  | some r => { m with cells := m.cells.use r }

def Mem.readAll (m : Mem κ) (l : List κ) : Mem κ := l.foldl (Mem.read home) m

variable [DecidableEq κ]

/-- Storing a pointer. -/
def Mem.put (m : Mem κ) (k : κ) (p : Option Nat) : Mem κ :=
  { m.visit home k with ptr := Function.update m.ptr k p }

/-- A new block. -/
def Mem.calloc (m : Mem κ) (k : κ) : Mem κ :=
  let m := m.put home k (some m.cells.created)
  { m with cells := m.cells.create }

end Operations

-- ── What a routine owns ───────────────────────────────────────────────────

section Ownership

variable {home : κ → Option κ}

/-- **OWNS**: the live blocks are the ones in the slots `ks`, each in one of them,
    and those of others; an owned slot is in an array that is owned, and an owned
    array is there. -/
structure Owns (home : κ → Option κ) (others : Nat → Prop) (m : Mem κ) (ks : List κ) : Prop where
  proper : Proper m.cells (fun r => others r ∨ ∃ k ∈ ks, m.ptr k = some r)
  mine : ∀ k ∈ ks, ∀ r, m.ptr k = some r → ¬others r
  apart : ∀ k ∈ ks, ∀ k' ∈ ks, ∀ r, m.ptr k = some r → m.ptr k' = some r → k = k'
  housed : ∀ k ∈ ks, ∀ a, home k = some a → a ∈ ks
  stands : ∀ k, ∀ a ∈ ks, home k = some a → (m.ptr a).isSome = true

variable {others : Nat → Prop} {m : Mem κ} {ks l : List κ} {k : κ}

theorem owns_start {c : Cells} (h : Proper c others) :
    Owns home others { cells := c, ptr := fun _ => none } [] where
  proper := by
    refine proper_congr h fun r => ⟨?_, .inl⟩
    rintro (hr | ⟨k, hk, -⟩)
    · exact hr
    · cases hk
  mine := fun _ hk => by cases hk
  apart := fun _ hk => by cases hk
  housed := fun _ hk => by cases hk
  stands := fun _ _ ha => by cases ha

/-- A routine that owns nothing leaves the heap to the others. -/
theorem proper_of_owns_nil (h : Owns home others m []) : Proper m.cells others := by
  refine proper_congr h.proper fun r => ⟨.inl, ?_⟩
  rintro (hr | ⟨k, hk, -⟩)
  · exact hr
  · cases hk

/-- Going to a slot that has no home, or an owned one, misuses nothing. -/
theorem visit_eq (h : Owns home others m ks) (hhome : ∀ a, home k = some a → a ∈ ks) :
    m.visit home k = m := by
  rw [Mem.visit]
  cases hk : home k with
  | none => rfl
  | some a =>
      have ha := hhome a hk
      obtain ⟨r, hr⟩ := Option.isSome_iff_exists.mp (h.stands k a ha hk)
      dsimp only
      rw [hr]
      dsimp only
      rw [use_of_owned h.proper (.inr ⟨a, ha, hr⟩)]

/-- A slot that holds nothing can be counted among the owned ones. -/
theorem owns_cons_null (h : Owns home others m ks) (hnull : m.ptr k = none)
    (hhome : ∀ a, home k = some a → a ∈ ks) (hleaf : ∀ k', home k' ≠ some k) :
    Owns home others m (k :: ks) where
  proper := by
    refine proper_congr h.proper fun r => or_congr Iff.rfl ?_
    constructor
    · rintro ⟨k', hk', hr⟩
      obtain rfl | hk' := List.mem_cons.mp hk'
      · rw [hnull] at hr
        cases hr
      · exact ⟨k', hk', hr⟩
    · rintro ⟨k', hk', hr⟩
      exact ⟨k', List.mem_cons_of_mem k hk', hr⟩
  mine := by
    intro k' hk' r hr
    obtain rfl | hk' := List.mem_cons.mp hk'
    · rw [hnull] at hr
      cases hr
    · exact h.mine k' hk' r hr
  apart := by
    intro k₁ hk₁ k₂ hk₂ r hr₁ hr₂
    obtain rfl | hk₁ := List.mem_cons.mp hk₁
    · rw [hnull] at hr₁
      cases hr₁
    obtain rfl | hk₂ := List.mem_cons.mp hk₂
    · rw [hnull] at hr₂
      cases hr₂
    · exact h.apart k₁ hk₁ k₂ hk₂ r hr₁ hr₂
  housed := by
    intro k' hk' a ha
    obtain rfl | hk' := List.mem_cons.mp hk'
    · exact List.mem_cons_of_mem _ (hhome a ha)
    · exact List.mem_cons_of_mem k (h.housed k' hk' a ha)
  stands := by
    intro k' a ha hk'
    obtain rfl | ha := List.mem_cons.mp ha
    · exact absurd hk' (hleaf k')
    · exact h.stands k' a ha hk'

theorem free_ptr (m : Mem κ) (k : κ) : (m.free home k).ptr = m.ptr := by
  have hvisit : (m.visit home k).ptr = m.ptr := by
    rw [Mem.visit]
    split
    · rfl
    · split <;> rfl
  rw [Mem.free]
  split <;> exact hvisit

theorem visit_created (m : Mem κ) (k : κ) :
    (m.visit home k).cells.created = m.cells.created := by
  rw [Mem.visit]
  split
  · rfl
  · split <;> rfl

theorem free_created (m : Mem κ) (k : κ) : (m.free home k).cells.created = m.cells.created := by
  rw [Mem.free]
  split
  · exact visit_created m k
  · exact visit_created m k

/-- Freeing makes no new block. -/
@[simp] theorem freeAll_created (l : List κ) : ∀ m : Mem κ,
    (m.freeAll home l).cells.created = m.cells.created := by
  induction l with
  | nil => exact fun _ => rfl
  | cons k l ih =>
      intro m
      rw [Mem.freeAll, List.foldl_cons]
      exact (ih (m.free home k)).trans (free_created m k)

/-- Looking at blocks that are there changes nothing. -/
theorem readAll_eq (h : Owns home others m ks) :
    ∀ l : List κ, (∀ k ∈ l, k ∈ ks ∨ m.ptr k = none ∧ ∀ a, home k = some a → a ∈ ks) →
      m.readAll home l = m := by
  intro l
  induction l with
  | nil => exact fun _ => rfl
  | cons k l ih =>
      intro hall
      have hhome : ∀ a, home k = some a → a ∈ ks := by
        rcases hall k List.mem_cons_self with hk | hk
        · exact h.housed k hk
        · exact hk.2
      have hone : m.read home k = m := by
        rw [Mem.read, visit_eq h hhome]
        split
        · rfl
        · rename_i r hr
          rcases hall k List.mem_cons_self with hk | hk
          · rw [use_of_owned h.proper (.inr ⟨k, hk, hr⟩)]
          · rw [hk.1] at hr
            cases hr
      rw [Mem.readAll, List.foldl_cons, hone]
      exact ih fun k' hk' => hall k' (List.mem_cons_of_mem k hk')

variable [DecidableEq κ]

/-- Storing `NULL` where there was `NULL`. -/
theorem put_none (h : Owns home others m ks) (hnull : m.ptr k = none)
    (hhome : ∀ a, home k = some a → a ∈ ks) : m.put home k none = m := by
  rw [Mem.put, visit_eq h hhome, ← hnull, Function.update_eq_self]

@[simp] theorem put_created (m : Mem κ) (k : κ) (p : Option Nat) :
    (m.put home k p).cells.created = m.cells.created := visit_created m k

@[simp] theorem calloc_created (m : Mem κ) (k : κ) :
    (m.calloc home k).cells.created = m.cells.created + 1 := by
  show (m.visit home k).cells.created + 1 = _
  rw [visit_created]

theorem calloc_ptr (m : Mem κ) (k : κ) :
    (m.calloc home k).ptr = Function.update m.ptr k (some m.cells.created) := rfl

theorem calloc_ptr_of_ne {k' : κ} (hne : k' ≠ k) : (m.calloc home k).ptr k' = m.ptr k' :=
  Function.update_of_ne hne _ _

theorem calloc_ptr_self : (m.calloc home k).ptr k = some m.cells.created :=
  Function.update_self _ _ _

/-- A new block is owned by the slot it is stored in. -/
theorem owns_calloc (h : Owns home others m ks) (hk : k ∉ ks)
    (hhome : ∀ a, home k = some a → a ∈ ks) : Owns home others (m.calloc home k) (k :: ks) := by
  have hcells : (m.calloc home k).cells = m.cells.create := by
    rw [Mem.calloc, Mem.put, visit_eq h hhome]
  have hne : ∀ k' ∈ ks, k' ≠ k := fun k' hk' heq => hk (heq ▸ hk')
  have hold : ∀ k' ∈ ks, (m.calloc home k).ptr k' = m.ptr k' :=
    fun k' hk' => calloc_ptr_of_ne (hne k' hk')
  have hfresh : ∀ r, (others r ∨ ∃ k' ∈ ks, m.ptr k' = some r) → r ≠ m.cells.created :=
    fun r hr heq => Nat.lt_irrefl _ (heq ▸ h.proper.lt_created hr)
  refine ⟨?_, ?_, ?_, ?_, ?_⟩
  · rw [hcells]
    refine proper_create h.proper fun r => ?_
    constructor
    · rintro (hr | ⟨k', hk', hr⟩)
      · exact .inl (.inl hr)
      obtain rfl | hk' := List.mem_cons.mp hk'
      · rw [calloc_ptr_self] at hr
        exact .inr (Option.some.inj hr).symm
      · exact .inl (.inr ⟨k', hk', hold k' hk' ▸ hr⟩)
    · rintro ((hr | ⟨k', hk', hr⟩) | rfl)
      · exact .inl hr
      · exact .inr ⟨k', List.mem_cons_of_mem k hk', (hold k' hk').trans hr⟩
      · exact .inr ⟨k, List.mem_cons_self, calloc_ptr_self⟩
  · intro k' hk' r hr hother
    obtain rfl | hk' := List.mem_cons.mp hk'
    · rw [calloc_ptr_self] at hr
      exact hfresh r (.inl hother) (Option.some.inj hr).symm
    · exact h.mine k' hk' r (hold k' hk' ▸ hr) hother
  · intro k₁ hk₁ k₂ hk₂ r hr₁ hr₂
    rcases List.mem_cons.mp hk₁ with heq₁ | hold₁ <;> rcases List.mem_cons.mp hk₂ with heq₂ | hold₂
    · exact heq₁.trans heq₂.symm
    · rw [heq₁, calloc_ptr_self] at hr₁
      rw [hold k₂ hold₂] at hr₂
      exact absurd (Option.some.inj hr₁).symm (hfresh r (.inr ⟨k₂, hold₂, hr₂⟩))
    · rw [heq₂, calloc_ptr_self] at hr₂
      rw [hold k₁ hold₁] at hr₁
      exact absurd (Option.some.inj hr₂).symm (hfresh r (.inr ⟨k₁, hold₁, hr₁⟩))
    · rw [hold k₁ hold₁] at hr₁
      rw [hold k₂ hold₂] at hr₂
      exact h.apart k₁ hold₁ k₂ hold₂ r hr₁ hr₂
  · intro k' hk' a ha
    obtain rfl | hk' := List.mem_cons.mp hk'
    · exact List.mem_cons_of_mem _ (hhome a ha)
    · exact List.mem_cons_of_mem k (h.housed k' hk' a ha)
  · intro k' a ha hk'
    obtain rfl | ha := List.mem_cons.mp ha
    · rw [calloc_ptr_self]
      rfl
    · rw [hold a ha]
      exact h.stands k' a ha hk'

/-- A new block that nobody is going to free. -/
theorem owns_leak (h : Owns home others m ks) (hk : k ∉ ks)
    (hhome : ∀ a, home k = some a → a ∈ ks) :
    Owns home (fun r => others r ∨ r = m.cells.created) (m.calloc home k) ks := by
  have hcells : (m.calloc home k).cells = m.cells.create := by
    rw [Mem.calloc, Mem.put, visit_eq h hhome]
  have hold : ∀ k' ∈ ks, (m.calloc home k).ptr k' = m.ptr k' :=
    fun k' hk' => calloc_ptr_of_ne fun heq => hk (heq ▸ hk')
  refine ⟨?_, ?_, ?_, h.housed, ?_⟩
  · rw [hcells]
    refine proper_create h.proper fun r => ?_
    rw [or_right_comm]
    refine or_congr_left (or_congr Iff.rfl ⟨?_, ?_⟩)
    · rintro ⟨k', hk', hr⟩
      exact ⟨k', hk', hold k' hk' ▸ hr⟩
    · rintro ⟨k', hk', hr⟩
      exact ⟨k', hk', (hold k' hk').trans hr⟩
  · intro k' hk' r hr
    rw [hold k' hk'] at hr
    rintro (hother | rfl)
    · exact h.mine k' hk' r hr hother
    · exact Nat.lt_irrefl _ (h.proper.lt_created (.inr ⟨k', hk', hr⟩))
  · intro k₁ hk₁ k₂ hk₂ r hr₁ hr₂
    rw [hold k₁ hk₁] at hr₁
    rw [hold k₂ hk₂] at hr₂
    exact h.apart k₁ hk₁ k₂ hk₂ r hr₁ hr₂
  · intro k' a ha hk'
    rw [hold a ha]
    exact h.stands k' a ha hk'

end Ownership

-- ── Freeing a list of slots ───────────────────────────────────────────────

section Freeing

variable [DecidableEq κ] {home : κ → Option κ} {others : Nat → Prop} {m : Mem κ}
  {ks l l' : List κ} {k : κ}

/-- **ORDERLY**: no slot is freed twice; when its turn comes the array it is in is
    still there, and if it is an array itself there is nothing left in it. -/
def Orderly (home : κ → Option κ) : List κ → List κ → Prop
  | _, [] => True
  | ks, k :: l =>
      (∀ a ∈ home k, a ∈ ks) ∧ (∀ k' ∈ ks, home k' ≠ some k) ∧ k ∉ l
        ∧ Orderly home (ks.filter (· ≠ k)) l

instance decidableOrderly : ∀ ks l : List κ, Decidable (Orderly home ks l)
  | _, [] => isTrue trivial
  | ks, k :: l =>
      have := decidableOrderly (ks.filter (· ≠ k)) l
      inferInstanceAs (Decidable ((∀ a ∈ home k, a ∈ ks) ∧ (∀ k' ∈ ks, home k' ≠ some k)
        ∧ k ∉ l ∧ Orderly home (ks.filter (· ≠ k)) l))

/-- Freeing one slot takes it away. -/
theorem owns_free (h : Owns home others m ks) (hhome : ∀ a, home k = some a → a ∈ ks)
    (hempty : ∀ k' ∈ ks, home k' ≠ some k) (hnull : k ∉ ks → m.ptr k = none) :
    Owns home others (m.free home k) (ks.filter (· ≠ k)) := by
  have hptr : (m.free home k).ptr = m.ptr := free_ptr m k
  have hmem : ∀ {k' : κ}, k' ∈ ks.filter (· ≠ k) ↔ k' ∈ ks ∧ k' ≠ k := by
    intro k'
    rw [List.mem_filter, decide_eq_true_iff]
  refine ⟨?_, ?_, ?_, ?_, ?_⟩
  · rw [hptr, Mem.free, visit_eq h hhome]
    split
    · rename_i hk
      refine proper_congr h.proper fun r => or_congr Iff.rfl ⟨?_, ?_⟩
      · rintro ⟨k', hk', hr⟩
        exact ⟨k', (hmem.mp hk').1, hr⟩
      · rintro ⟨k', hk', hr⟩
        refine ⟨k', hmem.mpr ⟨hk', ?_⟩, hr⟩
        rintro rfl
        rw [hk] at hr
        cases hr
    · rename_i r hk
      have hown : k ∈ ks := by
        by_contra hnot
        rw [hnull hnot] at hk
        cases hk
      refine proper_release h.proper (.inr ⟨k, hown, hk⟩) fun q => ⟨?_, ?_⟩
      · rintro (hq | ⟨k', hk', hq⟩)
        · refine ⟨.inl hq, ?_⟩
          rintro rfl
          exact h.mine k hown q hk hq
        · obtain ⟨hin, hne⟩ := hmem.mp hk'
          refine ⟨.inr ⟨k', hin, hq⟩, ?_⟩
          rintro rfl
          exact hne (h.apart k' hin k hown q hq hk)
      · rintro ⟨hq | ⟨k', hk', hq⟩, hne⟩
        · exact .inl hq
        · refine .inr ⟨k', hmem.mpr ⟨hk', ?_⟩, hq⟩
          rintro rfl
          exact hne (Option.some.inj (hq.symm.trans hk))
  · intro k' hk' r hr
    rw [hptr] at hr
    exact h.mine k' (hmem.mp hk').1 r hr
  · intro k₁ hk₁ k₂ hk₂ r hr₁ hr₂
    rw [hptr] at hr₁ hr₂
    exact h.apart k₁ (hmem.mp hk₁).1 k₂ (hmem.mp hk₂).1 r hr₁ hr₂
  · intro k' hk' a ha
    obtain ⟨hin, -⟩ := hmem.mp hk'
    refine hmem.mpr ⟨h.housed k' hin a ha, ?_⟩
    rintro rfl
    exact hempty k' hin ha
  · intro k' a ha hk'
    rw [hptr]
    exact h.stands k' a (hmem.mp ha).1 hk'

theorem filter_ne_filter_notMem (ks : List κ) (k : κ) (l : List κ) :
    (ks.filter (· ≠ k)).filter (· ∉ l) = ks.filter (· ∉ k :: l) := by
  rw [List.filter_filter]
  refine List.filter_congr fun x _ => ?_
  simp [not_or, Bool.and_comm]

/-- **FREEING** an orderly list takes just its slots away. -/
theorem owns_freeAll : ∀ (l : List κ) {m : Mem κ} {ks : List κ}, Owns home others m ks →
    Orderly home ks l → (∀ k ∈ l, k ∉ ks → m.ptr k = none) →
    Owns home others (m.freeAll home l) (ks.filter (· ∉ l)) := by
  intro l
  induction l with
  | nil =>
      intro m ks h _ _
      rw [Mem.freeAll, List.foldl_nil]
      simpa using h
  | cons k l ih =>
      intro m ks h ho hnull
      obtain ⟨hhome, hempty, hnew, hrest⟩ := ho
      have hone := owns_free h (fun a ha => hhome a ha) hempty (hnull k List.mem_cons_self)
      rw [Mem.freeAll, List.foldl_cons, ← filter_ne_filter_notMem]
      refine ih hone hrest ?_
      intro k' hk' hnot
      rw [free_ptr]
      refine hnull k' (List.mem_cons_of_mem k hk') fun hin => hnot ?_
      rw [List.mem_filter, decide_eq_true_iff]
      refine ⟨hin, ?_⟩
      rintro rfl
      exact hnew hk'

-- ── Lists that are orderly ────────────────────────────────────────────────

theorem orderly_append : ∀ (l : List κ) {ks : List κ}, Orderly home ks l →
    (∀ k ∈ l, k ∉ l') → Orderly home (ks.filter (· ∉ l)) l' → Orderly home ks (l ++ l') := by
  intro l
  induction l with
  | nil =>
      intro ks _ _ h
      simpa using h
  | cons k l ih =>
      intro ks h hapart hrest
      obtain ⟨hhome, hempty, hnew, hl⟩ := h
      refine ⟨hhome, hempty, ?_, ih hl (fun k' hk' => hapart k' (List.mem_cons_of_mem k hk')) ?_⟩
      · show k ∉ l ++ l'
        rw [List.mem_append, not_or]
        exact ⟨hnew, hapart k List.mem_cons_self⟩
      · rw [filter_ne_filter_notMem]
        exact hrest

/-- Slots that are no arrays can be freed in any order, once each. -/
theorem orderly_leaves : ∀ (l : List κ) {ks : List κ}, l.Nodup →
    (∀ k ∈ l, ∀ k', home k' ≠ some k) → (∀ k ∈ l, ∀ a, home k = some a → a ∈ ks) →
    Orderly home ks l := by
  intro l
  induction l with
  | nil => exact fun _ _ _ => trivial
  | cons k l ih =>
      intro ks hnodup hleaf hhome
      obtain ⟨hnew, hl⟩ := List.nodup_cons.mp hnodup
      refine ⟨fun a ha => hhome k List.mem_cons_self a ha,
        fun k' _ => hleaf k List.mem_cons_self k', hnew,
        ih hl (fun k' hk' => hleaf k' (List.mem_cons_of_mem k hk')) ?_⟩
      intro k' hk' a ha
      rw [List.mem_filter, decide_eq_true_iff]
      refine ⟨hhome k' (List.mem_cons_of_mem k hk') a ha, ?_⟩
      rintro rfl
      exact hleaf a List.mem_cons_self k' ha

end Freeing

end OwnedSlots

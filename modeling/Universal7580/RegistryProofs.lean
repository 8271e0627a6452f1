import Mathlib.Data.List.Nodup
import Universal7580.KeyedListProofs

/-! # Registries

    A registry is a list of keyed entries.  Some keys are there from the start,
    and every entry that is added gets the next key of a supply; entries are
    replaced and removed by their keys.

    * `Supply`: the first keys of a supply are distinct, and none is there from
      the start;
    * `Issued`: the keys of a registry are distinct, and known or issued before;
    * `Follows`: what a registry has become of an earlier one.

    As no key is issued twice, a tag that is kept while an entry is replaced
    belongs to its key for ever: `tag_of_follows`. -/

namespace Registry

open KeyedList

variable {α κ β : Type}

/-- The first `bound` keys of a supply are distinct, and other than the ones that
    are there from the start. -/
structure Supply (base : List κ) (fresh : Nat → κ) (bound : Nat) : Prop where
  distinct : ∀ j k, j < k → k < bound → fresh j ≠ fresh k
  apart : ∀ k, k < bound → fresh k ∉ base

/-- The keys of a registry after `n` keys were issued. -/
structure Issued (key : α → κ) (base : List κ) (fresh : Nat → κ) (n : Nat) (l : List α) : Prop where
  nodup : (l.map key).Nodup
  known : ∀ x ∈ l, key x ∈ base ∨ ∃ k, k < n ∧ fresh k = key x

/-- A registry that had `n` keys issued, and one that it became: an entry has the
    tag of the earlier entry with its key, or a key that was issued since. -/
def Follows (key : α → κ) (tag : α → β) (fresh : Nat → κ) (n n' : Nat) (l l' : List α) : Prop :=
  ∀ y ∈ l', (∃ x ∈ l, key x = key y ∧ tag x = tag y) ∨ ∃ k, n ≤ k ∧ k < n' ∧ fresh k = key y

variable {key : α → κ} {tag : α → β} {base : List κ} {fresh : Nat → κ} {bound n n' n'' : Nat}
  {l l' l'' : List α} {x y : α} {k : κ}

-- ── Keys ──────────────────────────────────────────────────────────────────

/-- The next key is on no entry. -/
theorem next_not_issued (hsupply : Supply base fresh bound) (h : Issued key base fresh n l)
    (hn : n ≤ n') (hn' : n' < bound) : ∀ x ∈ l, key x ≠ fresh n' := by
  intro x hx hkey
  rcases h.known x hx with hbase | ⟨j, hj, hfresh⟩
  · exact hsupply.apart n' hn' (hkey ▸ hbase)
  · exact hsupply.distinct j n' (Nat.lt_of_lt_of_le hj hn) hn' (hfresh.trans hkey)

theorem issued_mono (h : Issued key base fresh n l) (hn : n ≤ n') : Issued key base fresh n' l where
  nodup := h.nodup
  known := fun x hx =>
    (h.known x hx).imp_right fun ⟨k, hk, hfresh⟩ => ⟨k, Nat.lt_of_lt_of_le hk hn, hfresh⟩

/-- Adding an entry under the next key. -/
theorem issued_append (hsupply : Supply base fresh bound) (h : Issued key base fresh n l)
    (hn : n < bound) (hkey : key x = fresh n) : Issued key base fresh (n + 1) (l ++ [x]) where
  nodup := by
    rw [List.map_append, List.map_singleton, List.nodup_append]
    refine ⟨h.nodup, List.nodup_singleton _, ?_⟩
    rintro k hk k' hk' rfl
    obtain ⟨y, hy, rfl⟩ := List.mem_map.mp hk
    exact next_not_issued hsupply h (Nat.le_refl n) hn y hy
      ((List.mem_singleton.mp hk').trans hkey)
  known := fun y hy => by
    rcases List.mem_append.mp hy with hold | hnew
    · exact (issued_mono h (Nat.le_succ n)).known y hold
    · rw [List.mem_singleton.mp hnew, hkey]
      exact .inr ⟨n, Nat.lt_succ_self n, rfl⟩

theorem issued_sublist (h : Issued key base fresh n l) (hsub : l'.Sublist l) :
    Issued key base fresh n l' where
  nodup := h.nodup.sublist (hsub.map key)
  known := fun x hx => h.known x (hsub.subset hx)

-- ── What became of an entry ───────────────────────────────────────────────

theorem follows_refl (l : List α) : Follows key tag fresh n n' l l :=
  fun y hy => .inl ⟨y, hy, rfl, rfl⟩

theorem follows_trans (hn : n ≤ n') (hn' : n' ≤ n'') (h : Follows key tag fresh n n' l l')
    (h' : Follows key tag fresh n' n'' l' l'') : Follows key tag fresh n n'' l l'' := by
  intro z hz
  rcases h' z hz with ⟨y, hy, hkey, htag⟩ | ⟨k, hk, hk', hfresh⟩
  · rcases h y hy with ⟨x, hx, hkey', htag'⟩ | ⟨k, hk, hk', hfresh⟩
    · exact .inl ⟨x, hx, hkey'.trans hkey, htag'.trans htag⟩
    · exact .inr ⟨k, hk, Nat.lt_of_lt_of_le hk' hn', hfresh.trans hkey⟩
  · exact .inr ⟨k, Nat.le_trans hn hk, hk', hfresh⟩

theorem follows_append (hkey : key x = fresh n) : Follows key tag fresh n (n + 1) l (l ++ [x]) := by
  intro y hy
  rcases List.mem_append.mp hy with hold | hnew
  · exact .inl ⟨y, hold, rfl, rfl⟩
  · rw [List.mem_singleton.mp hnew, hkey]
    exact .inr ⟨n, Nat.le_refl n, Nat.lt_succ_self n, rfl⟩

theorem follows_sublist (hsub : l'.Sublist l) : Follows key tag fresh n n' l l' :=
  fun y hy => .inl ⟨y, hsub.subset hy, rfl, rfl⟩

/-- **A TAG BELONGS TO ITS KEY**: an entry has the tag that any earlier entry with
    its key had. -/
theorem tag_of_follows (hsupply : Supply base fresh bound) (h : Issued key base fresh n l)
    (hn' : n' ≤ bound) (hfollows : Follows key tag fresh n n' l l') (hx : x ∈ l) (hy : y ∈ l')
    (hkey : key x = key y) : tag x = tag y := by
  rcases hfollows y hy with ⟨z, hz, hzkey, htag⟩ | ⟨k, hk, hk', hfresh⟩
  · have hsame : z = x := List.inj_on_of_nodup_map h.nodup hz hx (hzkey.trans hkey.symm)
    rw [← hsame]
    exact htag
  · have hlt : k < bound := Nat.lt_of_lt_of_le hk' hn'
    exact absurd (hkey.trans hfresh.symm) (next_not_issued hsupply h hk hlt x hx)

-- ── Splicing ──────────────────────────────────────────────────────────────

section Splice

variable [DecidableEq κ] {f : α → Option α}

/-- Replacing an entry by one with its key. -/
theorem issued_replace (h : Issued key base fresh n l)
    (hf : ∀ x, key x = k → ∃ y, f x = some y ∧ key y = k)
    (hsplice : spliceAt key k f l = some (x, l')) : Issued key base fresh n l' where
  nodup := by
    rw [map_key_spliceAt_same hf hsplice]
    exact h.nodup
  known := fun y hy => by
    have hmem : key y ∈ l'.map key := List.mem_map_of_mem hy
    rw [map_key_spliceAt_same hf hsplice] at hmem
    obtain ⟨z, hz, hkey⟩ := List.mem_map.mp hmem
    rw [← hkey]
    exact h.known z hz

/-- What is left after a removal. -/
theorem sublist_spliceAt (hf : ∀ x, f x = none)
    (hsplice : spliceAt key k f l = some (x, l')) : l'.Sublist l := by
  induction l generalizing l' with
  | nil => exact nomatch hsplice
  | cons z rest ih =>
      rcases spliceAt_cons_cases hsplice with ⟨-, rfl, rfl⟩ | ⟨-, rest', hrest, rfl⟩
      · rw [hf z]
        exact List.sublist_cons_self z rest
      · exact (ih hrest).cons_cons z

/-- Replacing an entry by one with its key and its tag. -/
theorem follows_replace (hsplice : spliceAt key k f l = some (x, l'))
    (hf : ∀ y, f x = some y → key y = key x ∧ tag y = tag x) :
    Follows key tag fresh n n' l l' := by
  obtain ⟨hx, hmem⟩ := mem_spliceAt hsplice
  intro y hy
  rcases hmem y hy with hold | hnew
  · exact .inl ⟨y, hold, rfl, rfl⟩
  · obtain ⟨hkey, htag⟩ := hf y hnew
    exact .inl ⟨x, hx, hkey.symm, htag.symm⟩

end Splice

end Registry

import Mathlib.Data.Finmap
import Mathlib.Data.Finset.Card

/-! # Maps with room for so many keys

    `BoundedMap κ ν cap` is a finite map that holds at most `cap` keys; the
    bound is a field, so that a fuller map cannot be built.  Its one operation
    is `assign`, which gives a key a value or takes the key out, and which is
    refused when the value is for a new key and the map is full of others. -/

/-- A finite map with at most `cap` keys. -/
structure BoundedMap (κ ν : Type) (cap : Nat) where
  entries : Finmap (fun _ : κ => ν)
  card_le : entries.keys.card ≤ cap

namespace BoundedMap

variable {κ ν : Type} [DecidableEq κ] {cap : Nat}

def empty : BoundedMap κ ν cap := ⟨∅, by simp⟩

def get (m : BoundedMap κ ν cap) (k : κ) : Option ν := m.entries.lookup k

/-- The keys of a map other than one. -/
def others (m : BoundedMap κ ν cap) (k : κ) : Finset κ := m.entries.keys.erase k

theorem keys_insert (k : κ) (v : ν) (e : Finmap (fun _ : κ => ν)) :
    (e.insert k v).keys = insert k (e.keys.erase k) := by
  ext k'
  rw [Finmap.mem_keys, Finmap.mem_insert, Finset.mem_insert, Finset.mem_erase, Finmap.mem_keys]
  by_cases h : k' = k
  · simp [h]
  · simp [h]

/-- A value for a key, or no value.  A new key needs room; without it nothing
    happens, and the answer is `false`. -/
def assign (m : BoundedMap κ ν cap) (k : κ) : Option ν → BoundedMap κ ν cap × Bool
  | none =>
      (⟨m.entries.erase k, by
        rw [Finmap.keys_erase]
        exact Nat.le_trans Finset.card_erase_le m.card_le⟩, true)
  | some v =>
      if h : (m.others k).card < cap then
        (⟨m.entries.insert k v, by
          rw [keys_insert, Finset.card_insert_of_notMem (Finset.notMem_erase k _)]
          exact h⟩, true)
      else (m, false)

variable {m : BoundedMap κ ν cap} {k k' : κ} {v : Option ν}

@[simp] theorem get_empty (k : κ) : (empty : BoundedMap κ ν cap).get k = none :=
  Finmap.lookup_empty k

theorem mem_keys_iff : k ∈ m.entries.keys ↔ m.get k ≠ none := by
  rw [Finmap.mem_keys, get, Ne, Finmap.lookup_eq_none, not_not]

theorem mem_others : k' ∈ m.others k ↔ k' ≠ k ∧ m.get k' ≠ none := by
  rw [others, Finset.mem_erase, mem_keys_iff]

theorem card_others_le (m : BoundedMap κ ν cap) (k : κ) : (m.others k).card ≤ cap :=
  Nat.le_trans Finset.card_erase_le m.card_le

/-- A map is full of other keys when so many of them have a value. -/
theorem card_others_eq_iff :
    (m.others k).card = cap
      ↔ ∃ keys : Finset κ, keys.card = cap ∧ k ∉ keys ∧ ∀ k' ∈ keys, m.get k' ≠ none := by
  constructor
  · intro h
    exact ⟨m.others k, h, fun hk => (mem_others.mp hk).1 rfl, fun k' hk' => (mem_others.mp hk').2⟩
  · rintro ⟨keys, hcard, hk, hget⟩
    have hsub : keys ⊆ m.others k := by
      intro k' hk'
      exact mem_others.mpr ⟨fun heq => hk (heq ▸ hk'), hget k' hk'⟩
    exact Nat.le_antisymm (card_others_le m k)
      (Nat.le_trans (Nat.le_of_eq hcard.symm) (Finset.card_le_card hsub))

/-- **REFUSAL**: a value is refused exactly when the map is full of other
    keys. -/
theorem assign_refused_iff :
    (m.assign k v).2 = false ↔ v ≠ none ∧ (m.others k).card = cap := by
  cases v with
  | none => simp [assign]
  | some v =>
      have hle := card_others_le m k
      rw [assign]
      split
      · rename_i h
        simp [Nat.ne_of_lt h]
      · rename_i h
        simp [Nat.le_antisymm hle (Nat.le_of_not_lt h)]

/-- A refused value changes nothing. -/
theorem assign_refused (h : (m.assign k v).2 = false) : (m.assign k v).1 = m := by
  cases v with
  | none => exact nomatch h
  | some v =>
      rw [assign] at h ⊢
      split at h
      · exact nomatch h
      · rename_i hfull
        rw [dif_neg hfull]

/-- What was assigned is there. -/
theorem get_assign_self (h : (m.assign k v).2 = true) : (m.assign k v).1.get k = v := by
  cases v with
  | none => exact Finmap.lookup_erase k m.entries
  | some v =>
      rw [assign] at h ⊢
      split at h
      · rename_i hroom
        rw [dif_pos hroom]
        exact Finmap.lookup_insert m.entries
      · exact nomatch h

/-- **FRAME**: other keys keep their values. -/
theorem get_assign_of_ne (hne : k' ≠ k) : (m.assign k v).1.get k' = m.get k' := by
  cases v with
  | none => exact Finmap.lookup_erase_ne hne
  | some v =>
      rw [assign]
      split
      · exact Finmap.lookup_insert_of_ne m.entries hne
      · rfl

end BoundedMap

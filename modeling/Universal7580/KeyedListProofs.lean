import Mathlib.Data.List.Basic

/-! # Lists of keyed entries

    A list whose entries have a key that tells them apart, such as a linked
    list searched by address.  `atKey` is what a list holds for one key, and
    every operation is described by what it does to each key: the entry that is
    spliced or erased changes, and `offKey`, everything else in its order,
    stays. -/

namespace KeyedList

variable {α κ : Type} [DecidableEq κ]

/-- The entries with a key. -/
def atKey (key : α → κ) (k : κ) (l : List α) : List α := l.filter (fun x => key x = k)

/-- The entries with other keys. -/
def offKey (key : α → κ) (k : κ) (l : List α) : List α := l.filter (fun x => key x ≠ k)

/-- The first entry with a key, and the list with that entry replaced, or
    removed when there is nothing to replace it with. -/
def spliceAt (key : α → κ) (k : κ) (f : α → Option α) : List α → Option (α × List α)
  | [] => none
  | x :: rest =>
      if key x = k then some (x, (f x).toList ++ rest)
      else (spliceAt key k f rest).map (fun found => (found.1, x :: found.2))

variable {key : α → κ} {k p : κ} {x y : α} {l l' : List α}

@[simp] theorem atKey_nil (key : α → κ) (k : κ) : atKey key k [] = [] := rfl

theorem atKey_cons_self (h : key x = k) (l : List α) :
    atKey key k (x :: l) = x :: atKey key k l :=
  List.filter_cons_of_pos (decide_eq_true h)

theorem atKey_cons_of_ne (h : key x ≠ k) (l : List α) :
    atKey key k (x :: l) = atKey key k l :=
  List.filter_cons_of_neg (fun heq => h (of_decide_eq_true heq))

theorem atKey_append (key : α → κ) (k : κ) (l r : List α) :
    atKey key k (l ++ r) = atKey key k l ++ atKey key k r :=
  List.filter_append ..

theorem mem_atKey : x ∈ atKey key k l ↔ x ∈ l ∧ key x = k := by
  rw [atKey, List.mem_filter, decide_eq_true_iff]

theorem offKey_cons_self (h : key x = k) (l : List α) : offKey key k (x :: l) = offKey key k l :=
  List.filter_cons_of_neg (fun hne => of_decide_eq_true hne h)

theorem offKey_cons_of_ne (h : key x ≠ k) (l : List α) :
    offKey key k (x :: l) = x :: offKey key k l :=
  List.filter_cons_of_pos (decide_eq_true h)

/-- What a list holds for a key is among the entries with other keys than any
    other one. -/
theorem atKey_offKey (h : p ≠ k) (l : List α) : atKey key p (offKey key k l) = atKey key p l := by
  rw [atKey, offKey, List.filter_filter]
  refine List.filter_congr ?_
  intro x _
  by_cases hx : key x = p
  · simp [hx, h]
  · simp [hx]

/-- An operation that keeps the other entries keeps them key by key. -/
theorem atKey_eq_of_offKey_eq (h : offKey key k l = offKey key k l') (hp : p ≠ k) :
    atKey key p l = atKey key p l' := by
  rw [← atKey_offKey hp l, h, atKey_offKey hp l']

/-- An entry of a key that has one entry is that entry. -/
theorem eq_of_atKey_single (h : atKey key k l = [y]) (hx : x ∈ l) (hk : key x = k) : x = y := by
  have hmem : x ∈ atKey key k l := mem_atKey.mpr ⟨hx, hk⟩
  rw [h] at hmem
  exact List.mem_singleton.mp hmem

theorem key_of_atKey_single (h : atKey key k l = [y]) : y ∈ l ∧ key y = k :=
  mem_atKey.mp (h ▸ List.mem_singleton_self y)

/-- With distinct keys, an entry is all there is for its key. -/
theorem atKey_eq_single (hnodup : (l.map key).Nodup) (hx : x ∈ l) : atKey key (key x) l = [x] := by
  induction l with
  | nil => exact nomatch hx
  | cons z rest ih =>
      rw [List.map_cons, List.nodup_cons] at hnodup
      obtain ⟨hz, hrest⟩ := hnodup
      rcases List.mem_cons.mp hx with rfl | hx
      · have hnone : atKey key (key x) rest = [] := by
          refine List.eq_nil_iff_forall_not_mem.mpr (fun y hy => ?_)
          obtain ⟨hmem, hkey⟩ := mem_atKey.mp hy
          exact hz (hkey ▸ List.mem_map_of_mem hmem)
        rw [atKey_cons_self rfl, hnone]
      · have hne : key z ≠ key x := fun heq => hz (heq ▸ List.mem_map_of_mem hx)
        rw [atKey_cons_of_ne hne, ih hrest hx]

/-- Nothing is left out for a key without entries. -/
theorem offKey_eq_self (h : atKey key k l = []) : offKey key k l = l := by
  refine List.filter_eq_self.mpr (fun x hx => decide_eq_true (fun heq => ?_))
  have hmem : x ∈ atKey key k l := mem_atKey.mpr ⟨hx, heq⟩
  rw [h] at hmem
  exact nomatch hmem

/-- The keys of the other entries. -/
theorem map_offKey (key : α → κ) (k : κ) (l : List α) :
    (offKey key k l).map key = (l.map key).filter (fun i => i ≠ k) := by
  rw [offKey, List.filter_map]
  rfl

-- ── Splicing ─────────────────────────────────────────────────────────────────

section Splice

variable {f : α → Option α}

theorem spliceAt_cons_self (h : key x = k) (l : List α) :
    spliceAt key k f (x :: l) = some (x, (f x).toList ++ l) :=
  if_pos h

theorem spliceAt_cons_of_ne (h : key x ≠ k) (l : List α) :
    spliceAt key k f (x :: l) = (spliceAt key k f l).map (fun found => (found.1, x :: found.2)) :=
  if_neg h

/-- The entry that is found is the first one, or in the rest. -/
theorem spliceAt_cons_cases (h : spliceAt key k f (y :: l) = some (x, l')) :
    (key y = k ∧ y = x ∧ l' = (f y).toList ++ l)
      ∨ (key y ≠ k ∧ ∃ rest, spliceAt key k f l = some (x, rest) ∧ l' = y :: rest) := by
  by_cases hy : key y = k
  · rw [spliceAt_cons_self hy] at h
    obtain ⟨rfl, rfl⟩ := Prod.mk.inj (Option.some.inj h)
    exact Or.inl ⟨hy, rfl, rfl⟩
  · rw [spliceAt_cons_of_ne hy] at h
    obtain ⟨⟨x', rest⟩, hrest, heq⟩ := Option.map_eq_some_iff.mp h
    obtain ⟨rfl, rfl⟩ := Prod.mk.inj heq
    exact Or.inr ⟨hy, rest, hrest, rfl⟩

theorem spliceAt_eq_none (h : atKey key k l = []) : spliceAt key k f l = none := by
  induction l with
  | nil => rfl
  | cons x rest ih =>
      by_cases hx : key x = k
      · rw [atKey_cons_self hx] at h
        exact nomatch h
      · rw [atKey_cons_of_ne hx] at h
        rw [spliceAt_cons_of_ne hx, ih h]
        rfl

theorem atKey_of_spliceAt_none (h : spliceAt key k f l = none) : atKey key k l = [] := by
  induction l with
  | nil => rfl
  | cons x rest ih =>
      by_cases hx : key x = k
      · rw [spliceAt_cons_self hx] at h
        exact nomatch h
      · rw [spliceAt_cons_of_ne hx] at h
        rw [atKey_cons_of_ne hx]
        exact ih (Option.map_eq_none_iff.mp h)

/-- **SPLICE RULE**: the one entry of a key is found and replaced. -/
theorem spliceAt_single (hf : ∀ y, f x = some y → key y = k) (h : atKey key k l = [x]) :
    ∃ l', spliceAt key k f l = some (x, l') ∧ atKey key k l' = (f x).toList
      ∧ offKey key k l' = offKey key k l := by
  induction l with
  | nil => exact nomatch h
  | cons z rest ih =>
      by_cases hz : key z = k
      · rw [atKey_cons_self hz] at h
        obtain ⟨rfl, hrest⟩ := List.cons.inj h
        refine ⟨(f z).toList ++ rest, spliceAt_cons_self hz rest, ?_, ?_⟩
        · rw [atKey_append, hrest, List.append_nil]
          cases hfz : f z with
          | none => rfl
          | some y => exact atKey_cons_self (hf y hfz) []
        · rw [offKey_cons_self hz]
          cases hfz : f z with
          | none => rfl
          | some y => exact offKey_cons_self (hf y hfz) rest
      · rw [atKey_cons_of_ne hz] at h
        obtain ⟨l', hl', hat, hoff⟩ := ih h
        refine ⟨z :: l', by rw [spliceAt_cons_of_ne hz, hl']; rfl, ?_, ?_⟩
        · rw [atKey_cons_of_ne hz, hat]
        · rw [offKey_cons_of_ne hz, offKey_cons_of_ne hz, hoff]

/-- Whatever is spliced has the key it was searched by, and the other entries
    stay. -/
theorem offKey_spliceAt (hf : ∀ x y, key x = k → f x = some y → key y = k)
    (h : spliceAt key k f l = some (x, l')) : offKey key k l' = offKey key k l := by
  induction l generalizing l' with
  | nil => exact nomatch h
  | cons z rest ih =>
      rcases spliceAt_cons_cases h with ⟨hz, rfl, rfl⟩ | ⟨hz, rest', hrest, rfl⟩
      · rw [offKey_cons_self hz]
        cases hfz : f z with
        | none => rfl
        | some y => exact offKey_cons_self (hf z y hz hfz) rest
      · rw [offKey_cons_of_ne hz, offKey_cons_of_ne hz, ih hrest]

/-- Replacing the entry of a key by one of that key keeps the list of keys. -/
theorem map_key_spliceAt_same (hf : ∀ x, key x = k → ∃ y, f x = some y ∧ key y = k)
    (h : spliceAt key k f l = some (x, l')) : l'.map key = l.map key := by
  induction l generalizing l' with
  | nil => exact nomatch h
  | cons z rest ih =>
      rcases spliceAt_cons_cases h with ⟨hz, rfl, rfl⟩ | ⟨hz, rest', hrest, rfl⟩
      · obtain ⟨y, hy, hkey⟩ := hf z hz
        rw [hy]
        exact congrArg (· :: rest.map key) (hkey.trans hz.symm)
      · rw [List.map_cons, List.map_cons, ih hrest]

/-- Replacing an entry by one of the same key keeps the list of keys. -/
theorem map_key_spliceAt (hf : ∀ x, ∃ y, f x = some y ∧ key y = key x)
    (h : spliceAt key k f l = some (x, l')) : l'.map key = l.map key := by
  refine map_key_spliceAt_same (fun z hz => ?_) h
  obtain ⟨y, hy, hkey⟩ := hf z
  exact ⟨y, hy, hkey.trans hz⟩

/-- The entries after splicing were there, or replace the one that was found. -/
theorem mem_spliceAt (h : spliceAt key k f l = some (x, l')) :
    x ∈ l ∧ ∀ y ∈ l', y ∈ l ∨ f x = some y := by
  induction l generalizing l' with
  | nil => exact nomatch h
  | cons z rest ih =>
      rcases spliceAt_cons_cases h with ⟨hz, rfl, rfl⟩ | ⟨hz, rest', hrest, rfl⟩
      · refine ⟨List.mem_cons_self, ?_⟩
        intro y hy
        rcases List.mem_append.mp hy with hy | hy
        · exact Or.inr (Option.mem_toList.mp hy)
        · exact Or.inl (List.mem_cons_of_mem z hy)
      · obtain ⟨hmem, hall⟩ := ih hrest
        refine ⟨List.mem_cons_of_mem z hmem, ?_⟩
        intro y hy
        rcases List.mem_cons.mp hy with rfl | hy
        · exact Or.inl List.mem_cons_self
        · exact (hall y hy).imp (List.mem_cons_of_mem z) id

/-- The found entry is the first of its key, and is replaced where it stands. -/
theorem spliceAt_eq_split (h : spliceAt key k f l = some (x, l')) :
    ∃ rest, l' = l.takeWhile (fun y => key y ≠ k) ++ ((f x).toList ++ rest) := by
  induction l generalizing l' with
  | nil => exact nomatch h
  | cons z rest ih =>
      rcases spliceAt_cons_cases h with ⟨hz, rfl, rfl⟩ | ⟨hz, rest', hrest, rfl⟩
      · refine ⟨rest, ?_⟩
        rw [List.takeWhile_cons_of_neg (by simpa using hz)]
        rfl
      · obtain ⟨tail, htail⟩ := ih hrest
        refine ⟨tail, ?_⟩
        rw [List.takeWhile_cons_of_pos (by simpa using hz), List.cons_append, ← htail]

/-- The entry that is found has the key. -/
theorem key_of_spliceAt (h : spliceAt key k f l = some (x, l')) : key x = k := by
  induction l generalizing l' with
  | nil => exact nomatch h
  | cons z rest ih =>
      rcases spliceAt_cons_cases h with ⟨hz, rfl, rfl⟩ | ⟨hz, rest', hrest, rfl⟩
      · exact hz
      · exact ih hrest

/-- With distinct keys, splicing leaves what it puts in for the key, and every
    other entry. -/
theorem spliceAt_spec (hnodup : (l.map key).Nodup) (hf : ∀ y, f x = some y → key y = k)
    (h : spliceAt key k f l = some (x, l')) :
    atKey key k l' = (f x).toList ∧ offKey key k l' = offKey key k l := by
  have hkey := key_of_spliceAt h
  have hsingle := atKey_eq_single hnodup (mem_spliceAt h).1
  rw [hkey] at hsingle
  obtain ⟨l'', hl'', hat, hoff⟩ := spliceAt_single hf hsingle
  rw [h] at hl''
  obtain ⟨-, rfl⟩ := Prod.mk.inj (Option.some.inj hl'')
  exact ⟨hat, hoff⟩

end Splice

-- ── Erasing by position ──────────────────────────────────────────────────────

theorem atKey_eraseIdx_of_ne {i : Nat} (h : l[i]? = some x) (hx : key x ≠ k) :
    atKey key k (l.eraseIdx i) = atKey key k l := by
  induction l generalizing i with
  | nil => exact nomatch h
  | cons z rest ih =>
      cases i with
      | zero =>
          obtain rfl : z = x := Option.some.inj h
          rw [List.eraseIdx_cons_zero, atKey_cons_of_ne hx]
      | succ i =>
          rw [List.eraseIdx_cons_succ]
          by_cases hz : key z = k
          · rw [atKey_cons_self hz, atKey_cons_self hz, ih h]
          · rw [atKey_cons_of_ne hz, atKey_cons_of_ne hz, ih h]

theorem atKey_eraseIdx_single {i : Nat} (h : l[i]? = some x) (hx : key x = k)
    (hat : atKey key k l = [y]) : x = y ∧ atKey key k (l.eraseIdx i) = [] := by
  refine ⟨eq_of_atKey_single hat (List.mem_of_getElem? h) hx, ?_⟩
  induction l generalizing i with
  | nil => exact nomatch h
  | cons z rest ih =>
      cases i with
      | zero =>
          obtain rfl : z = x := Option.some.inj h
          rw [atKey_cons_self hx] at hat
          exact (List.cons.inj hat).2
      | succ i =>
          rw [List.eraseIdx_cons_succ]
          by_cases hz : key z = k
          · rw [atKey_cons_self hz] at hat
            have hmem : x ∈ atKey key k rest := mem_atKey.mpr ⟨List.mem_of_getElem? h, hx⟩
            rw [(List.cons.inj hat).2] at hmem
            exact nomatch hmem
          · rw [atKey_cons_of_ne hz] at hat ⊢
            exact ih h hat

end KeyedList

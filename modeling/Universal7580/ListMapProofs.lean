import Mathlib.Data.List.Nodup
import Mathlib.Data.List.Perm.Basic
import Mathlib.Logic.Function.Basic

/-! # Lists as maps

    A list of pairs without two of one key is a map, whatever its order.
    `read` is that map; the lemmas say what the operations on lists are for
    it: appending is a union, replacing the pair at a position is an update,
    and erasing it takes the key away. -/

namespace ListMap

variable {κ ν : Type}

def keys (l : List (κ × ν)) : List κ := l.map Prod.fst

/-- The values of both, of the second one where it has some. -/
def union (m m' : κ → Option ν) (k : κ) : Option ν := (m' k).or (m k)

variable {l r : List (κ × ν)} {k : κ} {v w : ν} {i : Nat}

@[simp] theorem keys_nil : keys ([] : List (κ × ν)) = [] := rfl

@[simp] theorem keys_cons (p : κ × ν) (l : List (κ × ν)) : keys (p :: l) = p.1 :: keys l := rfl

@[simp] theorem keys_append (l r : List (κ × ν)) : keys (l ++ r) = keys l ++ keys r :=
  List.map_append

theorem mem_keys (h : (k, v) ∈ l) : k ∈ keys l := List.mem_map_of_mem h

theorem nodup_concat (hl : (keys l).Nodup) (h : k ∉ keys l) (v : ν) :
    (keys (l ++ [(k, v)])).Nodup := by
  rw [keys_append]
  show (keys l ++ [k]).Nodup
  rw [← List.concat_eq_append]
  exact hl.concat h

theorem keys_set (h : l[i]? = some (k, v)) (w : ν) : keys (l.set i (k, w)) = keys l := by
  induction l generalizing i with
  | nil => exact nomatch h
  | cons p l ih =>
      cases i with
      | zero =>
          obtain rfl : p = (k, v) := Option.some.inj h
          rfl
      | succ i => exact congrArg (p.1 :: ·) (ih h)

theorem nodup_eraseIdx (hnodup : (keys l).Nodup) (i : Nat) : (keys (l.eraseIdx i)).Nodup :=
  hnodup.sublist ((List.eraseIdx_sublist l i).map Prod.fst)

variable [DecidableEq κ]

/-- The value of a key. -/
def read (l : List (κ × ν)) (k : κ) : Option ν := l.lookup k

theorem read_cons_self (k : κ) (v : ν) (l : List (κ × ν)) : read ((k, v) :: l) k = some v :=
  List.lookup_cons_self

theorem read_cons_ne {k' : κ} (h : k' ≠ k) (v : ν) (l : List (κ × ν)) :
    read ((k, v) :: l) k' = read l k' := by
  rw [read, List.lookup_cons, beq_false_of_ne h]
  rfl

theorem read_eq_none : read l k = none ↔ k ∉ keys l := by
  induction l with
  | nil => exact iff_of_true rfl List.not_mem_nil
  | cons p l ih =>
      obtain ⟨k', v⟩ := p
      by_cases hk : k = k'
      · subst hk
        rw [read_cons_self]
        exact iff_of_false (fun h => nomatch h) fun h => h List.mem_cons_self
      · rw [read_cons_ne hk, ih, keys_cons, List.mem_cons, or_iff_right hk]

theorem mem_of_read (h : read l k = some v) : (k, v) ∈ l := by
  induction l with
  | nil => exact nomatch h
  | cons p l ih =>
      obtain ⟨k', v'⟩ := p
      by_cases hk : k = k'
      · subst hk
        rw [read_cons_self] at h
        obtain rfl := Option.some.inj h
        exact List.mem_cons_self
      · rw [read_cons_ne hk] at h
        exact List.mem_cons_of_mem _ (ih h)

/-- **READ**: what is in the list is what is read. -/
theorem read_of_mem (hnodup : (keys l).Nodup) (h : (k, v) ∈ l) : read l k = some v := by
  induction l with
  | nil => exact nomatch h
  | cons p l ih =>
      obtain ⟨k', v'⟩ := p
      obtain ⟨hnot, hnodup⟩ := List.nodup_cons.mp hnodup
      rcases List.mem_cons.mp h with heq | hmem
      · obtain ⟨rfl, rfl⟩ := Prod.mk.inj heq
        exact read_cons_self ..
      · have hk : k ≠ k' := by
          rintro rfl
          exact hnot (mem_keys hmem)
        rw [read_cons_ne hk]
        exact ih hnodup hmem

/-- The order of the pairs does not matter. -/
theorem read_perm (hnodup : (keys l).Nodup) (h : l.Perm r) : read r = read l := by
  have hnodup' : (keys r).Nodup := (h.map Prod.fst).nodup_iff.mp hnodup
  funext k
  cases hread : read l k with
  | none =>
      rw [read_eq_none] at hread ⊢
      exact fun hmem => hread ((h.map Prod.fst).mem_iff.mpr hmem)
  | some v => exact read_of_mem hnodup' (h.subset (mem_of_read hread))

theorem nodup_append (hl : (keys l).Nodup) (hr : (keys r).Nodup)
    (h : ∀ k, read l k = none ∨ read r k = none) : (keys (l ++ r)).Nodup := by
  rw [keys_append]
  refine hl.append hr ?_
  intro k hkl hkr
  rcases h k with hnone | hnone
  · exact read_eq_none.mp hnone hkl
  · exact read_eq_none.mp hnone hkr

theorem read_append (h : ∀ k, read l k = none ∨ read r k = none) :
    read (l ++ r) = union (read l) (read r) := by
  funext k
  rw [union, read, List.lookup_append]
  rcases h k with hnone | hnone
  · rw [show l.lookup k = none from hnone, hnone, Option.none_or, Option.or_none]
    rfl
  · rw [show r.lookup k = none from hnone, hnone, Option.none_or, Option.or_none]
    rfl

theorem read_concat (h : k ∉ keys l) (v : ν) :
    read (l ++ [(k, v)]) = Function.update (read l) k (some v) := by
  funext k'
  rw [read, List.lookup_append]
  by_cases hk : k' = k
  · subst hk
    rw [Function.update_self, show l.lookup k' = none from read_eq_none.mpr h]
    exact read_cons_self ..
  · rw [Function.update_of_ne hk]
    show (l.lookup k').or (read [(k, v)] k') = _
    rw [read_cons_ne hk]
    exact Option.or_none

/-- **UPDATE**: a new value in the place of the old one. -/
theorem read_set (hnodup : (keys l).Nodup) (h : l[i]? = some (k, v)) (w : ν) :
    read (l.set i (k, w)) = Function.update (read l) k (some w) := by
  induction l generalizing i with
  | nil => exact nomatch h
  | cons p l ih =>
      obtain ⟨k', v'⟩ := p
      obtain ⟨hnot, hnodup⟩ := List.nodup_cons.mp hnodup
      funext x
      cases i with
      | zero =>
          obtain ⟨rfl, rfl⟩ := Prod.mk.inj (Option.some.inj h)
          rw [List.set_cons_zero]
          by_cases hx : x = k'
          · subst hx
            rw [read_cons_self, Function.update_self]
          · rw [read_cons_ne hx, Function.update_of_ne hx, read_cons_ne hx]
      | succ i =>
          have hk : k ≠ k' := by
            rintro rfl
            exact hnot (mem_keys (List.mem_of_getElem? h))
          rw [List.set_cons_succ]
          by_cases hx : x = k'
          · subst hx
            rw [read_cons_self, Function.update_of_ne hk.symm, read_cons_self]
          · rw [read_cons_ne hx, ih hnodup h]
            by_cases hxk : x = k
            · subst hxk
              rw [Function.update_self, Function.update_self]
            · rw [Function.update_of_ne hxk, Function.update_of_ne hxk, read_cons_ne hx]

/-- **ERASE**: the key of the pair that is taken out has no value any more. -/
theorem read_eraseIdx (hnodup : (keys l).Nodup) (h : l[i]? = some (k, v)) :
    read (l.eraseIdx i) = Function.update (read l) k none := by
  induction l generalizing i with
  | nil => exact nomatch h
  | cons p l ih =>
      obtain ⟨k', v'⟩ := p
      obtain ⟨hnot, hnodup⟩ := List.nodup_cons.mp hnodup
      funext x
      cases i with
      | zero =>
          obtain ⟨rfl, rfl⟩ := Prod.mk.inj (Option.some.inj h)
          rw [List.eraseIdx_cons_zero]
          by_cases hx : x = k'
          · subst hx
            rw [Function.update_self]
            exact read_eq_none.mpr hnot
          · rw [Function.update_of_ne hx, read_cons_ne hx]
      | succ i =>
          have hk : k ≠ k' := by
            rintro rfl
            exact hnot (mem_keys (List.mem_of_getElem? h))
          rw [List.eraseIdx_cons_succ]
          by_cases hx : x = k'
          · subst hx
            rw [read_cons_self, Function.update_of_ne hk.symm, read_cons_self]
          · rw [read_cons_ne hx, ih hnodup h]
            by_cases hxk : x = k
            · subst hxk
              rw [Function.update_self, Function.update_self]
            · rw [Function.update_of_ne hxk, Function.update_of_ne hxk, read_cons_ne hx]

end ListMap

import Mathlib.Data.List.Basic
import Mathlib.Logic.Function.Basic

/-! # Intrusive circular lists

    A doubly linked list whose links are fields of its elements, closed to a
    ring by a head element that is never taken out.  The links of all elements
    together are two functions; `IsRing` says that they lead from the head
    through a list of elements and back, and the two operations are described
    by what they do to that list:

    * `ring_insertBefore`: an element goes in anywhere;
    * `ring_remove`: an element comes out, and its links are cleared.

    A ring that has no element in common with the one that is changed stays as
    it is (`ring_insertBefore_other`, `ring_remove_other`). -/

namespace Ring

variable {ν : Type}

/-- The link fields of all elements. -/
structure Links (ν : Type) where
  next : ν → ν
  prev : ν → ν

/-- The links lead from `a` through `xs` to `b`, and back. -/
def Chain (L : Links ν) : ν → List ν → ν → Prop
  | a, [], b => L.next a = b ∧ L.prev b = a
  | a, x :: xs, b => L.next a = x ∧ L.prev x = a ∧ Chain L x xs b

/-- **RING**: from the head through `xs`, each element once, and back. -/
structure IsRing (L : Links ν) (head : ν) (xs : List ν) : Prop where
  nodup : (head :: xs).Nodup
  chain : Chain L head xs head

section Operations

variable [DecidableEq ν]

/-- `ev->next = list; ev->prev = list->prev; ev->prev->next = ev; list->prev = ev`. -/
def insertBefore (L : Links ν) (ev list : ν) : Links ν :=
  let L : Links ν := { L with next := Function.update L.next ev list }
  let L : Links ν := { L with prev := Function.update L.prev ev (L.prev list) }
  let L : Links ν := { L with next := Function.update L.next (L.prev ev) ev }
  { L with prev := Function.update L.prev list ev }

/-- `ev->next->prev = ev->prev; ev->prev->next = ev->next; ev->next = NULL;
    ev->prev = NULL`. -/
def remove (null : ν) (L : Links ν) (ev : ν) : Links ν :=
  let L : Links ν := { L with prev := Function.update L.prev (L.next ev) (L.prev ev) }
  let L : Links ν := { L with next := Function.update L.next (L.prev ev) (L.next ev) }
  let L : Links ν := { L with next := Function.update L.next ev null }
  { L with prev := Function.update L.prev ev null }

end Operations

-- ── Chains ───────────────────────────────────────────────────────────────────

section Chains

variable {L L' : Links ν} {a b c : ν} {xs ys : List ν}

/-- Only the links along a chain matter. -/
theorem chain_congr (hnext : ∀ p ∈ a :: xs, L'.next p = L.next p)
    (hprev : ∀ p ∈ xs ++ [b], L'.prev p = L.prev p) (h : Chain L a xs b) : Chain L' a xs b := by
  induction xs generalizing a with
  | nil =>
      obtain ⟨hn, hp⟩ := h
      exact ⟨(hnext a List.mem_cons_self).trans hn, (hprev b List.mem_cons_self).trans hp⟩
  | cons x xs ih =>
      obtain ⟨hn, hp, hrest⟩ := h
      refine ⟨(hnext a List.mem_cons_self).trans hn, (hprev x List.mem_cons_self).trans hp, ?_⟩
      exact ih (fun p hmem => hnext p (List.mem_cons_of_mem a hmem))
        (fun p hmem => hprev p (List.mem_cons_of_mem x hmem)) hrest

/-- The first link of a chain. -/
theorem chain_first (h : Chain L a ys b) : L.next a = ys.headD b ∧ L.prev (ys.headD b) = a := by
  cases ys with
  | nil => exact h
  | cons y ys => exact ⟨h.1, h.2.1⟩

/-- A chain taken apart. -/
theorem chain_split (h : Chain L a (xs ++ ys) b) :
    Chain L a xs (ys.headD b) ∧ Chain L (xs.getLastD a) ys b := by
  induction xs generalizing a with
  | nil => exact ⟨chain_first h, h⟩
  | cons x xs ih =>
      obtain ⟨hn, hp, hrest⟩ := h
      obtain ⟨hleft, hright⟩ := ih hrest
      rw [List.getLastD_cons]
      exact ⟨⟨hn, hp, hleft⟩, hright⟩

/-- Two chains joined. -/
theorem chain_join (hleft : Chain L a xs (ys.headD b)) (hright : Chain L (xs.getLastD a) ys b) :
    Chain L a (xs ++ ys) b := by
  induction xs generalizing a with
  | nil => exact hright
  | cons x xs ih =>
      obtain ⟨hn, hp, hrest⟩ := hleft
      rw [List.getLastD_cons] at hright
      exact ⟨hn, hp, ih hrest hright⟩

/-- A chain whose last link leads elsewhere. -/
theorem chain_retarget (hnodup : (a :: xs).Nodup) (hnext : L'.next (xs.getLastD a) = c)
    (hprev : L'.prev c = xs.getLastD a)
    (hnext' : ∀ p ∈ a :: xs, p ≠ xs.getLastD a → L'.next p = L.next p)
    (hprev' : ∀ p ∈ xs, L'.prev p = L.prev p) (h : Chain L a xs b) : Chain L' a xs c := by
  induction xs generalizing a with
  | nil => exact ⟨hnext, hprev⟩
  | cons x xs ih =>
      obtain ⟨hn, hp, hrest⟩ := h
      rw [List.getLastD_cons] at hnext hprev hnext'
      obtain ⟨ha, hnodup'⟩ := List.nodup_cons.mp hnodup
      have hlast : a ≠ xs.getLastD x := by
        intro heq
        refine ha ?_
        rw [heq]
        cases xs with
        | nil => exact List.mem_cons_self
        | cons z zs =>
            rw [List.getLastD_cons]
            exact List.mem_cons_of_mem x List.getLastD_mem_cons
      refine ⟨(hnext' a List.mem_cons_self hlast).trans hn, (hprev' x List.mem_cons_self).trans hp, ?_⟩
      exact ih hnodup' hnext hprev (fun p hmem => hnext' p (List.mem_cons_of_mem a hmem))
        (fun p hmem => hprev' p (List.mem_cons_of_mem x hmem)) hrest

/-- A chain that starts elsewhere. -/
theorem chain_resource (hnext : L'.next c = ys.headD b) (hprev : L'.prev (ys.headD b) = c)
    (hnext' : ∀ p ∈ ys, L'.next p = L.next p)
    (hprev' : ∀ p ∈ ys.tail ++ [b], ys ≠ [] → L'.prev p = L.prev p) (h : Chain L a ys b) :
    Chain L' c ys b := by
  cases ys with
  | nil => exact ⟨hnext, hprev⟩
  | cons y ys =>
      obtain ⟨-, -, hrest⟩ := h
      refine ⟨hnext, hprev, ?_⟩
      exact chain_congr hnext' (fun p hmem => hprev' p hmem (fun hnil => nomatch hnil)) hrest

end Chains

-- ── Places in a ring ─────────────────────────────────────────────────────────

section Places

variable {L : Links ν} {head ev q : ν} {xs ys : List ν}

theorem mem_headD (ys : List ν) (head : ν) : ys.headD head ∈ head :: ys := by
  cases ys with
  | nil => exact List.mem_cons_self
  | cons y ys => exact List.mem_cons_of_mem head List.mem_cons_self

/-- The neighbours of a place are in the ring. -/
theorem headD_mem_ring (head : ν) (xs ys : List ν) : ys.headD head ∈ head :: (xs ++ ys) :=
  List.cons_subset_cons head (List.subset_append_right xs ys) (mem_headD ys head)

theorem getLastD_mem_ring (head : ν) (xs ys : List ν) : xs.getLastD head ∈ head :: (xs ++ ys) :=
  List.cons_subset_cons head (List.subset_append_left xs ys) List.getLastD_mem_cons

theorem mem_of_mem_tail_append (hq : q ∈ ys.tail ++ [head]) : q ∈ head :: ys := by
  rcases List.mem_append.mp hq with hmem | hmem
  · exact List.mem_cons_of_mem head (List.mem_of_mem_tail hmem)
  · exact List.mem_singleton.mp hmem ▸ List.mem_cons_self

/-- What is before a place is not the element after it. -/
theorem ne_headD (hnodup : (head :: (xs ++ ys)).Nodup) (hq : q ∈ xs) : q ≠ ys.headD head := by
  rintro rfl
  obtain ⟨hhead, hrest⟩ := List.nodup_cons.mp hnodup
  rcases List.mem_cons.mp (mem_headD ys head) with heq | hmem
  · exact hhead (List.mem_append_left ys (heq ▸ hq))
  · exact (List.nodup_append.mp hrest).2.2 _ hq _ hmem rfl

/-- What is after a place is not the element before it. -/
theorem ne_getLastD (hnodup : (head :: (xs ++ ys)).Nodup) (hq : q ∈ ys) :
    q ≠ xs.getLastD head := by
  rintro rfl
  obtain ⟨hhead, hrest⟩ := List.nodup_cons.mp hnodup
  have hlast : xs.getLastD head ∈ head :: xs := List.getLastD_mem_cons
  rcases List.mem_cons.mp hlast with heq | hmem
  · exact hhead (List.mem_append_right xs (heq ▸ hq))
  · exact (List.nodup_append.mp hrest).2.2 _ hmem _ hq rfl

/-- What is further on is not the element after a place. -/
theorem tail_ne_headD (hnodup : (head :: ys).Nodup) (hq : q ∈ ys.tail ++ [head]) (hne : ys ≠ []) :
    q ≠ ys.headD head := by
  cases ys with
  | nil => exact absurd rfl hne
  | cons y ys =>
      rintro rfl
      obtain ⟨hhead, hrest⟩ := List.nodup_cons.mp hnodup
      rcases List.mem_append.mp hq with hmem | hmem
      · exact (List.nodup_cons.mp hrest).1 hmem
      · exact hhead (List.mem_singleton.mp hmem ▸ List.mem_cons_self)

/-- The ends of the link at a place. -/
theorem ring_place (h : IsRing L head (xs ++ ys)) : L.prev (ys.headD head) = xs.getLastD head :=
  (chain_first (chain_split h.chain).2).2

/-- The first element of a ring. -/
theorem ring_first (h : IsRing L head xs) : L.next head = xs.headD head :=
  (chain_first h.chain).1

/-- The neighbours of an element. -/
theorem ring_neighbours (h : IsRing L head (xs ++ ev :: ys)) :
    L.prev ev = xs.getLastD head ∧ L.next ev = ys.headD head := by
  obtain ⟨-, hp, hrest⟩ := (chain_split h.chain).2
  exact ⟨hp, (chain_first hrest).1⟩

/-- The element after the first one. -/
theorem ring_second (h : IsRing L head (ev :: ys)) : L.next ev = ys.headD head :=
  (chain_first h.chain.2.2).1

theorem ring_next_ne_self (h : IsRing L head (xs ++ ev :: ys)) : ev ≠ L.next ev := by
  rw [(ring_neighbours h).2]
  have hnodup : (head :: ((xs ++ [ev]) ++ ys)).Nodup := by
    rw [List.append_assoc]
    exact h.nodup
  exact ne_headD hnodup (List.mem_append_right xs List.mem_cons_self)

/-- A ring leads to nothing but its own elements. -/
theorem ring_next_mem (h : IsRing L head xs) (hq : q ∈ head :: xs) : L.next q ∈ head :: xs := by
  rcases List.mem_cons.mp hq with rfl | hmem
  · rw [ring_first h]
    exact mem_headD xs q
  · obtain ⟨ys, zs, rfl⟩ := List.append_of_mem hmem
    rw [(ring_neighbours h).2]
    rcases List.mem_cons.mp (mem_headD zs head) with heq | hzs
    · rw [heq]
      exact List.mem_cons_self
    · exact List.mem_cons_of_mem head (List.mem_append_right ys (List.mem_cons_of_mem q hzs))

/-- Only the links of its own elements matter to a ring. -/
theorem ring_congr {L' : Links ν} (h : IsRing L head xs)
    (hnext : ∀ q ∈ head :: xs, L'.next q = L.next q)
    (hprev : ∀ q ∈ head :: xs, L'.prev q = L.prev q) : IsRing L' head xs := by
  refine ⟨h.nodup, chain_congr hnext ?_ h.chain⟩
  intro q hq
  refine hprev q ?_
  rcases List.mem_append.mp hq with hmem | hmem
  · exact List.mem_cons_of_mem head hmem
  · exact List.mem_singleton.mp hmem ▸ List.mem_cons_self

end Places

-- ── The two operations ───────────────────────────────────────────────────────

section OperationLemmas

variable [DecidableEq ν] {L : Links ν} {head head' ev null : ν} {xs ys zs : List ν}

theorem insertBefore_next (L : Links ν) (ev list : ν) :
    (insertBefore L ev list).next
      = Function.update (Function.update L.next ev list) (L.prev list) ev := by
  simp only [insertBefore, Function.update_self]

theorem insertBefore_prev (L : Links ν) (ev list : ν) :
    (insertBefore L ev list).prev
      = Function.update (Function.update L.prev ev (L.prev list)) list ev := rfl

theorem remove_next (hne : ev ≠ L.next ev) :
    (remove null L ev).next
      = Function.update (Function.update L.next (L.prev ev) (L.next ev)) ev null := by
  simp only [remove, Function.update_of_ne hne]

theorem remove_prev (null : ν) (L : Links ν) (ev : ν) :
    (remove null L ev).prev
      = Function.update (Function.update L.prev (L.next ev) (L.prev ev)) ev null := rfl

/-- **AN ELEMENT GOES IN** before the one it is put before. -/
theorem ring_insertBefore (h : IsRing L head (xs ++ ys)) (hev : ev ∉ head :: (xs ++ ys)) :
    IsRing (insertBefore L ev (ys.headD head)) head (xs ++ ev :: ys) := by
  have hplace := ring_place h
  obtain ⟨hleft, hright⟩ := chain_split h.chain
  have hne : ∀ q ∈ head :: (xs ++ ys), q ≠ ev := fun q hq heq => hev (heq ▸ hq)
  have hlist : ys.headD head ≠ ev := hne _ (headD_mem_ring head xs ys)
  have hlast : xs.getLastD head ≠ ev := hne _ (getLastD_mem_ring head xs ys)
  have hys : (head :: ys).Nodup :=
    h.nodup.sublist (List.Sublist.cons_cons head (List.sublist_append_right xs ys))
  have hxs : (head :: xs).Nodup :=
    h.nodup.sublist (List.Sublist.cons_cons head (List.sublist_append_left xs ys))
  constructor
  · have hmid : (ev :: head :: (xs ++ ys)).Nodup := List.nodup_cons.mpr ⟨hev, h.nodup⟩
    exact (@List.perm_middle _ ev (head :: xs) ys).nodup_iff.mpr hmid
  · refine @chain_join _ _ head head xs (ev :: ys) ?_ ⟨?_, ?_, ?_⟩
    · -- up to the new element
      refine chain_retarget hxs ?_ ?_ ?_ ?_ hleft
      · rw [insertBefore_next, hplace, Function.update_self]
        rfl
      · show (insertBefore L ev (ys.headD head)).prev ev = _
        rw [insertBefore_prev, Function.update_of_ne hlist.symm, Function.update_self, hplace]
      · intro q hq hqlast
        have hqev : q ≠ ev :=
          hne q (List.cons_subset_cons head (List.subset_append_left xs ys) hq)
        rw [insertBefore_next, hplace, Function.update_of_ne hqlast, Function.update_of_ne hqev]
      · intro q hq
        have hqev : q ≠ ev := hne q (List.mem_cons_of_mem head (List.mem_append_left ys hq))
        rw [insertBefore_prev, Function.update_of_ne (ne_headD h.nodup hq),
          Function.update_of_ne hqev]
    · rw [insertBefore_next, hplace, Function.update_self]
    · rw [insertBefore_prev, Function.update_of_ne hlist.symm, Function.update_self, hplace]
    · -- from the new element on
      refine chain_resource ?_ ?_ ?_ ?_ hright
      · rw [insertBefore_next, hplace, Function.update_of_ne hlast.symm, Function.update_self]
      · rw [insertBefore_prev, Function.update_self]
      · intro q hq
        have hqev : q ≠ ev := hne q (List.mem_cons_of_mem head (List.mem_append_right xs hq))
        rw [insertBefore_next, hplace, Function.update_of_ne (ne_getLastD h.nodup hq),
          Function.update_of_ne hqev]
      · intro q hq hnil
        have hqev : q ≠ ev := hne q
          (List.cons_subset_cons head (List.subset_append_right xs ys) (mem_of_mem_tail_append hq))
        rw [insertBefore_prev, Function.update_of_ne (tail_ne_headD hys hq hnil),
          Function.update_of_ne hqev]

/-- **AN ELEMENT COMES OUT.** -/
theorem ring_remove (h : IsRing L head (xs ++ ev :: ys)) :
    IsRing (remove null L ev) head (xs ++ ys) := by
  obtain ⟨hprev, hnext⟩ := ring_neighbours h
  obtain ⟨hleft, -, -, hright⟩ := chain_split h.chain
  have hmid : (ev :: head :: (xs ++ ys)).Nodup :=
    (@List.perm_middle _ ev (head :: xs) ys).nodup_iff.mp h.nodup
  obtain ⟨hev, hnodup⟩ := List.nodup_cons.mp hmid
  have hne : ∀ q ∈ head :: (xs ++ ys), q ≠ ev := fun q hq heq => hev (heq ▸ hq)
  have hlist : ys.headD head ≠ ev := hne _ (headD_mem_ring head xs ys)
  have hlast : xs.getLastD head ≠ ev := hne _ (getLastD_mem_ring head xs ys)
  have hself : ev ≠ L.next ev := ring_next_ne_self h
  have hys : (head :: ys).Nodup :=
    hnodup.sublist (List.Sublist.cons_cons head (List.sublist_append_right xs ys))
  have hxs : (head :: xs).Nodup :=
    hnodup.sublist (List.Sublist.cons_cons head (List.sublist_append_left xs ys))
  have hgap : (remove null L ev).next (xs.getLastD head) = ys.headD head := by
    rw [remove_next hself, Function.update_of_ne hlast, hprev, Function.update_self, hnext]
  have hback : (remove null L ev).prev (ys.headD head) = xs.getLastD head := by
    rw [remove_prev, Function.update_of_ne hlist, hnext, Function.update_self, hprev]
  refine ⟨hnodup, chain_join ?_ ?_⟩
  · refine chain_retarget hxs hgap hback ?_ ?_ hleft
    · intro q hq hqlast
      have hqev : q ≠ ev :=
        hne q (List.cons_subset_cons head (List.subset_append_left xs ys) hq)
      rw [remove_next hself, Function.update_of_ne hqev, hprev, Function.update_of_ne hqlast]
    · intro q hq
      have hqev : q ≠ ev := hne q (List.mem_cons_of_mem head (List.mem_append_left ys hq))
      rw [remove_prev, Function.update_of_ne hqev, hnext,
        Function.update_of_ne (ne_headD hnodup hq)]
  · refine chain_resource hgap hback ?_ ?_ hright
    · intro q hq
      have hqev : q ≠ ev := hne q (List.mem_cons_of_mem head (List.mem_append_right xs hq))
      rw [remove_next hself, Function.update_of_ne hqev, hprev,
        Function.update_of_ne (ne_getLastD hnodup hq)]
    · intro q hq hnil
      have hqev : q ≠ ev := hne q
        (List.cons_subset_cons head (List.subset_append_right xs ys) (mem_of_mem_tail_append hq))
      rw [remove_prev, Function.update_of_ne hqev, hnext,
        Function.update_of_ne (tail_ne_headD hys hq hnil)]

/-- The links of an element that came out are cleared. -/
theorem remove_next_self (null : ν) (L : Links ν) (ev : ν) :
    (remove null L ev).next ev = null := Function.update_self _ _ _

/-- Another ring stays as it is when an element goes in. -/
theorem ring_insertBefore_other (h : IsRing L head (xs ++ ys)) (hother : IsRing L head' zs)
    (hev : ev ∉ head' :: zs) (hdisjoint : ∀ q ∈ head' :: zs, q ∉ head :: (xs ++ ys)) :
    IsRing (insertBefore L ev (ys.headD head)) head' zs := by
  have hne : ∀ q ∈ head' :: zs, q ≠ ev := fun q hq heq => hev (heq ▸ hq)
  refine ring_congr hother ?_ ?_
  · intro q hq
    have hqlast : q ≠ xs.getLastD head := by
      rintro rfl
      exact hdisjoint _ hq (getLastD_mem_ring head xs ys)
    rw [insertBefore_next, ring_place h, Function.update_of_ne hqlast,
      Function.update_of_ne (hne q hq)]
  · intro q hq
    have hqlist : q ≠ ys.headD head := by
      rintro rfl
      exact hdisjoint _ hq (headD_mem_ring head xs ys)
    rw [insertBefore_prev, Function.update_of_ne hqlist, Function.update_of_ne (hne q hq)]

/-- Another ring stays as it is when an element comes out. -/
theorem ring_remove_other (h : IsRing L head (xs ++ ev :: ys)) (hother : IsRing L head' zs)
    (hdisjoint : ∀ q ∈ head' :: zs, q ∉ head :: (xs ++ ev :: ys)) :
    IsRing (remove null L ev) head' zs := by
  obtain ⟨hprev, hnext⟩ := ring_neighbours h
  have hne : ∀ q ∈ head' :: zs, q ≠ ev := by
    rintro q hq rfl
    exact hdisjoint _ hq
      (List.mem_cons_of_mem head (List.mem_append_right xs List.mem_cons_self))
  have hlist : ys.headD head ∈ head :: (xs ++ ev :: ys) := by
    have hsub : ys ⊆ xs ++ ev :: ys :=
      fun q hq => List.mem_append_right xs (List.mem_cons_of_mem ev hq)
    exact List.cons_subset_cons head hsub (mem_headD ys head)
  have hlast : xs.getLastD head ∈ head :: (xs ++ ev :: ys) :=
    getLastD_mem_ring head xs (ev :: ys)
  have hself : ev ≠ L.next ev := ring_next_ne_self h
  refine ring_congr hother ?_ ?_
  · intro q hq
    rw [remove_next hself, Function.update_of_ne (hne q hq), hprev, Function.update_of_ne]
    rintro rfl
    exact hdisjoint _ hq hlast
  · intro q hq
    rw [remove_prev, Function.update_of_ne (hne q hq), hnext, Function.update_of_ne]
    rintro rfl
    exact hdisjoint _ hq hlist

end OperationLemmas

-- ── Two rings in one memory ──────────────────────────────────────────────────

/-- The addresses two rings use, and the one that is no element. -/
def used (null a : ν) (xs : List ν) (b : ν) (ys : List ν) : List ν :=
  null :: ((a :: xs) ++ (b :: ys))

/-- **TWO RINGS** that have nothing in common; what is in neither is not linked. -/
structure TwoRings (null : ν) (L : Links ν) (a : ν) (xs : List ν) (b : ν) (ys : List ν) :
    Prop where
  fst : IsRing L a xs
  snd : IsRing L b ys
  apart : (used null a xs b ys).Nodup
  unlinked : ∀ q, q ∉ used null a xs b ys → L.next q = null

section TwoRings

variable {null a b ev q : ν} {L : Links ν} {xs ys zs : List ν}

theorem used_swap (null a : ν) (xs : List ν) (b : ν) (ys : List ν) :
    (used null a xs b ys).Perm (used null b ys a xs) :=
  List.perm_append_comm.cons null

theorem used_insert (null a : ν) (xs ys : List ν) (b : ν) (zs : List ν) (ev : ν) :
    (used null a (xs ++ ev :: ys) b zs).Perm (ev :: used null a (xs ++ ys) b zs) := by
  have hring : (a :: (xs ++ ev :: ys)).Perm (ev :: a :: (xs ++ ys)) :=
    @List.perm_middle _ ev (a :: xs) ys
  exact ((hring.append_right (b :: zs)).cons null).trans (List.Perm.swap ev null _)

theorem mem_used_left (hq : q ∈ a :: xs) (null b : ν) (ys : List ν) :
    q ∈ used null a xs b ys :=
  List.mem_cons_of_mem null (List.mem_append_left (b :: ys) hq)

theorem mem_used_right (hq : q ∈ b :: ys) (null a : ν) (xs : List ν) :
    q ∈ used null a xs b ys :=
  List.mem_cons_of_mem null (List.mem_append_right (a :: xs) hq)

namespace TwoRings

/-- Which ring comes first does not matter. -/
theorem symm (h : TwoRings null L a xs b ys) : TwoRings null L b ys a xs where
  fst := h.snd
  snd := h.fst
  apart := (used_swap null a xs b ys).nodup_iff.mp h.apart
  unlinked := fun q hq => h.unlinked q (fun hmem => hq ((used_swap null a xs b ys).mem_iff.mp hmem))

theorem disjoint (h : TwoRings null L a xs b ys) : ∀ q ∈ b :: ys, q ∉ a :: xs := by
  obtain ⟨-, hrest⟩ := List.nodup_cons.mp h.apart
  exact fun q hq hq' => (List.nodup_append.mp hrest).2.2 q hq' q hq rfl

/-- What is in the first ring has a link. -/
theorem linked (h : TwoRings null L a xs b ys) (hq : q ∈ a :: xs) : L.next q ≠ null := by
  intro hnull
  obtain ⟨hout, -⟩ := List.nodup_cons.mp h.apart
  exact hout (List.mem_append_left (b :: ys) (hnull ▸ ring_next_mem h.fst hq))

/-- What has no link is in neither ring. -/
theorem notMem_used (h : TwoRings null L a xs b ys) (hq : q ≠ null) (hnext : L.next q = null) :
    q ∉ used null a xs b ys := by
  intro hmem
  rcases List.mem_cons.mp hmem with heq | hmem
  · exact hq heq
  · rcases List.mem_append.mp hmem with hleft | hright
    · exact h.linked hleft hnext
    · exact h.symm.linked hright hnext

/-- What comes out of the first ring is then in neither. -/
theorem removed_notMem_used (h : TwoRings null L a (xs ++ ev :: ys) b zs) :
    ev ∉ used null a (xs ++ ys) b zs := by
  have hnodup : (ev :: used null a (xs ++ ys) b zs).Nodup :=
    (used_insert null a xs ys b zs ev).nodup_iff.mp h.apart
  exact (List.nodup_cons.mp hnodup).1

variable [DecidableEq ν]

/-- **AN ELEMENT GOES INTO THE FIRST RING.** -/
theorem insert (h : TwoRings null L a (xs ++ ys) b zs) (hev : ev ∉ used null a (xs ++ ys) b zs) :
    TwoRings null (insertBefore L ev (ys.headD a)) a (xs ++ ev :: ys) b zs where
  fst := ring_insertBefore h.fst (fun hmem => hev (mem_used_left hmem null b zs))
  snd := ring_insertBefore_other h.fst h.snd
    (fun hmem => hev (mem_used_right hmem null a (xs ++ ys))) h.disjoint
  apart := (used_insert null a xs ys b zs ev).nodup_iff.mpr (List.nodup_cons.mpr ⟨hev, h.apart⟩)
  unlinked := by
    intro q hq
    have hout : q ∉ ev :: used null a (xs ++ ys) b zs :=
      fun hmem => hq ((used_insert null a xs ys b zs ev).mem_iff.mpr hmem)
    have hne : q ≠ ev := List.ne_of_not_mem_cons hout
    have hout' : q ∉ used null a (xs ++ ys) b zs := List.not_mem_of_not_mem_cons hout
    have hlast : q ≠ xs.getLastD a := by
      rintro rfl
      exact hout' (mem_used_left (List.cons_subset_cons a
        (List.subset_append_left xs ys) List.getLastD_mem_cons) null b zs)
    rw [insertBefore_next, ring_place h.fst, Function.update_of_ne hlast,
      Function.update_of_ne hne]
    exact h.unlinked q hout'

/-- **AN ELEMENT COMES OUT OF THE FIRST RING.** -/
theorem remove (h : TwoRings null L a (xs ++ ev :: ys) b zs) :
    TwoRings null (Ring.remove null L ev) a (xs ++ ys) b zs := by
  have hnodup : (ev :: used null a (xs ++ ys) b zs).Nodup :=
    (used_insert null a xs ys b zs ev).nodup_iff.mp h.apart
  refine ⟨ring_remove h.fst, ring_remove_other h.fst h.snd h.disjoint,
    (List.nodup_cons.mp hnodup).2, ?_⟩
  intro q hq
  by_cases hne : q = ev
  · rw [hne]
    exact remove_next_self null L ev
  · have hlast : q ≠ xs.getLastD a := by
      rintro rfl
      exact hq (mem_used_left (List.cons_subset_cons a
        (List.subset_append_left xs ys) List.getLastD_mem_cons) null b zs)
    rw [remove_next (ring_next_ne_self h.fst), Function.update_of_ne hne, (ring_neighbours h.fst).1,
      Function.update_of_ne hlast]
    refine h.unlinked q (fun hmem => ?_)
    rcases List.mem_cons.mp ((used_insert null a xs ys b zs ev).mem_iff.mp hmem) with heq | hmem
    · exact hne heq
    · exact hq hmem

/-- The first element comes out. -/
theorem remove_first (h : TwoRings null L a (ev :: ys) b zs) :
    TwoRings null (Ring.remove null L ev) a ys b zs ∧ ev ∉ used null a ys b zs := by
  have hsplit : TwoRings null L a ([] ++ ev :: ys) b zs := h
  exact ⟨hsplit.remove, hsplit.removed_notMem_used⟩

/-- An element goes to the end. -/
theorem insert_last (h : TwoRings null L a xs b zs) (hev : ev ∉ used null a xs b zs) :
    TwoRings null (insertBefore L ev a) a (xs ++ [ev]) b zs := by
  rw [← List.append_nil xs] at h hev
  exact h.insert hev

/-- The links of what is in neither ring may be cleared. -/
theorem clear (h : TwoRings null L a xs b ys) (hev : ev ∉ used null a xs b ys) :
    TwoRings null ⟨Function.update L.next ev null, Function.update L.prev ev null⟩ a xs b ys := by
  have hne : ∀ q ∈ used null a xs b ys, q ≠ ev := fun q hq heq => hev (heq ▸ hq)
  refine ⟨?_, ?_, h.apart, ?_⟩
  · exact ring_congr h.fst
      (fun q hq => Function.update_of_ne (hne q (mem_used_left hq null b ys)) _ _)
      (fun q hq => Function.update_of_ne (hne q (mem_used_left hq null b ys)) _ _)
  · exact ring_congr h.snd
      (fun q hq => Function.update_of_ne (hne q (mem_used_right hq null a xs)) _ _)
      (fun q hq => Function.update_of_ne (hne q (mem_used_right hq null a xs)) _ _)
  · intro q hq
    by_cases heq : q = ev
    · rw [heq]
      exact Function.update_self _ _ _
    · exact (Function.update_of_ne heq _ _).trans (h.unlinked q hq)

end TwoRings

end TwoRings

end Ring

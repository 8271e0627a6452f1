import Mathlib.Data.List.Nodup
import Mathlib.Data.List.Perm.Basic

/-! # Slot tables and bit pools

    A small allocator pattern: a table of slots, of which some are live, and a
    `w`-bit pool with one bit per token handed out.

    * `putFirst` overwrites the first slot that satisfies a predicate.  Seen
      through the live slots it is an insertion when it fills a free slot
      (`filter_putFirst_fill`) and a removal when it clears a live one
      (`filter_putFirst_clear`);
    * `Tracks pool tokens` says that the pool is the union of distinct
      single-bit tokens.  It survives handing out a free bit and giving one
      back, it counts (`Tracks.length_eq`), and it does not survive clearing
      any other mask (`Tracks.not_clear`). -/

namespace SlotPool

-- ── Slot tables ──────────────────────────────────────────────────────────────

section Slots

variable {α : Type}

/-- Overwrite the first slot that satisfies `p`. -/
def putFirst (p : α → Bool) (v : α) (l : List α) : List α :=
  l.replaceF (fun x => if p x then some v else none)

/-- Either no slot satisfies `p`, or the first one that does is replaced. -/
theorem putFirst_cases (p : α → Bool) (v : α) (l : List α) :
    ((∀ x ∈ l, p x = false) ∧ putFirst p v l = l)
      ∨ ∃ l₁ x l₂, (∀ y ∈ l₁, p y = false) ∧ p x = true ∧ l = l₁ ++ x :: l₂
        ∧ putFirst p v l = l₁ ++ v :: l₂ := by
  have hnone : ∀ y, (if p y then some v else none) = none → p y = false := by
    intro y hy
    cases hp : p y with
    | false => rfl
    | true => rw [hp] at hy; exact nomatch hy
  by_cases h : ∃ x ∈ l, p x = true
  · obtain ⟨x, hx, hp⟩ := h
    obtain ⟨a, a', l₁, l₂, hpre, ha, hsplit, hput⟩ :=
      List.exists_of_replaceF (p := fun x => if p x then some v else none) hx
        (by rw [hp]; rfl)
    refine Or.inr ⟨l₁, a, l₂, fun y hy => hnone y (hpre y hy), ?_, hsplit, ?_⟩
    · cases hpa : p a with
      | true => rfl
      | false => rw [hpa] at ha; exact nomatch ha
    · rw [putFirst, hput]
      cases hpa : p a with
      | true => rw [hpa] at ha; rw [← Option.some.inj ha]
      | false => rw [hpa] at ha; exact nomatch ha
  · have hall : ∀ x ∈ l, p x = false := by
      intro x hx
      cases hp : p x with
      | false => rfl
      | true => exact absurd ⟨x, hx, hp⟩ h
    refine Or.inl ⟨hall, List.replaceF_of_forall_none ?_⟩
    intro x hx
    rw [hall x hx]
    rfl

@[simp] theorem length_putFirst (p : α → Bool) (v : α) (l : List α) :
    (putFirst p v l).length = l.length :=
  List.length_replaceF

/-- Filling a free slot adds one live slot. -/
theorem filter_putFirst_fill {p live : α → Bool} {v : α} {l : List α}
    (hp : ∀ x, p x = true → live x = false) (hv : live v = true)
    (hfree : ∃ x ∈ l, p x = true) :
    ((putFirst p v l).filter live).Perm (v :: l.filter live) := by
  rcases putFirst_cases p v l with ⟨hnone, -⟩ | ⟨l₁, x, l₂, -, hpx, hsplit, hput⟩
  · obtain ⟨x, hx, hpx⟩ := hfree
    rw [hnone x hx] at hpx
    exact nomatch hpx
  · rw [hput, hsplit, List.filter_append, List.filter_append, List.filter_cons_of_pos hv,
      List.filter_cons_of_neg (by rw [hp x hpx]; exact Bool.false_ne_true)]
    exact List.perm_middle

/-- Clearing a live slot removes it, and leaves the order of the others. -/
theorem filter_putFirst_clear {p live : α → Bool} {v : α} (l : List α)
    (hp : ∀ x, p x = true → live x = true) (hv : live v = false) :
    (putFirst p v l).filter live = (l.filter live).eraseP p := by
  rcases putFirst_cases p v l with ⟨hnone, hput⟩ | ⟨l₁, x, l₂, hpre, hpx, hsplit, hput⟩
  · rw [hput, List.eraseP_of_forall_not]
    intro x hx
    rw [hnone x (List.mem_of_mem_filter hx)]
    exact Bool.false_ne_true
  · rw [hput, hsplit, List.filter_append, List.filter_append,
      List.filter_cons_of_neg (by rw [hv]; exact Bool.false_ne_true),
      List.filter_cons_of_pos (hp x hpx), List.eraseP_append_right, List.eraseP_cons_of_pos hpx]
    intro y hy
    rw [hpre y (List.mem_of_mem_filter hy)]
    exact Bool.false_ne_true

end Slots

-- ── Bit pools ────────────────────────────────────────────────────────────────

section Pool

variable {w : Nat}

/-- The union of a list of masks. -/
def union (tokens : List (BitVec w)) : BitVec w := tokens.foldr (· ||| ·) 0

/-- A mask with exactly one bit. -/
def Single (t : BitVec w) : Prop := ∃ i, i < w ∧ t = BitVec.twoPow w i

/-- **THE POOL IS ITS TOKENS**: distinct single-bit tokens whose union is the
    pool. -/
structure Tracks (pool : BitVec w) (tokens : List (BitVec w)) : Prop where
  single : ∀ t ∈ tokens, Single t
  nodup : tokens.Nodup
  eq_union : pool = union tokens

/-- The lowest free bit, by the loop that looks for it. -/
def firstFree (pool : BitVec w) : Option Nat :=
  (List.range w).find? (fun i => (pool &&& (1#w <<< i)) == 0)

theorem getLsbD_union (tokens : List (BitVec w)) (i : Nat) :
    (union tokens).getLsbD i = true ↔ ∃ t ∈ tokens, t.getLsbD i = true := by
  induction tokens with
  | nil => simp [union]
  | cons t rest ih =>
      rw [show union (t :: rest) = t ||| union rest from rfl, BitVec.getLsbD_or,
        Bool.or_eq_true, ih]
      simp

theorem twoPow_ne_zero {i : Nat} (hi : i < w) : BitVec.twoPow w i ≠ 0#w := by
  intro h
  have := congrArg (fun b => b.getLsbD i) h
  simp [hi] at this

theorem twoPow_inj {i j : Nat} (hi : i < w) (h : BitVec.twoPow w i = BitVec.twoPow w j) :
    i = j := by
  have := congrArg (fun b => b.getLsbD i) h
  simp only [BitVec.getLsbD_twoPow, decide_true, Bool.and_true, hi] at this
  exact (of_decide_eq_true (Bool.and_eq_true_iff.mp this.symm).2).symm

theorem Single.ne_zero {t : BitVec w} (h : Single t) : t ≠ 0#w := by
  obtain ⟨i, hi, rfl⟩ := h
  exact twoPow_ne_zero hi

/-- A mask other than zero has a bit. -/
theorem exists_getLsbD {t : BitVec w} (h : t ≠ 0#w) : ∃ i, i < w ∧ t.getLsbD i = true := by
  refine Decidable.byContradiction fun hno => h (BitVec.eq_of_getLsbD_eq ?_)
  intro i hi
  rw [BitVec.getLsbD_zero]
  cases hb : t.getLsbD i with
  | false => rfl
  | true => exact absurd ⟨i, hi, hb⟩ hno

theorem mask_eq_zero_iff (pool : BitVec w) {i : Nat} (hi : i < w) :
    pool &&& (1#w <<< i) = 0 ↔ pool.getLsbD i = false := by
  rw [← BitVec.twoPow_eq, BitVec.and_twoPow]
  cases h : pool.getLsbD i with
  | false => simp
  | true => simpa using twoPow_ne_zero hi

/-- The bit `firstFree` finds is in range and free. -/
theorem firstFree_eq_some {pool : BitVec w} {i : Nat} (h : firstFree pool = some i) :
    i < w ∧ pool.getLsbD i = false := by
  have hi : i < w := List.mem_range.mp (List.mem_of_find?_eq_some h)
  refine ⟨hi, (mask_eq_zero_iff pool hi).mp ?_⟩
  have hfound := List.find?_some (p := fun i => (pool &&& (1#w <<< i)) == 0) h
  exact eq_of_beq hfound

/-- `firstFree` gives up only on a full pool. -/
theorem firstFree_eq_none {pool : BitVec w} (h : firstFree pool = none) :
    pool = BitVec.allOnes w := by
  refine BitVec.eq_of_getLsbD_eq fun i hi => ?_
  have := List.find?_eq_none.mp h i (List.mem_range.mpr hi)
  rw [BitVec.getLsbD_allOnes, decide_eq_true hi]
  cases hb : pool.getLsbD i with
  | true => rfl
  | false => exact absurd (beq_iff_eq.mpr ((mask_eq_zero_iff pool hi).mpr hb)) this

namespace Tracks

variable {pool : BitVec w} {tokens : List (BitVec w)}

theorem empty : Tracks (0 : BitVec w) [] :=
  ⟨fun _ h => (nomatch h), List.nodup_nil, rfl⟩

/-- A bit of the pool is a token, and a token is a bit of the pool. -/
theorem getLsbD_iff (h : Tracks pool tokens) {i : Nat} (hi : i < w) :
    pool.getLsbD i = true ↔ BitVec.twoPow w i ∈ tokens := by
  rw [h.eq_union, getLsbD_union]
  constructor
  · rintro ⟨t, ht, hb⟩
    obtain ⟨j, hj, rfl⟩ := h.single t ht
    rw [BitVec.getLsbD_twoPow, Bool.and_eq_true] at hb
    have hji : j = i := of_decide_eq_true hb.2
    exact hji ▸ ht
  · intro ht
    exact ⟨_, ht, by simp [hi]⟩

/-- The tokens are determined as a set by the bits of the pool. -/
theorem of_getLsbD (single : ∀ t ∈ tokens, Single t) (nodup : tokens.Nodup)
    (h : ∀ i, i < w → (pool.getLsbD i = true ↔ BitVec.twoPow w i ∈ tokens)) :
    Tracks pool tokens := by
  refine ⟨single, nodup, BitVec.eq_of_getLsbD_eq fun i hi => Bool.eq_iff_iff.mpr ?_⟩
  rw [h i hi, getLsbD_union]
  constructor
  · intro ht
    exact ⟨_, ht, by simp [hi]⟩
  · rintro ⟨t, ht, hb⟩
    obtain ⟨j, hj, rfl⟩ := single t ht
    rw [BitVec.getLsbD_twoPow, Bool.and_eq_true] at hb
    have hji : j = i := of_decide_eq_true hb.2
    exact hji ▸ ht

theorem perm {tokens' : List (BitVec w)} (h : Tracks pool tokens)
    (hperm : tokens'.Perm tokens) : Tracks pool tokens' :=
  of_getLsbD (fun t ht => h.single t (hperm.mem_iff.mp ht)) (hperm.nodup_iff.mpr h.nodup)
    (fun _ hi => (h.getLsbD_iff hi).trans hperm.mem_iff.symm)

/-- Handing out a free bit. -/
theorem cons (h : Tracks pool tokens) {i : Nat} (hi : i < w)
    (hfree : pool.getLsbD i = false) :
    Tracks (pool ||| BitVec.twoPow w i) (BitVec.twoPow w i :: tokens) := by
  have hnew : BitVec.twoPow w i ∉ tokens := by
    intro hmem
    rw [(h.getLsbD_iff hi).mpr hmem] at hfree
    exact nomatch hfree
  refine of_getLsbD ?_ (List.nodup_cons.mpr ⟨hnew, h.nodup⟩) ?_
  · intro t ht
    rcases List.mem_cons.mp ht with rfl | ht
    · exact ⟨i, hi, rfl⟩
    · exact h.single t ht
  · intro j hj
    rw [BitVec.getLsbD_or, Bool.or_eq_true, h.getLsbD_iff hj, List.mem_cons,
      BitVec.getLsbD_twoPow]
    constructor
    · rintro (hmem | hb)
      · exact Or.inr hmem
      · have hij : i = j := of_decide_eq_true (Bool.and_eq_true_iff.mp hb).2
        exact Or.inl (by rw [hij])
    · rintro (heq | hmem)
      · exact Or.inr (by simp [twoPow_inj hj heq, hi])
      · exact Or.inl hmem

/-- Giving one bit back. -/
theorem erase (h : Tracks pool tokens) {t : BitVec w} (ht : Single t) :
    Tracks (pool &&& ~~~t) (tokens.erase t) := by
  obtain ⟨i, hi, rfl⟩ := ht
  refine of_getLsbD (fun t ht => h.single t (List.mem_of_mem_erase ht))
    (h.nodup.erase _) ?_
  intro j hj
  rw [BitVec.getLsbD_and, BitVec.getLsbD_not, Bool.and_eq_true, h.getLsbD_iff hj,
    h.nodup.mem_erase_iff, BitVec.getLsbD_twoPow]
  constructor
  · rintro ⟨hmem, hb⟩
    refine ⟨?_, hmem⟩
    intro heq
    simp [twoPow_inj hj heq] at hb
  · rintro ⟨hne, hmem⟩
    refine ⟨hmem, ?_⟩
    have hij : ¬ i = j := fun heq => hne (by rw [heq])
    simp [hj, hij]

/-- **NO OTHER MASK**: clearing a nonempty part of the pool while the tokens
    stay loses track of them. -/
theorem not_clear (h : Tracks pool tokens) {t : BitVec w} (ht : t ≠ 0#w)
    (hsub : pool &&& t = t) : ¬ Tracks (pool &&& ~~~t) tokens := by
  intro hclear
  obtain ⟨i, hi, hb⟩ := exists_getLsbD ht
  have hin : pool.getLsbD i = true := by
    rw [← hsub, BitVec.getLsbD_and, Bool.and_eq_true] at hb
    exact hb.1
  have hstill := (hclear.getLsbD_iff hi).mpr ((h.getLsbD_iff hi).mp hin)
  rw [BitVec.getLsbD_and, BitVec.getLsbD_not, hb] at hstill
  simp at hstill

/-- There are as many tokens as bits in the pool. -/
theorem length_eq (h : Tracks pool tokens) :
    tokens.length = ((List.range w).filter pool.getLsbD).length := by
  have hperm : tokens.Perm (((List.range w).filter pool.getLsbD).map (BitVec.twoPow w)) := by
    refine (List.perm_ext_iff_of_nodup h.nodup ?_).mpr ?_
    · refine List.Nodup.map_on ?_ (List.nodup_range.filter _)
      intro i hi j _ heq
      exact twoPow_inj (List.mem_range.mp (List.mem_of_mem_filter hi)) heq
    · intro t
      rw [List.mem_map]
      constructor
      · intro ht
        obtain ⟨i, hi, rfl⟩ := h.single t ht
        exact ⟨i, List.mem_filter.mpr ⟨List.mem_range.mpr hi, (h.getLsbD_iff hi).mpr ht⟩, rfl⟩
      · rintro ⟨i, hi, rfl⟩
        obtain ⟨hi, hb⟩ := List.mem_filter.mp hi
        exact (h.getLsbD_iff (List.mem_range.mp hi)).mp hb
  rw [hperm.length_eq, List.length_map]

/-- The pool is full exactly when `w` tokens are out. -/
theorem length_eq_width_iff (h : Tracks pool tokens) :
    tokens.length = w ↔ pool = BitVec.allOnes w := by
  rw [h.length_eq]
  constructor
  · intro hlen
    have hall : (List.range w).filter pool.getLsbD = List.range w :=
      List.filter_eq_self.mpr (List.length_filter_eq_length_iff.mp
        (by rw [hlen, List.length_range]))
    refine BitVec.eq_of_getLsbD_eq fun i hi => ?_
    rw [BitVec.getLsbD_allOnes, decide_eq_true hi]
    exact List.filter_eq_self.mp hall i (List.mem_range.mpr hi)
  · rintro rfl
    have hall : (List.range w).filter (BitVec.allOnes w).getLsbD = List.range w := by
      refine List.filter_eq_self.mpr fun i hi => ?_
      rw [BitVec.getLsbD_allOnes, decide_eq_true (List.mem_range.mp hi)]
    rw [hall, List.length_range]

end Tracks

end Pool

end SlotPool

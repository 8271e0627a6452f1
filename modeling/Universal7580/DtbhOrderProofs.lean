import Mathlib.Data.Int.Init
import Universal7580.DtbhBoundsProofs

/-! # The order of the DTBH table

    `dt_entry_cmp` subtracts words and returns the difference as an `int`.  The
    sign is right while the words are less than 2³¹ apart; from there on it is
    turned around, and over three entries it is not even an order.

    `qsort` answers for comparators that are one.  `sorted_of_agrees` and
    `exists_unsorted` say what that means for a comparator of one's own: it
    sorts by an order if it agrees with it on the list, and otherwise there is a
    `qsort` that keeps its contract and does not.  `table_sorted_iff` is the two
    put together for the entries of a table. -/

namespace DtbhOrder

open PageBytes DtbhBlock

-- ── What qsort owes a comparator ─────────────────────────────────────────────

section Sorting

variable {α : Type} {cmp : α → α → Int} {l : List α}

/-- What `qsort` asks of its comparator on a list. -/
structure Preorder (cmp : α → α → Int) (l : List α) : Prop where
  total : ∀ a ∈ l, ∀ b ∈ l, cmp a b ≤ 0 ∨ cmp b a ≤ 0
  trans : ∀ a ∈ l, ∀ b ∈ l, ∀ c ∈ l, cmp a b ≤ 0 → cmp b c ≤ 0 → cmp a c ≤ 0

theorem Preorder.perm {r : List α} (h : Preorder cmp l) (hperm : l.Perm r) : Preorder cmp r where
  total a ha b hb := h.total a (hperm.mem_iff.mpr ha) b (hperm.mem_iff.mpr hb)
  trans a ha b hb c hc :=
    h.trans a (hperm.mem_iff.mpr ha) b (hperm.mem_iff.mpr hb) c (hperm.mem_iff.mpr hc)

/-- **AGREEMENT**: a comparator that agrees with a total preorder sorts by it. -/
theorem sorted_of_agrees {le : α → α → Prop} (q : QSort α)
    (hagree : ∀ a ∈ l, ∀ b ∈ l, cmp a b ≤ 0 ↔ le a b) (htotal : ∀ a b, le a b ∨ le b a)
    (htrans : ∀ a b c, le a b → le b c → le a c) : (q.sort cmp l).Pairwise le := by
  have hsorted := q.ordered cmp l
    (fun a ha b hb => (htotal a b).imp (hagree a ha b hb).mpr (hagree b hb a ha).mpr)
    (fun a ha b hb c hc hab hbc => (hagree a ha c hc).mpr
      (htrans a b c ((hagree a ha b hb).mp hab) ((hagree b hb c hc).mp hbc)))
  refine hsorted.imp_of_mem ?_
  intro a b ha hb hab
  exact (hagree a ((q.perm cmp l).mem_iff.mp ha) b ((q.perm cmp l).mem_iff.mp hb)).mp hab

open Classical in
/-- A `qsort` that gives one list as it is told to. -/
noncomputable def told (cmp₀ : α → α → Int) (l₀ l₁ : List α) (hperm : l₁.Perm l₀)
    (hordered : Preorder cmp₀ l₀ → l₁.Pairwise fun a b => cmp₀ a b ≤ 0) : QSort α where
  sort cmp l := if cmp = cmp₀ ∧ l = l₀ then l₁ else (mergeQSort α).sort cmp l
  perm cmp l := by
    split
    · rename_i h
      rw [h.2]
      exact hperm
    · exact (mergeQSort α).perm cmp l
  ordered cmp l total trans := by
    split
    · rename_i h
      obtain ⟨rfl, rfl⟩ := h
      exact hordered ⟨total, trans⟩
    · exact (mergeQSort α).ordered cmp l total trans

/-- The merge sort does not move what it need not move. -/
theorem mergeQSort_stable {a b : α} {rest : List α} (h : Preorder cmp (b :: a :: rest))
    (hba : cmp b a ≤ 0) :
    [b, a].Sublist ((mergeQSort α).sort cmp (b :: a :: rest)) := by
  have hpair : List.Sublist
      [⟨b, List.mem_cons_self⟩, ⟨a, List.mem_cons_of_mem b List.mem_cons_self⟩]
      (b :: a :: rest).attach := by
    rw [List.attach_cons, List.attach_cons, List.map_cons]
    exact ((List.nil_sublist _).cons_cons _).cons_cons _
  have hsorted := @List.pair_sublist_mergeSort {x // x ∈ b :: a :: rest}
    (fun x y => decide (cmp x.1 y.1 ≤ 0)) _ _ _
    (fun x y z hxy hyz => decide_eq_true (h.trans x.1 x.2 y.1 y.2 z.1 z.2
      (of_decide_eq_true hxy) (of_decide_eq_true hyz)))
    (fun x y => by simpa using h.total x.1 x.2 y.1 y.2) (decide_eq_true hba) hpair
  exact hsorted.map Subtype.val

/-- **DISAGREEMENT**: where the comparator lets two elements stand the wrong way
    round, a `qsort` may leave them so. -/
theorem exists_unsorted {le : α → α → Prop} {a b : α} (ha : a ∈ l) (hb : b ∈ l)
    (hrefl : le a a) (hnot : ¬le b a) (hba : cmp b a ≤ 0) :
    ∃ q : QSort α, ¬(q.sort cmp l).Pairwise le := by
  have hne : a ≠ b := by
    rintro rfl
    exact hnot hrefl
  obtain ⟨rest, hperm⟩ : ∃ rest, (b :: a :: rest).Perm l := by
    obtain ⟨s, t, rfl⟩ := List.append_of_mem hb
    have ha' : a ∈ s ++ t := by
      rcases List.mem_append.mp ha with h | h
      · exact List.mem_append_left t h
      · exact List.mem_append_right s ((List.mem_cons.mp h).resolve_left hne)
    obtain ⟨u, v, huv⟩ := List.append_of_mem ha'
    refine ⟨u ++ v, List.Perm.trans ?_ List.perm_middle.symm⟩
    rw [huv]
    exact (List.perm_middle.symm).cons b
  by_cases hpre : Preorder cmp l
  · have hpre' := hpre.perm hperm.symm
    refine ⟨told cmp l ((mergeQSort α).sort cmp (b :: a :: rest))
      (((mergeQSort α).perm _ _).trans hperm)
      (fun _ => (mergeQSort α).ordered _ _ hpre'.total hpre'.trans), fun hsorted => ?_⟩
    have heq : (told cmp l ((mergeQSort α).sort cmp (b :: a :: rest))
        (((mergeQSort α).perm _ _).trans hperm)
        (fun _ => (mergeQSort α).ordered _ _ hpre'.total hpre'.trans)).sort cmp l
          = (mergeQSort α).sort cmp (b :: a :: rest) := if_pos ⟨rfl, rfl⟩
    rw [heq] at hsorted
    exact hnot (List.pairwise_pair.mp (hsorted.sublist (mergeQSort_stable hpre' hba)))
  · refine ⟨told cmp l (b :: a :: rest) hperm (fun h => absurd h hpre), fun hsorted => ?_⟩
    have heq : (told cmp l (b :: a :: rest) hperm (fun h => absurd h hpre)).sort cmp l
        = b :: a :: rest := if_pos ⟨rfl, rfl⟩
    rw [heq] at hsorted
    exact hnot ((List.pairwise_cons.mp hsorted).1 a List.mem_cons_self)

end Sorting

-- ── The comparator ───────────────────────────────────────────────────────────

/-- The order the table is to be in: by `chip`, and by `hw_rev` for one chip. -/
def LexLe (a b : DtEntry) : Prop := a.chip < b.chip ∨ a.chip = b.chip ∧ a.hwRev ≤ b.hwRev

instance (a b : DtEntry) : Decidable (LexLe a b) := inferInstanceAs (Decidable (_ ∨ _))

theorem LexLe.refl (a : DtEntry) : LexLe a a := Or.inr ⟨rfl, UInt32.le_refl _⟩

theorem LexLe.total (a b : DtEntry) : LexLe a b ∨ LexLe b a := by
  simp only [LexLe, UInt32.lt_iff_toNat_lt, UInt32.le_iff_toNat_le, ← UInt32.toNat_inj]
  omega

theorem LexLe.trans (a b c : DtEntry) : LexLe a b → LexLe b c → LexLe a c := by
  simp only [LexLe, UInt32.lt_iff_toNat_lt, UInt32.le_iff_toNat_le, ← UInt32.toNat_inj]
  omega

/-- Two words are less than 2³¹ apart. -/
def Close (x y : UInt32) : Prop := ((x.toNat : Int) - y.toNat).natAbs < 2 ^ 31

/-- Two entries are close in the field that decides between them. -/
def Near (a b : DtEntry) : Prop :=
  (a.chip ≠ b.chip → Close a.chip b.chip) ∧ (a.chip = b.chip → Close a.hwRev b.hwRev)

/-- The difference of two words as an `int`. -/
theorem sub_toInt (x y : UInt32) :
    (x - y).toInt32.toInt = ((x.toNat : Int) - y.toNat).bmod (2 ^ 32) := by
  have hx : x.toNat < 2 ^ 32 := x.toNat_lt
  have hy : y.toNat < 2 ^ 32 := y.toNat_lt
  have hbits : (x - y).toInt32.toInt = ((x - y).toNat : Int).bmod (2 ^ 32) :=
    BitVec.toInt_eq_toNat_bmod _
  rw [hbits, UInt32.toNat_sub, Int.bmod_def, Int.bmod_def]
  omega

/-- Its sign, for words that are close. -/
theorem sub_of_close {x y : UInt32} (h : Close x y) :
    (x - y).toInt32.toInt = (x.toNat : Int) - y.toNat := by
  rw [Close] at h
  rw [sub_toInt]
  exact Int.bmod_eq_of_le (by omega) (by omega)

/-- For the others it says that the greater one comes first. -/
theorem sub_of_far {x y : UInt32} (hlt : y < x) (h : ¬Close x y) :
    (x - y).toInt32.toInt ≤ 0 := by
  have hx : x.toNat < 2 ^ 32 := x.toNat_lt
  rw [Close] at h
  rw [UInt32.lt_iff_toNat_lt] at hlt
  rw [sub_toInt, Int.bmod_def]
  omega

theorem dtEntryCmp_of_near {a b : DtEntry} (h : Near a b) : dtEntryCmp a b ≤ 0 ↔ LexLe a b := by
  rw [dtEntryCmp, LexLe, UInt32.lt_iff_toNat_lt, UInt32.le_iff_toNat_le]
  by_cases hchip : a.chip = b.chip
  · have heq : a.chip.toNat = b.chip.toNat := congrArg UInt32.toNat hchip
    rw [if_neg (not_not_intro hchip), sub_of_close (h.2 hchip)]
    constructor
    · exact fun hle => Or.inr ⟨hchip, by omega⟩
    · rintro (hlt | ⟨-, hle⟩) <;> omega
  · have hne : a.chip.toNat ≠ b.chip.toNat := fun heq => hchip (UInt32.toNat_inj.mp heq)
    rw [if_pos hchip, sub_of_close (h.1 hchip)]
    constructor
    · exact fun hle => Or.inl (by omega)
    · rintro (hlt | ⟨heq, -⟩)
      · omega
      · exact absurd heq hchip

theorem dtEntryCmp_swap {a b : DtEntry} (h : Near a b) (h' : Near b a) :
    dtEntryCmp a b = -dtEntryCmp b a := by
  rw [dtEntryCmp, dtEntryCmp]
  by_cases hchip : a.chip = b.chip
  · rw [if_neg (not_not_intro hchip), if_neg (not_not_intro hchip.symm),
      sub_of_close (h.2 hchip), sub_of_close (h'.2 hchip.symm)]
    omega
  · rw [if_pos hchip, if_pos (Ne.symm hchip), sub_of_close (h.1 hchip),
      sub_of_close (h'.1 (Ne.symm hchip))]
    omega

/-- Two entries that are not near, one way round or the other. -/
theorem dtEntryCmp_of_far {a b : DtEntry} (h : ¬Near a b) :
    (¬LexLe b a ∧ dtEntryCmp b a ≤ 0) ∨ (¬LexLe a b ∧ dtEntryCmp a b ≤ 0) := by
  have hsymm : ∀ {x y : UInt32}, ¬Close x y → ¬Close y x := by
    intro x y hfar hclose
    rw [Close] at hfar hclose
    omega
  have hself : ∀ x : UInt32, Close x x := fun x => by
    rw [Close]
    omega
  by_cases hchip : a.chip = b.chip
  · have hfar : ¬Close a.hwRev b.hwRev :=
      fun hclose => h ⟨fun hne => absurd hchip hne, fun _ => hclose⟩
    have hne : a.hwRev ≠ b.hwRev := fun heq => hfar (heq ▸ hself _)
    rcases UInt32.lt_or_lt_of_ne hne with hlt | hlt
    · left
      rw [LexLe, dtEntryCmp, hchip, if_neg (not_not_intro rfl)]
      refine ⟨?_, sub_of_far hlt (hsymm hfar)⟩
      rintro (hlt' | ⟨-, hle⟩)
      · exact UInt32.lt_irrefl _ hlt'
      · exact UInt32.not_le.mpr hlt hle
    · right
      rw [LexLe, dtEntryCmp, hchip, if_neg (not_not_intro rfl)]
      refine ⟨?_, sub_of_far hlt hfar⟩
      rintro (hlt' | ⟨-, hle⟩)
      · exact UInt32.lt_irrefl _ hlt'
      · exact UInt32.not_le.mpr hlt hle
  · have hfar : ¬Close a.chip b.chip :=
      fun hclose => h ⟨fun _ => hclose, fun heq => absurd heq hchip⟩
    rcases UInt32.lt_or_lt_of_ne hchip with hlt | hlt
    · left
      rw [LexLe, dtEntryCmp, if_pos (Ne.symm hchip)]
      refine ⟨?_, sub_of_far hlt (hsymm hfar)⟩
      rintro (hlt' | ⟨heq, -⟩)
      · exact UInt32.lt_asymm hlt hlt'
      · exact hchip heq.symm
    · right
      rw [LexLe, dtEntryCmp, if_pos hchip]
      refine ⟨?_, sub_of_far hlt hfar⟩
      rintro (hlt' | ⟨heq, -⟩)
      · exact UInt32.lt_asymm hlt hlt'
      · exact hchip heq

-- ── The table ────────────────────────────────────────────────────────────────

/-- An entry as the scan collected it. -/
def collected (e : DtEntry) : DtEntry := { e with offset := 0, size := 0 }

/-- The table that is written has the collected entries, in order. -/
structure TableSorted (q : QSort DtEntry) (pagesize : UInt32) (sc : Scan) : Prop where
  perm : ((tableOf q pagesize sc).map collected).Perm (sc.entries.map collected)
  sorted : (tableOf q pagesize sc).Pairwise LexLe

/-- The comparator has opposite signs both ways round, and is transitive. -/
structure CmpConsistent (l : List DtEntry) : Prop where
  sign : ∀ a ∈ l, ∀ b ∈ l, dtEntryCmp a b < 0 ↔ 0 < dtEntryCmp b a
  trans : ∀ a ∈ l, ∀ b ∈ l, ∀ c ∈ l,
    dtEntryCmp a b ≤ 0 → dtEntryCmp b c ≤ 0 → dtEntryCmp a c ≤ 0

/-- The offsets are no part of what is compared. -/
theorem updateEntry_eq (mask : UInt32) (blobs : List DtBlob) (e : DtEntry) :
    collected (updateEntry mask blobs e) = collected e
      ∧ (updateEntry mask blobs e).chip = e.chip ∧ (updateEntry mask blobs e).hwRev = e.hwRev := by
  rw [updateEntry]
  cases blobs[e.blob]? with
  | none => exact ⟨rfl, rfl, rfl⟩
  | some b => exact ⟨rfl, rfl, rfl⟩

theorem table_perm (q : QSort DtEntry) (pagesize : UInt32) (sc : Scan) :
    ((tableOf q pagesize sc).map collected).Perm (sc.entries.map collected) := by
  rw [tableOf, List.map_map]
  have hsame : (collected ∘ updateEntry (pagesize - 1)
      (assignOffsets (pagesize - 1) (maskUp (sc.hdrSz + 4) (pagesize - 1)) sc.blobs))
        = collected := funext fun e => (updateEntry_eq _ _ e).1
  rw [hsame]
  exact (q.perm _ _).map collected

theorem table_sorted (q : QSort DtEntry) (pagesize : UInt32) (sc : Scan) :
    (tableOf q pagesize sc).Pairwise LexLe ↔ (q.sort dtEntryCmp sc.entries).Pairwise LexLe := by
  rw [tableOf, List.pairwise_map]
  simp only [LexLe, (updateEntry_eq _ _ _).2.1, (updateEntry_eq _ _ _).2.2]
  exact Iff.rfl

theorem cmpConsistent_of_near {l : List DtEntry} (h : ∀ a ∈ l, ∀ b ∈ l, Near a b) :
    CmpConsistent l where
  sign a ha b hb := by
    have hswap := dtEntryCmp_swap (h a ha b hb) (h b hb a ha)
    omega
  trans a ha b hb c hc hab hbc :=
    (dtEntryCmp_of_near (h a ha c hc)).mpr (LexLe.trans a b c
      ((dtEntryCmp_of_near (h a ha b hb)).mp hab) ((dtEntryCmp_of_near (h b hb c hc)).mp hbc))

/-- Somewhere in the list the comparator is wrong, and some `qsort` shows it. -/
theorem exists_unsorted_table {sc : Scan} {a b : DtEntry} (ha : a ∈ sc.entries)
    (hb : b ∈ sc.entries) (hfar : ¬Near a b) (pagesize : UInt32) :
    ∃ q, ¬TableSorted q pagesize sc := by
  rcases dtEntryCmp_of_far hfar with ⟨hnot, hle⟩ | ⟨hnot, hle⟩
  · obtain ⟨q, hq⟩ := exists_unsorted ha hb (LexLe.refl a) hnot hle
    exact ⟨q, fun h => hq ((table_sorted q pagesize sc).mp h.sorted)⟩
  · obtain ⟨q, hq⟩ := exists_unsorted hb ha (LexLe.refl b) hnot hle
    exact ⟨q, fun h => hq ((table_sorted q pagesize sc).mp h.sorted)⟩

/-- **THE TABLE IS SORTED**, whatever `qsort` is used, and the comparator is an order
    on the entries, exactly if any two of them are less than 2³¹ apart in the field
    that decides. -/
theorem table_sorted_iff (pagesize : UInt32) (sc : Scan) :
    ((∀ q, TableSorted q pagesize sc) ∧ CmpConsistent sc.entries)
      ↔ ∀ a ∈ sc.entries, ∀ b ∈ sc.entries, Near a b := by
  constructor
  · rintro ⟨hsorted, -⟩ a ha b hb
    by_contra hfar
    obtain ⟨q, hq⟩ := exists_unsorted_table ha hb hfar pagesize
    exact hq (hsorted q)
  · intro hnear
    refine ⟨fun q => ⟨table_perm q pagesize sc, (table_sorted q pagesize sc).mpr ?_⟩,
      cmpConsistent_of_near hnear⟩
    exact sorted_of_agrees q (fun a ha b hb => dtEntryCmp_of_near (hnear a ha b hb))
      LexLe.total LexLe.trans

/-- An entry of a chip. -/
def entryOf (chip : UInt32) : DtEntry :=
  { chip := chip, platform := dtbhPlatformCode, subtype := dtbhSubtypeCode, hwRev := 0,
    hwRevEnd := 255, space := 0x20, blob := 0 }

/-- Two entries that every `qsort` puts the wrong way round. -/
theorem pair_unsorted {a b : DtEntry} (hab : 0 < dtEntryCmp a b) (hba : dtEntryCmp b a ≤ 0)
    (hself : dtEntryCmp a a = 0 ∧ dtEntryCmp b b = 0) (hnot : ¬LexLe b a) (q : QSort DtEntry) :
    ¬(q.sort dtEntryCmp [a, b]).Pairwise LexLe := by
  intro hsorted
  have hpre : Preorder dtEntryCmp [a, b] := by
    constructor
    · simp only [List.mem_cons, List.not_mem_nil, or_false]
      rintro x (rfl | rfl) y (rfl | rfl) <;> omega
    · simp only [List.mem_cons, List.not_mem_nil, or_false]
      rintro x (rfl | rfl) y (rfl | rfl) z (rfl | rfl) hxy hyz <;> omega
  have hordered := q.ordered dtEntryCmp [a, b] hpre.total hpre.trans
  have hperm := q.perm dtEntryCmp [a, b]
  have hlen := hperm.length_eq
  generalize q.sort dtEntryCmp [a, b] = r at *
  match r, hlen with
  | [x, y], _ =>
      have hxy := List.pairwise_pair.mp hordered
      have hle := List.pairwise_pair.mp hsorted
      have hx : x = a ∨ x = b := by
        simpa using hperm.mem_iff.mp (List.mem_cons_self : x ∈ [x, y])
      have hy : y = a ∨ y = b := by
        simpa using hperm.mem_iff.mp (List.mem_cons_of_mem x List.mem_cons_self : y ∈ [x, y])
      have ha : a = x ∨ a = y := by
        simpa using hperm.mem_iff.mpr (List.mem_cons_self : a ∈ [a, b])
      have hb : b = x ∨ b = y := by
        simpa using hperm.mem_iff.mpr (List.mem_cons_of_mem a List.mem_cons_self : b ∈ [a, b])
      rcases hx with rfl | rfl
      · rcases hb with rfl | rfl
        · omega
        · omega
      · rcases ha with rfl | rfl
        · omega
        · exact hnot hle

/-- Two chips that every `qsort` puts the wrong way round, and three of which each
    comes before the next and the last before the first. -/
theorem far_chips :
    (∀ q, ¬TableSorted q 2048 { entries := [entryOf 0, entryOf 0x80000001] })
      ∧ dtEntryCmp (entryOf 0) (entryOf 0x7fffffff) ≤ 0
      ∧ dtEntryCmp (entryOf 0x7fffffff) (entryOf 0xfffffffe) ≤ 0
      ∧ ¬dtEntryCmp (entryOf 0) (entryOf 0xfffffffe) ≤ 0 := by
  refine ⟨fun q h => ?_, by decide, by decide, by decide⟩
  exact pair_unsorted (by decide) (by decide) (by decide) (by decide) q
    ((table_sorted q 2048 _).mp h.sorted)

end DtbhOrder

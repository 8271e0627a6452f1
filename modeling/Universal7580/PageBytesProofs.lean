import Mathlib.Algebra.Group.Nat.Defs
import Mathlib.Data.List.Basic

/-! # Byte blocks, page rounding and little-endian words

    The image tools of this repository lay byte strings out on page
    boundaries.  This file is the vocabulary they share, with nothing of the
    tools in it:

    * `slice`, `memcpy` and `zeros` on byte lists, with a copy that falls
      outside its destination refused;
    * `roundUp` and `padLen`, and the 32-bit mask arithmetic that computes
      them for a power-of-two page size;
    * `le32` and `le32At`, the in-memory form of a 32-bit word;
    * `zeros_append_prefix_iff`: when a block that is shifted by a run of
      zeros still reads back as itself. -/

namespace PageBytes

/-- A byte string. -/
abbrev Bytes := List UInt8

/-- `n` zero bytes. -/
def zeros (n : Nat) : Bytes := List.replicate n 0

/-- The `len` bytes of `b` from offset `off`; shorter when `b` ends first. -/
def slice (b : Bytes) (off len : Nat) : Bytes := (b.drop off).take len

/-- Copy `src` over `dst` at offset `off`.  A copy that would leave the
    destination is undefined in C and is refused here. -/
def memcpy (dst : Bytes) (off : Nat) (src : Bytes) : Option Bytes :=
  if off + src.length ≤ dst.length then
    some (dst.take off ++ src ++ dst.drop (off + src.length))
  else none

/-- The least multiple of `p` that is at least `n`. -/
def roundUp (p n : Nat) : Nat := (n + p - 1) / p * p

/-- How far `n` is from the next multiple of `p`. -/
def padLen (p n : Nat) : Nat := roundUp p n - n

@[simp] theorem length_zeros (n : Nat) : (zeros n).length = n :=
  List.length_replicate

@[simp] theorem zeros_zero : zeros 0 = [] := rfl

theorem zeros_add (m n : Nat) : zeros (m + n) = zeros m ++ zeros n :=
  List.replicate_add m n 0

theorem mem_zeros {n : Nat} {x : UInt8} (h : x ∈ zeros n) : x = 0 :=
  (List.mem_replicate.mp h).2

/-- A list of zeros is determined by its length. -/
theorem eq_zeros_iff {l : Bytes} : l = zeros l.length ↔ ∀ x ∈ l, x = 0 := by
  constructor
  · intro h x hx
    rw [h] at hx
    exact mem_zeros hx
  · intro h
    exact List.eq_replicate_of_mem h

/-! ## Slices -/

theorem length_slice (b : Bytes) (off len : Nat) :
    (slice b off len).length = min len (b.length - off) := by
  rw [slice, List.length_take, List.length_drop]

/-- A slice that starts after a prefix is a slice of the rest. -/
theorem slice_append_right (l r : Bytes) (off len : Nat) :
    slice (l ++ r) (l.length + off) len = slice r off len := by
  rw [slice, slice, List.drop_append]
  rw [List.drop_eq_nil_of_le (by omega), List.nil_append]
  rw [show l.length + off - l.length = off by omega]

/-- The slice right after a prefix begins the rest. -/
theorem slice_append_exact (l m r : Bytes) {off : Nat} (hoff : off = l.length) :
    slice (l ++ (m ++ r)) off m.length = m := by
  subst hoff
  have h := slice_append_right l (m ++ r) 0 m.length
  rw [Nat.add_zero] at h
  rw [h, slice, List.drop_zero, List.take_left]

/-- Two adjacent slices make one. -/
theorem slice_add (b : Bytes) (off m n : Nat) :
    slice b off (m + n) = slice b off m ++ slice b (off + m) n := by
  rw [slice, slice, slice, List.take_add, List.drop_drop]

/-- Reading a concatenation at `off` is reading its parts one after the
    other. -/
theorem slice_eq_append_iff (b l r : Bytes) (off : Nat) :
    slice b off (l.length + r.length) = l ++ r
      ↔ slice b off l.length = l ∧ slice b (off + l.length) r.length = r := by
  rw [slice_add]
  constructor
  · intro h
    have hlen := congrArg List.length h
    rw [List.length_append, List.length_append, length_slice, length_slice] at hlen
    exact List.append_inj h (by rw [length_slice]; omega)
  · rintro ⟨hl, hr⟩
    rw [hl, hr]

/-! ## Copies -/

theorem memcpy_eq_some_iff {dst src out : Bytes} {off : Nat} :
    memcpy dst off src = some out
      ↔ off + src.length ≤ dst.length
        ∧ out = dst.take off ++ src ++ dst.drop (off + src.length) := by
  rw [memcpy]
  by_cases h : off + src.length ≤ dst.length
  · rw [if_pos h]
    exact ⟨fun heq => ⟨h, (Option.some.inj heq).symm⟩, fun heq => by rw [heq.2]⟩
  · rw [if_neg h]
    constructor
    · intro heq
      exact absurd heq (by simp)
    · intro heq
      exact absurd heq.1 h

/-- A copy does not change the size of its destination. -/
theorem length_memcpy {dst src out : Bytes} {off : Nat} (h : memcpy dst off src = some out) :
    out.length = dst.length := by
  obtain ⟨hle, rfl⟩ := memcpy_eq_some_iff.mp h
  rw [List.length_append, List.length_append, List.length_take, List.length_drop]
  omega

/-- A copy between a written prefix and untouched zeros extends the prefix. -/
theorem memcpy_append_zeros (l src : Bytes) {off n : Nat} (hoff : off = l.length)
    (hn : src.length ≤ n) :
    memcpy (l ++ zeros n) off src = some (l ++ src ++ zeros (n - src.length)) := by
  subst hoff
  refine memcpy_eq_some_iff.mpr ⟨by rw [List.length_append, length_zeros]; omega, ?_⟩
  rw [List.take_left, List.drop_append, List.drop_eq_nil_of_le (by omega),
    List.nil_append, show l.length + src.length - l.length = src.length by omega,
    zeros, zeros, List.drop_replicate]

/-! ## Rounding -/

theorem roundUp_eq_mul (p n : Nat) : roundUp p n = (n + p - 1) / p * p := rfl

theorem le_roundUp {p : Nat} (hp : 0 < p) (n : Nat) : n ≤ roundUp p n := by
  have h := Nat.lt_div_mul_add (a := n + p - 1) hp
  rw [roundUp]
  omega

theorem dvd_roundUp (p n : Nat) : p ∣ roundUp p n := Nat.dvd_mul_left p _

/-- The next multiple is the least one. -/
theorem roundUp_le_of_dvd {p m n : Nat} (hp : 0 < p) (h : n ≤ m) (hm : p ∣ m) :
    roundUp p n ≤ m := by
  obtain ⟨c, rfl⟩ := hm
  have hc : (n + p - 1) / p < c + 1 := by
    rw [Nat.div_lt_iff_lt_mul hp, Nat.add_mul, Nat.one_mul, Nat.mul_comm c]
    omega
  rw [roundUp, Nat.mul_comm p]
  exact Nat.mul_le_mul_right p (Nat.le_of_lt_succ hc)

theorem roundUp_mono (p : Nat) {m n : Nat} (h : m ≤ n) : roundUp p m ≤ roundUp p n :=
  Nat.mul_le_mul_right p (Nat.div_le_div_right (by omega))

theorem add_padLen {p : Nat} (hp : 0 < p) (n : Nat) :
    n + padLen p n = roundUp p n := by
  have := le_roundUp hp n
  rw [padLen]
  omega

theorem roundUp_zero {p : Nat} (hp : 0 < p) : roundUp p 0 = 0 := by
  have h : (0 + p - 1) / p = 0 := Nat.div_eq_of_lt (by omega)
  rw [roundUp, h, Nat.zero_mul]

theorem padLen_zero {p : Nat} (hp : 0 < p) : padLen p 0 = 0 := by
  rw [padLen, roundUp_zero hp]

/-- Rounding commutes with adding whole pages. -/
theorem roundUp_mul_add {p : Nat} (hp : 0 < p) (k n : Nat) :
    roundUp p (k * p + n) = k * p + roundUp p n := by
  have h : k * p + n + p - 1 = n + p - 1 + k * p := by omega
  rw [roundUp, roundUp, h, Nat.add_mul_div_right _ _ hp, Nat.add_mul]
  omega

/-- The padding in remainder form, as the writers compute it. -/
theorem padLen_eq_ite {p : Nat} (hp : 0 < p) (n : Nat) :
    padLen p n = if n % p = 0 then 0 else p - n % p := by
  have hd := Nat.div_add_mod' n p
  have hm := Nat.mod_lt n hp
  have hr : roundUp p n = n / p * p + roundUp p (n % p) := by
    rw [← roundUp_mul_add hp, hd]
  by_cases h0 : n % p = 0
  · rw [if_pos h0, padLen, hr, h0, roundUp_zero hp]
    omega
  · have h1 : roundUp p (n % p) = p := by
      have h2 : (n % p + p - 1) / p = 1 :=
        Nat.div_eq_of_lt_le (by omega) (by omega)
      rw [roundUp, h2, Nat.one_mul]
    rw [if_neg h0, padLen, hr, h1]
    omega

theorem padLen_eq_iff {p : Nat} (hp : 0 < p) (m n : Nat) :
    padLen p m = padLen p n ↔ m % p = n % p := by
  have hm := Nat.mod_lt m hp
  have hn := Nat.mod_lt n hp
  rw [padLen_eq_ite hp, padLen_eq_ite hp]
  constructor
  · intro h
    split at h <;> split at h <;> omega
  · intro h
    rw [h]

/-! ## Mask arithmetic on 32-bit words -/

/-- `(x + mask) & ~mask`, as C computes it on `unsigned`. -/
def maskUp (x mask : UInt32) : UInt32 := (x + mask) &&& ~~~mask

/-- Clearing the low `k` bits rounds down to a multiple of `2 ^ k`. -/
theorem toNat_and_not_low {x m : UInt32} {k : Nat} (hk : k ≤ 32)
    (hm : m.toNat = 2 ^ k - 1) :
    (x &&& ~~~m).toNat = x.toNat / 2 ^ k * 2 ^ k := by
  have hx : x.toNat < 2 ^ 32 := x.toNat_lt
  refine Nat.eq_of_testBit_eq ?_
  intro i
  have hnot : (~~~m).toNat = 2 ^ 32 - 1 - m.toNat := UInt32.toNat_not m
  rw [UInt32.toNat_and, Nat.testBit_and, hnot, hm,
    Nat.testBit_mul_two_pow, Nat.testBit_div_two_pow]
  have hlow : (2 ^ 32 - 1 - (2 ^ k - 1)).testBit i = (decide (i < 32) && decide (k ≤ i)) := by
    have hpos : 0 < 2 ^ k := Nat.two_pow_pos k
    have hle : 2 ^ k ≤ 2 ^ 32 := Nat.pow_le_pow_right (by omega) hk
    rw [show 2 ^ 32 - 1 - (2 ^ k - 1) = 2 ^ 32 - ((2 ^ k - 1) + 1) by omega,
      Nat.testBit_two_pow_sub_succ (by omega), Nat.testBit_two_pow_sub_one]
    by_cases h : k ≤ i
    · simp [h]
    · simp [h, Nat.lt_of_not_le h]
  rw [hlow]
  by_cases hi : k ≤ i
  · rw [Nat.sub_add_cancel hi]
    by_cases h32 : i < 32
    · simp [hi, h32]
    · have hbig : x.toNat < 2 ^ i :=
        Nat.lt_of_lt_of_le hx (Nat.pow_le_pow_right (by omega) (by omega))
      rw [Nat.testBit_lt_two_pow hbig]
      simp
  · simp [hi]

/-- The mask idiom is `roundUp`, as long as the addition does not wrap. -/
theorem toNat_maskUp {x m : UInt32} {k : Nat} (hk : k ≤ 32)
    (hm : m.toNat = 2 ^ k - 1) (hx : x.toNat + (2 ^ k - 1) < 2 ^ 32) :
    (maskUp x m).toNat = roundUp (2 ^ k) x.toNat := by
  have hpos : 0 < 2 ^ k := Nat.two_pow_pos k
  rw [maskUp, toNat_and_not_low hk hm, UInt32.toNat_add, hm,
    Nat.mod_eq_of_lt hx, roundUp,
    show x.toNat + (2 ^ k - 1) = x.toNat + 2 ^ k - 1 by omega]

/-- A rounded value that fits 32 bits leaves room for the mask. -/
theorem add_mask_lt_of_roundUp_lt {k n : Nat} (hk : k ≤ 32)
    (h : roundUp (2 ^ k) n < 2 ^ 32) : n + (2 ^ k - 1) < 2 ^ 32 := by
  have hpos : 0 < 2 ^ k := Nat.two_pow_pos k
  have hsplit : 2 ^ 32 = 2 ^ (32 - k) * 2 ^ k := by
    rw [← Nat.pow_add, Nat.sub_add_cancel hk]
  have hlt : (n + 2 ^ k - 1) / 2 ^ k < 2 ^ (32 - k) := by
    refine Nat.lt_of_mul_lt_mul_right (a := 2 ^ k) ?_
    rw [← hsplit]
    exact h
  have := (Nat.div_lt_iff_lt_mul hpos).mp hlt
  rw [← hsplit] at this
  omega

/-- Masking with a power of two minus one is a remainder. -/
theorem toNat_and_low {x m : UInt32} {k : Nat} (hm : m.toNat = 2 ^ k - 1) :
    (x &&& m).toNat = x.toNat % 2 ^ k := by
  rw [UInt32.toNat_and, hm, Nat.and_two_pow_sub_one_eq_mod]

/-- The padding of an item, in 32 bits. -/
theorem padLen_eq_and_ite {itemsize pagesize : UInt32} {k : Nat} (hps : pagesize.toNat = 2 ^ k)
    (hm : (pagesize - 1).toNat = 2 ^ k - 1) :
    padLen (2 ^ k) itemsize.toNat
      = if itemsize &&& (pagesize - 1) = 0 then 0
        else (pagesize - (itemsize &&& (pagesize - 1))).toNat := by
  have hpos : 0 < 2 ^ k := Nat.two_pow_pos k
  have hand := toNat_and_low (x := itemsize) hm
  have hlt := Nat.mod_lt itemsize.toNat hpos
  have hzero : itemsize &&& (pagesize - 1) = 0 ↔ itemsize.toNat % 2 ^ k = 0 := by
    rw [← hand, ← UInt32.toNat_inj]
    rfl
  have hle : itemsize &&& (pagesize - 1) ≤ pagesize := by
    rw [UInt32.le_iff_toNat_le, hand, hps]
    exact Nat.le_of_lt hlt
  rw [padLen_eq_ite hpos, UInt32.toNat_sub_of_le _ _ hle, hps, hand]
  exact if_congr hzero.symm rfl rfl

/-! ## Little-endian words -/

/-- The four bytes of a word, low byte first. -/
def le32 (x : UInt32) : Bytes :=
  [UInt8.ofNat x.toNat, UInt8.ofNat (x.toNat / 256),
   UInt8.ofNat (x.toNat / 65536), UInt8.ofNat (x.toNat / 16777216)]

/-- The word that four bytes make, low byte first. -/
def ofLe32 (b : Bytes) : UInt32 :=
  match b with
  | [b0, b1, b2, b3] =>
      UInt32.ofNat (b0.toNat + 256 * b1.toNat + 65536 * b2.toNat + 16777216 * b3.toNat)
  | _ => 0

/-- The word stored at byte offset `off`. -/
def le32At (b : Bytes) (off : Nat) : UInt32 := ofLe32 (slice b off 4)

@[simp] theorem length_le32 (x : UInt32) : (le32 x).length = 4 := rfl

@[simp] theorem ofLe32_le32 (x : UInt32) : ofLe32 (le32 x) = x := by
  have hx : x.toNat < 4294967296 := x.toNat_lt
  refine UInt32.toNat_inj.mp ?_
  show (UInt32.ofNat _).toNat = x.toNat
  rw [UInt32.toNat_ofNat']
  simp only [UInt8.toNat_ofNat']
  omega

/-- The word that follows a prefix. -/
theorem le32At_append (l r : Bytes) (x : UInt32) {off : Nat} (hoff : off = l.length) :
    le32At (l ++ (le32 x ++ r)) off = x := by
  rw [le32At, show (4 : Nat) = (le32 x).length from rfl,
    slice_append_exact l (le32 x) r hoff, ofLe32_le32]

/-- Word `i` of a row of words that follows a prefix. -/
theorem le32At_words : ∀ (ws : List UInt32) (l r : Bytes) (i : Nat) (x : UInt32),
    ws[i]? = some x → le32At (l ++ (ws.flatMap le32 ++ r)) (l.length + 4 * i) = x := by
  intro ws
  induction ws with
  | nil => intro l r i x hi; exact nomatch hi
  | cons w rest ih =>
      intro l r i x hi
      rw [List.flatMap_cons, List.append_assoc]
      cases i with
      | zero =>
          have hw : w = x := by simpa using hi
          rw [hw]
          exact le32At_append l _ x rfl
      | succ i =>
          have h := ih (l ++ le32 w) r i x (by simpa using hi)
          rw [List.append_assoc, List.length_append, length_le32] at h
          rw [show l.length + 4 * (i + 1) = l.length + 4 + 4 * i by omega]
          exact h

/-! ## Blocks shifted by zeros -/

/-- **SHIFTED READ**: a block that follows `k + 1` zeros reads as itself from
    the first zero on only when it is all zero. -/
theorem zeros_append_take_eq {k : Nat} {t : Bytes} (hk : 0 < k)
    (h : (zeros k ++ t).take t.length = t) : ∀ x ∈ t, x = 0 := by
  have hget : ∀ i (hi : i < t.length), t[i] = 0 := by
    intro i
    -- strong induction: byte `i` is either one of the zeros or byte `i - k`
    induction i using Nat.strongRecOn with
    | ind i ih =>
        intro hi
        have hlen : i < ((zeros k ++ t).take t.length).length := by
          rw [h]; exact hi
        have heq : t[i] = ((zeros k ++ t).take t.length)[i] := by
          simp only [h]
        rw [heq, List.getElem_take]
        by_cases hik : i < k
        · rw [List.getElem_append_left (by rw [length_zeros]; exact hik)]
          exact List.getElem_replicate ..
        · rw [List.getElem_append_right (by rw [length_zeros]; omega)]
          simp only [length_zeros]
          exact ih (i - k) (by omega) (by omega)
  intro x hx
  obtain ⟨i, hi, rfl⟩ := List.mem_iff_getElem.mp hx
  exact hget i hi

/-- A block with `d` zeros behind it reads as itself `d` bytes further on only
    when nothing is shifted or the block is all zero. -/
theorem append_zeros_slice_iff (t : Bytes) (d : Nat) :
    slice (t ++ zeros d) d t.length = t ↔ d = 0 ∨ ∀ x ∈ t, x = 0 := by
  have hall : slice (t ++ zeros d) d t.length = (t ++ zeros d).drop d := by
    rw [slice, List.take_of_length_le]
    rw [List.length_drop, List.length_append, length_zeros]
    omega
  rw [hall]
  constructor
  · intro h
    by_cases hd : d = 0
    · exact Or.inl hd
    · refine Or.inr ?_
      -- read backwards, the zeros come first
      have hrev : (zeros d ++ t.reverse).take t.reverse.length = t.reverse := by
        have h' := congrArg List.reverse h
        rw [List.reverse_drop, List.reverse_append, List.length_append, length_zeros,
          Nat.add_sub_cancel, zeros, List.reverse_replicate] at h'
        rw [List.length_reverse]
        exact h'
      intro x hx
      exact zeros_append_take_eq (by omega) hrev x (List.mem_reverse.mpr hx)
  · rintro (rfl | hz)
    · rw [zeros_zero, List.append_nil, List.drop_zero]
    · rw [eq_zeros_iff.mpr hz, ← zeros_add, zeros, zeros, List.drop_replicate,
        Nat.add_sub_cancel]

/-- **MISPLACED TAIL**: `t` is written behind `r` zeros.  Looked for behind
    `s` zeros it is found exactly when `r = s`, or when fewer zeros are asked
    for and the whole tail is zero. -/
theorem zeros_append_prefix_iff (r s : Nat) (t : Bytes) :
    (slice (zeros r ++ t) 0 s = zeros s ∧ slice (zeros r ++ t) s t.length = t)
      ↔ r = s ∨ (s < r ∧ ∀ x ∈ t, x = 0) := by
  constructor
  · rintro ⟨hz, ht⟩
    have hz' := congrArg List.length hz
    have ht' := congrArg List.length ht
    rw [length_slice, List.length_append, length_zeros, length_zeros] at hz'
    rw [length_slice, List.length_append, length_zeros] at ht'
    by_cases hrs : r = s
    · exact Or.inl hrs
    · have hlt : s < r := by omega
      refine Or.inr ⟨hlt, zeros_append_take_eq (k := r - s) (by omega) ?_⟩
      rw [slice, List.drop_append_of_le_length (by rw [length_zeros]; omega)] at ht
      rw [zeros, List.drop_replicate] at ht
      exact ht
  · rintro (rfl | ⟨hlt, hzero⟩)
    · refine ⟨?_, ?_⟩
      · have := slice_append_exact [] (zeros r) t (show 0 = ([] : Bytes).length from rfl)
        rwa [length_zeros, List.nil_append] at this
      · have := slice_append_exact (zeros r) t [] (length_zeros r).symm
        rwa [List.append_nil] at this
    · have htz : t = zeros t.length := eq_zeros_iff.mpr hzero
      refine ⟨?_, ?_⟩
      · rw [slice, List.drop_zero, List.take_append_of_le_length
          (by rw [length_zeros]; omega), zeros, List.take_replicate]
        rw [show min s r = s by omega, zeros]
      · rw [htz, ← zeros_add, slice, zeros, zeros, List.drop_replicate,
          List.take_replicate, List.length_replicate]
        congr 1
        omega

end PageBytes

import Mathlib.Algebra.Group.Int.Defs
import Universal7580.Utf8SeqProofs

/-! # The string conversions of the libcutils shim

    `strdup16to8.cpp` writes each UTF-16 unit as a UTF-8 sequence of its own,
    and the unit 0 as two bytes, so that the text can be terminated by a zero.
    `strdup8to16.cpp` reads sequences of up to four bytes, and writes a pair of
    surrogates for a value beyond 0xffff.

    `getUtf32FromUtf8_utf8Seq` says that a sequence is read as its code value,
    whatever follows; both round trips are inductions over it.  A C string is
    the list of the bytes that may be read from its pointer on, so that a read
    past its end is `none`.

    Bytes that are no text are counted in one way and copied in another.
    `continuation_settled` brings the two together at the end of each sequence,
    and `strdup8to16_capacity` follows for any bytes. -/

namespace Jstring

open Utf8Seq

-- ── strdup16to8.cpp ──────────────────────────────────────────────────────────

/-- `strnlen16to8`; `sizeMax` is `SIZE_MAX`. -/
def unitLen (uic : UInt32) : Nat :=
  if uic > 0x07ff then 3 else if uic > 0x7f ∨ uic = 0 then 2 else 1

/-- The slower but paranoid version. -/
def paranoidLen (sizeMax : Nat) : List UInt16 → Nat → Nat
  | [], utf8Len => if utf8Len = sizeMax then sizeMax - 1 else utf8Len
  | uic :: rest, utf8Cur =>
      let utf8Len := (utf8Cur + unitLen uic.toUInt32) % (sizeMax + 1)
      if utf8Len < utf8Cur then sizeMax - 1 else paranoidLen sizeMax rest utf8Len

def strnlen16to8 (sizeMax : Nat) (utf16Str : List UInt16) : Nat :=
  if utf16Str.length < (sizeMax - 1) / 3 then
    utf16Str.foldl (fun utf8Len uic => utf8Len + unitLen uic.toUInt32) 0
  else paranoidLen sizeMax utf16Str 0

/-- The bytes that `strncpy16to8` writes for one unit. -/
def unitBytes (uic : UInt32) : List UInt8 :=
  if uic > 0x07ff then
    [(uic >>> 12 ||| 0xe0).toUInt8, ((uic >>> 6) &&& 0x3f ||| 0x80).toUInt8,
     (uic &&& 0x3f ||| 0x80).toUInt8]
  else if uic > 0x7f ∨ uic = 0 then
    [(uic >>> 6 ||| 0xc0).toUInt8, (uic &&& 0x3f ||| 0x80).toUInt8]
  else [uic.toUInt8]

/-- `strncpy16to8`, with the terminator. -/
def strncpy16to8 : List UInt16 → List UInt8
  | [] => [0]
  | uic :: rest =>
      if ¬uic.toUInt32 > 0x07ff ∧ ¬(uic.toUInt32 > 0x7f ∨ uic.toUInt32 = 0) ∧ uic.toUInt32 = 0 then
        -- the `break` of the one-byte branch
        unitBytes uic.toUInt32 ++ [0]
      else unitBytes uic.toUInt32 ++ strncpy16to8 rest

-- ── strdup8to16.cpp ──────────────────────────────────────────────────────────

def UTF16_REPLACEMENT_CHAR : UInt32 := 0xfffd

def UNICODE_UPPER_LIMIT : UInt32 := 0x10fffd

/-- `UTF8_SEQ_LENGTH`. -/
def UTF8_SEQ_LENGTH (ch : UInt8) : Nat :=
  (((0xe5000000 : UInt32) >>> ((ch.toUInt32 >>> 3) &&& 0x1e)) &&& 3).toNat + 1

/-- `UTF8_SHIFT_AND_MASK`. -/
def UTF8_SHIFT_AND_MASK (unicode : UInt32) (byte : UInt8) : UInt32 :=
  unicode <<< 6 ||| (0x3f &&& byte.toUInt32)

/-- `leaderMask`, by the length of the sequence. -/
def leaderMask (seq_len : Nat) : UInt32 :=
  if seq_len = 1 then 0xff else if seq_len = 2 then 0x1f else if seq_len = 3 then 0x0f else 0x07

/-- The loop of `getUtf32FromUtf8` over the continuation bytes. -/
def continuation : Nat → UInt32 → List UInt8 → Option (UInt32 × List UInt8)
  | 0, ret, s => some (ret, s)
  | _ + 1, _, [] => none
  | n + 1, ret, b :: s =>
      if b = 0 then some (UTF16_REPLACEMENT_CHAR, b :: s)
      else if b &&& 0xc0 ≠ 0x80 then some (UTF16_REPLACEMENT_CHAR, b :: s)
      else continuation n (UTF8_SHIFT_AND_MASK ret b) s

/-- `getUtf32FromUtf8`: the value, and the pointer behind it. -/
def getUtf32FromUtf8 : List UInt8 → Option (UInt32 × List UInt8)
  | [] => none
  | b :: s =>
      if b &&& 0xc0 = 0x80 then some (UTF16_REPLACEMENT_CHAR, s)
      else
        let seq_len := UTF8_SEQ_LENGTH b
        let ret := b.toUInt32 &&& leaderMask seq_len
        if b = 0 then some (ret, b :: s) else continuation (seq_len - 1) ret s

/-- The units that `strcpy8to16` writes for one value. -/
def utf16Units (ret : UInt32) : List UInt16 :=
  if ret ≤ 0xffff then [ret.toUInt16]
  else if ret ≤ UNICODE_UPPER_LIMIT then
    [((0xd800 : UInt32) ||| ((ret - 0x10000) >>> 10)).toUInt16,
     ((0xdc00 : UInt32) ||| ((ret - 0x10000) &&& 0x3ff)).toUInt16]
  else [UTF16_REPLACEMENT_CHAR.toUInt16]

theorem continuation_length : ∀ (n : Nat) {ret v : UInt32} {s rest : List UInt8},
    continuation n ret s = some (v, rest) → rest.length ≤ s.length := by
  intro n
  induction n with
  | zero =>
      intro ret v s rest h
      obtain ⟨-, rfl⟩ := Prod.mk.inj (Option.some.inj h)
      exact Nat.le_refl _
  | succ n ih =>
      intro ret v s rest h
      cases s with
      | nil => exact nomatch h
      | cons b s =>
          rw [continuation] at h
          split at h
          · obtain ⟨-, rfl⟩ := Prod.mk.inj (Option.some.inj h)
            exact Nat.le_refl _
          · split at h
            · obtain ⟨-, rfl⟩ := Prod.mk.inj (Option.some.inj h)
              exact Nat.le_refl _
            · exact Nat.le_succ_of_le (ih h)

/-- A byte other than the terminator is passed. -/
theorem getUtf32FromUtf8_length {b : UInt8} (hb : b ≠ 0) {s rest : List UInt8} {v : UInt32}
    (h : getUtf32FromUtf8 (b :: s) = some (v, rest)) : rest.length < (b :: s).length := by
  rw [getUtf32FromUtf8] at h
  split at h
  · obtain ⟨-, rfl⟩ := Prod.mk.inj (Option.some.inj h)
    exact Nat.lt_succ_self _
  · exact Nat.lt_succ_of_le (continuation_length _ h)

/-- The loop of `strcpy8to16`. -/
def copyUnits (utf8Str : List UInt8) : Option (List UInt16) :=
  match utf8Str with
  | [] => none
  | b :: s =>
      if _ : b = 0 then some []
      else
        match _ : getUtf32FromUtf8 (b :: s) with
        | none => none
        | some (ret, rest) => (copyUnits rest).map (utf16Units ret ++ ·)
  termination_by utf8Str.length
  decreasing_by exact getUtf32FromUtf8_length ‹_› ‹_›

/-- `strcpy8to16`: the units, and `*out_len`. -/
def strcpy8to16 (utf8Str : List UInt8) : Option (List UInt16 × Nat) :=
  (copyUnits utf8Str).map fun utf16Str => (utf16Str, utf16Str.length)

/-- The loop of `strlen8to16`. -/
def countUnits : List UInt8 → Int → Nat → Option Nat
  | [], _, _ => none
  | ic :: s, expected, len =>
      if ic = 0 then some len
      else if ic &&& 0xc0 = 0x80 then
        countUnits s (expected - 1) (if expected - 1 < 0 then len + 1 else len)
      else
        let expected : Int := UTF8_SEQ_LENGTH ic - 1
        countUnits s expected (if expected = 3 then len + 2 else len + 1)

/-- `strlen8to16`. -/
def strlen8to16 (utf8Str : List UInt8) : Option Nat := countUnits utf8Str 0 0

-- ── What the encoder writes ──────────────────────────────────────────────────

/-- The sequence that is written for one unit: two bytes for zero. -/
def unitSeq (uic : Nat) : List UInt8 := if uic = 0 then [lead2 0, cont 0] else utf8Seq uic

/-- A marker is put above the bits of a value. -/
theorem or_marker {x n k : Nat} (hx : x < 2 ^ n) : x ||| 2 ^ n * k = x + 2 ^ n * k := by
  rw [Nat.or_comm, ← Nat.two_pow_add_eq_or_of_lt hx, Nat.add_comm]

theorem cont_eq (uic : UInt32) : (uic &&& 0x3f ||| 0x80).toUInt8 = cont uic.toNat := by
  have hmask : (uic &&& 0x3f).toNat = uic.toNat % 64 := by
    rw [UInt32.toNat_and]
    exact Nat.and_two_pow_sub_one_eq_mod _ 6
  rw [← UInt8.toNat_inj, cont, UInt32.toNat_toUInt8, UInt32.toNat_or, hmask, UInt8.toNat_ofNat']
  exact congrArg (· % 256) (or_marker (n := 6) (k := 2) (Nat.mod_lt _ (by decide)))

theorem toNat_shr6 (uic : UInt32) : (uic >>> 6).toNat = uic.toNat / 64 := by
  rw [UInt32.toNat_shiftRight]
  exact Nat.shiftRight_eq_div_pow _ 6

theorem toNat_shr12 (uic : UInt32) : (uic >>> 12).toNat = uic.toNat / 4096 := by
  rw [UInt32.toNat_shiftRight]
  exact Nat.shiftRight_eq_div_pow _ 12

theorem lead2_eq {uic : UInt32} (h : uic.toNat ≤ 0x7ff) :
    (uic >>> 6 ||| 0xc0).toUInt8 = lead2 (uic.toNat / 64) := by
  have hlt : uic.toNat / 64 < 2 ^ 5 := by omega
  rw [← UInt8.toNat_inj, lead2, UInt32.toNat_toUInt8, UInt32.toNat_or, toNat_shr6,
    UInt8.toNat_ofNat', Nat.mod_eq_of_lt (b := 0x20) hlt]
  exact congrArg (· % 256) (or_marker (k := 6) hlt)

theorem lead3_eq {uic : UInt32} (h : uic.toNat ≤ 0xffff) :
    (uic >>> 12 ||| 0xe0).toUInt8 = lead3 (uic.toNat / 4096) := by
  have hlt : uic.toNat / 4096 < 2 ^ 4 := by omega
  rw [← UInt8.toNat_inj, lead3, UInt32.toNat_toUInt8, UInt32.toNat_or, toNat_shr12,
    UInt8.toNat_ofNat', Nat.mod_eq_of_lt (b := 0x10) hlt]
  exact congrArg (· % 256) (or_marker (k := 14) hlt)

theorem unitBytes_eq (uic : UInt16) : unitBytes uic.toUInt32 = unitSeq uic.toNat := by
  have hlt : uic.toNat < 65536 := uic.toNat_lt
  have hn : uic.toUInt32.toNat = uic.toNat := UInt16.toNat_toUInt32 uic
  have h0 : uic.toUInt32 = 0 ↔ uic.toNat = 0 := by
    rw [← UInt32.toNat_inj, hn]
    rfl
  have h7ff : uic.toUInt32 > 0x07ff ↔ uic.toNat > 0x7ff := by
    rw [gt_iff_lt, UInt32.lt_iff_toNat_lt, hn]
    rfl
  have h7f : uic.toUInt32 > 0x7f ↔ uic.toNat > 0x7f := by
    rw [gt_iff_lt, UInt32.lt_iff_toNat_lt, hn]
    rfl
  rw [unitBytes, unitSeq, utf8Seq]
  by_cases hthree : uic.toNat > 0x7ff
  · rw [if_pos (h7ff.mpr hthree), if_neg (by omega), if_neg (by omega), if_neg (by omega),
      if_pos (by omega), lead3_eq (by omega), cont_eq, cont_eq, toNat_shr6, hn]
  · rw [if_neg (mt h7ff.mp hthree)]
    by_cases hzero : uic.toNat = 0
    · rw [if_pos (Or.inr (h0.mpr hzero)), if_pos hzero, lead2_eq (by omega), cont_eq, hn, hzero]
    · by_cases htwo : uic.toNat > 0x7f
      · rw [if_pos (Or.inl (h7f.mpr htwo)), if_neg hzero, if_neg (by omega), if_pos (by omega),
          lead2_eq (by omega), cont_eq, hn]
      · rw [if_neg (fun h => h.elim (mt h7f.mp htwo) (mt h0.mp hzero)), if_neg hzero,
          if_pos (by omega)]
        refine congrArg (fun b => [b]) (UInt8.toNat_inj.mp ?_)
        rw [UInt32.toNat_toUInt8, hn, UInt8.toNat_ofNat']

-- ── What the decoder reads ───────────────────────────────────────────────────

/-- One continuation byte is shifted in. -/
theorem continuation_cont (n x : Nat) (ret : UInt32) (hret : ret.toNat < 2 ^ 26)
    (s : List UInt8) :
    ∃ ret', ret'.toNat = ret.toNat * 64 + x % 64
      ∧ continuation (n + 1) ret (cont x :: s) = continuation n ret' s := by
  obtain ⟨hzero, hmark, hvalue⟩ := cont_bits x
  refine ⟨UTF8_SHIFT_AND_MASK ret (cont x), ?_, ?_⟩
  · rw [UTF8_SHIFT_AND_MASK, shl6_or hret (by rw [hvalue]; omega), hvalue]
  · rw [continuation, if_neg hzero, if_neg (not_not.mpr hmark)]

theorem seqLength_lead1 {x : Nat} (hx : x < 128) : UTF8_SEQ_LENGTH (UInt8.ofNat x) = 1 := by
  have hall : ∀ y < 128, UTF8_SEQ_LENGTH (UInt8.ofNat y) = 1 := by decide
  exact hall x hx

theorem seqLength_lead2 (x : Nat) : UTF8_SEQ_LENGTH (lead2 x) = 2 := by
  have hall : ∀ y < 32, UTF8_SEQ_LENGTH (UInt8.ofNat (y + 0xc0)) = 2 := by decide
  exact hall (x % 32) (Nat.mod_lt x (by decide))

theorem seqLength_lead3 (x : Nat) : UTF8_SEQ_LENGTH (lead3 x) = 3 := by
  have hall : ∀ y < 16, UTF8_SEQ_LENGTH (UInt8.ofNat (y + 0xe0)) = 3 := by decide
  exact hall (x % 16) (Nat.mod_lt x (by decide))

theorem seqLength_lead4 (x : Nat) : UTF8_SEQ_LENGTH (lead4 x) = 4 := by
  have hall : ∀ y < 8, UTF8_SEQ_LENGTH (UInt8.ofNat (y + 0xf0)) = 4 := by decide
  exact hall (x % 8) (Nat.mod_lt x (by decide))

/-- After a lead byte other than the terminator. -/
theorem getUtf32FromUtf8_lead {b : UInt8} (h0 : b ≠ 0) (hlead : b &&& 0xc0 ≠ 0x80)
    (s : List UInt8) :
    getUtf32FromUtf8 (b :: s)
      = continuation (UTF8_SEQ_LENGTH b - 1) (b.toUInt32 &&& leaderMask (UTF8_SEQ_LENGTH b)) s := by
  rw [getUtf32FromUtf8, if_neg hlead]
  exact if_neg h0

/-- A sequence is read as its code value. -/
theorem getUtf32FromUtf8_utf8Seq {v : Nat} (h0 : v ≠ 0) (hv : v < 2 ^ 21) (rest : List UInt8) :
    ∃ ret, ret.toNat = v ∧ getUtf32FromUtf8 (utf8Seq v ++ rest) = some (ret, rest) := by
  rw [utf8Seq]
  split
  · rename_i h1
    have hlt : v < 128 := by omega
    obtain ⟨hlead, hvalue⟩ := lead1_bits hlt
    refine ⟨_, hvalue, ?_⟩
    show getUtf32FromUtf8 (_ :: rest) = _
    rw [getUtf32FromUtf8_lead (lead1_ne_zero hlt h0) hlead, seqLength_lead1 hlt]
    rfl
  · split
    · obtain ⟨hzero, hlead, hvalue⟩ := lead2_bits (v / 64)
      obtain ⟨ret, hret, hcont⟩ := continuation_cont 0 v
        ((lead2 (v / 64)).toUInt32 &&& 0x1f) (by omega) rest
      refine ⟨ret, by omega, ?_⟩
      show getUtf32FromUtf8 (_ :: cont v :: rest) = _
      rw [getUtf32FromUtf8_lead hzero hlead, seqLength_lead2]
      exact hcont
    · split
      · obtain ⟨hzero, hlead, hvalue⟩ := lead3_bits (v / 4096)
        obtain ⟨ret₁, hret₁, hcont₁⟩ := continuation_cont 1 (v / 64)
          ((lead3 (v / 4096)).toUInt32 &&& 0x0f) (by omega) (cont v :: rest)
        obtain ⟨ret, hret, hcont⟩ := continuation_cont 0 v ret₁ (by omega) rest
        refine ⟨ret, by omega, ?_⟩
        show getUtf32FromUtf8 (_ :: cont (v / 64) :: cont v :: rest) = _
        rw [getUtf32FromUtf8_lead hzero hlead, seqLength_lead3]
        exact hcont₁.trans hcont
      · obtain ⟨hzero, hlead, hvalue⟩ := lead4_bits (v / 262144)
        obtain ⟨ret₁, hret₁, hcont₁⟩ := continuation_cont 2 (v / 4096)
          ((lead4 (v / 262144)).toUInt32 &&& 0x07) (by omega)
          (cont (v / 64) :: cont v :: rest)
        obtain ⟨ret₂, hret₂, hcont₂⟩ := continuation_cont 1 (v / 64) ret₁
          (by omega) (cont v :: rest)
        obtain ⟨ret, hret, hcont⟩ := continuation_cont 0 v ret₂ (by omega) rest
        refine ⟨ret, by omega, ?_⟩
        show getUtf32FromUtf8 (_ :: cont (v / 4096) :: cont (v / 64) :: cont v :: rest) = _
        rw [getUtf32FromUtf8_lead hzero hlead, seqLength_lead4]
        exact (hcont₁.trans hcont₂).trans hcont

/-- So is the two-byte zero. -/
theorem getUtf32FromUtf8_unitSeq (uic : Nat) (hv : uic < 2 ^ 21) (rest : List UInt8) :
    ∃ ret, ret.toNat = uic ∧ getUtf32FromUtf8 (unitSeq uic ++ rest) = some (ret, rest) := by
  rw [unitSeq]
  split
  · rename_i h0
    exact ⟨0, h0.symm, rfl⟩
  · rename_i h0
    exact getUtf32FromUtf8_utf8Seq h0 hv rest

theorem utf16Units_eq {ret : UInt32} (h : ret.toNat ≤ 0x10fffd) :
    utf16Units ret = units ret.toNat := by
  have hbmp : ret ≤ 0xffff ↔ ret.toNat ≤ 0xffff := UInt32.le_iff_toNat_le
  have hupper : ret ≤ UNICODE_UPPER_LIMIT := UInt32.le_iff_toNat_le.mpr h
  rw [utf16Units, units]
  by_cases hlow : ret.toNat ≤ 0xffff
  · rw [if_pos (hbmp.mpr hlow), if_pos hlow]
    refine congrArg (fun u => [u]) (UInt16.toNat_inj.mp ?_)
    rw [UInt32.toNat_toUInt16, UInt16.toNat_ofNat']
  · rw [if_neg (mt hbmp.mp hlow), if_pos hupper, if_neg hlow]
    have hsub : (ret - 0x10000).toNat = ret.toNat - 0x10000 :=
      UInt32.toNat_sub_of_le _ _ (UInt32.le_iff_toNat_le.mpr (by show 0x10000 ≤ ret.toNat; omega))
    have hhigh : ((ret - 0x10000) >>> 10).toNat = (ret.toNat - 0x10000) / 0x400 := by
      rw [UInt32.toNat_shiftRight, hsub]
      exact Nat.shiftRight_eq_div_pow _ 10
    have hlow' : ((ret - 0x10000) &&& 0x3ff).toNat = (ret.toNat - 0x10000) % 0x400 := by
      rw [UInt32.toNat_and, hsub]
      exact Nat.and_two_pow_sub_one_eq_mod _ 10
    have hfirst : (ret.toNat - 0x10000) / 0x400 < 2 ^ 10 := by omega
    have hsecond : (ret.toNat - 0x10000) % 0x400 < 2 ^ 10 := by omega
    refine congrArg₂ (fun u w => [u, w]) (UInt16.toNat_inj.mp ?_) (UInt16.toNat_inj.mp ?_)
    · rw [UInt32.toNat_toUInt16, UInt32.toNat_or, hhigh, UInt16.toNat_ofNat', Nat.or_comm,
        Nat.add_comm]
      exact congrArg (· % 65536) (or_marker (k := 54) hfirst)
    · rw [UInt32.toNat_toUInt16, UInt32.toNat_or, hlow', UInt16.toNat_ofNat', Nat.or_comm,
        Nat.add_comm]
      exact congrArg (· % 65536) (or_marker (k := 55) hsecond)

-- ── Round trips ──────────────────────────────────────────────────────────────

/-- The one-byte branch never meets a zero, so it never breaks off. -/
theorem strncpy16to8_cons (uic : UInt16) (rest : List UInt16) :
    strncpy16to8 (uic :: rest) = unitSeq uic.toNat ++ strncpy16to8 rest := by
  rw [strncpy16to8, if_neg, unitBytes_eq]
  rintro ⟨-, hnonzero, hzero⟩
  exact hnonzero (Or.inr hzero)

theorem zero_not_mem_unitSeq (uic : Nat) : 0 ∉ unitSeq uic := by
  rw [unitSeq]
  split
  · simp [(lead2_bits 0).1.symm, (cont_bits 0).1.symm]
  · rename_i h0
    exact zero_not_mem_utf8Seq h0

/-- The only zero is the terminator. -/
theorem strncpy16to8_terminated (us : List UInt16) :
    ∃ body, strncpy16to8 us = body ++ [0] ∧ 0 ∉ body := by
  induction us with
  | nil => exact ⟨[], rfl, List.not_mem_nil⟩
  | cons uic us ih =>
      obtain ⟨body, hbody, hzero⟩ := ih
      refine ⟨unitSeq uic.toNat ++ body, ?_, ?_⟩
      · rw [strncpy16to8_cons, hbody, List.append_assoc]
      · intro hmem
        rcases List.mem_append.mp hmem with h | h
        · exact zero_not_mem_unitSeq _ h
        · exact hzero h

theorem copyUnits_terminator : copyUnits [0] = some [] := by
  rw [copyUnits, dif_pos rfl]

/-- One turn of the loop. -/
theorem copyUnits_cons {b : UInt8} (hb : b ≠ 0) {s rest : List UInt8} {ret : UInt32}
    (h : getUtf32FromUtf8 (b :: s) = some (ret, rest)) :
    copyUnits (b :: s) = (copyUnits rest).map (utf16Units ret ++ ·) := by
  rw [copyUnits, dif_neg hb]
  split
  · rename_i hnone
    exact nomatch hnone.symm.trans h
  · rename_i ret' rest' hsome
    obtain ⟨rfl, rfl⟩ := Prod.mk.inj (Option.some.inj (hsome.symm.trans h))
    rfl

/-- One turn of the loop, over a sequence that is read as one value. -/
theorem copyUnits_append {seq rest : List UInt8} {ret : UInt32} (hne : seq ≠ [])
    (hzero : 0 ∉ seq) (h : getUtf32FromUtf8 (seq ++ rest) = some (ret, rest)) :
    copyUnits (seq ++ rest) = (copyUnits rest).map (utf16Units ret ++ ·) := by
  cases seq with
  | nil => exact absurd rfl hne
  | cons b seq => exact copyUnits_cons (fun heq => hzero (heq ▸ List.mem_cons_self)) h

theorem utf8Seq_ne_nil (v : Nat) : utf8Seq v ≠ [] := by
  rw [utf8Seq]
  split
  · exact List.cons_ne_nil _ _
  · split
    · exact List.cons_ne_nil _ _
    · split <;> exact List.cons_ne_nil _ _

theorem unitSeq_ne_nil (uic : Nat) : unitSeq uic ≠ [] := by
  rw [unitSeq]
  split
  · exact List.cons_ne_nil _ _
  · exact utf8Seq_ne_nil uic

/-- **UNITS**: what was written for a list of units is read as these units. -/
theorem copyUnits_strncpy16to8 (us : List UInt16) : copyUnits (strncpy16to8 us) = some us := by
  induction us with
  | nil => exact copyUnits_terminator
  | cons uic us ih =>
      have hlt : uic.toNat < 65536 := uic.toNat_lt
      obtain ⟨ret, hret, hread⟩ :=
        getUtf32FromUtf8_unitSeq uic.toNat (by omega) (strncpy16to8 us)
      have hunits : utf16Units ret = [uic] := by
        rw [utf16Units_eq (by omega), hret, units, if_pos (by omega), UInt16.ofNat_toNat]
      rw [strncpy16to8_cons, copyUnits_append (unitSeq_ne_nil _) (zero_not_mem_unitSeq _) hread,
        ih, hunits]
      rfl

/-- **TEXT**: the standard encoding of a text is read as its UTF-16 units. -/
theorem copyUnits_utf8Encode (text : List Char)
    (htext : ∀ c ∈ text, 1 ≤ c.toNat ∧ c.toNat ≤ 0x10fffd) :
    copyUnits (utf8Encode text ++ [0]) = some (utf16Encode text) := by
  induction text with
  | nil => exact copyUnits_terminator
  | cons c text ih =>
      obtain ⟨hpos, hmax⟩ := htext c List.mem_cons_self
      have h0 : c.toNat ≠ 0 := by omega
      obtain ⟨ret, hret, hread⟩ :=
        getUtf32FromUtf8_utf8Seq h0 (by omega) (utf8Encode text ++ [0])
      rw [utf8Encode_cons, List.append_assoc,
        copyUnits_append (utf8Seq_ne_nil _) (zero_not_mem_utf8Seq h0) hread,
        ih fun c' hc' => htext c' (List.mem_cons_of_mem c hc'), utf16Units_eq (by omega), hret,
        utf16Encode_cons]
      rfl

/-- **MODIFIED UTF-8**: any list of units comes back from its bytes, which have
    no zero but the last; and any text without zeros and the last two code
    points comes back from UTF-8 as UTF-16. -/
theorem modified_utf8_round_trip :
    (∀ us : List UInt16, strcpy8to16 (strncpy16to8 us) = some (us, us.length)
      ∧ ∃ body, strncpy16to8 us = body ++ [0] ∧ 0 ∉ body)
    ∧ ∀ text : List Char, (∀ c ∈ text, 1 ≤ c.toNat ∧ c.toNat ≤ 0x10fffd) →
      strcpy8to16 (utf8Encode text ++ [0])
        = some (utf16Encode text, (utf16Encode text).length) := by
  constructor
  · intro us
    refine ⟨?_, strncpy16to8_terminated us⟩
    rw [strcpy8to16, copyUnits_strncpy16to8]
    rfl
  · intro text htext
    rw [strcpy8to16, copyUnits_utf8Encode text htext]
    rfl

/-- A letter of each length, the last one a pair of surrogates. -/
theorem modified_utf8_round_trip_lengths :
    strcpy8to16 (utf8Encode ['a', 'é', '€', '𝄞'] ++ [0])
      = some ([0x61, 0xe9, 0x20ac, 0xd834, 0xdd1e], 5) :=
  modified_utf8_round_trip.2 ['a', 'é', '€', '𝄞'] (by
    intro c hc
    simp only [List.mem_cons, List.not_mem_nil, or_false] at hc
    rcases hc with rfl | rfl | rfl | rfl <;> decide)

-- ── Lengths ──────────────────────────────────────────────────────────────────

theorem length_unitBytes (uic : UInt32) : (unitBytes uic).length = unitLen uic := by
  rw [unitBytes, unitLen]
  split
  · rfl
  · split <;> rfl

theorem foldl_unitLen (us : List UInt16) (n : Nat) :
    us.foldl (fun utf8Len uic => utf8Len + unitLen uic.toUInt32) n + 1
      = n + (strncpy16to8 us).length := by
  induction us generalizing n with
  | nil => rfl
  | cons uic us ih =>
      rw [List.foldl_cons, ih, strncpy16to8_cons, ← unitBytes_eq, List.length_append,
        length_unitBytes, Nat.add_assoc]

/-- `strnlen16to8` leaves room for the terminator only. -/
theorem strnlen16to8_exact {sizeMax : Nat} {us : List UInt16}
    (h : us.length < (sizeMax - 1) / 3) :
    strnlen16to8 sizeMax us + 1 = (strncpy16to8 us).length := by
  rw [strnlen16to8, if_pos h, foldl_unitLen, Nat.zero_add]

/-- A continuation byte that is expected is not counted. -/
theorem countUnits_cont {x n : Nat} {expected : Int} (h : 0 < expected) (s : List UInt8) :
    countUnits (cont x :: s) expected n = countUnits s (expected - 1) n := by
  obtain ⟨hzero, hmark, -⟩ := cont_bits x
  rw [countUnits, if_neg hzero, if_pos hmark, if_neg (by omega)]

theorem countUnits_lead {b : UInt8} (h0 : b ≠ 0) (hlead : b &&& 0xc0 ≠ 0x80) {k n : Nat}
    (hk : UTF8_SEQ_LENGTH b = k + 1) (expected : Int) (s : List UInt8) :
    countUnits (b :: s) expected n = countUnits s k (if k = 3 then n + 2 else n + 1) := by
  have hexpected : (UTF8_SEQ_LENGTH b : Int) - 1 = k := by omega
  have hthree : ((k : Int) = 3) = (k = 3) := by
    rw [eq_iff_iff]
    omega
  rw [countUnits, if_neg h0, if_neg hlead]
  simp only [hexpected, hthree]

theorem countUnits_utf8Seq {v : Nat} (h0 : v ≠ 0) (expected : Int) (n : Nat) (s : List UInt8) :
    countUnits (utf8Seq v ++ s) expected n = countUnits s 0 (n + (units v).length) := by
  rw [utf8Seq, units]
  split
  · rename_i h1
    have hlt : v < 128 := by omega
    rw [if_pos (by omega)]
    exact countUnits_lead (lead1_ne_zero hlt h0) (lead1_bits hlt).1 (seqLength_lead1 hlt) _ _
  · split
    · obtain ⟨hzero, hlead, -⟩ := lead2_bits (v / 64)
      rw [if_pos (by omega)]
      refine (countUnits_lead hzero hlead (seqLength_lead2 _) _ _).trans ?_
      exact countUnits_cont (by decide) s
    · split
      · obtain ⟨hzero, hlead, -⟩ := lead3_bits (v / 4096)
        refine (countUnits_lead hzero hlead (seqLength_lead3 _) _ _).trans ?_
        refine (countUnits_cont (by decide) _).trans ?_
        exact countUnits_cont (by decide) s
      · obtain ⟨hzero, hlead, -⟩ := lead4_bits (v / 262144)
        refine (countUnits_lead hzero hlead (seqLength_lead4 _) _ _).trans ?_
        refine (countUnits_cont (by decide) _).trans ?_
        refine (countUnits_cont (by decide) _).trans ?_
        exact countUnits_cont (by decide) s

/-- `strlen8to16` is the room that `strcpy8to16` needs for a text. -/
theorem strlen8to16_utf8Encode (text : List Char) (htext : ∀ c ∈ text, 1 ≤ c.toNat) :
    strlen8to16 (utf8Encode text ++ [0]) = some (utf16Encode text).length := by
  have hloop : ∀ (text : List Char) (n : Nat), (∀ c ∈ text, 1 ≤ c.toNat) →
      countUnits (utf8Encode text ++ [0]) 0 n = some (n + (utf16Encode text).length) := by
    intro text
    induction text with
    | nil =>
        intro n _
        rfl
    | cons c text ih =>
        intro n htext
        have hpos := htext c List.mem_cons_self
        rw [utf8Encode_cons, utf16Encode_cons, List.append_assoc,
          countUnits_utf8Seq (by omega), ih _ fun c' hc' => htext c' (List.mem_cons_of_mem c hc'),
          List.length_append, Nat.add_assoc]
  rw [strlen8to16, hloop text 0 htext, Nat.zero_add]

-- ── Room for any string ──────────────────────────────────────────────────────

/-- A C string: bytes without a zero, and the terminator behind them. -/
structure CString where
  body : List UInt8
  zero_not_mem : 0 ∉ body

def CString.bytes (s : CString) : List UInt8 := s.body ++ [0]

/-- What `strdup8to16` leaves: the room that was allocated, in units, what was
    written there, and `*out_len`. -/
structure Dup where
  room : Nat
  written : List UInt16
  out_len : Nat
  deriving DecidableEq, Repr

/-- `strdup8to16`, where there is memory.  `some none` is `NULL`. -/
def strdup8to16 (sizeMax : Nat) : Option (List UInt8) → Option (Option Dup)
  | none => some none
  | some s =>
      match strlen8to16 s with
      | none => none
      | some len =>
          if len ≠ 0 ∧ sizeMax / len < 2 then some none
          else
            (strcpy8to16 s).map fun r => some { room := len, written := r.1, out_len := r.2 }

/-- The counter owes nothing to what is ahead: no continuation byte is expected,
    or none comes. -/
def Settled (expected : Int) (s : List UInt8) : Prop :=
  expected ≤ 0 ∨ ∀ b ∈ s.head?, b &&& 0xc0 ≠ 0x80

/-- **A SEQUENCE**: whether it is complete or not, the pointer stays in front of
    the terminator, and the counter is settled where the pointer stops. -/
theorem continuation_settled : ∀ (n : Nat) (ret : UInt32) {t : List UInt8}, 0 ∉ t →
    ∃ v rest expected, continuation n ret (t ++ [0]) = some (v, rest ++ [0]) ∧ rest <:+ t
      ∧ Settled expected (rest ++ [0])
      ∧ ∀ len, countUnits (t ++ [0]) n len = countUnits (rest ++ [0]) expected len := by
  intro n
  induction n with
  | zero =>
      intro ret t _
      exact ⟨ret, t, 0, rfl, List.suffix_refl t, Or.inl (Int.le_refl 0), fun _ => rfl⟩
  | succ n ih =>
      intro ret t hzero
      cases t with
      | nil =>
          refine ⟨_, [], _, rfl, List.suffix_refl [], Or.inr ?_, fun _ => rfl⟩
          intro b hb
          obtain rfl := Option.some.inj hb
          decide
      | cons b t =>
          have hb : b ≠ 0 := fun heq => hzero (heq ▸ List.mem_cons_self)
          by_cases hmark : b &&& 0xc0 = 0x80
          · obtain ⟨v, rest, expected, hread, hsuffix, hsettled, hcount⟩ :=
              ih (UTF8_SHIFT_AND_MASK ret b) fun h => hzero (List.mem_cons_of_mem b h)
            refine ⟨v, rest, expected, ?_, hsuffix.trans (List.suffix_cons b t), hsettled, ?_⟩
            · rw [List.cons_append, continuation, if_neg hb, if_neg (not_not_intro hmark)]
              exact hread
            · intro len
              rw [List.cons_append, countUnits, if_neg hb, if_pos hmark, if_neg (by omega)]
              have hexpected : ((n + 1 : Nat) : Int) - 1 = n := by omega
              rw [hexpected]
              exact hcount len
          · refine ⟨UTF16_REPLACEMENT_CHAR, b :: t, (n + 1 : Nat), ?_, List.suffix_refl _,
              Or.inr ?_, fun _ => rfl⟩
            · rw [List.cons_append, continuation, if_neg hb, if_pos hmark]
            · intro c hc
              obtain rfl := Option.some.inj hc
              exact hmark

/-- **THE TERMINATOR** is not passed. -/
theorem getUtf32FromUtf8_within {t : List UInt8} (hzero : 0 ∉ t) :
    ∃ ret rest, getUtf32FromUtf8 (t ++ [0]) = some (ret, rest ++ [0]) ∧ rest <:+ t := by
  cases t with
  | nil => exact ⟨_, [], rfl, List.suffix_refl []⟩
  | cons b t =>
      have hb : b ≠ 0 := fun heq => hzero (heq ▸ List.mem_cons_self)
      by_cases hmark : b &&& 0xc0 = 0x80
      · refine ⟨UTF16_REPLACEMENT_CHAR, t, ?_, List.suffix_cons b t⟩
        rw [List.cons_append, getUtf32FromUtf8, if_pos hmark]
      · obtain ⟨v, rest, -, hread, hsuffix, -⟩ := continuation_settled (UTF8_SEQ_LENGTH b - 1)
          (b.toUInt32 &&& leaderMask (UTF8_SEQ_LENGTH b))
          fun h => hzero (List.mem_cons_of_mem b h)
        exact ⟨v, rest, (getUtf32FromUtf8_lead hb hmark _).trans hread,
          hsuffix.trans (List.suffix_cons b t)⟩

theorem length_utf16Units_le (ret : UInt32) : (utf16Units ret).length ≤ 2 := by
  rw [utf16Units]
  split
  · exact Nat.le_succ 1
  · split
    · exact Nat.le_refl 2
    · exact Nat.le_succ 1

theorem length_utf16Units {ret : UInt32} (h : ret.toNat < 2 ^ 16) : (utf16Units ret).length = 1 := by
  have hle : ret ≤ 0xffff := UInt32.le_iff_toNat_le.mpr (Nat.le_of_lt_succ h)
  rw [utf16Units, if_pos hle]
  rfl

theorem toNat_shift_and_mask {ret : UInt32} {k : Nat} (hret : ret.toNat < 2 ^ k) (hk : k ≤ 26)
    (b : UInt8) : (UTF8_SHIFT_AND_MASK ret b).toNat < 2 ^ (k + 6) := by
  have hlow : ((0x3f : UInt32) &&& b.toUInt32).toNat < 64 := by
    rw [UInt32.toNat_and]
    exact Nat.lt_succ_of_le Nat.and_le_left
  have hret' : ret.toNat < 2 ^ 26 := Nat.lt_of_lt_of_le hret (Nat.pow_le_pow_right (by decide) hk)
  rw [UTF8_SHIFT_AND_MASK, shl6_or hret' hlow, Nat.pow_add]
  omega

/-- A value has no more bits than its lead byte and its continuation bytes. -/
theorem continuation_value : ∀ (n k : Nat) {ret v : UInt32} {s rest : List UInt8},
    ret.toNat < 2 ^ k → k + 6 * n ≤ 16 → continuation n ret s = some (v, rest) →
    v.toNat < 2 ^ 16 := by
  intro n
  induction n with
  | zero =>
      intro k ret v s rest hret hk h
      obtain ⟨rfl, -⟩ := Prod.mk.inj (Option.some.inj h)
      exact Nat.lt_of_lt_of_le hret (Nat.pow_le_pow_right (by decide) hk)
  | succ n ih =>
      intro k ret v s rest hret hk h
      cases s with
      | nil => exact nomatch h
      | cons b s =>
          rw [continuation] at h
          split at h
          · obtain ⟨rfl, -⟩ := Prod.mk.inj (Option.some.inj h)
            decide
          · split at h
            · obtain ⟨rfl, -⟩ := Prod.mk.inj (Option.some.inj h)
              decide
            · exact ih (k + 6) (toNat_shift_and_mask hret (by omega) b) (by omega) h

/-- A lead byte of up to three bytes leaves room for the others in 16 bits. -/
theorem leader_value (b : UInt8) {n : Nat} (hn : n < 3) :
    ∃ k, (b.toUInt32 &&& leaderMask (n + 1)).toNat < 2 ^ k ∧ k + 6 * n ≤ 16 := by
  have hmask : ∀ m : UInt32, (b.toUInt32 &&& m).toNat ≤ m.toNat := by
    intro m
    rw [UInt32.toNat_and]
    exact Nat.and_le_right
  match n, hn with
  | 0, _ => exact ⟨8, Nat.lt_succ_of_le (hmask 0xff), by decide⟩
  | 1, _ => exact ⟨5, Nat.lt_succ_of_le (hmask 0x1f), by decide⟩
  | 2, _ => exact ⟨4, Nat.lt_succ_of_le (hmask 0x0f), by decide⟩

theorem seqLength_le (b : UInt8) : UTF8_SEQ_LENGTH b ≤ 4 := by
  rw [UTF8_SEQ_LENGTH, UInt32.toNat_and]
  exact Nat.succ_le_succ Nat.and_le_right

/-- What is written for a lead byte is what is counted for it. -/
theorem length_utf16Units_lead {b : UInt8} {n : Nat} (hn : UTF8_SEQ_LENGTH b = n + 1)
    {s rest : List UInt8} {v : UInt32}
    (h : continuation n (b.toUInt32 &&& leaderMask (n + 1)) s = some (v, rest)) (len : Nat) :
    len + (utf16Units v).length ≤ if n = 3 then len + 2 else len + 1 := by
  have hle := seqLength_le b
  split
  · exact Nat.add_le_add_left (length_utf16Units_le v) len
  · rename_i hne
    obtain ⟨k, hlead, hk⟩ := leader_value b (by omega : n < 3)
    exact Nat.le_of_eq (congrArg _ (length_utf16Units (continuation_value n k hlead hk h)))

/-- **CAPACITY**, from a place where the counter is settled. -/
theorem copyUnits_length_le : ∀ (m : Nat) {t : List UInt8}, t.length ≤ m → 0 ∉ t →
    ∀ {expected : Int}, Settled expected (t ++ [0]) → ∀ n : Nat,
      ∃ units len, copyUnits (t ++ [0]) = some units
        ∧ countUnits (t ++ [0]) expected n = some len ∧ n + units.length ≤ len := by
  intro m
  induction m with
  | zero =>
      intro t hm _ expected _ n
      obtain rfl := List.length_eq_zero_iff.mp (Nat.le_zero.mp hm)
      exact ⟨[], n, copyUnits_terminator, rfl, Nat.le_refl n⟩
  | succ m ih =>
      intro t hm hzero expected hsettled n
      cases t with
      | nil => exact ⟨[], n, copyUnits_terminator, rfl, Nat.le_refl n⟩
      | cons b t =>
          have hb : b ≠ 0 := fun heq => hzero (heq ▸ List.mem_cons_self)
          have hzero' : 0 ∉ t := fun h => hzero (List.mem_cons_of_mem b h)
          have hm' : t.length ≤ m := Nat.le_of_succ_le_succ hm
          by_cases hmark : b &&& 0xc0 = 0x80
          · -- a stray byte: one unit, and it is counted
            have hexpected : expected ≤ 0 := hsettled.resolve_right fun h => h b rfl hmark
            obtain ⟨units, len, hcopy, hcount, hle⟩ :=
              ih hm' hzero' (Or.inl (by omega : expected - 1 ≤ 0)) (n + 1)
            have hread : getUtf32FromUtf8 (b :: (t ++ [0]))
                = some (UTF16_REPLACEMENT_CHAR, t ++ [0]) := by
              rw [getUtf32FromUtf8, if_pos hmark]
            refine ⟨_, len, (copyUnits_cons hb hread).trans (congrArg _ hcopy), ?_, ?_⟩
            · rw [List.cons_append, countUnits, if_neg hb, if_pos hmark, if_pos (by omega)]
              exact hcount
            · rw [List.length_append, length_utf16Units (by decide)]
              omega
          · obtain ⟨k, hk⟩ : ∃ k, UTF8_SEQ_LENGTH b = k + 1 := ⟨_, rfl⟩
            obtain ⟨v, rest, expected', hread, hsuffix, hsettled', hcount'⟩ :=
              continuation_settled k (b.toUInt32 &&& leaderMask (k + 1)) hzero'
            obtain ⟨units, len, hcopy, hcount, hle⟩ :=
              ih (Nat.le_trans hsuffix.length_le hm') (fun h => hzero' (hsuffix.subset h)) hsettled'
                (if k = 3 then n + 2 else n + 1)
            have hvalue : getUtf32FromUtf8 (b :: (t ++ [0])) = some (v, rest ++ [0]) := by
              rw [getUtf32FromUtf8_lead hb hmark, hk]
              exact hread
            refine ⟨_, len, (copyUnits_cons hb hvalue).trans (congrArg _ hcopy), ?_, ?_⟩
            · exact (countUnits_lead hb hmark hk expected _).trans ((hcount' _).trans hcount)
            · have hroom := length_utf16Units_lead hk hread n
              rw [List.length_append]
              omega

/-- The loop of `strlen8to16` with the `int` that the code counts down. -/
def countUnits32 : List UInt8 → Int32 → Nat → Option Nat
  | [], _, _ => none
  | ic :: s, expected, len =>
      if ic = 0 then some len
      else if ic &&& 0xc0 = 0x80 then
        countUnits32 s (expected - 1) (if expected - 1 < 0 then len + 1 else len)
      else
        let expected := Int32.ofNat (UTF8_SEQ_LENGTH ic - 1)
        countUnits32 s expected (if expected = 3 then len + 2 else len + 1)

/-- The `int` does not overflow: a string of a 32-bit process is too short. -/
theorem countUnits32_eq : ∀ (s : List UInt8) (expected : Int32) (len : Nat),
    s.length ≤ 2 ^ 31 → (s.length : Int) ≤ 2 ^ 31 + expected.toInt →
    countUnits32 s expected len = countUnits s expected.toInt len := by
  intro s
  induction s with
  | nil => exact fun _ _ _ _ => rfl
  | cons ic s ih =>
      intro expected len hlen hexpected
      rw [List.length_cons] at hlen hexpected
      rw [countUnits32, countUnits]
      split
      · rfl
      · split
        · have hlt := expected.toInt_lt
          have hone : (1 : Int32).toInt = 1 := rfl
          have hsub : (expected - 1).toInt = expected.toInt - 1 := by
            rw [Int32.toInt_sub, hone]
            exact Int.bmod_eq_of_le (by omega) (by omega)
          have hneg : expected - 1 < 0 ↔ expected.toInt - 1 < 0 := by
            rw [Int32.lt_iff_toInt_lt, hsub]
            exact Iff.rfl
          rw [ih _ _ (by omega) (by rw [hsub]; omega), hsub]
          simp only [hneg]
        · have hsmall : ∀ k ≤ 4, 1 ≤ k → (Int32.ofNat (k - 1)).toInt = (k : Int) - 1
              ∧ (Int32.ofNat (k - 1) = 3 ↔ (k : Int) - 1 = 3) := by decide
          obtain ⟨hof, hthree⟩ := hsmall _ (seqLength_le ic) (Nat.succ_le_succ (Nat.zero_le _))
          have hpos : 1 ≤ UTF8_SEQ_LENGTH ic := Nat.succ_le_succ (Nat.zero_le _)
          dsimp only
          rw [ih _ _ (by omega) (by rw [hof]; omega), hof]
          simp only [hthree]

theorem strlen8to16_int (s : CString) (h : s.bytes.length ≤ 2 ^ 31) :
    countUnits32 s.bytes 0 0 = strlen8to16 s.bytes :=
  countUnits32_eq s.bytes 0 0 h (Int.ofNat_le.mpr h)

/-- **STRDUP8TO16**: for any string, `strlen8to16` is room for all units that
    `strcpy8to16` writes; what is allocated is written within; and the pointer
    never passes the terminator. -/
theorem strdup8to16_capacity (s : CString) (sizeMax : Nat) :
    (∃ len units, strlen8to16 s.bytes = some len
        ∧ strcpy8to16 s.bytes = some (units, units.length) ∧ units.length ≤ len)
      ∧ (∃ ret, strdup8to16 sizeMax (some s.bytes) = some ret
        ∧ ∀ dup ∈ ret, dup.written.length ≤ dup.room ∧ dup.out_len = dup.written.length)
      ∧ ∀ t, t <:+ s.body → ∃ ret rest,
          getUtf32FromUtf8 (t ++ [0]) = some (ret, rest ++ [0]) ∧ rest <:+ t := by
  obtain ⟨units, len, hcopy, hcount, hle⟩ := copyUnits_length_le s.body.length (Nat.le_refl _)
    s.zero_not_mem (Or.inl (Int.le_refl 0)) 0
  rw [Nat.zero_add] at hle
  have hstrlen : strlen8to16 s.bytes = some len := hcount
  have hstrcpy : strcpy8to16 s.bytes = some (units, units.length) := by
    rw [strcpy8to16, CString.bytes, hcopy]
    rfl
  refine ⟨⟨len, units, hstrlen, hstrcpy, hle⟩, ?_, ?_⟩
  · rw [strdup8to16, hstrlen]
    dsimp only
    split
    · exact ⟨none, rfl, fun dup h => nomatch h⟩
    · rw [hstrcpy]
      refine ⟨_, rfl, ?_⟩
      intro dup hdup
      obtain rfl := Option.some.inj hdup
      exact ⟨hle, rfl⟩
  · intro t ht
    exact getUtf32FromUtf8_within fun h => s.zero_not_mem (ht.subset h)

end Jstring

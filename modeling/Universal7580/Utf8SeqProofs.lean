import Mathlib.Algebra.Group.Nat.Defs
import Mathlib.Data.List.Basic

/-! # Byte sequences of UTF-8

    `utf8Seq v` is the byte sequence of UTF-8 for a code value `v`.  It takes
    surrogates as well as scalar values, so that the standard encoding and the
    one of single UTF-16 units are both made of it.  `units` is the other side:
    the UTF-16 units of a code value.

    The bits of the lead and continuation bytes are finite tables, settled by
    `decide`; `shl6_or` turns the shift that takes a continuation byte into a
    sum. -/

namespace Utf8Seq

-- ── Encodings ────────────────────────────────────────────────────────────────

/-- The lead byte of a sequence of two, three or four bytes. -/
def lead2 (x : Nat) : UInt8 := UInt8.ofNat (x % 0x20 + 0xc0)

def lead3 (x : Nat) : UInt8 := UInt8.ofNat (x % 0x10 + 0xe0)

def lead4 (x : Nat) : UInt8 := UInt8.ofNat (x % 0x08 + 0xf0)

/-- A continuation byte. -/
def cont (x : Nat) : UInt8 := UInt8.ofNat (x % 0x40 + 0x80)

/-- The byte sequence of a code value below `2 ^ 21`. -/
def utf8Seq (v : Nat) : List UInt8 :=
  if v ≤ 0x7f then [UInt8.ofNat v]
  else if v ≤ 0x7ff then [lead2 (v / 64), cont v]
  else if v ≤ 0xffff then [lead3 (v / 4096), cont (v / 64), cont v]
  else [lead4 (v / 262144), cont (v / 4096), cont (v / 64), cont v]

/-- The UTF-16 units of a code value. -/
def units (v : Nat) : List UInt16 :=
  if v ≤ 0xffff then [UInt16.ofNat v]
  else [UInt16.ofNat (0xd800 + (v - 0x10000) / 0x400), UInt16.ofNat (0xdc00 + (v - 0x10000) % 0x400)]

/-- The standard encodings of a text. -/
def utf8Encode (text : List Char) : List UInt8 := text.flatMap String.utf8EncodeChar

def utf16Encode (text : List Char) : List UInt16 := text.flatMap fun c => units c.toNat

theorem utf8Encode_cons (c : Char) (text : List Char) :
    utf8Encode (c :: text) = utf8Seq c.toNat ++ utf8Encode text := rfl

theorem utf16Encode_cons (c : Char) (text : List Char) :
    utf16Encode (c :: text) = units c.toNat ++ utf16Encode text := rfl

-- ── Bits ─────────────────────────────────────────────────────────────────────

/-- A continuation byte starts with the bits 10, and the other six are its
    value. -/
theorem cont_bits (x : Nat) :
    cont x ≠ 0 ∧ cont x &&& 0xc0 = 0x80 ∧ (0x3f &&& (cont x).toUInt32).toNat = x % 64 := by
  have hall : ∀ y < 64, UInt8.ofNat (y + 0x80) ≠ 0 ∧ UInt8.ofNat (y + 0x80) &&& 0xc0 = 0x80
      ∧ (0x3f &&& (UInt8.ofNat (y + 0x80)).toUInt32).toNat = y := by decide
  exact hall (x % 64) (Nat.mod_lt x (by decide))

/-- A lead byte is no continuation byte, and a mask takes its value. -/
theorem lead1_bits {x : Nat} (hx : x < 128) :
    UInt8.ofNat x &&& 0xc0 ≠ 0x80 ∧ ((UInt8.ofNat x).toUInt32 &&& 0xff).toNat = x := by
  have hall : ∀ y < 128, UInt8.ofNat y &&& 0xc0 ≠ 0x80
      ∧ ((UInt8.ofNat y).toUInt32 &&& 0xff).toNat = y := by decide
  exact hall x hx

theorem lead1_ne_zero {x : Nat} (hx : x < 128) (h0 : x ≠ 0) : UInt8.ofNat x ≠ 0 := by
  have hall : ∀ y < 128, y ≠ 0 → UInt8.ofNat y ≠ 0 := by decide
  exact hall x hx h0

theorem lead2_bits (x : Nat) :
    lead2 x ≠ 0 ∧ lead2 x &&& 0xc0 ≠ 0x80 ∧ ((lead2 x).toUInt32 &&& 0x1f).toNat = x % 32 := by
  have hall : ∀ y < 32, UInt8.ofNat (y + 0xc0) ≠ 0 ∧ UInt8.ofNat (y + 0xc0) &&& 0xc0 ≠ 0x80
      ∧ ((UInt8.ofNat (y + 0xc0)).toUInt32 &&& 0x1f).toNat = y := by decide
  exact hall (x % 32) (Nat.mod_lt x (by decide))

theorem lead3_bits (x : Nat) :
    lead3 x ≠ 0 ∧ lead3 x &&& 0xc0 ≠ 0x80 ∧ ((lead3 x).toUInt32 &&& 0x0f).toNat = x % 16 := by
  have hall : ∀ y < 16, UInt8.ofNat (y + 0xe0) ≠ 0 ∧ UInt8.ofNat (y + 0xe0) &&& 0xc0 ≠ 0x80
      ∧ ((UInt8.ofNat (y + 0xe0)).toUInt32 &&& 0x0f).toNat = y := by decide
  exact hall (x % 16) (Nat.mod_lt x (by decide))

theorem lead4_bits (x : Nat) :
    lead4 x ≠ 0 ∧ lead4 x &&& 0xc0 ≠ 0x80 ∧ ((lead4 x).toUInt32 &&& 0x07).toNat = x % 8 := by
  have hall : ∀ y < 8, UInt8.ofNat (y + 0xf0) ≠ 0 ∧ UInt8.ofNat (y + 0xf0) &&& 0xc0 ≠ 0x80
      ∧ ((UInt8.ofNat (y + 0xf0)).toUInt32 &&& 0x07).toNat = y := by decide
  exact hall (x % 8) (Nat.mod_lt x (by decide))

/-- Six bits are shifted in. -/
theorem shl6_or {r x : UInt32} (hr : r.toNat < 2 ^ 26) (hx : x.toNat < 64) :
    (r <<< 6 ||| x).toNat = r.toNat * 64 + x.toNat := by
  rw [UInt32.toNat_or, UInt32.toNat_shiftLeft]
  show r.toNat <<< 6 % 2 ^ 32 ||| x.toNat = _
  rw [Nat.shiftLeft_eq, Nat.mod_eq_of_lt (by omega), Nat.mul_comm,
    ← Nat.two_pow_add_eq_or_of_lt hx]

/-- No byte of a sequence is zero, but that of the code value zero. -/
theorem zero_not_mem_utf8Seq {v : Nat} (hv : v ≠ 0) : 0 ∉ utf8Seq v := by
  intro hmem
  rw [utf8Seq] at hmem
  split at hmem
  · rename_i h1
    exact lead1_ne_zero (by omega) hv (List.mem_singleton.mp hmem).symm
  · split at hmem
    · simp [(lead2_bits _).1.symm, (cont_bits _).1.symm] at hmem
    · split at hmem
      · simp [(lead3_bits _).1.symm, (cont_bits _).1.symm] at hmem
      · simp [(lead4_bits _).1.symm, (cont_bits _).1.symm] at hmem

end Utf8Seq

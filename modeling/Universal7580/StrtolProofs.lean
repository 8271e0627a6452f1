import Mathlib.Algebra.Group.Nat.Defs
import Mathlib.Data.List.TakeWhile
import Universal7580.ScanfProofs

/-! # `strtol` and `atoi`

    A number in decimal: blanks, a sign, digits, and whatever follows.  There is
    no error: without digits the number is 0.  A number that `long` cannot hold
    becomes the nearest that it can, and `atoi` makes an `int` of the `long`.

    `atoi_decimal`: every `int` can be written. -/

namespace Strtol

open Scanf

/-- Whether there is a minus, and what follows the sign. -/
def takeSign : List Char → Bool × List Char
  | [] => (false, [])
  | c :: rest => if isSign c = true then (c == '-', rest) else (false, c :: rest)

/-- `strtol(s, NULL, 10)`. -/
def strtol (LONG_BIT : Nat) (s : List Char) : Int :=
  let signed := takeSign (s.dropWhile isSpace)
  let n : Int := Nat.ofDigitChars 10 (signed.2.takeWhile Char.isDigit) 0
  max (-2 ^ (LONG_BIT - 1)) (min (if signed.1 = true then -n else n) (2 ^ (LONG_BIT - 1) - 1))

def atoi (LONG_BIT : Nat) (s : List Char) : Int32 := Int32.ofInt (strtol LONG_BIT s)

/-- Whether a character is a digit of a base up to 16. -/
def isDigitOf (base : Nat) (c : Char) : Bool := (hexVal c).any (· < base)

/-- `strtoul(s, NULL, base)`.  Too large a number becomes the largest, and a minus
    is a subtraction from zero. -/
def strtoul (LONG_BIT base : Nat) (s : List Char) : Nat :=
  let signed := takeSign (s.dropWhile isSpace)
  let pre := if base = 16 then takePrefix 2 signed.2 else []
  let digits := (signed.2.drop pre.length).takeWhile (isDigitOf base)
  let n := digits.foldl (fun n c => base * n + (hexVal c).getD 0) 0
  if 2 ^ LONG_BIT ≤ n then 2 ^ LONG_BIT - 1
  else if signed.1 = true then (2 ^ LONG_BIT - n) % 2 ^ LONG_BIT else n

/-- A number as it is written. -/
def decimal (v : Int) : List Char :=
  if v < 0 then '-' :: Nat.toDigits 10 v.natAbs else Nat.toDigits 10 v.natAbs

-- ── Every number can be written ──────────────────────────────────────────────

theorem isHex_of_isDigit {c : Char} (h : c.isDigit = true) : isHex c = true := by
  rw [Char.isDigit, Bool.and_eq_true, decide_eq_true_iff, decide_eq_true_iff] at h
  rw [isHex, hexVal, if_pos]
  · rfl
  · exact ⟨Char.le_def.mpr h.1, Char.le_def.mpr h.2⟩

theorem takeWhile_toDigits (n : Nat) :
    (Nat.toDigits 10 n).takeWhile Char.isDigit = Nat.toDigits 10 n := by
  refine List.takeWhile_eq_self_iff.mpr ?_
  intro c hc
  exact Nat.isDigit_of_mem_toDigits (by decide) (Nat.le_refl 10) hc

/-- Digits have no blanks and no sign before them. -/
theorem takeSign_digit {c : Char} (h : isHex c = true) (rest : List Char) :
    takeSign ((c :: rest).dropWhile isSpace) = (false, c :: rest) := by
  rw [List.dropWhile_cons_of_neg (by rw [isHex_not_space h]; decide), takeSign,
    if_neg (by rw [isHex_not_sign h]; decide)]

theorem takeSign_toDigits (n : Nat) (rest : List Char) :
    takeSign ((Nat.toDigits 10 n ++ rest).dropWhile isSpace)
      = (false, Nat.toDigits 10 n ++ rest) := by
  cases hdigits : Nat.toDigits 10 n with
  | nil => exact absurd hdigits Nat.toDigits_ne_nil
  | cons c digits =>
      have hdigit : c.isDigit = true := by
        have hmem : c ∈ Nat.toDigits 10 n := by
          rw [hdigits]
          exact List.mem_cons_self
        exact Nat.isDigit_of_mem_toDigits (by decide) (Nat.le_refl 10) hmem
      exact takeSign_digit (isHex_of_isDigit hdigit) (digits ++ rest)

/-- Digits are read up to what follows them. -/
theorem strtol_toDigits {LONG_BIT n : Nat} (hn : n < 2 ^ (LONG_BIT - 1)) {rest : List Char}
    (hrest : rest.takeWhile Char.isDigit = []) :
    strtol LONG_BIT (Nat.toDigits 10 n ++ rest) = n := by
  have hdigits : (Nat.toDigits 10 n ++ rest).takeWhile Char.isDigit = Nat.toDigits 10 n := by
    rw [List.takeWhile_append_of_pos fun c hc =>
      Nat.isDigit_of_mem_toDigits (by decide) (Nat.le_refl 10) hc, hrest, List.append_nil]
  have hpow : (n : Int) < 2 ^ (LONG_BIT - 1) := by exact_mod_cast hn
  rw [strtol, takeSign_toDigits, hdigits, Nat.ofDigitChars_ten_toDigits,
    if_neg Bool.false_ne_true]
  omega

theorem strtol_decimal {LONG_BIT : Nat} {v : Int} (hlow : -2 ^ (LONG_BIT - 1) ≤ v)
    (hhigh : v < 2 ^ (LONG_BIT - 1)) : strtol LONG_BIT (decimal v) = v := by
  have hclamp : max (-2 ^ (LONG_BIT - 1)) (min v (2 ^ (LONG_BIT - 1) - 1)) = v := by
    omega
  rw [decimal]
  by_cases hneg : v < 0
  · have hsign : takeSign (('-' :: Nat.toDigits 10 v.natAbs).dropWhile isSpace)
        = (true, Nat.toDigits 10 v.natAbs) := rfl
    rw [if_pos hneg, strtol, hsign, takeWhile_toDigits, Nat.ofDigitChars_ten_toDigits, if_pos rfl,
      Int.ofNat_natAbs_of_nonpos (Int.le_of_lt hneg), Int.neg_neg]
    exact hclamp
  · have hpow : ((2 ^ (LONG_BIT - 1) : Nat) : Int) = 2 ^ (LONG_BIT - 1) := by norm_cast
    have hread := strtol_toDigits (n := v.natAbs) (by omega : _ < 2 ^ (LONG_BIT - 1))
      (List.takeWhile_nil)
    rw [if_neg hneg, ← List.append_nil (Nat.toDigits 10 v.natAbs), hread,
      Int.natAbs_of_nonneg (Int.not_lt.mp hneg)]

theorem atoi_decimal {LONG_BIT : Nat} (hbits : 32 ≤ LONG_BIT) (v : Int32) :
    atoi LONG_BIT (decimal v.toInt) = v := by
  have hpow : (2 : Int) ^ 31 ≤ 2 ^ (LONG_BIT - 1) := by
    exact_mod_cast Nat.pow_le_pow_right (by decide : 0 < 2) (Nat.le_sub_one_of_lt hbits)
  have hlow := v.le_toInt
  have hhigh := v.toInt_lt
  rw [atoi, strtol_decimal (by omega) (by omega), Int32.ofInt_toInt]

theorem hexVal_lt {c : Char} {v : Nat} (h : hexVal c = some v) : v < 16 := by
  rw [hexVal] at h
  split at h
  · rename_i hc
    have hle : c.toNat ≤ '9'.toNat := hc.2
    have heq := Option.some.inj h
    have hnine : '9'.toNat - '0'.toNat = 9 := rfl
    omega
  · split at h
    · rename_i hc
      have hle : c.toNat ≤ 'f'.toNat := hc.2
      have heq := Option.some.inj h
      have hf : 'f'.toNat - 'a'.toNat = 5 := rfl
      omega
    · split at h
      · rename_i hc
        have hle : c.toNat ≤ 'F'.toNat := hc.2
        have heq := Option.some.inj h
        have hf : 'F'.toNat - 'A'.toNat = 5 := rfl
        omega
      · cases h

theorem isDigitOf_sixteen (c : Char) : isDigitOf 16 c = isHex c := by
  rw [isDigitOf, isHex]
  cases hval : hexVal c with
  | none => rfl
  | some v => exact decide_eq_true (hexVal_lt hval)

/-- **HEXADECIMAL**: digits are read up to what follows them. -/
theorem strtoul_hex {LONG_BIT : Nat} {digits rest : List Char} (hne : digits ≠ [])
    (hdigits : ∀ c ∈ digits, isHex c = true) (hrest : Ends rest)
    (hfits : hexNat digits < 2 ^ LONG_BIT) :
    strtoul LONG_BIT 16 (digits ++ rest) = hexNat digits := by
  cases digits with
  | nil => exact absurd rfl hne
  | cons c digits =>
      have hc := hdigits c List.mem_cons_self
      have hpre : takePrefix 2 (c :: digits ++ rest) = [] :=
        takePrefix_eq (Or.inl rfl) (Nat.zero_le 2) hdigits hne hrest
      have htake : (c :: digits ++ rest).takeWhile (isDigitOf 16) = c :: digits := by
        rw [List.takeWhile_append_of_pos fun x hx => (isDigitOf_sixteen x).trans (hdigits x hx)]
        cases rest with
        | nil => exact List.append_nil _
        | cons x rest =>
            have hx : isDigitOf 16 x = false := (isDigitOf_sixteen x).trans (hrest x rfl).1
            rw [List.takeWhile_cons_of_neg (by rw [hx]; decide), List.append_nil]
      rw [List.cons_append] at hpre htake ⊢
      rw [strtoul, takeSign_digit hc]
      dsimp only
      rw [if_pos rfl, hpre, List.length_nil, List.drop_zero, htake]
      exact (if_neg (Nat.not_le.mpr hfits)).trans (if_neg Bool.false_ne_true)

theorem hexVal_of_isDigit {c : Char} (h : c.isDigit = true) :
    hexVal c = some (c.toNat - '0'.toNat) := by
  rw [Char.isDigit, Bool.and_eq_true, decide_eq_true_iff, decide_eq_true_iff] at h
  exact if_pos ⟨Char.le_def.mpr h.1, Char.le_def.mpr h.2⟩

theorem isDigitOf_ten {c : Char} (h : c.isDigit = true) : isDigitOf 10 c = true := by
  have hle : c.toNat ≤ '9'.toNat := by
    rw [Char.isDigit, Bool.and_eq_true, decide_eq_true_iff, decide_eq_true_iff] at h
    exact h.2
  rw [isDigitOf, hexVal_of_isDigit h]
  refine decide_eq_true ?_
  have hnine : '9'.toNat - '0'.toNat = 9 := rfl
  show c.toNat - '0'.toNat < 10
  omega

theorem foldl_toDigits (n : Nat) :
    (Nat.toDigits 10 n).foldl (fun n c => 10 * n + (hexVal c).getD 0) 0 = n := by
  have hdigits : ∀ c ∈ Nat.toDigits 10 n, c.isDigit = true := fun c hc =>
    Nat.isDigit_of_mem_toDigits (by decide) (Nat.le_refl 10) hc
  have hfold : (Nat.toDigits 10 n).foldl (fun n c => 10 * n + (hexVal c).getD 0) 0
      = Nat.ofDigitChars 10 (Nat.toDigits 10 n) 0 := by
    refine List.foldl_ext _ _ 0 ?_
    intro a c hc
    rw [hexVal_of_isDigit (hdigits c hc), Option.getD_some]
  rw [hfold, Nat.ofDigitChars_ten_toDigits]

/-- **DECIMAL**: digits are read up to what follows them. -/
theorem strtoul_toDigits {LONG_BIT n : Nat} (hn : n < 2 ^ LONG_BIT) {rest : List Char}
    (hrest : rest.takeWhile (isDigitOf 10) = []) :
    strtoul LONG_BIT 10 (Nat.toDigits 10 n ++ rest) = n := by
  have hdigits : (Nat.toDigits 10 n ++ rest).takeWhile (isDigitOf 10) = Nat.toDigits 10 n := by
    rw [List.takeWhile_append_of_pos fun c hc =>
      isDigitOf_ten (Nat.isDigit_of_mem_toDigits (by decide) (Nat.le_refl 10) hc), hrest,
      List.append_nil]
  rw [strtoul, takeSign_toDigits]
  dsimp only
  rw [if_neg (by decide : ¬(10 : Nat) = 16), List.length_nil, List.drop_zero, hdigits, foldl_toDigits]
  exact (if_neg (Nat.not_le.mpr hn)).trans (if_neg Bool.false_ne_true)

end Strtol

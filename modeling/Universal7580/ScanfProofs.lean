import Mathlib.Algebra.Group.Int.Defs
import Mathlib.Data.List.Basic

/-! # `sscanf`

    The part of `sscanf` that reads hexadecimal fields: a directive `%wx` with a
    field width, a character of the format that must be there, and `%1c`.

    The standard says what a field is in two steps.  The input item is the
    longest input, within the width, that is a field or could still become
    one; and if the item is not a field, the directive fails.  So `0x` with
    no digit after it fails, although `0` would be a field.  `scanHex` follows
    that, and `scanHex_eq_some` and `scanHex_item` say what it takes:

    * what it takes is blanks and a field no longer than the width;
    * it takes any such field, if what follows could not have been a part of
      it. -/

namespace Scanf

-- ── Characters ───────────────────────────────────────────────────────────────

/-- `isspace` in the C locale. -/
def isSpace (c : Char) : Bool := c = ' ' || ('\t' ≤ c && c ≤ '\r')

/-- The value of a hexadecimal digit. -/
def hexVal (c : Char) : Option Nat :=
  if '0' ≤ c ∧ c ≤ '9' then some (c.toNat - '0'.toNat)
  else if 'a' ≤ c ∧ c ≤ 'f' then some (c.toNat - 'a'.toNat + 10)
  else if 'A' ≤ c ∧ c ≤ 'F' then some (c.toNat - 'A'.toNat + 10)
  else none

def isHex (c : Char) : Bool := (hexVal c).isSome

def isSign (c : Char) : Bool := c = '+' || c = '-'

/-- The number that digits spell. -/
def hexNat (digits : List Char) : Nat := digits.foldl (fun n c => 16 * n + (hexVal c).getD 0) 0

-- ── Fields ───────────────────────────────────────────────────────────────────

/-- What may be between the sign and the digits. -/
def IsPrefix (pre : List Char) : Prop := pre = [] ∨ pre = ['0', 'x'] ∨ pre = ['0', 'X']

/-- A field: a sign, a prefix, digits, of which only the digits must be there. -/
structure Field where
  sign : Option Char
  pre : List Char
  digits : List Char
  sign_ok : ∀ c ∈ sign, isSign c = true
  pre_ok : IsPrefix pre
  digits_ok : ∀ c ∈ digits, isHex c = true
  digits_ne : digits ≠ []

namespace Field

def text (f : Field) : List Char := f.sign.toList ++ (f.pre ++ f.digits)

def value (f : Field) : Int := if f.sign = some '-' then -(hexNat f.digits) else hexNat f.digits

end Field

/-- The prefix, if it is there and the width has room for it. -/
def takePrefix (width : Nat) (s : List Char) : List Char :=
  match s with
  | z :: x :: _ => if 2 ≤ width ∧ z = '0' ∧ (x = 'x' ∨ x = 'X') then [z, x] else []
  | _ => []

/-- The digits of an item behind its sign: how many there are, and what follows. -/
def scanDigits (width : Nat) (s : List Char) : Option (List Char × List Char) :=
  let pre := takePrefix width s
  let s := s.drop pre.length
  let digits := (s.take (width - pre.length)).takeWhile isHex
  if digits = [] then none else some (digits, s.drop digits.length)

/-- `%wx` without its blanks: the value, and what follows. -/
def scanItem (width : Nat) (s : List Char) : Option (Int × List Char) :=
  match s with
  | [] => none
  | c :: rest =>
      if isSign c = true ∧ 1 ≤ width then
        (scanDigits (width - 1) rest).map fun r =>
          (if c = '-' then -(hexNat r.1 : Int) else hexNat r.1, r.2)
      else (scanDigits width (c :: rest)).map fun r => ((hexNat r.1 : Int), r.2)

/-- `%wx`. -/
def scanHex (width : Nat) (s : List Char) : Option (Int × List Char) :=
  scanItem width (s.dropWhile isSpace)

-- ── Formats ──────────────────────────────────────────────────────────────────

inductive Directive where
  /-- `%whhx`. -/
  | hhx (width : Nat)
  /-- A character of the format that is no blank. -/
  | lit (c : Char)
  /-- `%1c`. -/
  | char

/-- What `sscanf` assigns, up to the first directive that fails.  It returns
    their number, or `EOF`. -/
def sscanf : List Directive → List Char → List UInt8
  | [], _ => []
  | .hhx width :: format, s =>
      match scanHex width s with
      | none => []
      | some (v, rest) => UInt8.ofInt v :: sscanf format rest
  | .lit _ :: _, [] => []
  | .lit c :: format, x :: s => if x = c then sscanf format s else []
  | .char :: _, [] => []
  | .char :: format, x :: s => x.toUInt8 :: sscanf format s

-- ── What a field takes ───────────────────────────────────────────────────────

/-- What follows cannot be a part of the field. -/
def Ends (rest : List Char) : Prop :=
  ∀ c ∈ rest.head?, isHex c = false ∧ c ≠ 'x' ∧ c ≠ 'X'

section Fields

variable {width : Nat} {s rest digits pre : List Char} {v : Int}

theorem isHex_ne_x {c : Char} (h : isHex c = true) : c ≠ 'x' ∧ c ≠ 'X' := by
  constructor
  · rintro rfl
    exact absurd h (by decide)
  · rintro rfl
    exact absurd h (by decide)

theorem isHex_not_sign {c : Char} (h : isHex c = true) : isSign c = false := by
  cases hsign : isSign c with
  | false => rfl
  | true =>
      rw [isSign, Bool.or_eq_true, decide_eq_true_iff, decide_eq_true_iff] at hsign
      rcases hsign with rfl | rfl
      · exact absurd h (by decide)
      · exact absurd h (by decide)

/-- Digits are above the blanks. -/
theorem isHex_toNat {c : Char} (h : isHex c = true) : '0'.toNat ≤ c.toNat := by
  rw [isHex, hexVal] at h
  split at h
  · rename_i hc
    exact hc.1
  · split at h
    · rename_i hc
      exact Nat.le_trans (by decide) (Char.le_def.mp hc.1)
    · split at h
      · rename_i hc
        exact Nat.le_trans (by decide) (Char.le_def.mp hc.1)
      · exact nomatch h

theorem isHex_not_space {c : Char} (h : isHex c = true) : isSpace c = false := by
  cases hspace : isSpace c with
  | false => rfl
  | true =>
      have hlow := isHex_toNat h
      rw [isSpace, Bool.or_eq_true, Bool.and_eq_true, decide_eq_true_iff, decide_eq_true_iff,
        decide_eq_true_iff] at hspace
      rcases hspace with rfl | ⟨-, hhigh⟩
      · exact absurd h (by decide)
      · have hle : c.toNat ≤ '\r'.toNat := Char.le_def.mp hhigh
        exact absurd (Nat.le_trans hlow hle) (by decide)

theorem isSign_not_space {c : Char} (h : isSign c = true) : isSpace c = false := by
  rw [isSign, Bool.or_eq_true, decide_eq_true_iff, decide_eq_true_iff] at h
  rcases h with rfl | rfl
  · decide
  · decide

theorem takePrefix_ok (width : Nat) (s : List Char) :
    IsPrefix (takePrefix width s) ∧ takePrefix width s ++ s.drop (takePrefix width s).length = s
      ∧ (takePrefix width s).length ≤ width := by
  cases s with
  | nil => exact ⟨Or.inl rfl, rfl, Nat.zero_le _⟩
  | cons z s =>
      cases s with
      | nil => exact ⟨Or.inl rfl, rfl, Nat.zero_le _⟩
      | cons x s =>
          rw [takePrefix]
          split
          · rename_i h
            obtain ⟨hwidth, rfl, rfl | rfl⟩ := h
            · exact ⟨Or.inr (Or.inl rfl), rfl, hwidth⟩
            · exact ⟨Or.inr (Or.inr rfl), rfl, hwidth⟩
          · exact ⟨Or.inl rfl, rfl, Nat.zero_le _⟩

/-- What is taken behind the sign. -/
theorem scanDigits_eq_some (h : scanDigits width s = some (digits, rest)) :
    ∃ pre, IsPrefix pre ∧ s = pre ++ (digits ++ rest) ∧ pre.length + digits.length ≤ width
      ∧ (∀ c ∈ digits, isHex c = true) ∧ digits ≠ [] := by
  obtain ⟨hpre, hsplit, hlen⟩ := takePrefix_ok width s
  rw [scanDigits] at h
  generalize takePrefix width s = pre at *
  generalize s.drop pre.length = tail at *
  split at h
  · exact nomatch h
  · rename_i hne
    obtain ⟨rfl, rfl⟩ := Prod.mk.inj (Option.some.inj h)
    have hinit : (tail.take (width - pre.length)).takeWhile isHex <+: tail :=
      (List.takeWhile_prefix _).trans (List.take_prefix _ _)
    refine ⟨pre, hpre, ?_, ?_, ?_, hne⟩
    · rw [← hsplit, List.append_right_inj]
      obtain ⟨t, ht⟩ := hinit
      generalize (tail.take (width - pre.length)).takeWhile isHex = digits at *
      rw [← ht, List.drop_left]
    · have hle := (List.takeWhile_prefix isHex (l := tail.take (width - pre.length))).length_le
      rw [List.length_take] at hle
      omega
    · exact List.all_eq_true.mp List.all_takeWhile

/-- A prefix is only taken where there is one. -/
theorem takePrefix_eq {width : Nat} (hpre : IsPrefix pre) (hwidth : pre.length ≤ width)
    (hdigits : ∀ c ∈ digits, isHex c = true) (hne : digits ≠ []) (hends : Ends rest) :
    takePrefix width (pre ++ (digits ++ rest)) = pre := by
  rcases hpre with rfl | rfl | rfl
  · cases digits with
    | nil => exact absurd rfl hne
    | cons d ds =>
        have hsecond : ∀ x ∈ (ds ++ rest).head?, x ≠ 'x' ∧ x ≠ 'X' := by
          intro x hx
          cases ds with
          | nil => exact (hends x hx).2
          | cons e es =>
              obtain rfl := Option.some.inj hx
              exact isHex_ne_x (hdigits e (List.mem_cons_of_mem d List.mem_cons_self))
        rw [List.nil_append, List.cons_append]
        cases hrest : ds ++ rest with
        | nil => rfl
        | cons x xs =>
            rw [hrest] at hsecond
            refine if_neg ?_
            rintro ⟨-, -, rfl | rfl⟩
            · exact (hsecond 'x' rfl).1 rfl
            · exact (hsecond 'X' rfl).2 rfl
  · exact if_pos ⟨hwidth, rfl, Or.inl rfl⟩
  · exact if_pos ⟨hwidth, rfl, Or.inr rfl⟩

theorem scanDigits_item (hpre : IsPrefix pre) (hwidth : pre.length + digits.length ≤ width)
    (hdigits : ∀ c ∈ digits, isHex c = true) (hne : digits ≠ []) (hends : Ends rest) :
    scanDigits width (pre ++ (digits ++ rest)) = some (digits, rest) := by
  have htake : ((digits ++ rest).take (width - pre.length)).takeWhile isHex = digits := by
    rw [List.take_append, List.take_of_length_le (by omega),
      List.takeWhile_append_of_pos hdigits]
    have hstop : (rest.take (width - pre.length - digits.length)).takeWhile isHex = [] := by
      cases rest with
      | nil => rw [List.take_nil, List.takeWhile_nil]
      | cons c rest =>
          have hc := (hends c rfl).1
          cases width - pre.length - digits.length with
          | zero => rfl
          | succ n =>
              rw [List.take_succ_cons]
              exact List.takeWhile_cons_of_neg (by rw [hc]; exact Bool.false_ne_true)
    rw [hstop, List.append_nil]
  rw [scanDigits, takePrefix_eq hpre (by omega) hdigits hne hends]
  rw [List.drop_left, htake, if_neg hne, List.drop_left]

theorem scanItem_sign {c : Char} (hsign : isSign c = true) (hwidth : 1 ≤ width) (s : List Char) :
    scanItem width (c :: s) = (scanDigits (width - 1) s).map fun r =>
      (if c = '-' then -(hexNat r.1 : Int) else hexNat r.1, r.2) := by
  rw [scanItem, if_pos ⟨hsign, hwidth⟩]

theorem scanItem_plain (h : ∀ c ∈ s.head?, ¬(isSign c = true ∧ 1 ≤ width)) :
    scanItem width s = (scanDigits width s).map fun r => ((hexNat r.1 : Int), r.2) := by
  cases s with
  | nil => simp [scanItem, scanDigits, takePrefix]
  | cons c s => rw [scanItem, if_neg (h c rfl)]

/-- **WHAT `%wx` TAKES** is blanks and a field no longer than the width. -/
theorem scanHex_eq_some (h : scanHex width s = some (v, rest)) :
    ∃ (blanks : List Char) (f : Field), (∀ c ∈ blanks, isSpace c = true)
      ∧ s = blanks ++ (f.text ++ rest) ∧ f.text.length ≤ width ∧ f.value = v := by
  have hsplit := List.takeWhile_append_dropWhile (p := isSpace) (l := s)
  have hblanks : ∀ c ∈ s.takeWhile isSpace, isSpace c = true :=
    List.all_eq_true.mp List.all_takeWhile
  rw [scanHex] at h
  generalize s.takeWhile isSpace = blanks at *
  generalize s.dropWhile isSpace = item at *
  subst hsplit
  by_cases hsign : ∃ c tail, item = c :: tail ∧ isSign c = true ∧ 1 ≤ width
  · obtain ⟨c, tail, rfl, hsign, hwidth⟩ := hsign
    rw [scanItem_sign hsign hwidth] at h
    obtain ⟨⟨digits, rest'⟩, hdigits, heq⟩ := Option.map_eq_some_iff.mp h
    obtain ⟨rfl, rfl⟩ := Prod.mk.inj heq
    obtain ⟨pre, hpre, rfl, hlen, hall, hne⟩ := scanDigits_eq_some hdigits
    refine ⟨blanks, ⟨some c, pre, digits, ?_, hpre, hall, hne⟩, hblanks, ?_, ?_, ?_⟩
    · intro c' hc'
      exact Option.some.inj hc' ▸ hsign
    · simp only [Field.text, Option.toList_some, List.cons_append, List.nil_append,
        List.append_assoc]
    · simp only [Field.text, Option.toList_some, List.length_append, List.length_singleton]
      omega
    · simp only [Field.value, Option.some.injEq]
  · rw [scanItem_plain] at h
    · obtain ⟨⟨digits, rest'⟩, hdigits, heq⟩ := Option.map_eq_some_iff.mp h
      obtain ⟨rfl, rfl⟩ := Prod.mk.inj heq
      obtain ⟨pre, hpre, rfl, hlen, hall, hne⟩ := scanDigits_eq_some hdigits
      refine ⟨blanks, ⟨none, pre, digits, (fun c hc => nomatch hc), hpre, hall, hne⟩, hblanks,
        ?_, ?_, ?_⟩
      · simp only [Field.text, Option.toList_none, List.nil_append, List.append_assoc]
      · simp only [Field.text, Option.toList_none, List.nil_append, List.length_append]
        exact hlen
      · rfl
    · intro c hc hboth
      obtain ⟨tail, rfl⟩ := List.head?_eq_some_iff.mp hc
      exact hsign ⟨c, tail, rfl, hboth⟩

/-- **WHAT `%wx` MUST TAKE**: any field behind blanks, if it is no longer than the
    width and ends where it does. -/
theorem scanHex_item {blanks : List Char} (hblanks : ∀ c ∈ blanks, isSpace c = true) (f : Field)
    (hwidth : f.text.length ≤ width) (hends : Ends rest) :
    scanHex width (blanks ++ (f.text ++ rest)) = some (f.value, rest) := by
  obtain ⟨sign, pre, digits, hsign, hpre, hall, hne⟩ := f
  have hfirst : ∀ c ∈ (pre ++ (digits ++ rest)).head?, isHex c = true := by
    intro c hc
    rcases hpre with rfl | rfl | rfl
    · cases digits with
      | nil => exact absurd rfl hne
      | cons d ds =>
          obtain rfl := Option.some.inj hc
          exact hall d List.mem_cons_self
    · obtain rfl := Option.some.inj hc
      decide
    · obtain rfl := Option.some.inj hc
      decide
  rw [scanHex, List.dropWhile_append_of_pos hblanks]
  cases sign with
  | none =>
      simp only [Field.text, Option.toList_none, List.nil_append, List.length_append,
        List.append_assoc] at hwidth ⊢
      have hstop : (pre ++ (digits ++ rest)).dropWhile isSpace = pre ++ (digits ++ rest) := by
        cases hs : pre ++ (digits ++ rest) with
        | nil => rfl
        | cons c tail =>
            rw [hs] at hfirst
            exact List.dropWhile_cons_of_neg (by
              rw [isHex_not_space (hfirst c rfl)]
              exact Bool.false_ne_true)
      rw [hstop, scanItem_plain, scanDigits_item hpre hwidth hall hne hends]
      · rfl
      · intro c hc hboth
        exact Bool.false_ne_true ((isHex_not_sign (hfirst c hc)).symm.trans hboth.1)
  | some c =>
      have hc := hsign c rfl
      simp only [Field.text, Option.toList_some, List.cons_append, List.nil_append,
        List.length_cons, List.length_append, List.append_assoc] at hwidth ⊢
      rw [List.dropWhile_cons_of_neg (by
          rw [isSign_not_space hc]
          exact Bool.false_ne_true),
        scanItem_sign hc (by omega), scanDigits_item hpre (by omega) hall hne hends]
      simp only [Option.map_some, Field.value, Option.some.injEq]

end Fields

end Scanf

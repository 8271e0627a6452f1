import Mathlib.Algebra.GroupWithZero.Nat
import Mathlib.Data.List.Forall2
import Universal7580.ScanfProofs

/-! # Bluetooth addresses as text (`bluetooth_address.cc`)

    An address is six bytes, written as six fields of two hexadecimal digits
    with colons between them.  `string_to_bytes` leaves the reading to
    `sscanf`, and looks at the length of the string before.

    A field of `sscanf` is not what a field of an address is: it may be short,
    and it may have blanks and a sign before its digits.  The length keeps out
    strings that are only short.  `address_grammar` says that nothing else is
    kept out: with blanks or signs to fill the length, short fields pass. -/

namespace BtAddress

open Scanf

-- ── The code ─────────────────────────────────────────────────────────────────

def kStringLength : Nat := 17

def kBytes : Nat := 6

/-- `%02x` of a byte. -/
def hex02 (b : UInt8) : List Char :=
  [Nat.digitChar (b.toNat / 16), Nat.digitChar (b.toNat % 16)]

/-- `bytes_to_string`. -/
def bytes_to_string (addr : List UInt8) : List Char := [':'].intercalate (addr.map hex02)

/-- `"%02hhx:%02hhx:%02hhx:%02hhx:%02hhx:%02hhx%1c"`. -/
def addressFormat : List Directive :=
  [.hhx 2, .lit ':', .hhx 2, .lit ':', .hhx 2, .lit ':', .hhx 2, .lit ':', .hhx 2, .lit ':',
    .hhx 2, .char]

/-- `strnlen`. -/
def strnlen (s : List Char) (maxlen : Nat) : Nat := min s.length maxlen

/-- `string_to_bytes`, with `addr` before and after it.  `none` is `NULL`. -/
def string_to_bytes (addr_str : Option (List Char)) (addr : List UInt8) : Bool × List UInt8 :=
  match addr_str with
  | none => (false, addr)
  | some s =>
      if strnlen s kStringLength ≠ kStringLength then (false, addr)
      else
        let assigned := sscanf addressFormat s
        (assigned.length == kBytes, assigned.take kBytes ++ addr.drop assigned.length)

-- ── Grammars ─────────────────────────────────────────────────────────────────

/-- A field of an address. -/
def TwoDigits (f : List Char) : Prop := ∃ a b, isHex a = true ∧ isHex b = true ∧ f = [a, b]

/-- The string is six fields of two digits with single colons between them, and
    these are the bytes. -/
def Spells (s : List Char) (bytes : List UInt8) : Prop :=
  ∃ fs : List (List Char), fs.length = kBytes ∧ (∀ f ∈ fs, TwoDigits f)
    ∧ s = [':'].intercalate fs ∧ bytes = fs.map fun f => UInt8.ofNat (hexNat f)

/-- A field that passes: blanks, and then two digits, or one, with or without a
    sign. -/
def LooseField (f : List Char) : Prop :=
  ∃ blanks item : List Char, (∀ c ∈ blanks, isSpace c = true) ∧ f = blanks ++ item
    ∧ ((∃ a, isHex a = true ∧ item = [a]) ∨ TwoDigits item
      ∨ ∃ a b, isSign a = true ∧ isHex b = true ∧ item = [a, b])

def LooseAddress (s : List Char) : Prop :=
  ∃ fs : List (List Char), fs.length = kBytes ∧ (∀ f ∈ fs, LooseField f) ∧ s = [':'].intercalate fs

/-- There is a blank or a sign in the string. -/
def Padded (s : List Char) : Prop := ∃ c ∈ s, isSpace c = true ∨ isSign c = true

/-- **THE GRAMMAR**: the strings that are taken are the addresses, and each gives
    its bytes. -/
def Grammar (s : List Char) : Prop :=
  ∀ addr : List UInt8, addr.length = kBytes →
    ((string_to_bytes (some s) addr).1 = true ↔ ∃ bytes, Spells s bytes)
      ∧ ∀ bytes, Spells s bytes → (string_to_bytes (some s) addr).2 = bytes

-- ── Fields ───────────────────────────────────────────────────────────────────

/-- What one directive of the format takes for a byte. -/
def Scans (f : List Char) (v : UInt8) : Prop :=
  ∃ (blanks : List Char) (field : Field), (∀ c ∈ blanks, isSpace c = true)
    ∧ f = blanks ++ field.text ∧ field.text.length ≤ 2 ∧ v = UInt8.ofInt field.value

section Fields

variable {s rest f : List Char} {v : UInt8} {vs bytes : List UInt8} {fs : List (List Char)}

theorem ends_nil : Ends [] := fun _ hc => nomatch hc

theorem ends_colon (s : List Char) : Ends (':' :: s) := by
  intro c hc
  obtain rfl := Option.some.inj hc
  decide

theorem scanHex_of_scans (h : Scans f v) (hends : Ends rest) :
    ∃ i, scanHex 2 (f ++ rest) = some (i, rest) ∧ UInt8.ofInt i = v := by
  obtain ⟨blanks, field, hblanks, rfl, hlen, rfl⟩ := h
  refine ⟨field.value, ?_, rfl⟩
  rw [List.append_assoc]
  exact scanHex_item hblanks field hlen hends

theorem scans_of_scanHex {i : Int} (h : scanHex 2 s = some (i, rest)) :
    ∃ f, Scans f (UInt8.ofInt i) ∧ s = f ++ rest := by
  obtain ⟨blanks, field, hblanks, rfl, hlen, rfl⟩ := scanHex_eq_some h
  exact ⟨blanks ++ field.text, ⟨blanks, field, hblanks, rfl, hlen, rfl⟩,
    (List.append_assoc _ _ _).symm⟩

/-- A field that assigns a byte. -/
theorem sscanf_hhx {format : List Directive} {n : Nat}
    (h : (sscanf (.hhx 2 :: format) s).length = n + 1) :
    ∃ f v rest, Scans f v ∧ s = f ++ rest
      ∧ sscanf (.hhx 2 :: format) s = v :: sscanf format rest
      ∧ (sscanf format rest).length = n := by
  rw [sscanf] at h ⊢
  cases hscan : scanHex 2 s with
  | none =>
      rw [hscan] at h
      exact nomatch h
  | some r =>
      obtain ⟨i, rest⟩ := r
      obtain ⟨f, hf, hs⟩ := scans_of_scanHex hscan
      rw [hscan] at h
      exact ⟨f, UInt8.ofInt i, rest, hf, hs, rfl, Nat.succ.inj h⟩

theorem sscanf_of_scans (h : Scans f v) (hends : Ends rest) (format : List Directive) :
    sscanf (.hhx 2 :: format) (f ++ rest) = v :: sscanf format rest := by
  obtain ⟨i, hscan, rfl⟩ := scanHex_of_scans h hends
  rw [sscanf, hscan]

/-- The fields after a colon, as directives. -/
def fieldsFormat : Nat → List Directive
  | 0 => [.hhx 2, .char]
  | k + 1 => .hhx 2 :: .lit ':' :: fieldsFormat k

theorem addressFormat_eq : addressFormat = fieldsFormat 5 := rfl

/-- **THE FORMAT** gives a byte for every field and no more, exactly if the string
    is that many fields with colons between them. -/
theorem sscanf_fieldsFormat : ∀ (k : Nat) (s : List Char) (vs : List UInt8),
    sscanf (fieldsFormat k) s = vs ∧ vs.length = k + 1
      ↔ ∃ fs, List.Forall₂ Scans fs vs ∧ fs.length = k + 1 ∧ s = [':'].intercalate fs := by
  intro k
  induction k with
  | zero =>
      intro s vs
      constructor
      · rintro ⟨rfl, hlen⟩
        rw [fieldsFormat] at hlen ⊢
        obtain ⟨f, v, rest, hf, rfl, hvs, hrest⟩ := sscanf_hhx hlen
        rw [hvs]
        cases rest with
        | nil =>
            refine ⟨[f], List.Forall₂.cons hf List.Forall₂.nil, rfl, ?_⟩
            rw [List.append_nil, List.intercalate_singleton]
        | cons c rest => exact nomatch hrest
      · rintro ⟨fs, hfs, hlen, rfl⟩
        obtain ⟨f, rfl⟩ := List.length_eq_one_iff.mp hlen
        obtain ⟨v, vs', hf, hnil, rfl⟩ := List.forall₂_cons_left_iff.mp hfs
        obtain rfl := List.forall₂_nil_left_iff.mp hnil
        have hscan := sscanf_of_scans hf ends_nil [.char]
        rw [List.append_nil] at hscan
        rw [List.intercalate_singleton, fieldsFormat, hscan]
        exact ⟨rfl, rfl⟩
  | succ k ih =>
      intro s vs
      constructor
      · rintro ⟨rfl, hlen⟩
        rw [fieldsFormat] at hlen ⊢
        obtain ⟨f, v, rest, hf, rfl, hvs, hrest⟩ := sscanf_hhx hlen
        rw [hvs]
        cases rest with
        | nil => exact nomatch hrest
        | cons c rest =>
            rw [sscanf] at hrest ⊢
            by_cases hc : c = ':'
            · subst hc
              rw [if_pos rfl] at hrest ⊢
              obtain ⟨fs, hfs, hfslen, rfl⟩ := (ih rest _).mp ⟨rfl, hrest⟩
              refine ⟨f :: fs, List.Forall₂.cons hf hfs, congrArg Nat.succ hfslen, ?_⟩
              have hne : fs ≠ [] := by
                rintro rfl
                exact nomatch hfslen
              rw [List.intercalate_cons_of_ne_nil hne, List.append_assoc]
              rfl
            · rw [if_neg hc] at hrest
              exact nomatch hrest
      · rintro ⟨fs, hfs, hlen, rfl⟩
        cases fs with
        | nil => exact nomatch hlen
        | cons f fs =>
            obtain ⟨v, vs', hf, hrest, rfl⟩ := List.forall₂_cons_left_iff.mp hfs
            have hfslen : fs.length = k + 1 := Nat.succ.inj hlen
            have hne : fs ≠ [] := by
              rintro rfl
              exact nomatch hfslen
            obtain ⟨hscan', hlen'⟩ := (ih ([':'].intercalate fs) vs').mpr ⟨fs, hrest, hfslen, rfl⟩
            rw [List.intercalate_cons_of_ne_nil hne, List.append_assoc, List.singleton_append,
              fieldsFormat, sscanf_of_scans hf (ends_colon _), sscanf, if_pos rfl, hscan']
            exact ⟨rfl, congrArg Nat.succ hlen'⟩

/-- A field of at most two characters has no prefix. -/
theorem scans_cases (h : Scans f v) : LooseField f := by
  obtain ⟨blanks, ⟨sign, pre, digits, hsign, hpre, hall, hne⟩, hblanks, rfl, hlen, -⟩ := h
  refine ⟨blanks, _, hblanks, rfl, ?_⟩
  simp only [Field.text, List.length_append] at hlen ⊢
  have hpos : 0 < digits.length := List.length_pos_iff.mpr hne
  have hnil : pre = [] := by
    rcases hpre with rfl | rfl | rfl
    · rfl
    · simp only [List.length_cons, List.length_nil] at hlen
      omega
    · simp only [List.length_cons, List.length_nil] at hlen
      omega
  subst hnil
  rw [List.nil_append]
  rw [List.length_nil, Nat.zero_add] at hlen
  cases sign with
  | none =>
      rw [Option.toList_none, List.nil_append]
      rw [Option.toList_none, List.length_nil, Nat.zero_add] at hlen
      rcases (by omega : digits.length = 1 ∨ digits.length = 2) with hone | htwo
      · obtain ⟨a, rfl⟩ := List.length_eq_one_iff.mp hone
        exact Or.inl ⟨a, hall a List.mem_cons_self, rfl⟩
      · obtain ⟨a, b, rfl⟩ := List.length_eq_two.mp htwo
        exact Or.inr (Or.inl ⟨a, b, hall a List.mem_cons_self,
          hall b (List.mem_cons_of_mem a List.mem_cons_self), rfl⟩)
  | some c =>
      rw [Option.toList_some, List.singleton_append]
      rw [Option.toList_some, List.length_singleton] at hlen
      obtain ⟨a, rfl⟩ := List.length_eq_one_iff.mp (by omega : digits.length = 1)
      exact Or.inr (Or.inr ⟨c, a, hsign c rfl, hall a List.mem_cons_self, rfl⟩)

theorem ofInt_natCast (n : Nat) : UInt8.ofInt n = UInt8.ofNat n := by
  rw [UInt8.ofInt, ← UInt8.toNat_inj, UInt8.toNat_ofNat', UInt8.toNat_ofNat']
  omega

theorem scans_twoDigits (h : TwoDigits f) : Scans f (UInt8.ofNat (hexNat f)) := by
  obtain ⟨a, b, ha, hb, rfl⟩ := h
  refine ⟨[], ⟨none, [], [a, b], (fun c hc => nomatch hc), Or.inl rfl, ?_, List.cons_ne_nil _ _⟩,
    (fun c hc => nomatch hc), rfl, Nat.le_refl _, ?_⟩
  · intro c hc
    rcases List.mem_cons.mp hc with rfl | hc
    · exact ha
    · exact List.mem_singleton.mp hc ▸ hb
  · exact (ofInt_natCast _).symm

theorem scans_of_looseField (h : LooseField f) : ∃ v, Scans f v := by
  obtain ⟨blanks, item, hblanks, rfl, hitem⟩ := h
  have hone : ∀ a, isHex a = true → ∀ c ∈ [a], isHex c = true :=
    fun a ha c hc => List.mem_singleton.mp hc ▸ ha
  rcases hitem with ⟨a, ha, rfl⟩ | ⟨a, b, ha, hb, rfl⟩ | ⟨a, b, ha, hb, rfl⟩
  · exact ⟨_, blanks, ⟨none, [], [a], (fun c hc => nomatch hc), Or.inl rfl, hone a ha,
      List.cons_ne_nil _ _⟩, hblanks, rfl, Nat.le_succ 1, rfl⟩
  · obtain ⟨b₀, field, hnil, htext, hlen, -⟩ := scans_twoDigits ⟨a, b, ha, hb, rfl⟩
    refine ⟨_, blanks ++ b₀, field, ?_, ?_, hlen, rfl⟩
    · exact fun c hc => (List.mem_append.mp hc).elim (hblanks c) (hnil c)
    · rw [htext, List.append_assoc]
  · refine ⟨_, blanks, ⟨some a, [], [b], ?_, Or.inl rfl, hone b hb, List.cons_ne_nil _ _⟩,
      hblanks, rfl, Nat.le_refl 2, rfl⟩
    exact fun c hc => Option.some.inj hc ▸ ha

theorem exists_scans : (∃ vs, List.Forall₂ Scans fs vs) ↔ ∀ f ∈ fs, LooseField f := by
  induction fs with
  | nil => exact iff_of_true ⟨[], List.Forall₂.nil⟩ (fun f hf => absurd hf List.not_mem_nil)
  | cons f fs ih =>
      rw [List.forall_mem_cons, ← ih]
      constructor
      · rintro ⟨vs, hvs⟩
        obtain ⟨v, vs, hf, hrest, rfl⟩ := List.forall₂_cons_left_iff.mp hvs
        exact ⟨scans_cases hf, vs, hrest⟩
      · rintro ⟨hf, vs, hrest⟩
        obtain ⟨v, hv⟩ := scans_of_looseField hf
        exact ⟨v :: vs, List.Forall₂.cons hv hrest⟩

theorem forall₂_twoDigits (h : ∀ f ∈ fs, TwoDigits f) :
    List.Forall₂ Scans fs (fs.map fun f => UInt8.ofNat (hexNat f)) := by
  induction fs with
  | nil => exact List.Forall₂.nil
  | cons f fs ih =>
      obtain ⟨hf, hrest⟩ := List.forall_mem_cons.mp h
      exact List.Forall₂.cons (scans_twoDigits hf) (ih hrest)

end Fields

-- ── Lengths ──────────────────────────────────────────────────────────────────

section Lengths

variable {s f : List Char} {fs : List (List Char)} {c : Char}

theorem length_intercalate : ∀ (fs : List (List Char)),
    ([':'].intercalate fs).length = (fs.map List.length).sum + (fs.length - 1) := by
  intro fs
  induction fs with
  | nil => rfl
  | cons f fs ih =>
      cases fs with
      | nil => simp
      | cons g fs =>
          rw [List.intercalate_cons_cons, List.length_append, List.length_append, ih]
          simp only [List.map_cons, List.sum_cons, List.length_cons, List.length_nil]
          omega

theorem mem_intercalate : ∀ {fs : List (List Char)}, c ∈ [':'].intercalate fs →
    c = ':' ∨ ∃ f ∈ fs, c ∈ f := by
  intro fs
  induction fs with
  | nil => exact fun h => absurd h List.not_mem_nil
  | cons f fs ih =>
      intro h
      cases fs with
      | nil =>
          rw [List.intercalate_singleton] at h
          exact Or.inr ⟨f, List.mem_cons_self, h⟩
      | cons g fs =>
          rw [List.intercalate_cons_cons, List.mem_append, List.mem_append,
            List.mem_singleton] at h
          rcases h with (hf | hcolon) | hrest
          · exact Or.inr ⟨f, List.mem_cons_self, hf⟩
          · exact Or.inl hcolon
          · refine (ih hrest).imp id ?_
            rintro ⟨f', hf', hc⟩
            exact ⟨f', List.mem_cons_of_mem f hf', hc⟩

theorem subset_intercalate (hf : f ∈ fs) (hc : c ∈ f) : c ∈ [':'].intercalate fs := by
  induction fs with
  | nil => exact absurd hf List.not_mem_nil
  | cons g fs ih =>
      by_cases hne : fs = []
      · subst hne
        rw [List.intercalate_singleton]
        exact List.mem_singleton.mp hf ▸ hc
      · rw [List.intercalate_cons_of_ne_nil hne]
        rcases List.mem_cons.mp hf with rfl | hrest
        · exact List.mem_append_left _ (List.mem_append_left _ hc)
        · exact List.mem_append_right _ (ih hrest)

/-- Fields of at most two characters that fill the length have two each. -/
theorem length_eq_two (hle : ∀ f ∈ fs, f.length ≤ 2)
    (hsum : 2 * fs.length ≤ (fs.map List.length).sum) : ∀ f ∈ fs, f.length = 2 := by
  have hbound : ∀ gs : List (List Char), (∀ f ∈ gs, f.length ≤ 2) →
      (gs.map List.length).sum ≤ 2 * gs.length := by
    intro gs
    induction gs with
    | nil => exact fun _ => Nat.le_refl 0
    | cons g gs ih =>
        intro h
        obtain ⟨hg, hrest⟩ := List.forall_mem_cons.mp h
        have := ih hrest
        rw [List.map_cons, List.sum_cons, List.length_cons]
        omega
  induction fs with
  | nil => exact fun f hf => absurd hf List.not_mem_nil
  | cons g gs ih =>
      obtain ⟨hg, hrest⟩ := List.forall_mem_cons.mp hle
      have hgs := hbound gs hrest
      rw [List.map_cons, List.sum_cons, List.length_cons] at hsum
      exact List.forall_mem_cons.mpr ⟨by omega, ih hrest (by omega)⟩

end Lengths

-- ── Strings ──────────────────────────────────────────────────────────────────

section Strings

variable {s : List Char} {addr bytes : List UInt8}

theorem not_padded_of_isHex {c : Char} (h : isHex c = true) : ¬(isSpace c = true ∨ isSign c = true) := by
  rintro (hspace | hsign)
  · exact Bool.false_ne_true ((isHex_not_space h).symm.trans hspace)
  · exact Bool.false_ne_true ((isHex_not_sign h).symm.trans hsign)

theorem spells_shape (h : Spells s bytes) :
    LooseAddress s ∧ s.length = kStringLength ∧ ¬Padded s := by
  obtain ⟨fs, hlen, hall, rfl, -⟩ := h
  refine ⟨⟨fs, hlen, fun f hf => ⟨[], f, (fun c hc => nomatch hc), rfl, Or.inr (Or.inl (hall f hf))⟩,
    rfl⟩, ?_, ?_⟩
  · have hsum : (fs.map List.length).sum = (fs.map fun _ => 2).sum := by
      refine congrArg List.sum (List.map_congr_left fun f hf => ?_)
      obtain ⟨a, b, -, -, rfl⟩ := hall f hf
      rfl
    rw [length_intercalate, hsum, List.map_const', List.sum_replicate_nat, hlen]
    rfl
  · rintro ⟨c, hc, hpad⟩
    rcases mem_intercalate hc with rfl | ⟨f, hf, hcf⟩
    · exact absurd hpad (by decide)
    · obtain ⟨a, b, ha, hb, rfl⟩ := hall f hf
      rcases List.mem_cons.mp hcf with rfl | hcb
      · exact not_padded_of_isHex ha hpad
      · obtain rfl := List.mem_singleton.mp hcb
        exact not_padded_of_isHex hb hpad

/-- Without blanks and signs the length leaves two digits to every field. -/
theorem spells_of_loose (h : LooseAddress s) (hlen : kStringLength ≤ s.length) (hpad : ¬Padded s) :
    ∃ bytes, Spells s bytes := by
  obtain ⟨fs, hfs, hall, rfl⟩ := h
  have hclean : ∀ f ∈ fs, TwoDigits f ∨ f.length ≤ 1 := by
    intro f hf
    obtain ⟨blanks, item, hblanks, rfl, hitem⟩ := hall f hf
    have hnil : blanks = [] := by
      cases blanks with
      | nil => rfl
      | cons c blanks =>
          refine absurd ⟨c, subset_intercalate hf List.mem_cons_self, Or.inl ?_⟩ hpad
          exact hblanks c List.mem_cons_self
    subst hnil
    rcases hitem with ⟨a, -, rfl⟩ | htwo | ⟨a, b, ha, -, rfl⟩
    · exact Or.inr (Nat.le_refl 1)
    · exact Or.inl htwo
    · exact absurd ⟨a, subset_intercalate hf List.mem_cons_self, Or.inr ha⟩ hpad
  have hle : ∀ f ∈ fs, f.length ≤ 2 := by
    intro f hf
    rcases hclean f hf with ⟨a, b, -, -, rfl⟩ | hshort
    · exact Nat.le_refl 2
    · omega
  have htwo : ∀ f ∈ fs, TwoDigits f := by
    have hall := length_eq_two hle (by
      have hkBytes : kBytes = 6 := rfl
      have hkStringLength : kStringLength = 17 := rfl
      rw [length_intercalate] at hlen
      omega)
    intro f hf
    have hf2 := hall f hf
    rcases hclean f hf with htwo | hshort
    · exact htwo
    · omega
  exact ⟨_, fs, hfs, htwo, rfl, rfl⟩

/-- **WHAT PASSES**: six loose fields, in a string that is not short. -/
theorem string_to_bytes_iff (s : List Char) (addr : List UInt8) :
    (string_to_bytes (some s) addr).1 = true ↔ LooseAddress s ∧ kStringLength ≤ s.length := by
  rw [string_to_bytes]
  by_cases hlen : kStringLength ≤ s.length
  · have hstrnlen : strnlen s kStringLength = kStringLength := Nat.min_eq_right hlen
    rw [if_neg (not_not_intro hstrnlen), and_iff_left hlen, addressFormat_eq]
    have hiff := sscanf_fieldsFormat 5 s
    constructor
    · intro h
      obtain ⟨fs, hfs, hfslen, rfl⟩ := (hiff _).mp ⟨rfl, eq_of_beq h⟩
      exact ⟨fs, hfslen, exists_scans.mp ⟨_, hfs⟩, rfl⟩
    · rintro ⟨fs, hfslen, hall, hs⟩
      obtain ⟨vs, hvs⟩ := exists_scans.mpr hall
      obtain ⟨hscan, hvslen⟩ := (hiff vs).mpr ⟨fs, hvs, hfslen, hs⟩
      rw [hscan]
      exact beq_of_eq hvslen
  · have hstrnlen : strnlen s kStringLength ≠ kStringLength := fun heq => by
      rw [strnlen] at heq
      omega
    rw [if_pos hstrnlen]
    exact iff_of_false Bool.false_ne_true (fun h => hlen h.2)

/-- An address gives its bytes. -/
theorem string_to_bytes_of_spells (h : Spells s bytes) (haddr : addr.length = kBytes) :
    string_to_bytes (some s) addr = (true, bytes) := by
  have hlen := (spells_shape h).2.1
  obtain ⟨fs, hfs, hall, rfl, rfl⟩ := h
  obtain ⟨hscan, hvslen⟩ := (sscanf_fieldsFormat 5 _ _).mpr
    ⟨fs, forall₂_twoDigits hall, hfs, rfl⟩
  have hstrnlen : strnlen ([':'].intercalate fs) kStringLength = kStringLength :=
    Nat.min_eq_right (Nat.le_of_eq hlen.symm)
  rw [string_to_bytes, if_neg (not_not_intro hstrnlen), addressFormat_eq, hscan]
  refine Prod.ext (beq_of_eq hvslen) ?_
  have htake : (fs.map fun f => UInt8.ofNat (hexNat f)).length ≤ kBytes := Nat.le_of_eq hvslen
  have hdrop : addr.length ≤ 5 + 1 := Nat.le_of_eq haddr
  dsimp only
  rw [hvslen, List.take_of_length_le htake, List.drop_eq_nil_of_le hdrop, List.append_nil]

theorem hex02_spells (b : UInt8) : TwoDigits (hex02 b) ∧ UInt8.ofNat (hexNat (hex02 b)) = b := by
  have hdigit : ∀ n < 16, hexVal (Nat.digitChar n) = some n := by decide
  have hb := b.toNat_lt
  have hhigh := hdigit (b.toNat / 16) (by omega)
  have hlow := hdigit (b.toNat % 16) (by omega)
  refine ⟨⟨_, _, ?_, ?_, rfl⟩, ?_⟩
  · rw [isHex, hhigh]
    rfl
  · rw [isHex, hlow]
    rfl
  · rw [hexNat, hex02, List.foldl_cons, List.foldl_cons, List.foldl_nil, hhigh, hlow,
      Option.getD_some, Option.getD_some]
    rw [show 16 * (16 * 0 + b.toNat / 16) + b.toNat % 16 = b.toNat by omega, UInt8.ofNat_toNat]

theorem bytes_to_string_spells (h : bytes.length = kBytes) :
    Spells (bytes_to_string bytes) bytes := by
  refine ⟨bytes.map hex02, (List.length_map _).trans h, ?_, rfl, ?_⟩
  · intro f hf
    obtain ⟨b, -, rfl⟩ := List.mem_map.mp hf
    exact (hex02_spells b).1
  · rw [List.map_map]
    refine (List.map_id bytes).symm.trans (List.map_congr_left fun b _ => ?_)
    exact (hex02_spells b).2.symm

/-- **ADDRESSES AS TEXT**: every address comes back from its text; and a string is
    read by the grammar exactly if it is not six loose fields with blanks or
    signs that make up for the length. -/
theorem address_grammar (s : List Char) :
    (∀ bytes addr : List UInt8, bytes.length = kBytes → addr.length = kBytes →
        string_to_bytes (some (bytes_to_string bytes)) addr = (true, bytes))
      ∧ (Grammar s ↔ ¬(LooseAddress s ∧ kStringLength ≤ s.length ∧ Padded s)) := by
  refine ⟨fun bytes addr hbytes haddr =>
    string_to_bytes_of_spells (bytes_to_string_spells hbytes) haddr, ?_⟩
  constructor
  · rintro h ⟨hloose, hlen, hpad⟩
    obtain ⟨htaken, -⟩ := h (List.replicate kBytes 0) (List.length_replicate ..)
    obtain ⟨bytes, hspells⟩ := htaken.mp ((string_to_bytes_iff s _).mpr ⟨hloose, hlen⟩)
    exact (spells_shape hspells).2.2 hpad
  · intro hstrict addr haddr
    refine ⟨⟨fun htaken => ?_, ?_⟩, fun bytes hspells => ?_⟩
    · obtain ⟨hloose, hlen⟩ := (string_to_bytes_iff s addr).mp htaken
      exact spells_of_loose hloose hlen fun hpad => hstrict ⟨hloose, hlen, hpad⟩
    · rintro ⟨bytes, hspells⟩
      rw [string_to_bytes_of_spells hspells haddr]
    · rw [string_to_bytes_of_spells hspells haddr]

theorem address_grammar_local :
    string_to_bytes (some "00:1a:7D:da:71:0f".toList) [0, 0, 0, 0, 0, 0]
      = (true, [0x00, 0x1a, 0x7d, 0xda, 0x71, 0x0f]) := by
  have hcomes := (address_grammar "00:1a:7D:da:71:0f".toList).1
    [0x00, 0x1a, 0x7d, 0xda, 0x71, 0x0f] [0, 0, 0, 0, 0, 0] rfl rfl
  exact (by decide : string_to_bytes (some "00:1a:7D:da:71:0f".toList) [0, 0, 0, 0, 0, 0]
    = string_to_bytes (some (bytes_to_string [0x00, 0x1a, 0x7d, 0xda, 0x71, 0x0f]))
        [0, 0, 0, 0, 0, 0]).trans hcomes

/-- Blanks for the first digits: seventeen characters, and taken. -/
theorem blanks_taken :
    let s := " 1: 2: 3: 4: 5: 6".toList
    (string_to_bytes (some s) [0, 0, 0, 0, 0, 0]).1 = true ∧ ¬∃ bytes, Spells s bytes := by
  intro s
  refine ⟨by decide, ?_⟩
  rintro ⟨bytes, hspells⟩
  exact (spells_shape hspells).2.2 ⟨' ', by decide, by decide⟩

end Strings

end BtAddress

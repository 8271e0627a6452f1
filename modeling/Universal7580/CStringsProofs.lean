import Mathlib.Data.List.TakeWhile
import Mathlib.Data.List.Infix

/-! # Strings of C

    A string is what is in front of the first NUL.  The functions here get what
    is behind a pointer as a list; a list without a NUL ends where the NUL is.

    * `compare_eq_zero_iff`: two strings compare equal, up to `n` characters,
      exactly if so much of them is the same; `strncmp` and `strcasecmp` are two
      cases of it;
    * `strstr_first`: the first place where one string is in another, and
      `strstr_append`, that what follows does not change it. -/

namespace CStrings

abbrev NUL : Char := '\x00'

/-- A string by itself. -/
abbrev CStr := { s : List Char // NUL ∉ s }

/-- The string that a pointer points to. -/
def cstr (s : List Char) : List Char := s.takeWhile (· ≠ NUL)

/-- `n` characters are compared, after `key`, and none behind a NUL. -/
def compare (key : Char → Char) : Nat → List Char → List Char → Int
  | 0, _, _ => 0
  | n + 1, s, t =>
      let a := key (s.headD NUL)
      let b := key (t.headD NUL)
      if a ≠ b then a.toNat - b.toNat
      else if a = NUL then 0
      else compare key n s.tail t.tail

def strncmp (s t : List Char) (n : Nat) : Int := compare id n s t

/-- No string is compared beyond its end. -/
def strcasecmp (s t : List Char) : Int := compare Char.toLower (s.length + 1) s t

/-- `strstr`: from the first place on where `needle` is. -/
def strstr (needle : List Char) : List Char → Option (List Char)
  | [] => if needle = [] then some [] else none
  | c :: s => if needle <+: c :: s then some (c :: s) else strstr needle s

-- ── Comparing ────────────────────────────────────────────────────────────────

theorem cstr_cons_of_ne {c : Char} (h : c ≠ NUL) (s : List Char) : cstr (c :: s) = c :: cstr s :=
  List.takeWhile_cons_of_pos (decide_eq_true h)

theorem cstr_eq_self {s : List Char} (h : NUL ∉ s) : cstr s = s := by
  refine List.takeWhile_eq_self_iff.mpr ?_
  intro c hc
  refine decide_eq_true ?_
  rintro rfl
  exact h hc

theorem cstr_append {s : List Char} (h : NUL ∉ s) (t : List Char) : cstr (s ++ t) = s ++ cstr t := by
  refine List.takeWhile_append_of_pos ?_
  intro c hc
  refine decide_eq_true ?_
  rintro rfl
  exact h hc

/-- The string in the first `n` characters is a part of the string. -/
theorem cstr_take : ∀ (s : List Char) (n : Nat), cstr (s.take n) = (cstr s).take n := by
  intro s
  induction s with
  | nil =>
      intro n
      rw [List.take_nil]
      exact List.take_nil.symm
  | cons c s ih =>
      intro n
      cases n with
      | zero => rfl
      | succ n =>
          rw [List.take_succ_cons]
          by_cases hc : c = NUL
          · rw [hc]
            rfl
          · rw [cstr_cons_of_ne hc, cstr_cons_of_ne hc, List.take_succ_cons, ih]

theorem prefix_cstr (s : List Char) : cstr s <+: s := List.takeWhile_prefix _

theorem char_sub_eq_zero {a b : Char} : (a.toNat : Int) - b.toNat = 0 ↔ a = b := by
  constructor
  · intro h
    have hnat : a.toNat = b.toNat := by omega
    exact Char.toNat_inj.mp hnat
  · rintro rfl
    omega

/-- A string is its first character, if that is no NUL, and the rest. -/
theorem cstr_headD (s : List Char) :
    cstr s = if s.headD NUL = NUL then [] else s.headD NUL :: cstr s.tail := by
  cases s with
  | nil => rfl
  | cons c s =>
      show cstr (c :: s) = if c = NUL then [] else c :: cstr s
      by_cases hc : c = NUL
      · rw [if_pos hc, hc]
        rfl
      · rw [if_neg hc]
        exact cstr_cons_of_ne hc s

/-- **EQUAL** up to `n` characters. -/
theorem compare_eq_zero_iff {key : Char → Char} (hkey : ∀ c, key c = NUL ↔ c = NUL) :
    ∀ {n : Nat} {s t : List Char}, compare key n s t = 0
      ↔ ((cstr s).map key).take n = ((cstr t).map key).take n := by
  intro n
  induction n with
  | zero => intro s t; simp [compare]
  | succ n ih =>
      intro s t
      rw [cstr_headD s, cstr_headD t, compare]
      by_cases hsame : key (s.headD NUL) = key (t.headD NUL)
      · rw [if_neg (not_not_intro hsame)]
        by_cases hs : s.headD NUL = NUL
        · have ht : t.headD NUL = NUL := (hkey _).mp (hsame ▸ (hkey _).mpr hs)
          rw [if_pos ((hkey _).mpr hs), if_pos hs, if_pos ht]
          exact iff_of_true rfl rfl
        · have ht : t.headD NUL ≠ NUL := fun ht => hs ((hkey _).mp (hsame.trans ((hkey _).mpr ht)))
          rw [if_neg (fun h => hs ((hkey _).mp h)), if_neg hs, if_neg ht, ih, List.map_cons,
            List.map_cons, List.take_succ_cons, List.take_succ_cons, hsame]
          simp
      · rw [if_pos hsame, char_sub_eq_zero]
        refine iff_of_false hsame ?_
        intro htake
        by_cases hs : s.headD NUL = NUL
        · rw [if_pos hs] at htake
          by_cases ht : t.headD NUL = NUL
          · exact hsame (by rw [hs, ht])
          · rw [if_neg ht] at htake
            simp at htake
        · rw [if_neg hs] at htake
          by_cases ht : t.headD NUL = NUL
          · rw [if_pos ht] at htake
            simp at htake
          · rw [if_neg ht] at htake
            simp only [List.map_cons, List.take_succ_cons] at htake
            exact hsame (List.cons.inj htake).1

/-- **PREFIX**: comparing as many characters as a string has. -/
theorem strncmp_eq_zero_iff {t : List Char} (ht : NUL ∉ t) (s : List Char) :
    strncmp s t t.length = 0 ↔ t <+: s := by
  have hid : ∀ c, id c = NUL ↔ c = NUL := fun _ => Iff.rfl
  rw [strncmp, compare_eq_zero_iff hid, List.map_id, List.map_id, cstr_eq_self ht,
    List.take_length, eq_comm, ← List.prefix_iff_eq_take]
  constructor
  · exact fun h => h.trans (prefix_cstr s)
  · rintro ⟨z, rfl⟩
    rw [cstr_append ht]
    exact List.prefix_append _ _

theorem toLower_eq_nul (c : Char) : c.toLower = NUL ↔ c = NUL := by
  by_cases hup : c.val ≥ 'A'.val ∧ c.val ≤ 'Z'.val
  · -- a letter is above the NUL before and after
    have hval : c.toLower.val = c.val + 32 := congrArg Char.val (dif_pos hup)
    have hlow : 65 ≤ c.val.toNat := UInt32.le_iff_toNat_le.mp hup.1
    have hhigh : c.val.toNat ≤ 90 := UInt32.le_iff_toNat_le.mp hup.2
    refine iff_of_false ?_ ?_
    · intro h
      have hzero : (c.val + 32).toNat = 0 := by
        rw [← hval, h]
        rfl
      rw [UInt32.toNat_add] at hzero
      change (c.val.toNat + 32) % 2 ^ 32 = 0 at hzero
      omega
    · rintro rfl
      exact absurd hlow (by decide)
  · have hsame : c.toLower = c := dif_neg hup
    rw [hsame]

/-- **EQUAL BUT FOR CASE**. -/
theorem strcasecmp_eq_zero_iff (s t : List Char) :
    strcasecmp s t = 0 ↔ (cstr s).map Char.toLower = (cstr t).map Char.toLower := by
  have hlen : (cstr s).length ≤ s.length := (prefix_cstr s).length_le
  rw [strcasecmp, compare_eq_zero_iff toLower_eq_nul]
  constructor
  · intro h
    rw [List.take_of_length_le (by rw [List.length_map]; omega)] at h
    -- the other string is no longer, since it would be as long as what is compared
    have ht : ((cstr t).map Char.toLower).length < s.length + 1 := by
      by_contra hlong
      have hlens := congrArg List.length h
      rw [List.length_map, List.length_take] at hlens
      omega
    rw [List.take_of_length_le (Nat.le_of_lt ht)] at h
    exact h
  · exact fun h => congrArg (List.take _) h

-- ── Finding ──────────────────────────────────────────────────────────────────

section Finding

variable {needle s t : List Char}

theorem strstr_of_prefix (h : needle <+: s) : strstr needle s = some s := by
  cases s with
  | nil => exact if_pos (List.prefix_nil.mp h)
  | cons c s => exact if_pos h

/-- What is found is all of the text, or is found behind its first character. -/
theorem strstr_cases {c : Char} (h : strstr needle (c :: s) = some t) :
    (needle <+: c :: s ∧ t = c :: s) ∨ (¬needle <+: c :: s ∧ strstr needle s = some t) := by
  rw [strstr] at h
  split at h
  · rename_i hpre
    exact Or.inl ⟨hpre, (Option.some.inj h).symm⟩
  · rename_i hpre
    exact Or.inr ⟨hpre, h⟩

theorem strstr_nil (h : strstr needle [] = some t) : needle = [] ∧ t = [] := by
  rw [strstr] at h
  split at h
  · rename_i hnil
    exact ⟨hnil, (Option.some.inj h).symm⟩
  · cases h

/-- What is found starts with the needle. -/
theorem strstr_spec : ∀ {s t : List Char}, strstr needle s = some t →
    ∃ pre, s = pre ++ t ∧ needle <+: t := by
  intro s
  induction s with
  | nil =>
      intro t h
      obtain ⟨rfl, rfl⟩ := strstr_nil h
      exact ⟨[], rfl, List.prefix_refl _⟩
  | cons c s ih =>
      intro t h
      rcases strstr_cases h with ⟨hpre, rfl⟩ | ⟨-, h⟩
      · exact ⟨[], rfl, hpre⟩
      · obtain ⟨pre, hs, hpre⟩ := ih h
        exact ⟨c :: pre, by rw [hs]; rfl, hpre⟩

/-- No later place is missed. -/
theorem suffix_of_strstr {u : List Char} (hu : needle <+: u) : ∀ {s t : List Char},
    strstr needle s = some t → u <:+ s → u <:+ t := by
  intro s
  induction s with
  | nil =>
      intro t h hsuf
      obtain rfl := List.suffix_nil.mp hsuf
      exact List.nil_suffix
  | cons c s ih =>
      intro t h hsuf
      rcases strstr_cases h with ⟨-, rfl⟩ | ⟨hno, h⟩
      · exact hsuf
      · rcases List.suffix_cons_iff.mp hsuf with rfl | hsuf
        · exact absurd hu hno
        · exact ih h hsuf

/-- **NOWHERE**. -/
theorem strstr_eq_none_iff : strstr needle s = none ↔ ¬needle <:+: s := by
  induction s with
  | nil =>
      rw [strstr]
      split
      · rename_i hnil
        exact iff_of_false (by simp) (not_not_intro (hnil ▸ List.infix_refl _))
      · rename_i hne
        exact iff_of_true rfl fun h => hne (List.infix_nil.mp h)
  | cons c s ih =>
      rw [strstr, List.infix_cons_iff]
      split
      · rename_i hpre
        exact iff_of_false (by simp) (not_not_intro (Or.inl hpre))
      · rename_i hpre
        rw [ih, not_or]
        exact (and_iff_right hpre).symm

/-- **WHAT FOLLOWS** does not change what is found. -/
theorem strstr_append (z : List Char) : ∀ {s t : List Char}, strstr needle s = some t →
    strstr needle (s ++ z) = some (t ++ z) := by
  intro s
  induction s with
  | nil =>
      intro t h
      obtain ⟨rfl, rfl⟩ := strstr_nil h
      exact strstr_of_prefix List.nil_prefix
  | cons c s ih =>
      intro t h
      rcases strstr_cases h with ⟨hpre, rfl⟩ | ⟨hno, h⟩
      · exact strstr_of_prefix (hpre.trans (List.prefix_append _ z))
      · have hfound := ih h
        rw [List.cons_append, strstr, if_neg, hfound]
        -- a needle that is only complete with `z` would not be in `s`
        intro hlong
        obtain ⟨pre, hs, ht⟩ := strstr_spec h
        refine hno (List.prefix_of_prefix_length_le hlong (List.prefix_append (c :: s) z) ?_)
        have hle := ht.length_le
        rw [hs, List.length_cons, List.length_append]
        omega

/-- **THE FIRST PLACE**: the needle is not there earlier, not even in part. -/
theorem strstr_first (z : List Char) : ∀ {pre : List Char}, ¬needle <:+: pre ++ needle.dropLast →
    strstr needle (pre ++ (needle ++ z)) = some (needle ++ z) := by
  intro pre
  induction pre with
  | nil => exact fun _ => strstr_of_prefix (List.prefix_append needle z)
  | cons c pre ih =>
      intro hno
      rw [List.cons_append, List.infix_cons_iff, not_or] at hno
      rw [List.cons_append, strstr, if_neg, ih hno.2]
      intro hhere
      refine hno.1 (List.prefix_of_prefix_length_le hhere ?_ ?_)
      · rw [List.cons_prefix_cons, List.prefix_append_right_inj]
        exact ⟨rfl, (List.dropLast_prefix needle).trans (List.prefix_append needle z)⟩
      · rw [List.length_cons, List.length_append, List.length_dropLast]
        omega

/-- A line that is not found is passed over. -/
theorem strstr_newline {x : Char} {front : List Char} (hfront : x ∉ front) (s : List Char) :
    strstr (x :: needle) (front ++ x :: s)
      = if needle <+: s then some (x :: s) else strstr (x :: needle) s := by
  induction front with
  | nil =>
      rw [List.nil_append, strstr]
      by_cases h : needle <+: s
      · rw [if_pos h, if_pos (List.cons_prefix_cons.mpr ⟨rfl, h⟩)]
      · rw [if_neg h, if_neg fun hpre => h (List.cons_prefix_cons.mp hpre).2]
  | cons c front ih =>
      rw [List.mem_cons, not_or] at hfront
      rw [List.cons_append, strstr, if_neg fun hpre => hfront.1 (List.cons_prefix_cons.mp hpre).1,
        ih hfront.2]

/-- A needle without the character that follows a text is in the text or not there. -/
theorem prefix_of_append_cons {x : Char} (hx : x ∉ needle) (h : needle <+: s ++ x :: t) :
    needle <+: s := by
  have hs : s <+: s ++ x :: t := List.prefix_append _ _
  rcases Nat.le_total needle.length s.length with hle | hle
  · exact List.prefix_of_prefix_length_le h hs hle
  · obtain ⟨z, rfl⟩ := List.prefix_of_prefix_length_le hs h hle
    cases z with
    | nil =>
        rw [List.append_nil]
    | cons c z =>
        obtain ⟨rfl, -⟩ := List.cons_prefix_cons.mp ((List.prefix_append_right_inj s).mp h)
        exact absurd (by simp) hx

end Finding

end CStrings

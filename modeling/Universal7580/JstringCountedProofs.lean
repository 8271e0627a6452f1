import Universal7580.JstringProofs

/-! # The counted conversions of the libcutils shim

    `strcpylen8to16` shares its decoder with `strcpy8to16`, and the decoder knows
    about terminators and nothing about an end.  Two things follow.  The decoder
    stays in front of a zero, so the loop stays there too.  And a sequence that
    the end cuts off is read beyond the end.

    Both come from one fact, `getUtf32FromUtf8_stop`: a byte that is no
    continuation byte is never passed.  So a zero, or the lead byte of the cut
    sequence, is reached whatever stands before it, and `copyLen_trapped` says
    what happens there.

    In the other direction `strnlen16to8` counts for a buffer of `SIZE_MAX`
    bytes at most.  `paranoidLen_eq` follows the sum to its first wrap. -/

namespace JstringCounted

open Utf8Seq Jstring

-- ── strcpylen8to16 ───────────────────────────────────────────────────────────

/-- The bytes that the loop of `getUtf32FromUtf8` looks at. -/
def continuationReads : Nat → List UInt8 → Nat
  | 0, _ => 0
  | _ + 1, [] => 1
  | n + 1, b :: s =>
      if b = 0 then 1 else if b &&& 0xc0 ≠ 0x80 then 1 else 1 + continuationReads n s

/-- The bytes that `getUtf32FromUtf8` looks at, from the pointer on. -/
def bytesRead : List UInt8 → Nat
  | [] => 1
  | b :: s =>
      if b &&& 0xc0 = 0x80 then 1
      else if b = 0 then 1 else 1 + continuationReads (UTF8_SEQ_LENGTH b - 1) s

/-- The variables of `strcpylen8to16`: how far `utf8Str` has moved, and the units
    written to `dest`.  `reach` is one past the furthest byte that was read. -/
structure Copy where
  utf8Str : Nat
  dest : List UInt16
  reach : Nat
  deriving DecidableEq, Repr

def Copy.out_len (c : Copy) : Nat := c.dest.length

/-- One turn of the loop.  `none` is a read beyond the buffer. -/
def turn (buf : List UInt8) (c : Copy) : Option Copy :=
  (getUtf32FromUtf8 (buf.drop c.utf8Str)).map fun (ret, rest) =>
    { utf8Str := buf.length - rest.length
      dest := c.dest ++ utf16Units ret
      reach := max c.reach (c.utf8Str + bytesRead (buf.drop c.utf8Str)) }

/-- The loop, for a number of turns.  `none` is also a loop that has not ended. -/
def copyLen (buf : List UInt8) (end_ : Nat) : Nat → Copy → Option Copy
  | 0, c => if c.utf8Str < end_ then none else some c
  | fuel + 1, c =>
      if c.utf8Str < end_ then (turn buf c).bind (copyLen buf end_ fuel) else some c

def strcpylen8to16 (fuel : Nat) (buf : List UInt8) (length : Nat) : Option Copy :=
  copyLen buf length fuel { utf8Str := 0, dest := [], reach := 0 }

/-- What a counted copy is to do: end, read the counted bytes only, and write what
    `strcpy8to16` writes for them. -/
def Counted (buf : List UInt8) (length : Nat) : Prop :=
  ∃ fuel c, strcpylen8to16 fuel buf length = some c ∧ c.reach ≤ length
    ∧ (0 ∉ buf.take length → strcpy8to16 (buf.take length ++ [0]) = some (c.dest, c.out_len))

/-- The bytes end inside a sequence. -/
def CutOff (s : List UInt8) : Prop :=
  ∃ pre b conts, s = pre ++ b :: conts ∧ b &&& 0xc0 ≠ 0x80
    ∧ (∀ x ∈ conts, x &&& 0xc0 = 0x80) ∧ conts.length + 1 < UTF8_SEQ_LENGTH b

theorem copyLen_stop {buf : List UInt8} {end_ : Nat} {c : Copy} (h : end_ ≤ c.utf8Str)
    (fuel : Nat) : copyLen buf end_ fuel c = some c := by
  cases fuel with
  | zero => exact if_neg (Nat.not_lt.mpr h)
  | succ fuel => exact if_neg (Nat.not_lt.mpr h)

theorem copyLen_turn {buf : List UInt8} {end_ : Nat} {c c' : Copy} (h : c.utf8Str < end_)
    (hturn : turn buf c = some c') (fuel : Nat) :
    copyLen buf end_ (fuel + 1) c = copyLen buf end_ fuel c' := by
  rw [copyLen, if_pos h, hturn]
  rfl

-- ── A byte that is no continuation byte ──────────────────────────────────────

theorem zero_not_cont : (0 : UInt8) &&& 0xc0 ≠ 0x80 := by decide

theorem cont_ne_zero {b : UInt8} (h : b &&& 0xc0 = 0x80) : b ≠ 0 := by
  rintro rfl
  exact zero_not_cont h

theorem continuation_stop {b : UInt8} (hb : b &&& 0xc0 ≠ 0x80) (t : List UInt8) :
    ∀ (n : Nat) (ret : UInt32) (pre : List UInt8),
      ∃ v rest, continuation n ret (pre ++ b :: t) = some (v, rest ++ b :: t) ∧ rest <:+ pre := by
  intro n
  induction n with
  | zero => exact fun ret pre => ⟨ret, pre, rfl, List.suffix_refl pre⟩
  | succ n ih =>
      intro ret pre
      cases pre with
      | nil =>
          refine ⟨UTF16_REPLACEMENT_CHAR, [], ?_, List.suffix_refl []⟩
          rw [List.nil_append, continuation, if_pos hb, ite_self]
      | cons x pre =>
          by_cases hx : x &&& 0xc0 = 0x80
          · obtain ⟨v, rest, hread, hsuffix⟩ := ih (UTF8_SHIFT_AND_MASK ret x) pre
            refine ⟨v, rest, ?_, hsuffix.trans (List.suffix_cons x pre)⟩
            rw [List.cons_append, continuation, if_neg (cont_ne_zero hx),
              if_neg (not_not_intro hx)]
            exact hread
          · refine ⟨UTF16_REPLACEMENT_CHAR, x :: pre, ?_, List.suffix_refl _⟩
            rw [List.cons_append, continuation, if_pos hx, ite_self]

/-- **NO PASSING**: the pointer comes to such a byte before it moves past it. -/
theorem getUtf32FromUtf8_stop {b : UInt8} (hb : b &&& 0xc0 ≠ 0x80) (t : List UInt8)
    {pre : List UInt8} (hne : pre ≠ []) :
    ∃ v rest, getUtf32FromUtf8 (pre ++ b :: t) = some (v, rest ++ b :: t) ∧ rest <:+ pre := by
  cases pre with
  | nil => exact absurd rfl hne
  | cons x pre =>
      by_cases hx : x &&& 0xc0 = 0x80
      · refine ⟨UTF16_REPLACEMENT_CHAR, pre, ?_, List.suffix_cons x pre⟩
        rw [List.cons_append, getUtf32FromUtf8, if_pos hx]
      · by_cases hzero : x = 0
        · refine ⟨x.toUInt32 &&& leaderMask (UTF8_SEQ_LENGTH x), x :: pre, ?_, List.suffix_refl _⟩
          rw [List.cons_append, getUtf32FromUtf8, if_neg hx]
          exact if_pos hzero
        · obtain ⟨v, rest, hread, hsuffix⟩ := continuation_stop hb t (UTF8_SEQ_LENGTH x - 1)
            (x.toUInt32 &&& leaderMask (UTF8_SEQ_LENGTH x)) pre
          exact ⟨v, rest, (getUtf32FromUtf8_lead hzero hx _).trans hread,
            hsuffix.trans (List.suffix_cons x pre)⟩

theorem turn_stop {b : UInt8} (hb : b &&& 0xc0 ≠ 0x80) {pre t : List UInt8} {c : Copy}
    (h : c.utf8Str < pre.length) :
    ∃ c', turn (pre ++ b :: t) c = some c' ∧ c'.utf8Str ≤ pre.length := by
  have hdrop : (pre ++ b :: t).drop c.utf8Str = pre.drop c.utf8Str ++ b :: t :=
    List.drop_append_of_le_length (Nat.le_of_lt h)
  have hne : pre.drop c.utf8Str ≠ [] := by
    rw [Ne, List.drop_eq_nil_iff]
    exact Nat.not_le.mpr h
  obtain ⟨v, rest, hread, -⟩ := getUtf32FromUtf8_stop hb t hne
  refine ⟨_, by rw [turn, hdrop, hread]; rfl, ?_⟩
  show (pre ++ b :: t).length - (rest ++ b :: t).length ≤ pre.length
  rw [List.length_append, List.length_append]
  omega

theorem turn_reach {buf : List UInt8} {c c' : Copy} (h : turn buf c = some c') :
    c'.reach = max c.reach (c.utf8Str + bytesRead (buf.drop c.utf8Str)) := by
  obtain ⟨⟨ret, rest⟩, -, rfl⟩ := Option.map_eq_some_iff.mp h
  rfl

theorem copyLen_reach {buf : List UInt8} {end_ : Nat} : ∀ (fuel : Nat) {c c' : Copy},
    copyLen buf end_ fuel c = some c' → c.reach ≤ c'.reach := by
  intro fuel
  induction fuel with
  | zero =>
      intro c c' h
      rw [copyLen] at h
      split at h
      · cases h
      · obtain rfl := Option.some.inj h
        exact Nat.le_refl _
  | succ fuel ih =>
      intro c c' h
      rw [copyLen] at h
      split at h
      · obtain ⟨next, hturn, hrest⟩ := Option.bind_eq_some_iff.mp h
        exact Nat.le_trans (turn_reach hturn ▸ Nat.le_max_left ..) (ih hrest)
      · obtain rfl := Option.some.inj h
        exact Nat.le_refl _

/-- Where the loop cannot get past a byte and stay within the end. -/
def Trap (end_ : Nat) (buf : List UInt8) (at_ : Nat) : Prop :=
  ∀ c : Copy, c.utf8Str = at_ → ∀ c', turn buf c = some c' → c'.utf8Str = at_ ∨ end_ < c'.reach

/-- **TRAPPED**: from in front of a trap the loop does not end within the end. -/
theorem copyLen_trapped {b : UInt8} (hb : b &&& 0xc0 ≠ 0x80) {pre t : List UInt8} {end_ : Nat}
    (hend : pre.length < end_) (htrap : Trap end_ (pre ++ b :: t) pre.length) :
    ∀ (fuel : Nat) {c c' : Copy}, c.utf8Str ≤ pre.length →
      copyLen (pre ++ b :: t) end_ fuel c = some c' → end_ < c'.reach := by
  intro fuel
  induction fuel with
  | zero =>
      intro c c' hle h
      rw [copyLen, if_pos (Nat.lt_of_le_of_lt hle hend)] at h
      cases h
  | succ fuel ih =>
      intro c c' hle h
      rw [copyLen, if_pos (Nat.lt_of_le_of_lt hle hend)] at h
      obtain ⟨next, hturn, hrest⟩ := Option.bind_eq_some_iff.mp h
      rcases Nat.lt_or_eq_of_le hle with hlt | heq
      · obtain ⟨next', hturn', hnext⟩ := turn_stop (t := t) hb hlt
        obtain rfl := Option.some.inj (hturn.symm.trans hturn')
        exact ih hnext hrest
      · rcases htrap c heq next hturn with hstay | hbeyond
        · exact ih (Nat.le_of_eq hstay) hrest
        · exact Nat.lt_of_lt_of_le hbeyond (copyLen_reach fuel hrest)

theorem trap_zero (end_ : Nat) (pre t : List UInt8) : Trap end_ (pre ++ 0 :: t) pre.length := by
  intro c hat c' hturn
  have hdrop : (pre ++ 0 :: t).drop c.utf8Str = 0 :: t := hat ▸ List.drop_left
  rw [turn, hdrop] at hturn
  obtain rfl := Option.some.inj hturn
  left
  show (pre ++ 0 :: t).length - (0 :: t).length = pre.length
  rw [List.length_append, Nat.add_sub_cancel]

/-- The sequence is looked at until it is complete. -/
theorem continuationReads_cut : ∀ {n : Nat} {conts : List UInt8} (tail : List UInt8),
    (∀ x ∈ conts, x &&& 0xc0 = 0x80) → conts.length < n →
    conts.length + 1 ≤ continuationReads n (conts ++ tail) := by
  intro n
  induction n with
  | zero => exact fun _ _ h => absurd h (Nat.not_lt_zero _)
  | succ n ih =>
      intro conts tail hconts hlen
      cases conts with
      | nil =>
          cases tail with
          | nil => exact Nat.le_refl 1
          | cons x tail =>
              rw [List.nil_append, continuationReads]
              split
              · exact Nat.le_refl 1
              · split
                · exact Nat.le_refl 1
                · exact Nat.le_add_right 1 _
      | cons x conts =>
          have hx := hconts x List.mem_cons_self
          have hrest := ih tail (fun y hy => hconts y (List.mem_cons_of_mem x hy))
            (Nat.lt_of_succ_lt_succ hlen)
          rw [List.cons_append, continuationReads, if_neg (cont_ne_zero hx),
            if_neg (not_not_intro hx), List.length_cons]
          omega

theorem trap_cut {b : UInt8} {conts : List UInt8} (pre tail : List UInt8)
    (hb : b &&& 0xc0 ≠ 0x80) (hconts : ∀ x ∈ conts, x &&& 0xc0 = 0x80)
    (hcut : conts.length + 1 < UTF8_SEQ_LENGTH b) :
    Trap (pre ++ b :: conts).length (pre ++ b :: (conts ++ tail)) pre.length := by
  intro c hat c' hturn
  have hzero : b ≠ 0 := by
    rintro rfl
    exact absurd hcut (Nat.not_lt.mpr (Nat.succ_le_succ (Nat.zero_le _)))
  have hdrop : (pre ++ b :: (conts ++ tail)).drop c.utf8Str = b :: (conts ++ tail) :=
    hat ▸ List.drop_left
  have hread := continuationReads_cut tail hconts (Nat.lt_sub_of_add_lt hcut)
  right
  rw [turn_reach hturn, hdrop, bytesRead, if_neg hb, if_neg hzero, hat, List.length_append,
    List.length_cons]
  exact Nat.lt_of_lt_of_le (by omega) (Nat.le_max_right ..)

-- ── Bytes that the end does not cut ──────────────────────────────────────────

theorem CutOff.of_suffix {s t : List UInt8} (hsuffix : t <:+ s) (h : CutOff t) : CutOff s := by
  obtain ⟨front, rfl⟩ := hsuffix
  obtain ⟨pre, b, conts, rfl, hrest⟩ := h
  exact ⟨front ++ pre, b, conts, (List.append_assoc ..).symm, hrest⟩

/-- A sequence that is complete, or that another one breaks off. -/
theorem continuation_enough : ∀ (n : Nat) (ret : UInt32) {t : List UInt8}, 0 ∉ t →
    (n ≤ t.length ∨ ∃ x ∈ t, x &&& 0xc0 ≠ 0x80) →
    ∃ v rest, rest <:+ t ∧ ∀ tail, continuation n ret (t ++ tail) = some (v, rest ++ tail)
      ∧ continuationReads n (t ++ tail) ≤ t.length := by
  intro n
  induction n with
  | zero =>
      exact fun ret t _ _ => ⟨ret, t, List.suffix_refl t, fun tail => ⟨rfl, Nat.zero_le _⟩⟩
  | succ n ih =>
      intro ret t hzero henough
      cases t with
      | nil =>
          rcases henough with hlen | ⟨x, hx, -⟩
          · exact absurd hlen (Nat.not_succ_le_zero n)
          · exact absurd hx List.not_mem_nil
      | cons b t =>
          have hb : b ≠ 0 := fun heq => hzero (heq ▸ List.mem_cons_self)
          by_cases hmark : b &&& 0xc0 = 0x80
          · have henough' : n ≤ t.length ∨ ∃ x ∈ t, x &&& 0xc0 ≠ 0x80 := by
              rcases henough with hlen | ⟨x, hx, hlead⟩
              · exact Or.inl (Nat.le_of_succ_le_succ hlen)
              · rcases List.mem_cons.mp hx with rfl | hx
                · exact absurd hmark hlead
                · exact Or.inr ⟨x, hx, hlead⟩
            obtain ⟨v, rest, hsuffix, hread⟩ := ih (UTF8_SHIFT_AND_MASK ret b)
              (fun h => hzero (List.mem_cons_of_mem b h)) henough'
            refine ⟨v, rest, hsuffix.trans (List.suffix_cons b t), fun tail => ?_⟩
            obtain ⟨hvalue, hreads⟩ := hread tail
            rw [List.cons_append, continuation, if_neg hb, if_neg (not_not_intro hmark),
              continuationReads, if_neg hb, if_neg (not_not_intro hmark), List.length_cons]
            exact ⟨hvalue, by omega⟩
          · refine ⟨UTF16_REPLACEMENT_CHAR, b :: t, List.suffix_refl _, fun tail => ?_⟩
            rw [List.cons_append, continuation, if_neg hb, if_pos hmark, continuationReads,
              if_neg hb, if_pos hmark]
            exact ⟨rfl, Nat.succ_le_succ (Nat.zero_le _)⟩

/-- **WITHIN**: the value, and the place of the pointer, do not depend on what
    stands behind the end, and it is not looked at. -/
theorem getUtf32FromUtf8_enough {b : UInt8} {t : List UInt8} (hzero : 0 ∉ b :: t)
    (hcut : ¬CutOff (b :: t)) :
    ∃ v rest, rest <:+ t ∧ ∀ tail, getUtf32FromUtf8 (b :: t ++ tail) = some (v, rest ++ tail)
      ∧ bytesRead (b :: t ++ tail) ≤ (b :: t).length := by
  have hb : b ≠ 0 := fun heq => hzero (heq ▸ List.mem_cons_self)
  by_cases hmark : b &&& 0xc0 = 0x80
  · refine ⟨UTF16_REPLACEMENT_CHAR, t, List.suffix_refl t, fun tail => ?_⟩
    rw [List.cons_append, getUtf32FromUtf8, if_pos hmark, bytesRead, if_pos hmark]
    exact ⟨rfl, Nat.succ_le_succ (Nat.zero_le _)⟩
  · have henough : UTF8_SEQ_LENGTH b - 1 ≤ t.length ∨ ∃ x ∈ t, x &&& 0xc0 ≠ 0x80 := by
      by_contra hnot
      obtain ⟨hlen, hconts⟩ := not_or.mp hnot
      refine hcut ⟨[], b, t, rfl, hmark, fun x hx => ?_, by omega⟩
      by_contra hlead
      exact hconts ⟨x, hx, hlead⟩
    obtain ⟨v, rest, hsuffix, hread⟩ := continuation_enough (UTF8_SEQ_LENGTH b - 1)
      (b.toUInt32 &&& leaderMask (UTF8_SEQ_LENGTH b))
      (fun h => hzero (List.mem_cons_of_mem b h)) henough
    refine ⟨v, rest, hsuffix, fun tail => ?_⟩
    obtain ⟨hvalue, hreads⟩ := hread tail
    rw [List.cons_append, getUtf32FromUtf8_lead hb hmark, bytesRead, if_neg hmark, if_neg hb,
      List.length_cons]
    exact ⟨hvalue, by omega⟩

theorem turn_enough {b : UInt8} {t : List UInt8} (hzero : 0 ∉ b :: t) (hcut : ¬CutOff (b :: t))
    (pre tail : List UInt8) {c : Copy} (hat : c.utf8Str = pre.length) :
    ∃ v skipped rest c', b :: t = skipped ++ rest ∧ rest.length ≤ t.length
      ∧ copyUnits (b :: t ++ [0]) = (copyUnits (rest ++ [0])).map (utf16Units v ++ ·)
      ∧ turn (pre ++ (b :: t) ++ tail) c = some c' ∧ c'.utf8Str = (pre ++ skipped).length
      ∧ c'.dest = c.dest ++ utf16Units v
      ∧ c'.reach ≤ max c.reach (pre ++ (b :: t)).length := by
  have hb : b ≠ 0 := fun heq => hzero (heq ▸ List.mem_cons_self)
  obtain ⟨v, rest, hsuffix, hread⟩ := getUtf32FromUtf8_enough hzero hcut
  obtain ⟨skipped, hskipped⟩ := hsuffix.trans (List.suffix_cons b t)
  obtain ⟨hvalue, hreads⟩ := hread tail
  have hdrop : (pre ++ (b :: t) ++ tail).drop c.utf8Str = b :: t ++ tail := by
    rw [hat, List.append_assoc, List.drop_left]
  refine ⟨v, skipped, rest, _, hskipped.symm, hsuffix.length_le, copyUnits_cons hb (hread [0]).1,
    by rw [turn, hdrop, hvalue]; rfl, ?_, rfl, ?_⟩
  · show (pre ++ (b :: t) ++ tail).length - (rest ++ tail).length = (pre ++ skipped).length
    have hwhole : pre ++ (b :: t) ++ tail = pre ++ skipped ++ (rest ++ tail) := by
      rw [← hskipped, List.append_assoc, List.append_assoc, List.append_assoc]
    rw [hwhole, List.length_append, Nat.add_sub_cancel]
  · show max c.reach (c.utf8Str + bytesRead (b :: t ++ tail)) ≤ _
    rw [hat, List.length_append]
    have hle := Nat.add_le_add_left hreads pre.length
    exact Nat.max_le.mpr ⟨Nat.le_max_left .., Nat.le_trans hle (Nat.le_max_right ..)⟩

/-- **ENOUGH**: the loop ends at the end, and has written the units. -/
theorem copyLen_enough : ∀ (m : Nat) {s : List UInt8}, s.length ≤ m → 0 ∉ s → ¬CutOff s →
    ∀ (pre tail : List UInt8) {c : Copy}, c.utf8Str = pre.length →
      c.reach ≤ (pre ++ s).length → ∃ units c',
        copyLen (pre ++ s ++ tail) (pre ++ s).length m c = some c'
          ∧ c'.reach ≤ (pre ++ s).length ∧ copyUnits (s ++ [0]) = some units
          ∧ c'.dest = c.dest ++ units := by
  intro m
  induction m with
  | zero =>
      intro s hm _ _ pre tail c hat hreach
      obtain rfl := List.length_eq_zero_iff.mp (Nat.le_zero.mp hm)
      have hend : (pre ++ []).length ≤ c.utf8Str := Nat.le_of_eq (by rw [List.append_nil, hat])
      exact ⟨[], c, copyLen_stop hend 0, hreach, copyUnits_terminator, (List.append_nil _).symm⟩
  | succ m ih =>
      intro s hm hzero hcut pre tail c hat hreach
      cases s with
      | nil =>
          have hend : (pre ++ []).length ≤ c.utf8Str := Nat.le_of_eq (by rw [List.append_nil, hat])
          exact ⟨[], c, copyLen_stop hend _, hreach, copyUnits_terminator,
            (List.append_nil _).symm⟩
      | cons b t =>
          obtain ⟨v, skipped, rest, next, hsplit, hlen, hunits, hturn, hat', hdest, hreach'⟩ :=
            turn_enough hzero hcut pre tail hat
          have hsuffix : rest <:+ b :: t := ⟨skipped, hsplit.symm⟩
          have hwhole : pre ++ (b :: t) = pre ++ skipped ++ rest := by
            rw [hsplit, List.append_assoc]
          rw [Nat.max_eq_right hreach, hwhole] at hreach'
          obtain ⟨units, c', hcopy, hwithin, hrest, hall⟩ :=
            ih (Nat.le_trans hlen (Nat.le_of_succ_le_succ hm))
              (fun h => hzero (hsuffix.subset h)) (fun h => hcut (h.of_suffix hsuffix))
              (pre ++ skipped) tail hat' hreach'
          rw [← hwhole] at hcopy hwithin
          have hlt : c.utf8Str < (pre ++ (b :: t)).length := by
            rw [hat, List.length_append, List.length_cons]
            omega
          refine ⟨utf16Units v ++ units, c', (copyLen_turn hlt hturn m).trans hcopy, hwithin,
            ?_, ?_⟩
          · rw [hunits, hrest]
            rfl
          · rw [hall, hdest, List.append_assoc]

-- ── Exactly when ─────────────────────────────────────────────────────────────

theorem not_counted_of_trap {b : UInt8} (hb : b &&& 0xc0 ≠ 0x80) {pre t : List UInt8}
    {length : Nat} (hlength : pre.length < length)
    (htrap : Trap length (pre ++ b :: t) pre.length) : ¬Counted (pre ++ b :: t) length := by
  rintro ⟨fuel, c, hcopy, hreach, -⟩
  have hbeyond := copyLen_trapped hb hlength htrap fuel (Nat.zero_le _) hcopy
  exact Nat.not_lt.mpr hreach hbeyond

theorem not_counted_of_zero {buf : List UInt8} {length : Nat} (h : 0 ∈ buf.take length) :
    ¬Counted buf length := by
  obtain ⟨pre, t, hsplit⟩ := List.append_of_mem h
  have hlength : pre.length < length := by
    have hle : (buf.take length).length ≤ length := List.length_take_le length buf
    rw [hsplit, List.length_append, List.length_cons] at hle
    omega
  have hbuf : buf = pre ++ 0 :: (t ++ buf.drop length) := by
    rw [← List.cons_append, ← List.append_assoc, ← hsplit, List.take_append_drop]
  rw [hbuf]
  exact not_counted_of_trap zero_not_cont hlength (trap_zero length pre _)

theorem not_counted_of_cut {buf : List UInt8} {length : Nat} (hle : length ≤ buf.length)
    (h : CutOff (buf.take length)) : ¬Counted buf length := by
  obtain ⟨pre, b, conts, hsplit, hb, hconts, hcut⟩ := h
  have hlength : (pre ++ b :: conts).length = length := by
    rw [← hsplit, List.length_take_of_le hle]
  have hlt : pre.length < length := by
    rw [← hlength, List.length_append, List.length_cons]
    omega
  have hbuf : buf = pre ++ b :: (conts ++ buf.drop length) := by
    rw [← List.cons_append, ← List.append_assoc, ← hsplit, List.take_append_drop]
  have htrap := trap_cut pre (buf.drop length) hb hconts hcut
  rw [hlength] at htrap
  rw [hbuf]
  exact not_counted_of_trap hb hlt htrap

theorem counted_of_enough {buf : List UInt8} {length : Nat} (hle : length ≤ buf.length)
    (hzero : 0 ∉ buf.take length) (hcut : ¬CutOff (buf.take length)) : Counted buf length := by
  obtain ⟨units, c, hcopy, hreach, hunits, hdest⟩ :=
    copyLen_enough length (List.length_take_le length buf) hzero hcut [] (buf.drop length)
      (c := { utf8Str := 0, dest := [], reach := 0 }) rfl (Nat.zero_le _)
  rw [List.nil_append, List.take_append_drop, List.length_take_of_le hle] at hcopy
  rw [List.nil_append, List.length_take_of_le hle] at hreach
  refine ⟨length, c, hcopy, hreach, fun _ => ?_⟩
  rw [strcpy8to16, hunits, Copy.out_len, hdest]
  rfl

/-- **COUNTED INPUT**: `strcpylen8to16` ends, stays within the counted bytes and
    writes the units of `strcpy8to16` exactly if there is no zero among them and
    the last sequence is complete. -/
theorem strcpylen8to16_counted (buf : List UInt8) (length : Nat) (hle : length ≤ buf.length) :
    Counted buf length ↔ 0 ∉ buf.take length ∧ ¬CutOff (buf.take length) :=
  ⟨fun h => ⟨fun hzero => not_counted_of_zero hzero h, fun hcut => not_counted_of_cut hle hcut h⟩,
    fun ⟨hzero, hcut⟩ => counted_of_enough hle hzero hcut⟩

/-- Two of three letters are counted. -/
theorem strcpylen8to16_counted_ascii : Counted [0x61, 0x62, 0x63] 2 := by
  refine (strcpylen8to16_counted [0x61, 0x62, 0x63] 2 (by decide)).mpr ⟨by decide, ?_⟩
  rintro ⟨pre, b, conts, hsplit, -, -, hcut⟩
  have hb : b ∈ [0x61, 0x62] := by
    have hmem : b ∈ pre ++ b :: conts := List.mem_append_right pre List.mem_cons_self
    rwa [← hsplit] at hmem
  have hone : UTF8_SEQ_LENGTH b = 1 := by
    rcases List.mem_pair.mp hb with rfl | rfl
    · rfl
    · rfl
  rw [hone] at hcut
  exact absurd hcut (Nat.not_lt.mpr (Nat.le_add_left 1 _))

/-- A zero is never left, and the second byte of an accented letter is read though
    only the first is counted. -/
theorem counted_fails : ¬Counted [0x61, 0x00, 0x62] 2 ∧ ¬Counted [0xc3, 0xa9] 1 :=
  ⟨not_counted_of_zero (by decide),
    not_counted_of_cut (by decide) ⟨[], 0xc3, [], rfl, by decide, List.forall_mem_nil _, by decide⟩⟩

-- ── strnlen16to8 ─────────────────────────────────────────────────────────────

/-- The fast path of `strnlen16to8` with the `size_t` that the code counts in. -/
def fastLen (sizeMax : Nat) (utf16Str : List UInt16) : Nat :=
  utf16Str.foldl (fun utf8Len uic => (utf8Len + unitLen uic.toUInt32) % (sizeMax + 1)) 0

/-- What `strndup16to8` leaves: the room that was allocated, and what was written. -/
structure Dup8 where
  room : Nat
  written : List UInt8
  deriving DecidableEq, Repr

/-- `strndup16to8`; `malloc` says for which sizes there is memory.  `none` is `NULL`. -/
def strndup16to8 (sizeMax : Nat) (malloc : Nat → Bool) : Option (List UInt16) → Option Dup8
  | none => none
  | some s =>
      let len := strnlen16to8 sizeMax s
      if len ≥ sizeMax - 1 then none
      else
        let size := (len + 1) % (sizeMax + 1)
        if malloc size then some { room := size, written := strncpy16to8 s } else none

/-- The bytes that `strncpy16to8` writes before its terminator. -/
def bodyLen (us : List UInt16) : Nat := (strncpy16to8 us).dropLast.length

theorem bodyLen_succ (us : List UInt16) : bodyLen us + 1 = (strncpy16to8 us).length := by
  obtain ⟨body, hbody, -⟩ := strncpy16to8_terminated us
  rw [bodyLen, hbody, List.dropLast_concat, List.length_append]
  rfl

theorem bodyLen_nil : bodyLen [] = 0 := rfl

theorem bodyLen_cons (uic : UInt16) (us : List UInt16) :
    bodyLen (uic :: us) = unitLen uic.toUInt32 + bodyLen us := by
  have hwhole := bodyLen_succ (uic :: us)
  rw [strncpy16to8_cons, ← unitBytes_eq, List.length_append, length_unitBytes,
    ← bodyLen_succ us] at hwhole
  omega

theorem unitLen_le (uic : UInt32) : unitLen uic ≤ 3 := by
  rw [unitLen]
  split
  · exact Nat.le_refl 3
  · split <;> decide

theorem bodyLen_le (us : List UInt16) : bodyLen us ≤ 3 * us.length := by
  induction us with
  | nil => exact Nat.le_refl 0
  | cons uic us ih =>
      have hunit := unitLen_le uic.toUInt32
      rw [bodyLen_cons, List.length_cons]
      omega

/-- **THE PARANOID PATH**: a sum that wraps is smaller than before, since no unit
    adds as much as a whole round. -/
theorem paranoidLen_eq {sizeMax : Nat} (hmax : 3 ≤ sizeMax) :
    ∀ (us : List UInt16) {utf8Len : Nat}, utf8Len ≤ sizeMax →
      paranoidLen sizeMax us utf8Len = min (utf8Len + bodyLen us) (sizeMax - 1) := by
  intro us
  induction us with
  | nil =>
      intro utf8Len hle
      rw [paranoidLen, bodyLen_nil, Nat.add_zero]
      split
      · omega
      · omega
  | cons uic us ih =>
      intro utf8Len hle
      have hunit := unitLen_le uic.toUInt32
      rw [paranoidLen, bodyLen_cons, ← Nat.add_assoc]
      rcases Nat.lt_or_ge sizeMax (utf8Len + unitLen uic.toUInt32) with hwrap | hfits
      · have hmod : (utf8Len + unitLen uic.toUInt32) % (sizeMax + 1)
            = utf8Len + unitLen uic.toUInt32 - (sizeMax + 1) := by
          rw [Nat.mod_eq_sub_mod hwrap]
          exact Nat.mod_eq_of_lt (by omega)
        rw [hmod, if_pos (by omega)]
        omega
      · rw [Nat.mod_eq_of_lt (Nat.lt_succ_of_le hfits), if_neg (by omega)]
        exact ih hfits

/-- **THE FAST PATH** has no sum that could wrap. -/
theorem foldl_fast {sizeMax : Nat} : ∀ (us : List UInt16) {utf8Len : Nat},
    utf8Len + bodyLen us ≤ sizeMax →
      us.foldl (fun utf8Len uic => (utf8Len + unitLen uic.toUInt32) % (sizeMax + 1)) utf8Len
        = utf8Len + bodyLen us := by
  intro us
  induction us with
  | nil => exact fun _ => rfl
  | cons uic us ih =>
      intro utf8Len hle
      rw [bodyLen_cons, ← Nat.add_assoc] at hle
      have hfits : utf8Len + unitLen uic.toUInt32 < sizeMax + 1 := by omega
      rw [List.foldl_cons, Nat.mod_eq_of_lt hfits, ih hle, bodyLen_cons, Nat.add_assoc]

theorem bodyLen_fast {sizeMax : Nat} {us : List UInt16} (h : us.length < (sizeMax - 1) / 3) :
    bodyLen us < sizeMax - 1 := by
  have hle := bodyLen_le us
  omega

theorem strnlen16to8_eq {sizeMax : Nat} (hmax : 3 ≤ sizeMax) (us : List UInt16) :
    strnlen16to8 sizeMax us = min (bodyLen us) (sizeMax - 1) := by
  by_cases hfast : us.length < (sizeMax - 1) / 3
  · have hsmall := bodyLen_fast hfast
    have hexact := strnlen16to8_exact hfast
    rw [← bodyLen_succ] at hexact
    omega
  · rw [strnlen16to8, if_neg hfast, paranoidLen_eq hmax us (Nat.zero_le _), Nat.zero_add]

theorem strndup16to8_room {sizeMax : Nat} (hmax : 3 ≤ sizeMax) (malloc : Nat → Bool)
    {us : List UInt16} {dup : Dup8} (h : strndup16to8 sizeMax malloc (some us) = some dup) :
    dup.written = strncpy16to8 us ∧ dup.room = dup.written.length := by
  have hlen := strnlen16to8_eq hmax us
  rw [strndup16to8] at h
  dsimp only at h
  split at h
  · cases h
  · split at h
    · obtain rfl := Option.some.inj h
      refine ⟨rfl, ?_⟩
      show (strnlen16to8 sizeMax us + 1) % (sizeMax + 1) = (strncpy16to8 us).length
      rw [← bodyLen_succ, Nat.mod_eq_of_lt (by omega)]
      omega
    · cases h

/-- **LENGTHS**: for any word size, `strnlen16to8` is the number of bytes before the
    terminator, or `SIZE_MAX - 1` if there are more, by both of its paths; and what
    `strndup16to8` allocates is what it writes. -/
theorem strnlen16to8_min {w : Nat} (hw : 16 ≤ w) (us : List UInt16) :
    strnlen16to8 (2 ^ w - 1) us = min (bodyLen us) (2 ^ w - 1 - 1)
      ∧ paranoidLen (2 ^ w - 1) us 0 = min (bodyLen us) (2 ^ w - 1 - 1)
      ∧ (us.length < (2 ^ w - 1 - 1) / 3 → fastLen (2 ^ w - 1) us = strnlen16to8 (2 ^ w - 1) us)
      ∧ ∀ malloc dup, strndup16to8 (2 ^ w - 1) malloc (some us) = some dup →
          dup.written = strncpy16to8 us ∧ dup.room = dup.written.length := by
  have hpow : 2 ^ 16 ≤ 2 ^ w := Nat.pow_le_pow_right (by decide) hw
  have hmax : 3 ≤ 2 ^ w - 1 := by omega
  have heq := strnlen16to8_eq hmax us
  refine ⟨heq, ?_, fun hfast => ?_, fun malloc dup => strndup16to8_room hmax malloc⟩
  · rw [paranoidLen_eq hmax us (Nat.zero_le _), Nat.zero_add]
  · have hsmall := bodyLen_fast hfast
    rw [fastLen, foldl_fast us (by omega), Nat.zero_add, heq]
    omega

theorem strnlen16to8_min_word :
    strnlen16to8 (2 ^ 16 - 1) [0x41, 0, 0x20ac]
      = min (bodyLen [0x41, 0, 0x20ac]) (2 ^ 16 - 1 - 1) :=
  (strnlen16to8_min (Nat.le_refl 16) [0x41, 0, 0x20ac]).1

end JstringCounted

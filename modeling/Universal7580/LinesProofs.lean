import Mathlib.Data.List.Basic
import Mathlib.Data.List.Infix

/-! # Lines, and `fgets`

    A line reaches up to its newline, and the last one may have none, so that the
    lines of a text make up the text (`flatten_lines`).

    `fgets` reads a line, but no more of it than the buffer holds, and the next
    call goes on where it stopped.  So reading a whole text gives the pieces of
    its lines: `readUntil_iff` says what a loop over them finds, whatever it looks
    for. -/

namespace Lines

/-- The lines of a text, with their newlines. -/
def lines : List Char → List (List Char)
  | [] => []
  | c :: s =>
      if c = '\n' then [c] :: lines s
      else
        match lines s with
        | [] => [[c]]
        | line :: rest => (c :: line) :: rest

/-- A line, and no more than `n` characters. -/
def upToNewline : Nat → List Char → List Char
  | 0, _ => []
  | _ + 1, [] => []
  | n + 1, c :: s => if c = '\n' then [c] else c :: upToNewline n s

/-- `fgets` into a buffer of `size`: what was read and what is left, or `NULL` at the
    end of the file. -/
def fgets (size : Nat) (file : List Char) : Option (List Char × List Char) :=
  if file = [] then none
  else
    let line := upToNewline (size - 1) file
    some (line, file.drop line.length)

/-- The `k`-th piece of a line in pieces of `n` characters. -/
def piece (n : Nat) (line : List Char) (k : Nat) : List Char := (line.drop (n * k)).take n

variable {s line : List Char} {rest : List (List Char)} {n : Nat}

-- ── Lines ────────────────────────────────────────────────────────────────────

theorem lines_newline (s : List Char) : lines ('\n' :: s) = ['\n'] :: lines s := if_pos rfl

/-- A character that is no newline belongs to the line behind it. -/
theorem lines_cons {c : Char} (hc : c ≠ '\n') (h : lines s = line :: rest) :
    lines (c :: s) = (c :: line) :: rest := by
  rw [lines, if_neg hc, h]

theorem lines_eq_nil : lines s = [] ↔ s = [] := by
  cases s with
  | nil => exact iff_of_true rfl rfl
  | cons c s =>
      refine iff_of_false ?_ (List.cons_ne_nil c s)
      rw [lines]
      split
      · exact List.cons_ne_nil _ _
      · split
        · exact List.cons_ne_nil _ _
        · exact List.cons_ne_nil _ _

/-- The first line starts with the first character, and ends there or goes on with
    the first line behind it. -/
theorem lines_cases {c : Char} (h : lines (c :: s) = line :: rest) :
    (c = '\n' ∧ line = [c] ∧ rest = lines s)
      ∨ (c ≠ '\n' ∧ s = [] ∧ line = [c] ∧ rest = [])
      ∨ (c ≠ '\n' ∧ ∃ tail, lines s = tail :: rest ∧ line = c :: tail) := by
  rw [lines] at h
  split at h
  · rename_i hc
    obtain ⟨rfl, rfl⟩ := List.cons.inj h
    exact Or.inl ⟨hc, rfl, rfl⟩
  · rename_i hc
    split at h
    · rename_i hs
      obtain ⟨rfl, rfl⟩ := List.cons.inj h
      exact Or.inr (Or.inl ⟨hc, lines_eq_nil.mp hs, rfl, rfl⟩)
    · rename_i tail rest' hs
      obtain ⟨rfl, rfl⟩ := List.cons.inj h
      exact Or.inr (Or.inr ⟨hc, tail, hs, rfl⟩)

/-- **THE TEXT** is its lines. -/
theorem flatten_lines : ∀ s : List Char, (lines s).flatten = s := by
  intro s
  induction s with
  | nil => rfl
  | cons c s ih =>
      rw [lines]
      split
      · rw [List.flatten_cons, ih]
        rfl
      · cases h : lines s with
        | nil =>
            obtain rfl := lines_eq_nil.mp h
            rfl
        | cons line rest =>
            rw [h, List.flatten_cons] at ih
            rw [List.flatten_cons, List.cons_append, ih]

/-- A line with its newline comes first, the lines of the rest behind it. -/
theorem lines_append {front : List Char} (hfront : '\n' ∉ front) (s : List Char) :
    lines (front ++ '\n' :: s) = (front ++ ['\n']) :: lines s := by
  induction front with
  | nil => exact lines_newline s
  | cons c front ih =>
      have hc : c ≠ '\n' := fun h => hfront (h ▸ List.mem_cons_self)
      exact lines_cons hc (ih fun h => hfront (List.mem_cons_of_mem c h))

/-- What starts a text and has no newline starts its first line. -/
theorem lines_front {front : List Char} (hne : front ≠ []) (hfront : '\n' ∉ front) :
    ∃ tail rest, lines (front ++ s) = (front ++ tail) :: rest ∧ tail <+: s := by
  induction front with
  | nil => exact absurd rfl hne
  | cons c front ih =>
      rw [List.mem_cons, not_or] at hfront
      have hc : c ≠ '\n' := Ne.symm hfront.1
      cases front with
      | nil =>
          cases hs : lines s with
          | nil =>
              obtain rfl := lines_eq_nil.mp hs
              exact ⟨[], [], if_neg hc, List.prefix_refl _⟩
          | cons line rest =>
              refine ⟨line, rest, lines_cons hc hs, ?_⟩
              rw [← flatten_lines s, hs]
              exact List.prefix_append _ _
      | cons d front =>
          obtain ⟨tail, rest, hlines, htail⟩ := ih (List.cons_ne_nil d front) hfront.2
          exact ⟨tail, rest, lines_cons hc hlines, htail⟩

/-- A line is not empty. -/
theorem length_pos_of_mem : ∀ {s line : List Char}, line ∈ lines s → 0 < line.length := by
  intro s
  induction s with
  | nil => exact fun h => nomatch h
  | cons c s ih =>
      intro line h
      rw [lines] at h
      split at h
      · rcases List.mem_cons.mp h with rfl | h
        · exact Nat.one_pos
        · exact ih h
      · cases hs : lines s with
        | nil =>
            rw [hs] at h
            obtain rfl := List.mem_singleton.mp h
            exact Nat.one_pos
        | cons line' rest =>
            rw [hs] at h ih
            rcases List.mem_cons.mp h with rfl | h
            · exact Nat.succ_pos _
            · exact ih (List.mem_cons_of_mem _ h)

/-- **A PART** of the first line taken off. -/
theorem lines_drop : ∀ {n : Nat} {s line : List Char}, lines s = line :: rest → n < line.length →
    lines (s.drop n) = line.drop n :: rest := by
  intro n
  induction n with
  | zero => exact fun h _ => h
  | succ n ih =>
      intro s line h hlt
      cases s with
      | nil => cases h
      | cons c s =>
          rcases lines_cases h with ⟨-, rfl, -⟩ | ⟨-, -, rfl, -⟩ | ⟨-, tail, hs, rfl⟩
          · exact absurd hlt (by simp)
          · exact absurd hlt (by simp)
          · exact ih hs (Nat.lt_of_succ_lt_succ hlt)

/-- **ALL** of the first line taken off. -/
theorem lines_drop_line : ∀ {s line : List Char}, lines s = line :: rest →
    lines (s.drop line.length) = rest := by
  intro s
  induction s with
  | nil => exact fun h => nomatch h
  | cons c s ih =>
      intro line h
      rcases lines_cases h with ⟨-, rfl, rfl⟩ | ⟨-, rfl, rfl, rfl⟩ | ⟨-, tail, hs, rfl⟩
      · rfl
      · rfl
      · exact ih hs

-- ── `fgets` ──────────────────────────────────────────────────────────────────

/-- What is read is the first line, as far as there is room. -/
theorem upToNewline_eq : ∀ {n : Nat} {s line : List Char}, lines s = line :: rest →
    upToNewline n s = line.take n := by
  intro n
  induction n with
  | zero => intro s line _; rw [List.take_zero]; rfl
  | succ n ih =>
      intro s line h
      cases s with
      | nil => cases h
      | cons c s =>
          rw [upToNewline]
          rcases lines_cases h with ⟨hc, rfl, -⟩ | ⟨hc, rfl, rfl, -⟩ | ⟨hc, tail, hs, rfl⟩
          · rw [if_pos hc, List.take_succ_cons, List.take_nil]
          · rw [if_neg hc, List.take_succ_cons, List.take_nil]
            cases n <;> rfl
          · rw [if_neg hc, ih hs, List.take_succ_cons]

/-- Without a newline, as much as there is room for. -/
theorem upToNewline_of_not_mem : ∀ {n : Nat} {s : List Char}, '\n' ∉ s.take n →
    upToNewline n s = s.take n := by
  intro n
  induction n with
  | zero => intro s _; rfl
  | succ n ih =>
      intro s h
      cases s with
      | nil => rfl
      | cons c s =>
          rw [List.take_succ_cons] at h ⊢
          rw [List.mem_cons, not_or] at h
          rw [upToNewline, if_neg (Ne.symm h.1), ih h.2]

theorem upToNewline_prefix (n : Nat) (s : List Char) : upToNewline n s <+: s.take n := by
  induction n generalizing s with
  | zero => exact List.nil_prefix
  | succ n ih =>
      cases s with
      | nil => exact List.prefix_refl _
      | cons c s =>
          rw [upToNewline, List.take_succ_cons]
          split
          · exact ⟨s.take n, rfl⟩
          · exact List.cons_prefix_cons.mpr ⟨rfl, ih s⟩

-- ── Reading to the end ───────────────────────────────────────────────────────

/-- `while (fgets(..) != NULL)` with a test that ends it, for at most `fuel` turns. -/
def readUntil (size : Nat) (p : List Char → Bool) : Nat → List Char → Bool
  | 0, _ => false
  | fuel + 1, file =>
      match fgets size file with
      | none => false
      | some (line, file) => if p line = true then true else readUntil size p fuel file

/-- Some piece of some line passes. -/
def SomePiece (n : Nat) (p : List Char → Bool) (text : List (List Char)) : Prop :=
  ∃ line ∈ text, ∃ k, n * k < line.length ∧ p (piece n line k) = true

variable {p : List Char → Bool}

theorem piece_zero (n : Nat) (line : List Char) : piece n line 0 = line.take n := by
  rw [piece, Nat.mul_zero, List.drop_zero]

theorem piece_succ (n : Nat) (line : List Char) (k : Nat) :
    piece n line (k + 1) = piece n (line.drop n) k := by
  rw [piece, piece, List.drop_drop, Nat.mul_succ, Nat.add_comm]

/-- A line that fits is one piece. -/
theorem somePiece_short (hline : 0 < line.length) (hfits : line.length ≤ n) :
    SomePiece n p (line :: rest) ↔ p (line.take n) = true ∨ SomePiece n p rest := by
  constructor
  · rintro ⟨l, hl, k, hk, hp⟩
    rcases List.mem_cons.mp hl with rfl | hl
    · cases k with
      | zero => exact Or.inl (piece_zero n l ▸ hp)
      | succ k =>
          rw [Nat.mul_succ] at hk
          omega
    · exact Or.inr ⟨l, hl, k, hk, hp⟩
  · rintro (hp | ⟨l, hl, hk⟩)
    · exact ⟨line, List.mem_cons_self, 0, hline, (piece_zero n line).symm ▸ hp⟩
    · exact ⟨l, List.mem_cons_of_mem _ hl, hk⟩

/-- A longer one is a piece and a line. -/
theorem somePiece_long (hlong : n < line.length) :
    SomePiece n p (line :: rest) ↔ p (line.take n) = true ∨ SomePiece n p (line.drop n :: rest) := by
  constructor
  · rintro ⟨l, hl, k, hk, hp⟩
    rcases List.mem_cons.mp hl with rfl | hl
    · cases k with
      | zero => exact Or.inl (piece_zero n l ▸ hp)
      | succ k =>
          rw [piece_succ] at hp
          rw [Nat.mul_succ] at hk
          refine Or.inr ⟨_, List.mem_cons_self, k, ?_, hp⟩
          rw [List.length_drop]
          omega
    · exact Or.inr ⟨l, List.mem_cons_of_mem _ hl, k, hk, hp⟩
  · rintro (hp | ⟨l, hl, k, hk, hp⟩)
    · exact ⟨line, List.mem_cons_self, 0, Nat.zero_lt_of_lt hlong, (piece_zero n line).symm ▸ hp⟩
    · rcases List.mem_cons.mp hl with rfl | hl
      · rw [← piece_succ] at hp
        rw [List.length_drop] at hk
        refine ⟨line, List.mem_cons_self, k + 1, ?_, hp⟩
        rw [Nat.mul_succ]
        omega
      · exact ⟨l, List.mem_cons_of_mem _ hl, k, hk, hp⟩

/-- **THE WHOLE TEXT**: the loop stops at a piece that passes, if there is one. -/
theorem readUntil_iff (hn : 0 < n) (p : List Char → Bool) :
    ∀ (fuel : Nat) (s : List Char), s.length < fuel →
      (readUntil (n + 1) p fuel s = true ↔ SomePiece n p (lines s)) := by
  intro fuel
  induction fuel with
  | zero => exact fun s h => absurd h (Nat.not_lt_zero _)
  | succ fuel ih =>
      intro s hfuel
      cases hs : lines s with
      | nil =>
          obtain rfl := lines_eq_nil.mp hs
          exact iff_of_false Bool.false_ne_true fun ⟨_, h, _⟩ => nomatch h
      | cons line rest =>
          have hne : s ≠ [] := fun h => by rw [h] at hs; cases hs
          have hline := length_pos_of_mem (hs ▸ List.mem_cons_self : line ∈ lines s)
          have hpos := List.length_pos_iff.mpr hne
          rw [readUntil, fgets, if_neg hne]
          dsimp only
          rw [Nat.add_sub_cancel, upToNewline_eq hs]
          have hshort : (s.drop (line.take n).length).length < fuel := by
            rw [List.length_drop, List.length_take]
            omega
          -- what is left starts with the rest of the line, or with the next one
          have hleft : SomePiece n p (line :: rest) ↔ p (line.take n) = true
              ∨ SomePiece n p (lines (s.drop (line.take n).length)) := by
            rcases Nat.lt_or_ge n line.length with hlong | hfits
            · rw [List.length_take_of_le (Nat.le_of_lt hlong), lines_drop hs hlong]
              exact somePiece_long hlong
            · rw [List.length_take, Nat.min_eq_right hfits, lines_drop_line hs]
              exact somePiece_short hline hfits
          rw [hleft, ← ih _ hshort]
          split
          · rename_i hp
            exact iff_of_true rfl (Or.inl hp)
          · rename_i hp
            exact (or_iff_right hp).symm

end Lines

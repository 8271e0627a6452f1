import Mathlib.Data.Nat.Find
import Mathlib.Order.Monotone.Basic

/-! # Loops that ask the system

    A loop whose every turn asks the system once and goes on or ends by what it
    is answered.  The answers are an endless sequence, since the system may
    answer so that the loop never ends; `turns` says what has become of the loop
    after so many of them.

    * `turns_invariant`: what holds of every state such a loop passes through,
      and of what it ends with;
    * `ends_of_variant`: a number that every turn lowers bounds the loop;
    * `goesOn_still`: a number that no turn raises is raised and lowered no more
      from some turn on, if the loop never ends. -/

namespace Loop

/-- Why a call failed, which is never zero. -/
abbrev Errno := { e : Nat // 0 < e }

variable {σ α ρ : Type}

/-- What a turn comes to. -/
inductive Turn (σ ρ : Type) where
  | again (s : σ)
  | done (r : ρ)
  deriving DecidableEq

/-- The first `n` turns. -/
def turns (body : σ → α → Turn σ ρ) (answers : Nat → α) (start : Turn σ ρ) : Nat → Turn σ ρ
  | 0 => start
  | n + 1 =>
      match turns body answers start n with
      | .again s => body s (answers n)
      | .done r => .done r

/-- The loop ends, with `r`. -/
def Ends (body : σ → α → Turn σ ρ) (answers : Nat → α) (start : Turn σ ρ) (r : ρ) : Prop :=
  ∃ n, turns body answers start n = .done r

/-- The loop never ends. -/
def GoesOn (body : σ → α → Turn σ ρ) (answers : Nat → α) (start : Turn σ ρ) : Prop :=
  ∀ n, ∃ s, turns body answers start n = .again s

/-- A property of the states and one of the results. -/
def Turn.Holds (I : σ → Prop) (Q : ρ → Prop) : Turn σ ρ → Prop
  | .again s => I s
  | .done r => Q r

variable {body : σ → α → Turn σ ρ} {answers : Nat → α} {start : Turn σ ρ}

theorem turns_again {n : Nat} {s : σ} (h : turns body answers start n = .again s) :
    turns body answers start (n + 1) = body s (answers n) := by
  rw [turns, h]

theorem turns_done {n : Nat} {r : ρ} (h : turns body answers start n = .done r) :
    turns body answers start (n + 1) = .done r := by
  rw [turns, h]

/-- A loop that is done stays done. -/
theorem turns_le {n : Nat} {r : ρ} (h : turns body answers start n = .done r) :
    ∀ {m : Nat}, n ≤ m → turns body answers start m = .done r := by
  intro m hle
  induction hle with
  | refl => exact h
  | step _ ih => exact turns_done ih

theorem Ends.unique {r r' : ρ} (h : Ends body answers start r) (h' : Ends body answers start r') :
    r = r' := by
  obtain ⟨n, hn⟩ := h
  obtain ⟨m, hm⟩ := h'
  have hboth := (turns_le hn (Nat.le_max_left n m)).symm.trans (turns_le hm (Nat.le_max_right n m))
  exact Turn.done.inj hboth

/-- It ends or it goes on. -/
theorem goesOn_iff : GoesOn body answers start ↔ ∀ r, ¬Ends body answers start r := by
  constructor
  · rintro hgoes r ⟨n, hn⟩
    obtain ⟨s, hs⟩ := hgoes n
    rw [hn] at hs
    cases hs
  · intro hnever n
    cases hn : turns body answers start n with
    | again s => exact ⟨s, rfl⟩
    | done r => exact absurd ⟨n, hn⟩ (hnever r)

/-- **INVARIANT RULE**: what every turn keeps holds all along, and what every last
    turn brings about holds in the end. -/
theorem turns_invariant {I : σ → Prop} {Q : ρ → Prop} (hstart : start.Holds I Q)
    (hbody : ∀ n s, turns body answers start n = .again s → I s → (body s (answers n)).Holds I Q) :
    ∀ n, (turns body answers start n).Holds I Q := by
  intro n
  induction n with
  | zero => exact hstart
  | succ n ih =>
      cases hn : turns body answers start n with
      | again s =>
          rw [hn] at ih
          rw [turns_again hn]
          exact hbody n s hn ih
      | done r =>
          rw [hn] at ih
          rw [turns_done hn]
          exact ih

/-- A loop that is done was so from the start, or had a last turn. -/
theorem last_turn {r : ρ} : ∀ {n : Nat}, turns body answers start n = .done r →
    start = .done r ∨ ∃ k s, turns body answers start k = .again s
      ∧ body s (answers k) = .done r := by
  intro n
  induction n with
  | zero => exact fun h => Or.inl h
  | succ n ih =>
      intro h
      cases hn : turns body answers start n with
      | again s =>
          rw [turns_again hn] at h
          exact Or.inr ⟨n, s, hn, h⟩
      | done r' =>
          rw [turns_done hn] at h
          exact ih (hn.trans h)

/-- Before a turn there were turns. -/
theorem again_before {n : Nat} {s : σ} (h : turns body answers start n = .again s) {m : Nat}
    (hle : m ≤ n) : ∃ s', turns body answers start m = .again s' := by
  cases hm : turns body answers start m with
  | again s' => exact ⟨s', rfl⟩
  | done r =>
      rw [turns_le hm hle] at h
      cases h

/-- **VARIANT RULE**: a number that every turn lowers, and what the invariant says
    of it, bound the turns. -/
theorem ends_of_variant {I : σ → Prop} {Q : ρ → Prop} {μ : σ → Nat}
    (hinv : ∀ n, (turns body answers start n).Holds I Q)
    (hlower : ∀ n s s', I s → body s (answers n) = .again s' → μ s' < μ s) {b : Nat}
    (hb : ∀ s, start = .again s → μ s < b) :
    ∃ r, turns body answers start b = .done r := by
  -- every turn that goes on has lowered the number by one more
  have hdown : ∀ n s, turns body answers start n = .again s → μ s + n < b := by
    intro n
    induction n with
    | zero => exact fun s hs => hb s hs
    | succ n ih =>
        intro s hs
        obtain ⟨s₀, hs₀⟩ := again_before hs (Nat.le_succ n)
        have hI := hinv n
        rw [hs₀] at hI
        rw [turns_again hs₀] at hs
        have hlt := hlower n s₀ s hI hs
        have hle := ih s₀ hs₀
        omega
  cases hend : turns body answers start b with
  | again s =>
      have hlt := hdown b s hend
      omega
  | done r => exact ⟨r, rfl⟩

/-- **STANDSTILL RULE**: a number that no turn raises is the same from some turn
    on, if the loop never ends. -/
theorem goesOn_still {μ : σ → Nat} (hgoes : GoesOn body answers start)
    (hdown : ∀ s a s', body s a = .again s' → μ s' ≤ μ s) :
    ∃ N m, ∀ n s, N ≤ n → turns body answers start n = .again s → μ s = m := by
  choose f hf using hgoes
  have hanti : Antitone fun n => μ (f n) := by
    refine antitone_nat_of_succ_le ?_
    intro n
    have hstep := hf (n + 1)
    rw [turns_again (hf n)] at hstep
    exact hdown _ _ _ hstep
  have hsome : ∃ m n, μ (f n) = m := ⟨μ (f 0), 0, rfl⟩
  classical
  obtain ⟨N, hN⟩ := Nat.find_spec hsome
  refine ⟨N, Nat.find hsome, ?_⟩
  intro n s hle hs
  have hsame : s = f n := Turn.again.inj (hs.symm.trans (hf n))
  subst hsame
  have hhigh : μ (f n) ≤ μ (f N) := hanti hle
  have hlow : Nat.find hsome ≤ μ (f n) := Nat.find_min' hsome ⟨n, rfl⟩
  omega

/-- The first turn, and the others. -/
theorem turns_succ (s : σ) : ∀ n : Nat, turns body answers (.again s) (n + 1)
    = turns body (fun k => answers (k + 1)) (body s (answers 0)) n := by
  intro n
  induction n with
  | zero => rfl
  | succ n ih => rw [turns, ih, turns]

theorem turns_of_done (r : ρ) (n : Nat) : turns body answers (.done r) n = .done r :=
  turns_le rfl (Nat.zero_le n)

end Loop

import Mathlib.Data.List.Basic

/-! # Runs of a partial step function

    Every component of this development is a state with a partial step
    function: `step s a = none` says that the action `a` cannot happen in
    `s`.  This file has the run of a list of actions and the rules that
    properties of runs are proved with, over arbitrary states and actions:

    * `run_invariant`: what each step keeps, every run keeps;
    * `run_history`: the same for an invariant of the actions and the state, and
      with it that no step gets stuck;
    * `always_iff_stepsMeet`: when each step keeps an invariant exactly if the
      step meets a condition, the property of the states of a run and the
      condition on its steps are the same thing;
    * `stepsMeet_of_ending`: a property that a step cannot restore, found at the
      end of a run, held all along it. -/

namespace Run

variable {σ α : Type}

/-- The state after a list of actions, if each of them can happen. -/
def run (step : σ → α → Option σ) : σ → List α → Option σ
  | s, [] => some s
  | s, a :: rest =>
      match step s a with
      | none => none
      | some s' => run step s' rest

/-- `P` holds in every state a run passes through, the first one included. -/
def Always (step : σ → α → Option σ) (P : σ → Prop) (s : σ) (acts : List α) : Prop :=
  ∀ done rest s', acts = done ++ rest → run step s done = some s' → P s'

/-- Every step of a run meets `ok` in the state it starts from. -/
def StepsMeet (step : σ → α → Option σ) (ok : σ → α → Prop) (s : σ) (acts : List α) : Prop :=
  ∀ done a rest s' s'', acts = done ++ a :: rest → run step s done = some s' →
    step s' a = some s'' → ok s' a

variable {step : σ → α → Option σ}

theorem run_cons {s s' : σ} {a : α} {rest : List α} (h : step s a = some s') :
    run step s (a :: rest) = run step s' rest := by
  rw [run, h]

theorem run_cons_eq_some {s s' : σ} {a : α} {rest : List α}
    (h : run step s (a :: rest) = some s') :
    ∃ s₁, step s a = some s₁ ∧ run step s₁ rest = some s' := by
  cases hs : step s a with
  | none =>
      rw [run, hs] at h
      exact nomatch h
  | some s₁ =>
      rw [run_cons hs] at h
      exact ⟨s₁, rfl, h⟩

/-- A run that goes on. -/
theorem run_append {more : List α} : ∀ {acts : List α} {s s' : σ}, run step s acts = some s' →
    run step s (acts ++ more) = run step s' more := by
  intro acts
  induction acts with
  | nil =>
      intro s s' h
      obtain rfl := Option.some.inj h
      rfl
  | cons a rest ih =>
      intro s s' h
      obtain ⟨s₁, hstep, hrest⟩ := run_cons_eq_some h
      rw [List.cons_append, run_cons hstep]
      exact ih hrest

/-- One action more. -/
theorem run_concat {a : α} : ∀ {acts : List α} {s s' : σ}, run step s acts = some s' →
    run step s (acts ++ [a]) = step s' a := by
  intro acts
  induction acts with
  | nil =>
      intro s s' h
      obtain rfl := Option.some.inj h
      show (match step s a with | none => none | some s' => some s') = step s a
      cases step s a <;> rfl
  | cons b rest ih =>
      intro s s' h
      obtain ⟨s₁, hstep, hrest⟩ := run_cons_eq_some h
      rw [List.cons_append, run_cons hstep]
      exact ih hrest

/-- **INVARIANT RULE**: what every step keeps, every run keeps. -/
theorem run_invariant {Inv : σ → Prop}
    (hkeep : ∀ s a s', Inv s → step s a = some s' → Inv s') :
    ∀ (acts : List α) {s s' : σ}, Inv s → run step s acts = some s' → Inv s' := by
  intro acts
  induction acts with
  | nil =>
      intro s s' hs h
      exact Option.some.inj h ▸ hs
  | cons a rest ih =>
      intro s s' hs h
      obtain ⟨s₁, hstep, hrest⟩ := run_cons_eq_some h
      exact ih (hkeep s a s₁ hs hstep) hrest

/-- **HISTORY RULE**: if after every part of a list of actions that went
    through the next one goes through too and keeps an invariant of actions and
    state, the whole list goes through. -/
theorem run_history {Inv : List α → σ → Prop} :
    ∀ (acts done : List α) {s : σ}, Inv done s →
      (∀ mid a rest s, acts = mid ++ a :: rest → Inv (done ++ mid) s →
        ∃ s', step s a = some s' ∧ Inv (done ++ mid ++ [a]) s') →
      ∃ s', run step s acts = some s' ∧ Inv (done ++ acts) s' := by
  intro acts
  induction acts with
  | nil =>
      intro done s hs _
      exact ⟨s, rfl, by rw [List.append_nil]; exact hs⟩
  | cons a rest ih =>
      intro done s hs hnext
      obtain ⟨s₁, hstep, hs₁⟩ := hnext [] a rest s rfl (by rw [List.append_nil]; exact hs)
      rw [List.append_nil] at hs₁
      obtain ⟨s', hrun, hs'⟩ := ih (done ++ [a]) hs₁ (fun mid b rest' s₂ hcat h => by
        have hlonger := hnext (a :: mid) b rest' s₂ (by rw [hcat]; rfl)
          (by rw [List.append_assoc] at h; exact h)
        rw [List.append_cons done a mid] at hlonger
        exact hlonger)
      refine ⟨s', ?_, ?_⟩
      · rw [run_cons hstep]
        exact hrun
      · rw [List.append_cons]
        exact hs'

theorem always_cons {P : σ → Prop} {s : σ} {a : α} {rest : List α} :
    Always step P s (a :: rest)
      ↔ P s ∧ ∀ s', step s a = some s' → Always step P s' rest := by
  constructor
  · intro h
    refine ⟨h [] (a :: rest) s rfl rfl, ?_⟩
    intro s' hstep done rest' s'' hcat hrun
    refine h (a :: done) rest' s'' (by rw [hcat]; rfl) ?_
    rw [run_cons hstep]
    exact hrun
  · rintro ⟨hs, hrest⟩ done rest' s'' hcat hrun
    cases done with
    | nil => exact Option.some.inj hrun ▸ hs
    | cons b done =>
        obtain ⟨rfl, htail⟩ := List.cons.inj hcat
        obtain ⟨s₁, hstep, hrun'⟩ := run_cons_eq_some hrun
        exact hrest s₁ hstep done rest' s'' htail hrun'

theorem stepsMeet_cons {ok : σ → α → Prop} {s : σ} {a : α} {rest : List α} :
    StepsMeet step ok s (a :: rest)
      ↔ ∀ s', step s a = some s' → ok s a ∧ StepsMeet step ok s' rest := by
  constructor
  · intro h s' hstep
    refine ⟨h [] a rest s s' rfl rfl hstep, ?_⟩
    intro done b rest' s₁ s₂ hcat hrun hb
    refine h (a :: done) b rest' s₁ s₂ (by rw [hcat]; rfl) ?_ hb
    rw [run_cons hstep]
    exact hrun
  · intro h done b rest' s₁ s₂ hcat hrun hb
    cases done with
    | nil =>
        obtain ⟨rfl, -⟩ := List.cons.inj hcat
        have hs : s = s₁ := Option.some.inj hrun
        subst hs
        exact (h s₂ hb).1
    | cons c done =>
        obtain ⟨rfl, htail⟩ := List.cons.inj hcat
        obtain ⟨s₀, hstep, hrun'⟩ := run_cons_eq_some hrun
        exact (h s₀ hstep).2 done b rest' s₁ s₂ htail hrun' hb

/-- A condition that the actions meet in any state. -/
theorem stepsMeet_of_forall {ok : σ → α → Prop} {acts : List α}
    (h : ∀ a ∈ acts, ∀ s, ok s a) (s : σ) : StepsMeet step ok s acts := by
  intro done a rest s' _ hcat _ _
  refine h a ?_ s'
  rw [hcat]
  exact List.mem_append_right _ List.mem_cons_self

/-- A run whose steps all meet a condition under which the invariant is kept
    stays inside the invariant. -/
theorem always_of_stepsMeet {Inv P : σ → Prop} {ok : σ → α → Prop}
    (hP : ∀ s, Inv s → P s)
    (hkeep : ∀ s a s', Inv s → ok s a → step s a = some s' → Inv s') :
    ∀ (acts : List α) {s : σ}, Inv s → StepsMeet step ok s acts → Always step P s acts := by
  intro acts
  induction acts with
  | nil =>
      intro s hs _ done rest s' hcat hrun
      obtain ⟨rfl, -⟩ := List.append_eq_nil_iff.mp hcat.symm
      exact Option.some.inj hrun ▸ hP s hs
  | cons a rest ih =>
      intro s hs hok
      refine always_cons.mpr ⟨hP s hs, ?_⟩
      intro s' hstep
      obtain ⟨hoka, hrest⟩ := stepsMeet_cons.mp hok s' hstep
      exact ih (hkeep s a s' hs hoka hstep) hrest

/-- **EXACT CONDITION RULE**: if a step out of the invariant is exactly a step
    that breaks `P`, then `P` holds all along a run exactly when every step of
    the run meets the condition. -/
theorem always_iff_stepsMeet {Inv P : σ → Prop} {ok : σ → α → Prop}
    (hP : ∀ s, Inv s → P s)
    (hkeep : ∀ s a s', Inv s → ok s a → step s a = some s' → Inv s')
    (hbreak : ∀ s a s', Inv s → step s a = some s' → P s' → ok s a) :
    ∀ (acts : List α) {s : σ}, Inv s →
      (Always step P s acts ↔ StepsMeet step ok s acts) := by
  intro acts
  induction acts with
  | nil =>
      intro s hs
      refine ⟨fun _ => ?_, always_of_stepsMeet hP hkeep [] hs⟩
      intro done a rest s' s'' hcat
      exact absurd hcat (by simp)
  | cons a rest ih =>
      intro s hs
      refine ⟨fun h => ?_, always_of_stepsMeet hP hkeep (a :: rest) hs⟩
      refine stepsMeet_cons.mpr ?_
      intro s' hstep
      have hrest := (always_cons.mp h).2 s' hstep
      have hok := hbreak s a s' hs hstep (hrest [] rest s' rfl rfl)
      exact ⟨hok, (ih (hkeep s a s' hs hok hstep)).mp hrest⟩

/-- **ENDING RULE**: if a step that `P` allows cannot bring `Right` about, and
    brings it about only when it meets the condition, then every step of a run
    that ends in `Right` met the condition.  `Inv` is what every step keeps. -/
theorem stepsMeet_of_ending {Inv P Right : σ → Prop} {ok : σ → α → Prop}
    (hkeep : ∀ s a s', Inv s → step s a = some s' → Inv s')
    (hback : ∀ s a s', Inv s → P s → P s' → step s a = some s' → Right s' →
      Right s ∧ ok s a) :
    ∀ (acts : List α) {s s' : σ}, Inv s → Always step P s acts → run step s acts = some s' →
      Right s' → Right s ∧ StepsMeet step ok s acts := by
  intro acts
  induction acts with
  | nil =>
      intro s s' _ _ hrun hright
      refine ⟨Option.some.inj hrun ▸ hright, ?_⟩
      intro done a rest s' s'' hcat
      exact absurd hcat (by simp)
  | cons a rest ih =>
      intro s s' hs halways hrun hright
      obtain ⟨s₁, hstep, hrest⟩ := run_cons_eq_some hrun
      have halways₁ := (always_cons.mp halways).2 s₁ hstep
      obtain ⟨hright₁, hmeet⟩ := ih (hkeep s a s₁ hs hstep) halways₁ hrest hright
      obtain ⟨hright₀, hok⟩ :=
        hback s a s₁ hs (halways [] (a :: rest) s rfl rfl) (halways₁ [] rest s₁ rfl rfl)
          hstep hright₁
      refine ⟨hright₀, stepsMeet_cons.mpr ?_⟩
      intro s₂ hstep₂
      obtain rfl := Option.some.inj (hstep.symm.trans hstep₂)
      exact ⟨hok, hmeet⟩

/-- On a run that can be computed, a condition that can be decided of each step
    can be decided of all. -/
instance decidableStepsMeet {ok : σ → α → Prop} [∀ s a, Decidable (ok s a)] :
    ∀ (s : σ) (acts : List α), Decidable (StepsMeet step ok s acts)
  | _, [] => isTrue fun _ _ _ _ _ hcat => absurd hcat (by simp)
  | s, a :: rest =>
      match hstep : step s a with
      | none => isTrue (stepsMeet_cons.mpr fun _ h => by cases hstep.symm.trans h)
      | some s' =>
          have : Decidable (StepsMeet step ok s' rest) := decidableStepsMeet s' rest
          decidable_of_iff (ok s a ∧ StepsMeet step ok s' rest) <| by
            rw [stepsMeet_cons]
            constructor
            · intro h s₂ h₂
              exact Option.some.inj (hstep.symm.trans h₂) ▸ h
            · intro h
              exact h s' hstep

end Run

import Mathlib.Data.List.Basic

/-! # Machines that answer

    A component whose operations always run: an input takes the state to a
    state and is answered.  `runAll` is a list of inputs one after the other,
    with the answers in order, and `runAll_simulates` is the rule by which one
    such machine is shown to be another one seen through a relation of their
    states. -/

namespace Mealy

variable {σ τ α β γ : Type}

/-- The state after a list of inputs, and what each was answered. -/
def runAll (step : σ → α → σ × β) : σ → List α → σ × List β
  | s, [] => (s, [])
  | s, a :: rest =>
      let after := runAll step (step s a).1 rest
      (after.1, (step s a).2 :: after.2)

variable {step : σ → α → σ × β}

@[simp] theorem runAll_nil (s : σ) : runAll step s [] = (s, []) := rfl

/-- One input more. -/
theorem runAll_concat (a : α) : ∀ (acts : List α) (s : σ),
    runAll step s (acts ++ [a])
      = ((step (runAll step s acts).1 a).1,
          (runAll step s acts).2 ++ [(step (runAll step s acts).1 a).2]) := by
  intro acts
  induction acts with
  | nil => intro s; rfl
  | cons b rest ih =>
      intro s
      rw [List.cons_append, runAll, ih]
      rfl

/-- Every input is answered. -/
@[simp] theorem length_runAll (acts : List α) (s : σ) :
    (runAll step s acts).2.length = acts.length := by
  induction acts generalizing s with
  | nil => rfl
  | cons a rest ih => exact congrArg (· + 1) (ih _)

/-- **SIMULATION RULE**: if every input of a kind keeps two machines related and
    is answered alike, every list of such inputs does and is. -/
theorem runAll_simulates {step' : τ → α → τ × γ} {R : σ → τ → Prop} {Ok : α → Prop} {f : γ → β}
    (hstep : ∀ s t a, Ok a → R s t →
      R (step s a).1 (step' t a).1 ∧ (step s a).2 = f (step' t a).2) :
    ∀ (acts : List α) (s : σ) (t : τ), (∀ a ∈ acts, Ok a) → R s t →
      R (runAll step s acts).1 (runAll step' t acts).1
        ∧ (runAll step s acts).2 = (runAll step' t acts).2.map f := by
  intro acts
  induction acts with
  | nil => exact fun _ _ _ h => ⟨h, rfl⟩
  | cons a rest ih =>
      intro s t hok h
      obtain ⟨hnext, hanswer⟩ := hstep s t a (hok a List.mem_cons_self) h
      obtain ⟨hend, hanswers⟩ :=
        ih _ _ (fun b hb => hok b (List.mem_cons_of_mem a hb)) hnext
      exact ⟨hend, congrArg₂ List.cons hanswer hanswers⟩

end Mealy

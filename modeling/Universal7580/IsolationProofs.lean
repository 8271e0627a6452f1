import Mathlib.Logic.Function.Basic
import Universal7580.RunProofs

/-! # Devices over shared state

    Devices of one program act on a state they share and each on one of its own:
    `act d g l a` is the action `a` of the device `d`, with the shared state `g`
    and its own `l`.  A device run `alone` makes the same actions, in the same
    order, with nobody else's in between.

    `isolated_of_stepsMeet` is the unwinding rule: a relation between the system
    and each device alone, which an action keeps for the device that acts and
    for the others, holds all along a run whose steps meet a condition.  The
    condition may speak of the device alone.  Devices, states and actions are
    arbitrary. -/

namespace Isolation

open Run

variable {δ γ ℓ α : Type} [DecidableEq δ]

/-- `done` are the actions so far, with the device of each. -/
structure Sys (δ γ ℓ α : Type) where
  shared : γ
  locals : δ → ℓ
  done : List (δ × α)

variable (act : δ → γ → ℓ → α → Option (γ × ℓ))

def step (s : Sys δ γ ℓ α) (e : δ × α) : Option (Sys δ γ ℓ α) :=
  (act e.1 s.shared (s.locals e.1) e.2).map fun after =>
    { shared := after.1
      locals := Function.update s.locals e.1 after.2
      done := s.done ++ [e] }

def start (g : γ) (l : ℓ) : Sys δ γ ℓ α :=
  { shared := g, locals := fun _ => l, done := [] }

/-- The actions of a device. -/
def ofDevice (d : δ) (done : List (δ × α)) : List α :=
  done.filterMap fun e => if e.1 = d then some e.2 else none

/-- The device with the actions of the others left out. -/
def alone (g : γ) (l : ℓ) (d : δ) (done : List (δ × α)) : Option (γ × ℓ) :=
  run (fun s a => act d s.1 s.2 a) (g, l) (ofDevice d done)

theorem ofDevice_self (done : List (δ × α)) (d : δ) (a : α) :
    ofDevice d (done ++ [(d, a)]) = ofDevice d done ++ [a] := by
  simp [ofDevice]

theorem ofDevice_other {d e : δ} (h : d ≠ e) (done : List (δ × α)) (a : α) :
    ofDevice e (done ++ [(d, a)]) = ofDevice e done := by
  simp [ofDevice, h]

variable {act}

/-- What a step is. -/
theorem step_cases {s s' : Sys δ γ ℓ α} {d : δ} {a : α} (h : step act s (d, a) = some s') :
    ∃ g l, act d s.shared (s.locals d) a = some (g, l)
      ∧ s' = { shared := g, locals := Function.update s.locals d l, done := s.done ++ [(d, a)] } := by
  obtain ⟨⟨g, l⟩, hact, rfl⟩ := Option.map_eq_some_iff.mp h
  exact ⟨g, l, hact, rfl⟩

variable {g₀ : γ} {l₀ : ℓ}

/-- Every device, alone, is in the relation to the system. -/
def Related (act : δ → γ → ℓ → α → Option (γ × ℓ)) (g₀ : γ) (l₀ : ℓ)
    (Rel : Sys δ γ ℓ α → δ → γ × ℓ → Prop) (s : Sys δ γ ℓ α) : Prop :=
  ∀ d, ∃ own, alone act g₀ l₀ d s.done = some own ∧ Rel s d own

/-- **UNWINDING RULE**: a relation that an action keeps for the device that acts,
    which can then take it alone as well, and for the others, holds all along a
    run whose steps meet the condition. -/
theorem isolated_of_stepsMeet {Rel : Sys δ γ ℓ α → δ → γ × ℓ → Prop}
    {ok : Sys δ γ ℓ α → δ × α → Prop} (hrel : ∀ d, Rel (start g₀ l₀) d (g₀, l₀))
    (hself : ∀ s d a s' own, alone act g₀ l₀ d s.done = some own → Rel s d own →
      ok s (d, a) → step act s (d, a) = some s' →
      ∃ own', act d own.1 own.2 a = some own' ∧ Rel s' d own')
    (hother : ∀ s d a s' e own, Related act g₀ l₀ Rel s → d ≠ e → Rel s e own →
      ok s (d, a) → step act s (d, a) = some s' → Rel s' e own)
    (acts : List (δ × α)) (hok : StepsMeet (step act) ok (start g₀ l₀) acts) :
    Always (step act) (Related act g₀ l₀ Rel) (start g₀ l₀) acts := by
  refine always_of_stepsMeet (fun _ h => h) ?_ acts (fun d => ⟨(g₀, l₀), rfl, hrel d⟩) hok
  rintro s ⟨d, a⟩ s' hall hmeets h e
  obtain ⟨own, halone, howned⟩ := hall e
  obtain ⟨g, l, -, hs'⟩ := step_cases h
  have hdone : s'.done = s.done ++ [(d, a)] := by
    rw [hs']
  rw [hdone, alone]
  by_cases hde : d = e
  · subst hde
    obtain ⟨own', hact, hrel'⟩ := hself s d a s' own halone howned hmeets h
    refine ⟨own', ?_, hrel'⟩
    rw [ofDevice_self, run_concat halone]
    exact hact
  · refine ⟨own, ?_, hother s d a s' e own hall hde howned hmeets h⟩
    rw [ofDevice_other hde]
    exact halone

end Isolation

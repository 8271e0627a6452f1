import Mathlib.Data.List.Induction

/-! # Traces

    A trace is the list of the events of a run, oldest first.  What a run may
    do is often said of an event and what came before it; and what a program's
    flags remember is often the last event of some kind, or whether one kind
    came after another.  This file has the three notions and how each grows with
    the trace, over arbitrary events:

    * `Each`: every event fits what came before it;
    * `lastOf`: what the last event of a kind said;
    * `Followed`: after every event of one kind came one of another. -/

namespace Trace

variable {ε α : Type}

-- ── Every event fits what came before it ─────────────────────────────────────

def Each (P : List ε → ε → Prop) (trace : List ε) : Prop :=
  ∀ before e after, trace = before ++ e :: after → P before e

/-- The events `more` fit, one after the other, what came before them. -/
def Fitting (P : List ε → ε → Prop) : List ε → List ε → Prop
  | _, [] => True
  | trace, e :: more => P trace e ∧ Fitting P (trace ++ [e]) more

variable {P : List ε → ε → Prop}

theorem each_nil : Each P [] := by
  intro before e after h
  exact absurd h (by simp)

theorem each_concat {trace : List ε} {e : ε} :
    Each P (trace ++ [e]) ↔ Each P trace ∧ P trace e := by
  constructor
  · intro h
    refine ⟨?_, h trace e [] rfl⟩
    intro before x after hcat
    exact h before x (after ++ [e]) (by rw [hcat, List.append_assoc]; rfl)
  · rintro ⟨htrace, he⟩ before x after hcat
    rcases List.eq_nil_or_concat after with rfl | ⟨after', y, rfl⟩
    · obtain ⟨rfl, hx⟩ := List.append_inj' hcat rfl
      exact List.singleton_inj.mp hx ▸ he
    · rw [List.concat_eq_append, ← List.cons_append, ← List.append_assoc] at hcat
      exact htrace before x after' (List.append_inj' hcat rfl).1

/-- A trace grows by events that fit. -/
theorem each_append {more : List ε} :
    ∀ {trace : List ε}, Each P (trace ++ more) ↔ Each P trace ∧ Fitting P trace more := by
  induction more with
  | nil =>
      intro trace
      simp [Fitting]
  | cons e more ih =>
      intro trace
      rw [List.append_cons, ih, each_concat, Fitting, and_assoc]

-- ── The last event of a kind ─────────────────────────────────────────────────

/-- What the last event that `f` reads said. -/
def lastOf (f : ε → Option α) (trace : List ε) : Option α :=
  (trace.filterMap f).getLast?

variable {f : ε → Option α}

theorem lastOf_concat_some {trace : List ε} {e : ε} {a : α} (h : f e = some a) :
    lastOf f (trace ++ [e]) = some a := by
  simp [lastOf, h]

theorem lastOf_concat_none {trace : List ε} {e : ε} (h : f e = none) :
    lastOf f (trace ++ [e]) = lastOf f trace := by
  simp [lastOf, h]

theorem lastOf_append_none {trace : List ε} {more : List ε} (h : ∀ e ∈ more, f e = none) :
    lastOf f (trace ++ more) = lastOf f trace := by
  rw [lastOf, List.filterMap_append, List.filterMap_eq_nil_iff.mpr h, List.append_nil]
  rfl

/-- An event stays the last one that says something else. -/
theorem lastOf_eq_of_forall {before : List ε} {e : ε} {a : α} (he : f e = some a) :
    ∀ {after : List ε}, (∀ x ∈ after, ∀ b, f x = some b → b = a) →
      lastOf f (before ++ e :: after) = some a := by
  intro after
  induction after using List.reverseRecOn with
  | nil =>
      intro _
      exact lastOf_concat_some he
  | append_singleton after x ih =>
      intro h
      rw [← List.cons_append, ← List.append_assoc]
      cases hx : f x with
      | none =>
          rw [lastOf_concat_none hx]
          exact ih fun y hy => h y (List.mem_append_left _ hy)
      | some b =>
          rw [lastOf_concat_some hx, h x (by simp) b hx]

-- ── One kind followed by another ─────────────────────────────────────────────

/-- After every `p` event there came a `q` event. -/
def Followed (p q : ε → Prop) (trace : List ε) : Prop :=
  ∀ before e after, trace = before ++ e :: after → p e → ∃ x ∈ after, q x

variable {p q : ε → Prop}

theorem followed_nil : Followed p q [] := by
  intro before e after h
  exact absurd h (by simp)

theorem followed_concat {trace : List ε} {e : ε} (hp : ¬p e) :
    Followed p q (trace ++ [e]) ↔ q e ∨ Followed p q trace := by
  constructor
  · intro h
    by_cases hq : q e
    · exact Or.inl hq
    refine Or.inr ?_
    intro before x after hcat hx
    obtain ⟨y, hy, hqy⟩ := h before x (after ++ [e]) (by rw [hcat, List.append_assoc]; rfl) hx
    rcases List.mem_append.mp hy with hy | hy
    · exact ⟨y, hy, hqy⟩
    · exact absurd (List.mem_singleton.mp hy ▸ hqy) hq
  · intro h before x after hcat hx
    rcases List.eq_nil_or_concat after with rfl | ⟨after', y, rfl⟩
    · have hlast := (List.append_inj' hcat rfl).2
      exact absurd (List.singleton_inj.mp hlast ▸ hx) hp
    · rw [List.concat_eq_append] at hcat ⊢
      rw [← List.cons_append, ← List.append_assoc] at hcat
      obtain ⟨htrace, hy⟩ := List.append_inj' hcat rfl
      rcases h with hq | h
      · exact ⟨y, by simp, List.singleton_inj.mp hy ▸ hq⟩
      · obtain ⟨z, hz, hqz⟩ := h before x after' htrace hx
        exact ⟨z, List.mem_append_left _ hz, hqz⟩

end Trace

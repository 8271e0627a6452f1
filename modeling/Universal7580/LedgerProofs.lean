import Mathlib.Data.List.Induction
import Mathlib.Logic.Function.Basic

/-! # Ledgers of calls on resources

    A ledger is the list of the calls made so far.  `resources` says what a call
    is made on, and `release` is the call that gives a resource back.

    * `NoUse`: nothing is used after it was released;
    * `Live`: what has not been released;
    * `Uses`: calls that may come next, on live resources, and release nothing.

    `noUse_uses` and `noUse_releases` extend a ledger; `count_release_le` is why
    `NoUse` rules out a second release as well. -/

namespace Ledger

variable {κ ρ : Type}

def NoUse (resources : κ → List ρ) (release : ρ → κ) (calls : List κ) : Prop :=
  ∀ before c after, calls = before ++ c :: after → ∀ r ∈ resources c, release r ∉ before

def Live (release : ρ → κ) (calls : List κ) (r : ρ) : Prop := release r ∉ calls

structure Uses (resources : κ → List ρ) (release : ρ → κ) (calls cs : List κ) : Prop where
  plain : ∀ r, release r ∉ cs
  live : ∀ c ∈ cs, ∀ r ∈ resources c, Live release calls r

variable {resources : κ → List ρ} {release : ρ → κ} {calls cs : List κ} {c : κ} {r : ρ}

theorem uses_nil (resources : κ → List ρ) (release : ρ → κ) (calls : List κ) :
    Uses resources release calls [] where
  plain := fun _ hmem => nomatch hmem
  live := fun _ hmem => nomatch hmem

theorem Live.append (h : Live release calls r) (hcs : release r ∉ cs) :
    Live release (calls ++ cs) r := by
  intro hmem
  rcases List.mem_append.mp hmem with hold | hnew
  · exact h hold
  · exact hcs hnew

theorem Live.uses (h : Live release calls r) (hcs : Uses resources release calls cs) :
    Live release (calls ++ cs) r :=
  h.append (hcs.plain r)

theorem noUse_nil : NoUse resources release [] := by
  intro before c after hcat
  exact absurd hcat (by simp)

theorem noUse_before (h : NoUse resources release (calls ++ cs)) : NoUse resources release calls := by
  intro before c after hcat
  refine h before c (after ++ cs) ?_
  rw [hcat, List.append_assoc]
  rfl

/-- **ONE CALL MORE**, on live resources. -/
theorem noUse_concat (h : NoUse resources release calls) (hc : ∀ r ∈ resources c, Live release calls r) :
    NoUse resources release (calls ++ [c]) := by
  intro before d after hcat
  rcases List.eq_nil_or_concat after with rfl | ⟨after', last, rfl⟩
  · obtain ⟨rfl, hd⟩ := List.append_inj' hcat rfl
    obtain rfl := List.singleton_inj.mp hd
    exact hc
  · rw [List.concat_eq_append, ← List.cons_append, ← List.append_assoc] at hcat
    obtain ⟨hcalls, -⟩ := List.append_inj' hcat rfl
    exact h before d after' hcalls

theorem noUse_uses : ∀ {cs calls : List κ}, NoUse resources release calls →
    Uses resources release calls cs → NoUse resources release (calls ++ cs) := by
  intro cs
  induction cs with
  | nil =>
      intro calls h _
      rw [List.append_nil]
      exact h
  | cons c cs ih =>
      intro calls h hcs
      rw [List.append_cons]
      refine ih (noUse_concat h (hcs.live c List.mem_cons_self)) ⟨?_, ?_⟩
      · intro r hmem
        exact hcs.plain r (List.mem_cons_of_mem c hmem)
      · intro d hd r hr
        refine (hcs.live d (List.mem_cons_of_mem c hd) r hr).append ?_
        intro hmem
        refine hcs.plain r ?_
        rw [List.mem_singleton.mp hmem]
        exact List.mem_cons_self

/-- Live resources are released one after the other. -/
theorem noUse_releases (hinj : Function.Injective release) (hown : ∀ r, resources (release r) = [r]) :
    ∀ {rs : List ρ} {calls : List κ}, NoUse resources release calls → rs.Nodup →
      (∀ r ∈ rs, Live release calls r) → NoUse resources release (calls ++ rs.map release) := by
  intro rs
  induction rs with
  | nil =>
      intro calls h _ _
      rw [List.map_nil, List.append_nil]
      exact h
  | cons r rs ih =>
      intro calls h hnodup hlive
      obtain ⟨hfresh, hrest⟩ := List.nodup_cons.mp hnodup
      rw [List.map_cons, List.append_cons]
      refine ih (noUse_concat h ?_) hrest ?_
      · intro r' hr'
        rw [hown] at hr'
        obtain rfl := List.mem_singleton.mp hr'
        exact hlive r' List.mem_cons_self
      · intro r' hr'
        refine (hlive r' (List.mem_cons_of_mem r hr')).append ?_
        intro hmem
        obtain rfl := hinj (List.mem_singleton.mp hmem)
        exact hfresh hr'

/-- A resource that is not used after its release is released once at most. -/
theorem count_release_le [DecidableEq κ] (hown : ∀ r, r ∈ resources (release r))
    (h : NoUse resources release calls) (r : ρ) : calls.count (release r) ≤ 1 := by
  induction calls using List.reverseRecOn with
  | nil => exact Nat.zero_le 1
  | append_singleton calls c ih =>
      rw [List.count_append]
      by_cases hc : c = release r
      · subst hc
        have hlive := h calls (release r) [] rfl r (hown r)
        have hzero : calls.count (release r) = 0 := List.count_eq_zero.mpr hlive
        have hone : [release r].count (release r) = 1 := List.count_singleton_self
        omega
      · rw [List.count_eq_zero.mpr fun hmem => hc (List.mem_singleton.mp hmem).symm]
        exact ih (noUse_before h)

end Ledger

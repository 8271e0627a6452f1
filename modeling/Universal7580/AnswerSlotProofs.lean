import Mathlib.Data.List.Basic

/-! # Answers matched by one slot

    Requests go out in order, and the other side answers each of them once, in
    that order.  An answer says only the tag of its request.  Some requests
    have a handler that is to get the answer; every other answer is to be
    passed on.  The matcher has a single slot: a handler and the tag it waits
    for.  An answer with that tag goes to the handler and empties the slot.

    `Fits slot waiting` says that the slot is right for the requests that wait
    for their answers: answering all of them now gives each answer to whom it
    is due and leaves the slot empty.

    * `fits_append`, `fits_register`: what keeps it;
    * `fits_of_append`, `fits_of_register`: it is not gained by sending more, so
      a slot that is wrong stays wrong until an answer goes astray. -/

namespace AnswerSlot

variable {ρ κ τ : Type} [DecidableEq τ] (handler : ρ → Option κ) (tag : ρ → τ)

/-- An answer with tag `t` meets the slot: the handler it goes to, if any, and
    the slot afterwards. -/
def deliver : Option (κ × τ) → τ → Option κ × Option (κ × τ)
  | none, _ => (none, none)
  | some (k, t'), t => if t = t' then (some k, none) else (none, some (k, t'))

/-- The slot that a request asks for. -/
def slotFor (r : ρ) : Option (κ × τ) :=
  (handler r).map fun k => (k, tag r)

/-- Answering the waiting requests in order gives every answer to its handler,
    or to none if it has none, and leaves the slot empty. -/
def Fits : Option (κ × τ) → List ρ → Prop
  | slot, [] => slot = none
  | slot, r :: rest =>
      (deliver slot (tag r)).1 = handler r ∧ Fits (deliver slot (tag r)).2 rest

/-- What is in the slot was asked for by a request that still waits. -/
def Held (slot : Option (κ × τ)) (waiting : List ρ) : Prop :=
  ∀ k t, slot = some (k, t) → ∃ r ∈ waiting, handler r = some k ∧ tag r = t

omit [DecidableEq τ] in
theorem slotFor_none {r : ρ} (h : handler r = none) : slotFor handler tag r = none := by
  rw [slotFor, h]
  rfl

omit [DecidableEq τ] in
theorem slotFor_some {r : ρ} {k : κ} (h : handler r = some k) :
    slotFor handler tag r = some (k, tag r) := by
  rw [slotFor, h]
  rfl

theorem deliver_same (k : κ) (t : τ) : deliver (some (k, t)) t = (some k, none) := by
  rw [deliver, if_pos rfl]

theorem deliver_other (k : κ) {t t' : τ} (h : t ≠ t') :
    deliver (some (k, t')) t = (none, some (k, t')) := by
  rw [deliver, if_neg h]

-- ── An empty slot ────────────────────────────────────────────────────────────

/-- The empty slot is right when nobody asked for an answer. -/
theorem fits_none_iff (waiting : List ρ) :
    Fits handler tag none waiting ↔ ∀ r ∈ waiting, handler r = none := by
  induction waiting with
  | nil => simp [Fits]
  | cons r rest ih =>
      rw [Fits]
      show none = handler r ∧ Fits handler tag none rest ↔ _
      rw [ih, List.forall_mem_cons, eq_comm]

-- ── Sending a request without touching the slot ──────────────────────────────

/-- A request that asks for nothing goes to the end: an answer asked for
    arrives before its own. -/
theorem fits_append {r : ρ} (hr : handler r = none) :
    ∀ {waiting : List ρ} {slot : Option (κ × τ)}, Fits handler tag slot waiting →
      Fits handler tag slot (waiting ++ [r]) := by
  intro waiting
  induction waiting with
  | nil =>
      intro slot h
      rw [show slot = none from h]
      exact (fits_none_iff handler tag [r]).mpr (by simpa using hr)
  | cons x rest ih =>
      intro slot h
      exact ⟨h.1, ih h.2⟩

theorem fits_of_append {r : ρ} (hr : handler r = none) :
    ∀ {waiting : List ρ} {slot : Option (κ × τ)},
      Fits handler tag slot (waiting ++ [r]) → Fits handler tag slot waiting := by
  intro waiting
  induction waiting with
  | nil =>
      rintro slot ⟨hdue, hempty⟩
      cases slot with
      | none => rfl
      | some held =>
          -- the answer to `r` would empty the slot, and so have a handler
          obtain ⟨k, t⟩ := held
          by_cases ht : tag r = t
          · subst ht
            rw [deliver_same, hr] at hdue
            exact nomatch hdue
          · rw [deliver_other k ht] at hempty
            exact nomatch hempty
  | cons x rest ih =>
      rintro slot ⟨hdue, hrest⟩
      exact ⟨hdue, ih hrest⟩

-- ── Sending a request that takes the slot ────────────────────────────────────

/-- A request's own slot is right exactly if nobody who waits asked for an
    answer, and nobody who waits has its tag. -/
theorem fits_slotFor_iff (r : ρ) (waiting : List ρ) :
    Fits handler tag (slotFor handler tag r) (waiting ++ [r])
      ↔ (∀ x ∈ waiting, handler x = none)
        ∧ (handler r ≠ none → ∀ x ∈ waiting, tag x ≠ tag r) := by
  cases hr : handler r with
  | none =>
      rw [slotFor_none handler tag hr, fits_none_iff, List.forall_mem_append]
      constructor
      · rintro ⟨hall, -⟩
        exact ⟨hall, fun h => absurd rfl h⟩
      · rintro ⟨hall, -⟩
        exact ⟨hall, by simpa using hr⟩
  | some k =>
      rw [slotFor_some handler tag hr]
      induction waiting with
      | nil => simp [Fits, deliver_same, hr]
      | cons x rest ih =>
          rw [List.cons_append, Fits]
          by_cases hx : tag x = tag r
          · -- the answer to `x` takes the slot, and none is left for `r`
            rw [hx, deliver_same]
            refine ⟨fun h => ?_, fun h => absurd hx (h.2 (by simp) x List.mem_cons_self)⟩
            have hlast := (fits_none_iff handler tag _).mp h.2 r (by simp)
            rw [hr] at hlast
            exact nomatch hlast
          · rw [deliver_other k hx]
            show none = handler x ∧ Fits handler tag (some (k, tag r)) (rest ++ [r]) ↔ _
            rw [ih, List.forall_mem_cons, List.forall_mem_cons, eq_comm]
            constructor
            · rintro ⟨hplain, hall, htags⟩
              exact ⟨⟨hplain, hall⟩, fun h => ⟨hx, htags h⟩⟩
            · rintro ⟨⟨hplain, hall⟩, htags⟩
              exact ⟨hplain, hall, fun h => (htags h).2⟩

/-- A request may take an empty slot if nobody who waits has its tag. -/
theorem fits_register {r : ρ} {waiting : List ρ} (h : Fits handler tag none waiting)
    (htag : handler r ≠ none → ∀ x ∈ waiting, tag x ≠ tag r) :
    Fits handler tag (slotFor handler tag r) (waiting ++ [r]) :=
  (fits_slotFor_iff handler tag r waiting).mpr
    ⟨(fits_none_iff handler tag waiting).mp h, htag⟩

omit [DecidableEq τ] in
/-- When nobody who waits asked for an answer, the slot is empty. -/
theorem empty_of_held {slot : Option (κ × τ)} {waiting : List ρ}
    (h : Held handler tag slot waiting) (hplain : ∀ x ∈ waiting, handler x = none) :
    slot = none := by
  cases slot with
  | none => rfl
  | some held =>
      obtain ⟨r, hr, hk, -⟩ := h held.1 held.2 rfl
      rw [hplain r hr] at hk
      exact nomatch hk

/-- Taking the slot does not put a wrong one right: if the slot is right after
    it was taken, it was empty before, and right. -/
theorem fits_of_register {r : ρ} {slot : Option (κ × τ)} {waiting : List ρ}
    (hheld : Held handler tag slot waiting)
    (h : Fits handler tag (slotFor handler tag r) (waiting ++ [r])) :
    slot = none ∧ Fits handler tag slot waiting := by
  have hplain := ((fits_slotFor_iff handler tag r waiting).mp h).1
  obtain rfl := empty_of_held handler tag hheld hplain
  exact ⟨rfl, (fits_none_iff handler tag waiting).mpr hplain⟩

-- ── The slot is held for a request that waits ────────────────────────────────

omit [DecidableEq τ] in
theorem held_append {slot : Option (κ × τ)} {waiting : List ρ} (r : ρ)
    (h : Held handler tag slot waiting) : Held handler tag slot (waiting ++ [r]) := by
  intro k t hslot
  obtain ⟨x, hx, hkt⟩ := h k t hslot
  exact ⟨x, List.mem_append_left _ hx, hkt⟩

omit [DecidableEq τ] in
theorem held_register (r : ρ) (waiting : List ρ) :
    Held handler tag (slotFor handler tag r) (waiting ++ [r]) := by
  intro k t hslot
  obtain ⟨k', hk', heq⟩ := Option.map_eq_some_iff.mp hslot
  obtain ⟨rfl, rfl⟩ := Prod.mk.inj heq
  exact ⟨r, by simp, hk', rfl⟩

/-- An answer leaves the slot to a later request or empties it. -/
theorem held_deliver {slot : Option (κ × τ)} {r : ρ} {rest : List ρ}
    (h : Held handler tag slot (r :: rest)) :
    Held handler tag (deliver slot (tag r)).2 rest := by
  cases slot with
  | none =>
      intro k t hslot
      exact nomatch hslot
  | some held =>
      obtain ⟨k, t⟩ := held
      by_cases ht : tag r = t
      · subst ht
        rw [deliver_same]
        intro k' t' hslot
        exact nomatch hslot
      · rw [deliver_other k ht]
        intro k' t' hslot
        obtain ⟨x, hx, hkt⟩ := h k' t' hslot
        rcases List.mem_cons.mp hx with rfl | hx
        · obtain ⟨rfl, rfl⟩ := Prod.mk.inj (Option.some.inj hslot)
          exact absurd hkt.2 ht
        · exact ⟨x, hx, hkt⟩

/-- With no request waiting the slot is right. -/
theorem fits_of_held_nil {slot : Option (κ × τ)}
    (h : Held handler tag slot ([] : List ρ)) : Fits handler tag slot [] :=
  empty_of_held handler tag h (fun _ hx => nomatch hx)

end AnswerSlot

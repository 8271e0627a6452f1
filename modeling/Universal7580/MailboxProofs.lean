import Mathlib.Data.List.Nodup

/-! # A worker's mailbox

    Messages are posted at the end of a queue; a worker takes the first one,
    holds it while it works on it, and is then done with it; and someone may
    wipe the queue, but not what the worker holds.  Messages are arbitrary and
    posted once each.

    `Ordered`: the worker was done with messages in the order in which they
    were posted, with each at most once, and with none that was wiped. -/

namespace Mailbox

variable {μ : Type}

/-- `past` are the messages that left the queue, oldest first; of these `wiped`
    were wiped, and the worker holds `hand` and is done with `handled`. -/
structure Box (μ : Type) where
  past : List μ
  queue : List μ
  hand : Option μ
  handled : List μ
  wiped : List μ
  deriving DecidableEq

/-- All messages so far. -/
def posted (b : Box μ) : List μ :=
  b.past ++ b.queue

def empty : Box μ :=
  { past := [], queue := [], hand := none, handled := [], wiped := [] }

def post (b : Box μ) (m : μ) : Box μ :=
  { b with queue := b.queue ++ [m] }

/-- The worker takes the first message, if it holds none. -/
def take (b : Box μ) : Option (Box μ) :=
  match b.hand, b.queue with
  | none, m :: rest => some { b with past := b.past ++ [m], queue := rest, hand := some m }
  | _, _ => none

/-- The worker is done with the message it holds. -/
def finish (b : Box μ) : Box μ :=
  { b with hand := none, handled := b.handled ++ b.hand.toList }

def wipe (b : Box μ) : Box μ :=
  { b with past := b.past ++ b.queue, queue := [], wiped := b.wiped ++ b.queue }

structure Ordered (b : Box μ) : Prop where
  nodup : (posted b).Nodup
  inOrder : (b.handled ++ b.hand.toList).Sublist b.past
  wiped : ∀ m ∈ b.wiped, m ∈ b.past ∧ m ∉ b.handled ++ b.hand.toList

theorem ordered_empty : Ordered (empty : Box μ) where
  nodup := List.nodup_nil
  inOrder := List.Sublist.refl _
  wiped := fun _ h => (nomatch h)

theorem posted_post (b : Box μ) (m : μ) : posted (post b m) = posted b ++ [m] :=
  (List.append_assoc ..).symm

theorem posted_finish (b : Box μ) : posted (finish b) = posted b := rfl

theorem posted_wipe (b : Box μ) : posted (wipe b) = posted b :=
  List.append_nil _

theorem take_cases {b b' : Box μ} (h : take b = some b') :
    ∃ m rest, b.hand = none ∧ b.queue = m :: rest
      ∧ b' = { b with past := b.past ++ [m], queue := rest, hand := some m } := by
  rw [take] at h
  split at h
  · rename_i m rest hhand hqueue
    exact ⟨m, rest, hhand, hqueue, (Option.some.inj h).symm⟩
  · exact nomatch h

theorem take_of_queue {b : Box μ} {m : μ} {rest : List μ} (hhand : b.hand = none)
    (hqueue : b.queue = m :: rest) :
    take b = some { b with past := b.past ++ [m], queue := rest, hand := some m } := by
  simp only [take, hhand, hqueue]

theorem posted_take {b b' : Box μ} (h : take b = some b') : posted b' = posted b := by
  obtain ⟨m, rest, -, hqueue, rfl⟩ := take_cases h
  show b.past ++ [m] ++ rest = b.past ++ b.queue
  rw [hqueue, List.append_assoc]
  rfl

theorem ordered_post {b : Box μ} (hb : Ordered b) {m : μ} (hm : m ∉ posted b) :
    Ordered (post b m) := by
  refine ⟨?_, hb.inOrder, hb.wiped⟩
  rw [posted_post]
  exact List.nodup_append.mpr ⟨hb.nodup, List.nodup_singleton m, by
    rintro x hx _ hy rfl
    exact hm (List.mem_singleton.mp hy ▸ hx)⟩

theorem ordered_take {b b' : Box μ} (hb : Ordered b) (h : take b = some b') : Ordered b' := by
  have hnodup := hb.nodup
  rw [← posted_take h] at hnodup
  obtain ⟨m, rest, hhand, hqueue, rfl⟩ := take_cases h
  refine ⟨hnodup, ?_, ?_⟩
  · have hdone := hb.inOrder
    rw [hhand, Option.toList_none, List.append_nil] at hdone
    exact hdone.append (List.Sublist.refl [m])
  · -- what was wiped left the queue before `m` did
    intro x hx
    obtain ⟨hpast, hfree⟩ := hb.wiped x hx
    refine ⟨List.mem_append_left _ hpast, ?_⟩
    rw [hhand, Option.toList_none, List.append_nil] at hfree
    intro hmem
    rcases List.mem_append.mp hmem with hdone | hheld
    · exact hfree hdone
    · obtain rfl := List.mem_singleton.mp hheld
      have hdisjoint := (List.nodup_append.mp (List.nodup_append.mp hnodup).1).2.2
      exact hdisjoint x hpast x List.mem_cons_self rfl

theorem ordered_finish {b : Box μ} (hb : Ordered b) : Ordered (finish b) := by
  refine ⟨hb.nodup, ?_, ?_⟩
  · show ((b.handled ++ b.hand.toList) ++ []).Sublist b.past
    rw [List.append_nil]
    exact hb.inOrder
  · show ∀ m ∈ b.wiped, m ∈ b.past ∧ m ∉ (b.handled ++ b.hand.toList) ++ []
    rw [List.append_nil]
    exact hb.wiped

theorem ordered_wipe {b : Box μ} (hb : Ordered b) : Ordered (wipe b) := by
  refine ⟨?_, hb.inOrder.trans (List.sublist_append_left ..), ?_⟩
  · rw [posted_wipe]
    exact hb.nodup
  · intro x hx
    rcases List.mem_append.mp hx with hold | hqueue
    · exact ⟨List.mem_append_left _ (hb.wiped x hold).1, (hb.wiped x hold).2⟩
    · refine ⟨List.mem_append_right _ hqueue, ?_⟩
      intro hdone
      exact (List.nodup_append.mp hb.nodup).2.2 x (hb.inOrder.subset hdone) x hqueue rfl

end Mailbox

import Mathlib.Algebra.Group.Int.Defs
import Universal7580.RunProofs
import Universal7580.KeyedListProofs
import Mathlib.Data.List.Nodup

/-! # The partial wake lock of `ril.cpp`

    While the framework still has to acknowledge a response, the daemon keeps
    the device awake.  `s_wakelock_count` counts the responses, and a timer puts
    the device back to sleep if the acknowledgements do not come.  Only the
    newest timer may do that: each one carries a mark, `userParam`, that is set
    when a newer timer takes over, and `s_last_wake_timeout_info` points to the
    newest.

    Timers fire at any time and are freed when they do.  `Protocol` is what
    holds in every state: counter, lock, marks and pointer fit together, and the
    pointer never points to freed memory. -/

namespace RilWakeLock

open Run KeyedList

-- ── The state ────────────────────────────────────────────────────────────────

/-- The `p_callback` of a timer: `wakeTimeoutCallback`, or one that the vendor
    RIL gave to `RIL_requestTimedCallback`. -/
inductive Callback where
  | wakeTimeout
  | vendor
  deriving DecidableEq

/-- `UserCallbackInfo`, with the address it lies at; a `userParam` of `0` is
    `NULL`. -/
structure UserCallbackInfo where
  ptr : Nat
  callback : Callback
  userParam : Nat

/-- `s_wakelock_count`, `s_last_wake_timeout_info` (`0` for `NULL`), the timers
    that were added and have not fired, and whether the lock
    `ANDROID_WAKE_LOCK_NAME` is held.  The lock is held or not: taking it twice
    and releasing it once leaves it free. -/
structure St where
  wakelockCount : Int := 0
  lastWakeTimeoutInfo : Nat := 0
  timers : List UserCallbackInfo := []
  held : Bool := false

-- ── The operations ───────────────────────────────────────────────────────────

/-- `internalRequestTimedCallback`; `ptr` is what `calloc` returns, memory that
    is not in use.  `none` when there is no such memory at `ptr`. -/
def internalRequestTimedCallback (s : St) (callback : Callback) (param ptr : Nat) : Option St :=
  if ptr ∈ s.timers.map (·.ptr) then none
  else if ptr = 0 then some s
  else some { s with timers := s.timers ++ [⟨ptr, callback, param⟩] }

/-- A timer after `userParam` of the one at `p` was set. -/
def mark (p : Nat) (t : UserCallbackInfo) : UserCallbackInfo :=
  if t.ptr = p then { t with userParam := 1 } else t

/-- `if (s_last_wake_timeout_info != NULL) s_last_wake_timeout_info->userParam =
    (void *)1`; `none` is a write to freed memory. -/
def cancelLast (s : St) : Option St :=
  if s.lastWakeTimeoutInfo = 0 then some s
  else if s.lastWakeTimeoutInfo ∈ s.timers.map (·.ptr) then
    some { s with timers := s.timers.map (mark s.lastWakeTimeoutInfo) }
  else none

/-- `s_wakelock_count++`.  The build has `LOCAL_SANITIZE := integer`: an overflow
    aborts. -/
def incCount (s : St) : Option St :=
  if s.wakelockCount < 2 ^ 31 - 1 then some { s with wakelockCount := s.wakelockCount + 1 }
  else none

/-- `grabPartialWakeLock`. -/
def grabPartialWakeLock (version : Int) (s : St) (ptr : Nat) : Option St :=
  let s := { s with held := true }
  if version ≥ 13 then do
    let s ← internalRequestTimedCallback s .wakeTimeout 0 ptr
    if ptr = 0 then return { s with held := false }
    else
      let s ← incCount s
      let s ← cancelLast s
      return { s with lastWakeTimeoutInfo := ptr }
  else some s

/-- `releaseWakeLock`. -/
def releaseWakeLock (version : Int) (s : St) : Option St :=
  if version ≥ 13 then
    if s.wakelockCount > 1 then some { s with wakelockCount := s.wakelockCount - 1 }
    else cancelLast { s with wakelockCount := 0, held := false }
  else some { s with held := false }

/-- `wakeTimeoutCallback`. -/
def wakeTimeoutCallback (version : Int) (s : St) (param : Nat) : Option St :=
  if version ≥ 13 then
    if param = 0 then some { s with wakelockCount := 0, held := false } else some s
  else if param = 0 then releaseWakeLock version s
  else some s

/-- The callback of a timer.  What a vendor's callback calls are steps of their
    own. -/
def runCallback (version : Int) (s : St) (t : UserCallbackInfo) : Option St :=
  match t.callback with
  | .wakeTimeout => wakeTimeoutCallback version s t.userParam
  | .vendor => some s

/-- `userTimerCallback`, for a timer that was added. -/
def userTimerCallback (version : Int) (s : St) (ptr : Nat) : Option St :=
  match atKey UserCallbackInfo.ptr ptr s.timers with
  | [] => none
  | t :: _ => do
      let s ← runCallback version s t
      let s := if s.lastWakeTimeoutInfo ≠ 0 ∧ s.lastWakeTimeoutInfo = ptr
        then { s with lastWakeTimeoutInfo := 0 } else s
      return { s with timers := offKey UserCallbackInfo.ptr ptr s.timers }

/-- What happens to the wake lock. -/
inductive Act where
  | grab (ptr : Nat)
  | release
  | fire (ptr : Nat)
  | requestTimedCallback (param ptr : Nat)

def step (version : Int) (s : St) : Act → Option St
  | .grab ptr => grabPartialWakeLock version s ptr
  | .release => releaseWakeLock version s
  | .fire ptr => userTimerCallback version s ptr
  | .requestTimedCallback param ptr => internalRequestTimedCallback s .vendor param ptr

-- ── The protocol ─────────────────────────────────────────────────────────────

/-- A wake timer that may still release the lock. -/
def live (t : UserCallbackInfo) : Bool := t.callback = .wakeTimeout ∧ t.userParam = 0

/-- The wake timers that are not cancelled. -/
def uncancelled (s : St) : List UserCallbackInfo := s.timers.filter live

/-- **THE WAKE LOCK PROTOCOL** in one state. -/
structure Protocol (s : St) : Prop where
  /-- The lock is held while responses are not acknowledged. -/
  held_iff : s.held = true ↔ s.wakelockCount > 0
  /-- While it is held one timer may release it, and it is the newest. -/
  newest : s.held = true → ∃ t, uncancelled s = [t] ∧ t.ptr = s.lastWakeTimeoutInfo
  /-- While it is free every wake timer is cancelled. -/
  cancelled : s.held = false → uncancelled s = []
  /-- The pointer to the newest timer is `NULL` or points to a pending wake timer. -/
  pointer : s.lastWakeTimeoutInfo = 0
    ∨ ∃ t ∈ s.timers, t.ptr = s.lastWakeTimeoutInfo ∧ t.callback = .wakeTimeout

/-- An operation that can happen in a state: allocations succeed, the counter
    has not reached the end of its type, and only pending timers fire. -/
def Possible (s : St) : Act → Prop
  | .grab ptr => ptr ≠ 0 ∧ ptr ∉ s.timers.map (·.ptr) ∧ s.wakelockCount < 2 ^ 31 - 1
  | .release => True
  | .fire ptr => ptr ∈ s.timers.map (·.ptr)
  | .requestTimedCallback _ ptr => ptr ≠ 0 ∧ ptr ∉ s.timers.map (·.ptr)

-- ── Marking timers ───────────────────────────────────────────────────────────

section Marks

variable {p : Nat} {l : List UserCallbackInfo}

@[simp] theorem mark_ptr (p : Nat) (t : UserCallbackInfo) : (mark p t).ptr = t.ptr := by
  rw [mark]
  split <;> rfl

@[simp] theorem mark_callback (p : Nat) (t : UserCallbackInfo) :
    (mark p t).callback = t.callback := by
  rw [mark]
  split <;> rfl

theorem mark_of_ne {t : UserCallbackInfo} (h : t.ptr ≠ p) : mark p t = t := if_neg h

theorem live_mark_self {t : UserCallbackInfo} (h : t.ptr = p) : live (mark p t) = false := by
  rw [mark, if_pos h, live]
  simp

theorem map_ptr_mark (p : Nat) (l : List UserCallbackInfo) :
    (l.map (mark p)).map (·.ptr) = l.map (·.ptr) := by
  rw [List.map_map]
  exact List.map_congr_left (fun t _ => mark_ptr p t)

/-- Setting a mark cancels the timer it is set on and no other. -/
theorem filter_live_mark (p : Nat) (l : List UserCallbackInfo) :
    (l.map (mark p)).filter live = offKey UserCallbackInfo.ptr p (l.filter live) := by
  induction l with
  | nil => rfl
  | cons t rest ih =>
      rw [List.map_cons]
      by_cases ht : t.ptr = p
      · rw [List.filter_cons_of_neg (by rw [live_mark_self ht]; simp), ih]
        cases hlive : live t with
        | false => rw [List.filter_cons_of_neg (by rw [hlive]; simp)]
        | true => rw [List.filter_cons_of_pos hlive, offKey_cons_self ht]
      · rw [mark_of_ne ht]
        cases hlive : live t with
        | false =>
            rw [List.filter_cons_of_neg (by rw [hlive]; simp),
              List.filter_cons_of_neg (by rw [hlive]; simp), ih]
        | true =>
            rw [List.filter_cons_of_pos hlive, List.filter_cons_of_pos hlive,
              offKey_cons_of_ne ht, ih]

theorem map_mark_of_not_mem (h : p ∉ l.map (·.ptr)) : l.map (mark p) = l := by
  have hself : l.map (mark p) = l.map id :=
    List.map_congr_left (fun t ht => mark_of_ne (fun heq => h (heq ▸ List.mem_map_of_mem ht)))
  rw [hself, List.map_id]

end Marks

-- ── The invariant ────────────────────────────────────────────────────────────

/-- What the protocol rests on: timers lie at addresses of their own. -/
structure Inv (s : St) : Prop where
  protocol : Protocol s
  nonneg : 0 ≤ s.wakelockCount
  distinct : (s.timers.map (·.ptr)).Nodup
  nonzero : 0 ∉ s.timers.map (·.ptr)

section Invariant

variable {version : Int} {s s' : St} {ptr : Nat}

theorem inv_init : Inv {} where
  protocol :=
    ⟨⟨fun h => (nomatch h), fun h => (nomatch h)⟩, fun h => (nomatch h), fun _ => rfl, Or.inl rfl⟩
  nonneg := Int.le_refl 0
  distinct := List.nodup_nil
  nonzero := fun h => nomatch h

/-- The pointer, as an address. -/
theorem Inv.last_mem (h : Inv s) :
    s.lastWakeTimeoutInfo = 0 ∨ s.lastWakeTimeoutInfo ∈ s.timers.map (·.ptr) := by
  rcases h.protocol.pointer with h0 | ⟨t, ht, hptr, -⟩
  · exact Or.inl h0
  · exact Or.inr (hptr ▸ List.mem_map_of_mem ht)

/-- Setting the mark of the newest timer cancels all there are. -/
theorem Inv.filter_live_last (h : Inv s) :
    (s.timers.map (mark s.lastWakeTimeoutInfo)).filter live = [] := by
  rw [filter_live_mark]
  cases hheld : s.held with
  | false =>
      have hnone : s.timers.filter live = [] := h.protocol.cancelled hheld
      rw [hnone]
      rfl
  | true =>
      obtain ⟨t, ht, hptr⟩ := h.protocol.newest hheld
      have hone : s.timers.filter live = [t] := ht
      rw [hone, offKey_cons_self hptr]
      rfl

/-- A write through a pointer that is `NULL` or valid. -/
theorem cancelLast_eq (h : s.lastWakeTimeoutInfo = 0
    ∨ s.lastWakeTimeoutInfo ∈ s.timers.map (·.ptr)) (hnonzero : 0 ∉ s.timers.map (·.ptr)) :
    cancelLast s = some { s with timers := s.timers.map (mark s.lastWakeTimeoutInfo) } := by
  rw [cancelLast]
  by_cases h0 : s.lastWakeTimeoutInfo = 0
  · have hself : s.timers.map (mark s.lastWakeTimeoutInfo) = s.timers := by
      rw [h0]
      exact map_mark_of_not_mem hnonzero
    rw [if_pos h0, hself]
  · rw [if_neg h0, if_pos (h.resolve_left h0)]

-- ── Steps ────────────────────────────────────────────────────────────────────

/-- A timer in memory that was free. -/
theorem requestTimedCallback_eq {callback : Callback} {param : Nat} (h0 : ptr ≠ 0)
    (hnew : ptr ∉ s.timers.map (·.ptr)) :
    internalRequestTimedCallback s callback param ptr
      = some { s with timers := s.timers ++ [⟨ptr, callback, param⟩] } := by
  rw [internalRequestTimedCallback, if_neg hnew, if_neg h0]

theorem ptrs_append (h : Inv s) (h0 : ptr ≠ 0) (hnew : ptr ∉ s.timers.map (·.ptr))
    {timers : List UserCallbackInfo} {t : UserCallbackInfo}
    (hptrs : timers.map (·.ptr) = s.timers.map (·.ptr)) (ht : t.ptr = ptr) :
    ((timers ++ [t]).map (·.ptr)).Nodup ∧ 0 ∉ (timers ++ [t]).map (·.ptr) := by
  rw [List.map_append, List.map_singleton, hptrs, ht]
  constructor
  · refine List.nodup_append.mpr ⟨h.distinct, List.nodup_singleton ptr, ?_⟩
    intro a ha b hb heq
    rw [List.mem_singleton.mp hb] at heq
    exact hnew (heq ▸ ha)
  · intro hin
    rcases List.mem_append.mp hin with hin | hin
    · exact h.nonzero hin
    · exact h0 (List.mem_singleton.mp hin).symm

/-- **GRAB**: the new timer is the only one left that counts. -/
theorem grab_spec (hv : version ≥ 13) (h : Inv s) (h0 : ptr ≠ 0)
    (hnew : ptr ∉ s.timers.map (·.ptr)) (hcount : s.wakelockCount < 2 ^ 31 - 1) :
    ∃ s', grabPartialWakeLock version s ptr = some s' ∧ Inv s' := by
  let t : UserCallbackInfo := ⟨ptr, .wakeTimeout, 0⟩
  have hlast := h.last_mem
  have hne : ptr ≠ s.lastWakeTimeoutInfo := by
    intro heq
    rcases hlast with hz | hmem
    · exact h0 (heq.trans hz)
    · exact hnew (heq ▸ hmem)
  have hmarks : (s.timers ++ [t]).map (mark s.lastWakeTimeoutInfo)
      = s.timers.map (mark s.lastWakeTimeoutInfo) ++ [t] := by
    rw [List.map_append, List.map_singleton, mark_of_ne hne]
  obtain ⟨hdistinct, hnonzero⟩ := @ptrs_append _ _ h h0 hnew s.timers t rfl rfl
  obtain ⟨hdistinct', hnonzero'⟩ := ptrs_append h h0 hnew (t := t)
    (map_ptr_mark s.lastWakeTimeoutInfo s.timers) rfl
  have hlast' : s.lastWakeTimeoutInfo = 0
      ∨ s.lastWakeTimeoutInfo ∈ (s.timers ++ [t]).map (·.ptr) := by
    refine hlast.imp id (fun hmem => ?_)
    rw [List.map_append]
    exact List.mem_append_left _ hmem
  refine ⟨{ wakelockCount := s.wakelockCount + 1, lastWakeTimeoutInfo := ptr
            timers := s.timers.map (mark s.lastWakeTimeoutInfo) ++ [t], held := true }, ?_, ?_⟩
  · unfold grabPartialWakeLock
    dsimp only
    rw [if_pos hv, requestTimedCallback_eq (s := { s with held := true }) h0 hnew]
    dsimp only [Option.bind_eq_bind, Option.bind_some]
    rw [if_neg h0, incCount, if_pos hcount]
    dsimp only [Option.bind_some]
    rw [cancelLast_eq (s := { s with
      wakelockCount := s.wakelockCount + 1, timers := s.timers ++ [t], held := true })
      hlast' hnonzero]
    dsimp only [Option.bind_some]
    rw [hmarks]
    rfl
  · have honly : (s.timers.map (mark s.lastWakeTimeoutInfo) ++ [t]).filter live = [t] := by
      rw [List.filter_append, h.filter_live_last]
      rfl
    refine ⟨⟨?_, fun _ => ⟨t, honly, rfl⟩, fun hfree => (nomatch hfree), Or.inr ?_⟩, ?_, hdistinct',
      hnonzero'⟩
    · have hnonneg := h.nonneg
      refine ⟨fun _ => ?_, fun _ => rfl⟩
      show s.wakelockCount + 1 > 0
      omega
    · exact ⟨t, List.mem_append_right _ (List.mem_singleton_self t), rfl, rfl⟩
    · have hnonneg := h.nonneg
      show 0 ≤ s.wakelockCount + 1
      omega

/-- **RELEASE**: the last one frees the lock and cancels the newest timer. -/
theorem release_spec (hv : version ≥ 13) (h : Inv s) :
    ∃ s', releaseWakeLock version s = some s' ∧ Inv s' := by
  obtain ⟨⟨hheld, hnewest, hcancelled, hpointer⟩, hnonneg, hdistinct, hnonzero⟩ := id h
  rw [releaseWakeLock]
  rw [if_pos hv]
  by_cases hcount : s.wakelockCount > 1
  · rw [if_pos hcount]
    refine ⟨_, rfl, ⟨?_, hnewest, hcancelled, hpointer⟩, ?_, hdistinct, hnonzero⟩
    · rw [hheld]
      constructor
      · intro _
        show s.wakelockCount - 1 > 0
        omega
      · intro _
        omega
    · show 0 ≤ s.wakelockCount - 1
      omega
  · rw [if_neg hcount, cancelLast_eq (s := { s with wakelockCount := 0, held := false })
      h.last_mem hnonzero]
    refine ⟨_, rfl, ⟨⟨fun hfalse => (nomatch hfalse), fun hfalse => (nomatch hfalse)⟩,
      fun hfalse => (nomatch hfalse), fun _ => h.filter_live_last, ?_⟩, Int.le_refl 0, ?_, ?_⟩
    · refine hpointer.imp id ?_
      rintro ⟨t, ht, hptr, hwake⟩
      exact ⟨mark s.lastWakeTimeoutInfo t, List.mem_map_of_mem ht, by rw [mark_ptr]; exact hptr,
        by rw [mark_callback]; exact hwake⟩
    · rw [map_ptr_mark]
      exact hdistinct
    · rw [map_ptr_mark]
      exact hnonzero

/-- A vendor's timer has no part in it. -/
theorem requestTimedCallback_spec {param : Nat} (h : Inv s) (h0 : ptr ≠ 0)
    (hnew : ptr ∉ s.timers.map (·.ptr)) :
    ∃ s', internalRequestTimedCallback s .vendor param ptr = some s' ∧ Inv s' := by
  rw [requestTimedCallback_eq h0 hnew]
  obtain ⟨hdistinct, hnonzero⟩ :=
    @ptrs_append _ _ h h0 hnew s.timers ⟨ptr, .vendor, param⟩ rfl rfl
  have hsame : uncancelled { s with timers := s.timers ++ [⟨ptr, .vendor, param⟩] }
      = uncancelled s := by
    rw [uncancelled, uncancelled, List.filter_append]
    exact List.append_nil _
  refine ⟨_, rfl, ⟨h.protocol.held_iff, ?_, ?_, ?_⟩, h.nonneg, hdistinct, hnonzero⟩
  · rw [hsame]
    exact h.protocol.newest
  · rw [hsame]
    exact h.protocol.cancelled
  · refine h.protocol.pointer.imp id ?_
    rintro ⟨t, ht, hptr, hwake⟩
    exact ⟨t, List.mem_append_left _ ht, hptr, hwake⟩

/-- The timers that count after one was freed. -/
theorem filter_live_offKey (p : Nat) (l : List UserCallbackInfo) :
    (offKey UserCallbackInfo.ptr p l).filter live
      = offKey UserCallbackInfo.ptr p (l.filter live) := by
  rw [offKey, offKey, List.filter_filter, List.filter_filter]
  exact List.filter_congr (fun t _ => Bool.and_comm _ _)

/-- The pointer after the timer at `p` fired. -/
def lastAfter (s : St) (p : Nat) : Nat :=
  if s.lastWakeTimeoutInfo ≠ 0 ∧ s.lastWakeTimeoutInfo = p then 0 else s.lastWakeTimeoutInfo

theorem pointer_after (h : Inv s) (p : Nat) :
    lastAfter s p = 0 ∨ ∃ t ∈ offKey UserCallbackInfo.ptr p s.timers,
      t.ptr = lastAfter s p ∧ t.callback = .wakeTimeout := by
  rw [lastAfter]
  split
  · exact Or.inl rfl
  · rename_i hne
    rcases h.protocol.pointer with h0 | ⟨t, ht, hptr, hwake⟩
    · exact Or.inl h0
    · refine Or.inr ⟨t, List.mem_filter.mpr ⟨ht, decide_eq_true ?_⟩, hptr, hwake⟩
      intro heq
      refine hne ⟨?_, hptr.symm.trans heq⟩
      intro h0
      exact h.nonzero (h0 ▸ hptr ▸ List.mem_map_of_mem ht)

/-- The state after the timer at `p` fired, if its callback leaves `count` and
    `held`. -/
theorem inv_fired (h : Inv s) {p : Nat} {count : Int} {held : Bool}
    (hheld : held = true ↔ count > 0) (hnonneg : 0 ≤ count)
    (hlive : held = true → s.held = true ∧ ∀ t ∈ uncancelled s, t.ptr ≠ p)
    (hfree : held = false → ∀ t ∈ uncancelled s, t.ptr = p) :
    Inv { wakelockCount := count, lastWakeTimeoutInfo := lastAfter s p
          timers := offKey UserCallbackInfo.ptr p s.timers, held := held } := by
  have hptrs : ((offKey UserCallbackInfo.ptr p s.timers).map (·.ptr)).Sublist
      (s.timers.map (·.ptr)) := List.filter_sublist.map _
  refine ⟨⟨hheld, ?_, ?_, pointer_after h p⟩, hnonneg, hptrs.nodup h.distinct,
    fun hin => h.nonzero (hptrs.subset hin)⟩
  · intro hh
    obtain ⟨hold, hkeep⟩ := hlive hh
    obtain ⟨t, ht, hptr⟩ := h.protocol.newest hold
    have hne : t.ptr ≠ p := hkeep t (ht ▸ List.mem_singleton_self t)
    refine ⟨t, ?_, ?_⟩
    · have hone : s.timers.filter live = [t] := ht
      show (offKey UserCallbackInfo.ptr p s.timers).filter live = [t]
      rw [filter_live_offKey, hone, offKey_cons_of_ne hne]
      rfl
    · show t.ptr = lastAfter s p
      rw [lastAfter, if_neg (fun hlast => hne (hptr.trans hlast.2)), hptr]
  · intro hh
    show (offKey UserCallbackInfo.ptr p s.timers).filter live = []
    rw [filter_live_offKey]
    refine List.filter_eq_nil_iff.mpr (fun t ht hne => ?_)
    exact of_decide_eq_true hne (hfree hh t ht)

/-- **FIRE**: the newest timer frees the lock, any other one does nothing. -/
theorem fire_spec (hv : version ≥ 13) (h : Inv s) (hptr : ptr ∈ s.timers.map (·.ptr)) :
    ∃ s', userTimerCallback version s ptr = some s' ∧ Inv s' := by
  obtain ⟨t, ht, rfl⟩ := List.mem_map.mp hptr
  have hat : atKey UserCallbackInfo.ptr t.ptr s.timers = [t] := atKey_eq_single h.distinct ht
  have hself : ∀ u ∈ uncancelled s, u.ptr = t.ptr → u = t := fun u hu heq =>
    List.inj_on_of_nodup_map h.distinct (List.mem_of_mem_filter hu) ht heq
  have hrun : ∀ s₁ : St, s₁.lastWakeTimeoutInfo = s.lastWakeTimeoutInfo → s₁.timers = s.timers →
      runCallback version s t = some s₁ →
      userTimerCallback version s t.ptr = some
        { wakelockCount := s₁.wakelockCount, lastWakeTimeoutInfo := lastAfter s t.ptr
          timers := offKey UserCallbackInfo.ptr t.ptr s.timers, held := s₁.held } := by
    intro s₁ hlast htimers hcallback
    rw [userTimerCallback, hat]
    dsimp only
    rw [hcallback]
    dsimp only [Option.bind_eq_bind, Option.bind_some]
    rw [lastAfter, hlast]
    split
    · rw [htimers]
      rfl
    · rw [htimers, hlast]
      rfl
  cases hlive : live t with
  | true =>
      -- the one timer that is not cancelled
      obtain ⟨hwake, hparam⟩ := of_decide_eq_true hlive
      have hcallback : runCallback version s t
          = some { s with wakelockCount := 0, held := false } := by
        rw [runCallback, hwake]
        dsimp only
        rw [wakeTimeoutCallback, if_pos hv, if_pos hparam]
      refine ⟨_, hrun { s with wakelockCount := 0, held := false } rfl rfl hcallback, ?_⟩
      refine inv_fired h ⟨fun hfalse => (nomatch hfalse), fun hfalse => (nomatch hfalse)⟩
        (Int.le_refl 0) (fun hfalse => (nomatch hfalse)) ?_
      intro _ u hu
      have hmem : t ∈ uncancelled s := List.mem_filter.mpr ⟨ht, hlive⟩
      cases hheld : s.held with
      | false =>
          rw [h.protocol.cancelled hheld] at hu
          exact nomatch hu
      | true =>
          obtain ⟨t', ht', -⟩ := h.protocol.newest hheld
          rw [ht'] at hu hmem
          rw [List.mem_singleton.mp hu, List.mem_singleton.mp hmem]
  | false =>
      have hcallback : runCallback version s t = some s := by
        rw [runCallback]
        cases hkind : t.callback with
        | vendor => rfl
        | wakeTimeout =>
            have hparam : t.userParam ≠ 0 := by
              intro h0
              rw [live, decide_eq_true ⟨hkind, h0⟩] at hlive
              exact nomatch hlive
            dsimp only
            rw [wakeTimeoutCallback, if_pos hv, if_neg hparam]
      have hkeep : ∀ u ∈ uncancelled s, u.ptr ≠ t.ptr := by
        intro u hu heq
        have hu' := hself u hu heq
        subst hu'
        have hlive' := List.of_mem_filter hu
        rw [hlive] at hlive'
        exact nomatch hlive'
      refine ⟨_, hrun s rfl rfl hcallback, ?_⟩
      refine inv_fired h h.protocol.held_iff h.nonneg (fun hh => ⟨hh, hkeep⟩) ?_
      intro hh u hu
      rw [h.protocol.cancelled hh] at hu
      exact nomatch hu

/-- **STEP LEMMA**: what can happen goes through and keeps the invariant. -/
theorem step_spec (hv : version ≥ 13) (h : Inv s) {a : Act} (ha : Possible s a) :
    ∃ s', step version s a = some s' ∧ Inv s' := by
  cases a with
  | grab ptr => exact grab_spec hv h ha.1 ha.2.1 ha.2.2
  | release => exact release_spec hv h
  | fire ptr => exact fire_spec hv h ha
  | requestTimedCallback param ptr => exact requestTimedCallback_spec h ha.1 ha.2

/-- A step that goes through, with its timer allocated, was possible or changed
    nothing. -/
theorem possible_of_step (hv : version ≥ 13) {a : Act} (halloc : ∀ ptr, a = .grab ptr → ptr ≠ 0)
    (hstep : step version s a = some s') : Possible s a ∨ s' = s := by
  cases a with
  | release => exact Or.inl trivial
  | grab ptr =>
      have h0 := halloc ptr rfl
      rw [step, grabPartialWakeLock, if_pos hv, internalRequestTimedCallback] at hstep
      by_cases hnew : ptr ∈ s.timers.map (·.ptr)
      · rw [if_pos hnew] at hstep
        exact nomatch hstep
      rw [if_neg hnew, if_neg h0] at hstep
      dsimp only [Option.bind_eq_bind, Option.bind_some] at hstep
      rw [if_neg h0, incCount] at hstep
      by_cases hcount : s.wakelockCount < 2 ^ 31 - 1
      · exact Or.inl ⟨h0, hnew, hcount⟩
      · rw [if_neg hcount] at hstep
        exact nomatch hstep
  | fire ptr =>
      rw [step, userTimerCallback] at hstep
      cases hat : atKey UserCallbackInfo.ptr ptr s.timers with
      | nil =>
          rw [hat] at hstep
          exact nomatch hstep
      | cons t rest =>
          have hmem : t ∈ atKey UserCallbackInfo.ptr ptr s.timers := hat ▸ List.mem_cons_self
          obtain ⟨ht, hptr⟩ := mem_atKey.mp hmem
          exact Or.inl (hptr ▸ List.mem_map_of_mem ht)
  | requestTimedCallback param ptr =>
      rw [step, internalRequestTimedCallback] at hstep
      by_cases hnew : ptr ∈ s.timers.map (·.ptr)
      · rw [if_pos hnew] at hstep
        exact nomatch hstep
      by_cases h0 : ptr = 0
      · rw [if_neg hnew, if_pos h0] at hstep
        exact Or.inr (Option.some.inj hstep).symm
      · exact Or.inl ⟨h0, hnew⟩

end Invariant

/-- **THE WAKE LOCK NEITHER LEAKS NOR ENDS EARLY**: for a vendor RIL of version 13
    or later, with timer allocations that succeed, the protocol holds in every
    state of every run, and no step touches freed memory. -/
theorem wakeLock_protocol (version : Int) (hv : version ≥ 13) (acts : List Act)
    (halloc : ∀ ptr, .grab ptr ∈ acts → ptr ≠ 0) :
    Always (step version)
      (fun s => Protocol s ∧ ∀ a, Possible s a → ∃ s', step version s a = some s') {} acts := by
  have hkeep : ∀ s a s', Inv s → (∀ ptr, a = .grab ptr → ptr ≠ 0) →
      step version s a = some s' → Inv s' := by
    intro s a s' h ha hstep
    rcases possible_of_step hv ha hstep with hpossible | rfl
    · obtain ⟨s₁, hs₁, hinv⟩ := step_spec hv h hpossible
      rw [Option.some.inj (hstep.symm.trans hs₁)]
      exact hinv
    · exact h
  refine always_of_stepsMeet ?_ hkeep acts
    inv_init ?_
  · intro s h
    refine ⟨h.protocol, fun a ha => ?_⟩
    obtain ⟨s', hs', -⟩ := step_spec hv h ha
    exact ⟨s', hs'⟩
  · refine stepsMeet_of_forall ?_ _
    intro a hmem _ ptr heq
    exact halloc ptr (heq ▸ hmem)

/-- Two responses, one acknowledgement, the first timer firing late, and the
    second putting the device to sleep. -/
def sampleActs : List Act := [.grab 8, .grab 16, .release, .fire 8, .fire 16, .release]

theorem wakeLock_protocol_sample :
    ∃ s, run (step 15) {} sampleActs = some s ∧ Protocol s := by
  have halways := wakeLock_protocol 15 (by decide) sampleActs (fun ptr hmem h0 => by
    subst h0
    simp [sampleActs] at hmem)
  exact ⟨_, rfl, (halways sampleActs [] _ (List.append_nil _).symm rfl).1⟩

end RilWakeLock

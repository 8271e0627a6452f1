import Universal7580.RilRadioProofs
import Mathlib.Data.List.Nodup

/-! # What the pending lists hold

    A request is added in one place and answered in two: by
    `RIL_onRequestComplete`, which takes it off its list, and by
    `sendErrorResponse`, which a method calls when it cannot hand the request
    over.  `Exact` says that the list of a slot is what it is for: the requests
    that were added for the slot and were not answered, newest first.

    `sendErrorResponse` answers and leaves the request where it is, so the lists
    stay exact exactly as long as no method answers a request itself
    (`exact_iff_handedOver`). -/

namespace RilExact

open Run KeyedList RilPending RilRadio

-- ── The machine ──────────────────────────────────────────────────────────────

/-- A call of `onRequest`. -/
structure OnRequest where
  request : Nat
  data : List Value
  token : Nat

/-- The lists and calls, every request that was added, newest first, and what
    was handed to the vendor RIL. -/
structure St (ρ : Type) where
  lists : RilPending.St String (Option ρ) := {}
  added : List (RequestInfo String) := []
  handed : List OnRequest := []

/-- A build: `SIM_COUNT`, the vendor RIL and its command table. -/
structure Service where
  simCount : Nat
  vendor : Vendor
  commandsV : List (CommandInfo String)

/-- The configuration of the pending lists. -/
def Service.config (svc : Service) : Config String :=
  radioConfig svc.simCount svc.vendor svc.commandsV

section Machine

variable {ρ : Type}

/-- `sendErrorResponse`; `none` is a crash on a `NULL` pointer. -/
def sendErrorResponse (lists : RilPending.St String (Option ρ)) (pRI : RequestInfo String)
    (err : Int) : Option (RilPending.St String (Option ρ)) :=
  match pRI.pCI with
  | none => none
  | some pCI =>
      match pCI.responseFunction with
      | none => none
      | some fn =>
          some { lists with calls := lists.calls ++
            [{ ptr := pRI.ptr, fn := fn, slotId := pRI.socketId, responseType := .solicited,
               token := pRI.token, errno := err, response := none }] }

/-- A method of `RadioImpl` or `OemHookImpl`, called with a serial number;
    `ptr` is what `addRequestToList` returns. -/
def request (svc : Service) (s : St ρ) (slotId serial : Int) (m : RadioRequest) (ptr : Nat)
    (heap : Nat → Bool) : Option (St ρ) :=
  let prog := radioImpl svc.vendor m
  if ptr = 0 then if prog.checksNull then some s else none
  else
    let pRI := newRequest svc.config serial slotId prog.request ptr
    let lists := addRequestToList svc.config s.lists serial slotId prog.request ptr
    let s := { s with lists := lists, added := pRI :: s.added }
    match marshal heap 0 prog.fields with
    | .ready data => some { s with handed := s.handed ++ [⟨prog.request, data, ptr⟩] }
    | .refused err => (sendErrorResponse s.lists pRI err).map (fun lists => { s with lists := lists })
    | .dropped => some s

/-- What happens to the lists. -/
inductive Act (ρ : Type) where
  | request (slotId serial : Int) (m : RadioRequest) (ptr : Nat) (heap : Nat → Bool)
  | ack (t : Nat) (junk : Int)
  | complete (t : Nat) (junk errno : Int) (response : Option ρ)

/-- The state after an operation, `none` for a crash.  Requests are told apart
    by their address, so a call that is given an address again is no step. -/
def step (svc : Service) (s : St ρ) : Act ρ → Option (St ρ)
  | .request slotId serial m ptr heap =>
      if ptr ∈ s.added.map (·.ptr) then none else request svc s slotId serial m ptr heap
  | .ack t junk =>
      (rilOnRequestAck svc.config s.lists t junk).map (fun lists =>
        { s with lists := acknowledge lists 0 (newRequest svc.config 0 0 0 0) })
  | .complete t junk errno response =>
      (respond svc.config (rilOnRequestComplete svc.config s.lists t junk errno response) 0).map
        (fun lists => { s with lists := lists })

/-- The addresses of the requests that were answered. -/
def answered (s : St ρ) : List Nat := s.lists.calls.map (·.ptr)

/-- The requests added for a list and not answered, newest first. -/
def waiting (svc : Service) (s : St ρ) (hook : Hook) : List (RequestInfo String) :=
  s.added.filter (fun r => addHook svc.simCount r.socketId = hook ∧ r.ptr ∉ answered s)

/-- **EXACT**: the list of every slot holds the requests that were added for it
    and not answered. -/
def Exact (svc : Service) (s : St ρ) : Prop :=
  ∀ slotId : Int, (s.lists.pending (addHook svc.simCount slotId)).map (·.ptr)
    = (waiting svc s (addHook svc.simCount slotId)).map (·.ptr)

/-- A method does not answer the request it added. -/
def HandedOver (svc : Service) : Act ρ → Prop
  | .request _ _ m ptr heap => ptr = 0 ∨ ¬ Refused heap (radioImpl svc.vendor m)
  | _ => True

end Machine

/-- The list of a slot of a build. -/
def ownHook (slotId : Int) : Hook :=
  if slotId = 1 then .socket2 else if slotId = 2 then .socket3
  else if slotId = 3 then .socket4 else .socket1

theorem addHook_own {simCount : Nat} {i : Int} (hn : i < simCount) :
    addHook simCount i = ownHook i := by
  rw [addHook, ownHook]
  by_cases h1 : i = 1
  · rw [if_pos (by omega), if_pos h1, if_pos h1]
  by_cases h2 : i = 2
  · rw [if_pos (by omega), if_neg h1, if_neg h1, if_pos ⟨by omega, h2⟩, if_pos h2]
  by_cases h3 : i = 3
  · rw [if_pos (by omega), if_neg h1, if_neg h1, if_neg (fun h => h2 h.2), if_neg h2,
      if_pos ⟨by omega, h3⟩, if_pos h3]
  · simp [h1, h2, h3]

/-- The slots of a build have lists of their own. -/
theorem addHook_inj {simCount : Nat} {i j : Int} (hi : 0 ≤ i ∧ i < simCount)
    (hj : 0 ≤ j ∧ j < simCount) (h4 : simCount ≤ 4)
    (h : addHook simCount i = addHook simCount j) : i = j := by
  rw [addHook_own hi.2, addHook_own hj.2] at h
  have hcases : ∀ k : Int, 0 ≤ k → k < 4 → k = 0 ∨ k = 1 ∨ k = 2 ∨ k = 3 := by omega
  rcases hcases i hi.1 (by omega) with rfl | rfl | rfl | rfl <;>
    rcases hcases j hj.1 (by omega) with rfl | rfl | rfl | rfl <;>
    first
    | rfl
    | exact nomatch h

-- ── The invariant ────────────────────────────────────────────────────────────

section Invariant

variable {ρ : Type} {svc : Service} {s s' : St ρ}

/-- What exact lists rest on. -/
structure Inv (svc : Service) (s : St ρ) : Prop where
  listed : ∀ hook, (s.lists.pending hook).map (·.ptr) = (waiting svc s hook).map (·.ptr)
  home : ∀ hook, ∀ r ∈ s.lists.pending hook, addHook svc.simCount r.socketId = hook
  ready : ∀ hook, ∀ r ∈ s.lists.pending hook, Ready r
  fresh : (s.added.map (·.ptr)).Nodup
  nonzero : 0 ∉ s.added.map (·.ptr)
  known : ∀ p ∈ answered s, p ∈ s.added.map (·.ptr)
  acking : s.lists.acking = []
  completing : s.lists.completing = []

theorem Inv.toExact (h : Inv svc s) : Exact svc s := fun _ => h.listed _

theorem inv_init : Inv svc ({} : St ρ) where
  listed _ := rfl
  home _ _ h := nomatch h
  ready _ _ h := nomatch h
  fresh := List.nodup_nil
  nonzero := fun h => nomatch h
  known _ h := nomatch h
  acking := rfl
  completing := rfl

theorem mem_waiting {hook : Hook} {r : RequestInfo String} :
    r ∈ waiting svc s hook
      ↔ r ∈ s.added ∧ addHook svc.simCount r.socketId = hook ∧ r.ptr ∉ answered s := by
  rw [waiting, List.mem_filter, decide_eq_true_iff]

/-- A pending request was added for its list and not answered. -/
theorem Inv.pending_added (h : Inv svc s) {hook : Hook} {r : RequestInfo String}
    (hr : r ∈ s.lists.pending hook) :
    ∃ a ∈ s.added, a.ptr = r.ptr ∧ addHook svc.simCount a.socketId = hook
      ∧ r.ptr ∉ answered s := by
  have hmem : r.ptr ∈ (s.lists.pending hook).map (·.ptr) := List.mem_map_of_mem hr
  rw [h.listed hook] at hmem
  obtain ⟨a, ha, hptr⟩ := List.mem_map.mp hmem
  obtain ⟨hadded, hhook, hnot⟩ := mem_waiting.mp ha
  exact ⟨a, hadded, hptr, hhook, hptr ▸ hnot⟩

theorem Inv.pending_nodup (h : Inv svc s) (hook : Hook) :
    ((s.lists.pending hook).map (·.ptr)).Nodup := by
  rw [h.listed hook]
  exact (List.filter_sublist.map _).nodup h.fresh

/-- A pending request waits in the sense of the protocol. -/
theorem Inv.agrees (h : Inv svc s) {hook : Hook} {r : RequestInfo String}
    (hr : r ∈ s.lists.pending hook) : Agrees svc.config s.lists r.ptr (.waiting r) := by
  obtain ⟨a, hadded, hptr, hhook, hnot⟩ := h.pending_added hr
  have hhome := h.home hook r hr
  refine ⟨h.ready hook r hr, ⟨?_, ?_⟩, ?_⟩
  · rw [h.completing]
    rfl
  · refine List.eq_nil_iff_forall_not_mem.mpr (fun c hc => ?_)
    obtain ⟨hmem, hkey⟩ := mem_atKey.mp hc
    exact hnot (hkey ▸ List.mem_map_of_mem hmem)
  · intro hook'
    show atKey RequestInfo.ptr r.ptr (s.lists.pending hook')
      = if hook' = addHook svc.simCount r.socketId then [r] else []
    rw [hhome]
    split
    · rename_i heq
      rw [heq]
      exact atKey_eq_single (h.pending_nodup hook) hr
    · rename_i hne
      refine List.eq_nil_iff_forall_not_mem.mpr (fun r' hr' => hne ?_)
      obtain ⟨hmem, hkey⟩ := mem_atKey.mp hr'
      obtain ⟨a', hadded', hptr', hhook', -⟩ := h.pending_added hmem
      -- two lists cannot both wait for one address
      have hsame : a' = a :=
        List.inj_on_of_nodup_map h.fresh hadded' hadded (hptr'.trans (hkey.trans hptr.symm))
      rw [← hhook', hsame, hhook]

-- ── Adding ───────────────────────────────────────────────────────────────────

theorem newRequest_ready (m : RadioRequest) (serial slotId : Int) (ptr : Nat) :
    Ready (newRequest svc.config serial slotId (radioImpl svc.vendor m).request ptr) := by
  have hsome := radioImpl_hasFunction svc.simCount svc.vendor svc.commandsV m
  obtain ⟨fn, hfn⟩ := Option.isSome_iff_exists.mp hsome
  obtain ⟨pCI, hpCI, hresp⟩ := Option.bind_eq_some_iff.mp hfn
  exact ⟨rfl, rfl, pCI, fn, hpCI, hresp⟩

theorem addRequestToList_eq (lists : RilPending.St String (Option ρ)) (serial slotId : Int)
    (req : Nat) {ptr : Nat} (h0 : ptr ≠ 0) :
    addRequestToList svc.config lists serial slotId req ptr
      = { lists with
          pending := Function.update lists.pending (addHook svc.simCount slotId)
            (newRequest svc.config serial slotId req ptr
              :: lists.pending (addHook svc.simCount slotId)) } :=
  if_neg h0

/-- A request that was added and not answered. -/
theorem inv_add (h : Inv svc s) {slotId serial : Int} {m : RadioRequest} {ptr : Nat}
    (h0 : ptr ≠ 0) (hnew : ptr ∉ s.added.map (·.ptr)) (handed : List OnRequest) :
    Inv svc
      { lists := addRequestToList svc.config s.lists serial slotId
          (radioImpl svc.vendor m).request ptr
        added := newRequest svc.config serial slotId (radioImpl svc.vendor m).request ptr
          :: s.added
        handed := handed } := by
  let r := newRequest svc.config serial slotId (radioImpl svc.vendor m).request ptr
  have hanswer : ptr ∉ answered s := fun hin => hnew (h.known ptr hin)
  rw [addRequestToList_eq _ _ _ _ h0]
  -- every entry is the new one or was there
  have hentry : ∀ hook, ∀ x ∈ Function.update s.lists.pending (addHook svc.simCount slotId)
      (r :: s.lists.pending (addHook svc.simCount slotId)) hook,
      (x = r ∧ hook = addHook svc.simCount slotId) ∨ x ∈ s.lists.pending hook := by
    intro hook x hx
    by_cases hh : hook = addHook svc.simCount slotId
    · rw [hh, Function.update_self] at hx
      rcases List.mem_cons.mp hx with hx | hx
      · exact Or.inl ⟨hx, hh⟩
      · exact Or.inr (hh ▸ hx)
    · rw [Function.update_of_ne hh] at hx
      exact Or.inr hx
  refine ⟨?_, ?_, ?_, ?_, ?_, ?_, h.acking, h.completing⟩
  · intro hook
    show (Function.update s.lists.pending (addHook svc.simCount slotId)
        (r :: s.lists.pending (addHook svc.simCount slotId)) hook).map (·.ptr)
      = ((r :: s.added).filter (fun r => addHook svc.simCount r.socketId = hook
          ∧ r.ptr ∉ answered s)).map (·.ptr)
    rw [List.filter_cons]
    by_cases hh : hook = addHook svc.simCount slotId
    · have hin : addHook svc.simCount r.socketId = hook ∧ r.ptr ∉ answered s := ⟨hh.symm, hanswer⟩
      rw [if_pos (decide_eq_true hin), hh, Function.update_self, List.map_cons, List.map_cons,
        h.listed]
      rfl
    · have hout : ¬ (addHook svc.simCount r.socketId = hook ∧ r.ptr ∉ answered s) :=
        fun hin => hh hin.1.symm
      rw [if_neg (fun hin => hout (of_decide_eq_true hin)), Function.update_of_ne hh, h.listed]
      rfl
  · intro hook x hx
    rcases hentry hook x hx with ⟨rfl, rfl⟩ | hx
    · rfl
    · exact h.home hook x hx
  · intro hook x hx
    rcases hentry hook x hx with ⟨rfl, -⟩ | hx
    · exact newRequest_ready m serial slotId ptr
    · exact h.ready hook x hx
  · exact List.nodup_cons.mpr ⟨hnew, h.fresh⟩
  · intro hin
    rcases List.mem_cons.mp hin with heq | hin
    · exact h0 heq.symm
    · exact h.nonzero hin
  · intro p hp
    exact List.mem_cons_of_mem ptr (h.known p hp)

/-- What a call of a method leaves, unless it crashes. -/
theorem inv_request (h : Inv svc s) {slotId serial : Int} {m : RadioRequest} {ptr : Nat}
    {heap : Nat → Bool} (hnew : ptr ∉ s.added.map (·.ptr))
    (hok : ptr = 0 ∨ ¬ Refused heap (radioImpl svc.vendor m))
    (hstep : request svc s slotId serial m ptr heap = some s') : Inv svc s' := by
  rw [request] at hstep
  dsimp only at hstep
  by_cases h0 : ptr = 0
  · rw [if_pos h0] at hstep
    split at hstep
    · rw [← Option.some.inj hstep]
      exact h
    · exact nomatch hstep
  · rw [if_neg h0] at hstep
    have hnot := hok.resolve_left h0
    split at hstep
    · rw [← Option.some.inj hstep]
      exact inv_add h h0 hnew _
    · rename_i err herr
      exact absurd ⟨err, herr⟩ hnot
    · rw [← Option.some.inj hstep]
      exact inv_add h h0 hnew _

/-- `sendErrorResponse` answers, and leaves the lists alone. -/
theorem sendErrorResponse_spec {lists lists' : RilPending.St String (Option ρ)}
    {pRI : RequestInfo String} {err : Int} (h : sendErrorResponse lists pRI err = some lists') :
    lists'.pending = lists.pending ∧ pRI.ptr ∈ lists'.calls.map (·.ptr) := by
  rw [sendErrorResponse] at h
  split at h
  · exact nomatch h
  split at h
  · exact nomatch h
  obtain rfl := Option.some.inj h
  refine ⟨rfl, ?_⟩
  rw [List.map_append]
  exact List.mem_append_right _ List.mem_cons_self

/-- **A REFUSED REQUEST STAYS**: it was answered and is still on its list. -/
theorem not_exact_of_refused {slotId serial : Int} {m : RadioRequest} {ptr : Nat}
    {heap : Nat → Bool} (h0 : ptr ≠ 0) (hrefused : Refused heap (radioImpl svc.vendor m))
    (hstep : request svc s slotId serial m ptr heap = some s') : ¬ Exact svc s' := by
  obtain ⟨err, herr⟩ := hrefused
  intro hexact
  rw [request] at hstep
  dsimp only at hstep
  rw [if_neg h0, herr] at hstep
  obtain ⟨lists, hsend, rfl⟩ := Option.map_eq_some_iff.mp hstep
  obtain ⟨hpending, hanswered⟩ := sendErrorResponse_spec hsend
  have hon : ptr ∈ (lists.pending (addHook svc.simCount slotId)).map (·.ptr) := by
    rw [hpending, addRequestToList_eq _ _ _ _ h0]
    dsimp only
    rw [Function.update_self]
    exact List.mem_cons_self
  have hlist := hexact slotId
  dsimp only at hlist
  rw [hlist] at hon
  obtain ⟨a, ha, hptr⟩ := List.mem_map.mp hon
  have hnot := (mem_waiting.mp ha).2.2
  rw [hptr] at hnot
  exact hnot hanswered

-- ── Acknowledging and completing ─────────────────────────────────────────────

/-- A token on no list. -/
theorem off_or_pending (s : St ρ) (t : Nat) :
    Off s.lists t ∨ ∃ hook, ∃ r ∈ s.lists.pending hook, r.ptr = t := by
  by_cases h : ∃ hook, ∃ r ∈ s.lists.pending hook, r.ptr = t
  · exact Or.inr h
  · refine Or.inl (fun hook => List.eq_nil_iff_forall_not_mem.mpr (fun r hr => h ?_))
    exact ⟨hook, r, mem_atKey.mp hr⟩

theorem Inv.ptr_ne_zero (h : Inv svc s) {hook : Hook} {r : RequestInfo String}
    (hr : r ∈ s.lists.pending hook) : r.ptr ≠ 0 := by
  intro h0
  obtain ⟨a, ha, hptr, -⟩ := h.pending_added hr
  exact h.nonzero (h0 ▸ hptr ▸ List.mem_map_of_mem ha)

/-- Completing a pending request takes it off its list and answers it. -/
theorem complete_pending (h : Inv svc s) {hook : Hook} {r : RequestInfo String}
    (hr : r ∈ s.lists.pending hook) (junk errno : Int) (response : Option ρ) :
    ∃ call : Call String (Option ρ), call.ptr = r.ptr
      ∧ respond svc.config (rilOnRequestComplete svc.config s.lists r.ptr junk errno response) 0
        = some { s.lists with
            pending := fun hook => offKey RequestInfo.ptr r.ptr (s.lists.pending hook)
            calls := s.lists.calls ++ [call] } := by
  have hagrees := h.agrees hr
  obtain ⟨l, hcheck, hat, hoff⟩ := @check_waiting _ _ _ _ _ junk _ hagrees (h.ptr_ne_zero hr) false
  obtain ⟨hready, -, hlist⟩ := hagrees
  have hpending : Function.update s.lists.pending (addHook svc.config.simCount r.socketId) l
      = fun hook => offKey RequestInfo.ptr r.ptr (s.lists.pending hook) := by
    funext hook'
    by_cases hh : hook' = addHook svc.config.simCount r.socketId
    · rw [hh, Function.update_self, ← hoff, offKey_eq_self hat]
    · rw [Function.update_of_ne hh, offKey_eq_self]
      rw [hlist hook', if_neg hh]
  have hcompleting : (rilOnRequestComplete svc.config s.lists r.ptr junk errno response)
      = { s.lists with
          pending := fun hook => offKey RequestInfo.ptr r.ptr (s.lists.pending hook)
          completing := [⟨r, errno, response⟩] } := by
    rw [rilOnRequestComplete, hcheck]
    dsimp only
    rw [hpending, h.completing]
    rfl
  obtain ⟨call, hcall, hptr⟩ : ∃ call : Call String (Option ρ),
      Completion.call svc.config ⟨r, errno, response⟩ = some call ∧ call.ptr = r.ptr := by
    obtain ⟨fn, -, hcall⟩ :=
      @call_of_ready _ _ svc.config ⟨r, errno, response⟩ hready
    exact ⟨_, hcall, rfl⟩
  refine ⟨call, hptr, ?_⟩
  rw [hcompleting]
  rw [respond]
  dsimp only [List.getElem?_cons_zero]
  rw [if_neg (by rw [hready.notLocal]; simp), if_neg (by rw [hready.notCancelled]; simp), hcall]
  dsimp only
  rw [List.eraseIdx_cons_zero, ← h.completing]

theorem inv_complete (h : Inv svc s) {t : Nat} {junk errno : Int} {response : Option ρ}
    (hstep : step svc s (.complete t junk errno response) = some s') : Inv svc s' := by
  obtain ⟨lists, hlists, rfl⟩ := Option.map_eq_some_iff.mp hstep
  rcases off_or_pending s t with hoff | ⟨hook, r, hr, rfl⟩
  · rw [rilOnRequestComplete, check_of_off hoff, respond, h.completing] at hlists
    obtain rfl := Option.some.inj hlists
    exact h
  · obtain ⟨call, hptr, hcomplete⟩ := complete_pending h hr junk errno response
    obtain rfl := Option.some.inj (hcomplete.symm.trans hlists)
    have hmem : ∀ hook', ∀ x ∈ offKey RequestInfo.ptr r.ptr (s.lists.pending hook'),
        x ∈ s.lists.pending hook' := fun _ _ hx => List.mem_of_mem_filter hx
    refine ⟨?_, fun hook' x hx => h.home hook' x (hmem hook' x hx),
      fun hook' x hx => h.ready hook' x (hmem hook' x hx), h.fresh, h.nonzero, ?_, h.acking,
      h.completing⟩
    · intro hook'
      -- both sides lose exactly the request that was answered
      have hwaiting : waiting svc
          { s with lists := { s.lists with
              pending := fun hook => offKey RequestInfo.ptr r.ptr (s.lists.pending hook)
              calls := s.lists.calls ++ [call] } } hook'
          = offKey RequestInfo.ptr r.ptr (waiting svc s hook') := by
        unfold waiting offKey
        rw [List.filter_filter]
        refine List.filter_congr (fun x _ => ?_)
        simp only [answered, List.map_append, List.mem_append, List.map_cons, List.map_nil,
          List.mem_singleton, hptr]
        by_cases hx : x.ptr = r.ptr <;> simp [hx]
      rw [hwaiting]
      show (offKey RequestInfo.ptr r.ptr (s.lists.pending hook')).map (·.ptr) = _
      rw [map_offKey, map_offKey]
      exact congrArg _ (h.listed hook')
    · intro p hp
      rw [answered, List.map_append] at hp
      rcases List.mem_append.mp hp with hp | hp
      · exact h.known p hp
      · obtain ⟨a, ha, haptr, -⟩ := h.pending_added hr
        rw [List.map_singleton, List.mem_singleton] at hp
        rw [hp, hptr, ← haptr]
        exact List.mem_map_of_mem ha

/-- Marking a request keeps the list it is on. -/
theorem check_ack_spec {lists lists' : RilPending.St String (Option ρ)} {t : Nat} {junk : Int}
    {r : RequestInfo String}
    (h : checkAndDequeueRequestInfoIfAck svc.config lists t junk true = some (r, lists')) :
    ∃ pending', lists' = { lists with pending := pending' }
      ∧ (∀ hook, (pending' hook).map (·.ptr) = (lists.pending hook).map (·.ptr))
      ∧ ∀ hook, ∀ y ∈ pending' hook, ∃ x ∈ lists.pending hook,
        y = x ∨ y = { x with wasAckSent := true } := by
  rw [checkAndDequeueRequestInfoIfAck] at h
  split at h
  · cases h
  dsimp only at h
  split at h
  · cases h
  rename_i x l hl
  obtain ⟨rfl, rfl⟩ := Prod.mk.inj (Option.some.inj h)
  refine ⟨_, rfl, ?_, ?_⟩
  · intro hook
    by_cases hh : hook = dequeueHook svc.config.simCount (readSocketId lists t junk)
    · subst hh
      rw [Function.update_self]
      exact map_key_spliceAt (fun x => ⟨{ x with wasAckSent := true }, rfl, rfl⟩) hl
    · rw [Function.update_of_ne hh]
  · intro hook y hy
    by_cases hh : hook = dequeueHook svc.config.simCount (readSocketId lists t junk)
    · subst hh
      rw [Function.update_self] at hy
      obtain ⟨hx, hall⟩ := mem_spliceAt hl
      rcases hall y hy with hy | hy
      · exact ⟨y, hy, Or.inl rfl⟩
      · exact ⟨x, hx, Or.inr (Option.some.inj hy).symm⟩
    · rw [Function.update_of_ne hh] at hy
      exact ⟨y, hy, Or.inl rfl⟩

/-- The rest of an acknowledgement only tells the client. -/
theorem acknowledge_spec (lists : RilPending.St String (Option ρ)) (junk : RequestInfo String) :
    (acknowledge lists 0 junk).pending = lists.pending
      ∧ (acknowledge lists 0 junk).calls = lists.calls
      ∧ (acknowledge lists 0 junk).completing = lists.completing
      ∧ (acknowledge lists 0 junk).acking = lists.acking.tail := by
  rw [acknowledge]
  cases hacking : lists.acking with
  | nil => exact ⟨rfl, rfl, rfl, hacking⟩
  | cons t rest =>
      dsimp only [List.getElem?_cons_zero]
      split
      · exact ⟨rfl, rfl, rfl, rfl⟩
      · exact ⟨rfl, rfl, rfl, rfl⟩

theorem inv_ack (h : Inv svc s) {t : Nat} {junk : Int}
    (hstep : step svc s (.ack t junk) = some s') : Inv svc s' := by
  obtain ⟨lists, hack, rfl⟩ := Option.map_eq_some_iff.mp hstep
  obtain ⟨hpending, hcalls, hcompleting, hacking⟩ :=
    acknowledge_spec lists (newRequest svc.config 0 0 0 0)
  have hlists : ∃ pending', lists.pending = pending' ∧ lists.calls = s.lists.calls
      ∧ lists.completing = [] ∧ lists.acking.tail = []
      ∧ (∀ hook, (pending' hook).map (·.ptr) = (s.lists.pending hook).map (·.ptr))
      ∧ ∀ hook, ∀ y ∈ pending' hook, ∃ x ∈ s.lists.pending hook,
        y = x ∨ y = { x with wasAckSent := true } := by
    rw [rilOnRequestAck] at hack
    split at hack
    · obtain rfl := Option.some.inj hack
      refine ⟨_, rfl, rfl, h.completing, ?_, fun _ => rfl, fun hook y hy => ⟨y, hy, Or.inl rfl⟩⟩
      rw [h.acking]
      rfl
    · rename_i r lists₁ hcheck
      split at hack
      · cases hack
      obtain rfl := Option.some.inj hack
      obtain ⟨pending', rfl, hkeys, hentries⟩ := check_ack_spec hcheck
      refine ⟨pending', rfl, rfl, h.completing, ?_, hkeys, hentries⟩
      dsimp only
      rw [h.acking]
      rfl
  obtain ⟨pending', hp, hc, hcomp, htail, hkeys, hentries⟩ := hlists
  have hanswered : answered { s with
      lists := acknowledge lists 0 (newRequest svc.config 0 0 0 0) } = answered s := by
    rw [answered, answered, hcalls, hc]
  refine ⟨?_, ?_, ?_, h.fresh, h.nonzero, ?_, ?_, ?_⟩
  · intro hook
    rw [waiting, hanswered]
    dsimp only
    rw [hpending, hp, hkeys, h.listed hook]
    rfl
  · intro hook y hy
    dsimp only at hy
    rw [hpending, hp] at hy
    obtain ⟨x, hx, rfl | rfl⟩ := hentries hook y hy
    · exact h.home hook _ hx
    · exact h.home hook x hx
  · intro hook y hy
    dsimp only at hy
    rw [hpending, hp] at hy
    obtain ⟨x, hx, rfl | rfl⟩ := hentries hook y hy
    · exact h.ready hook _ hx
    · have hready := h.ready hook x hx
      exact ⟨hready.1, hready.2, hready.3⟩
  · rw [hanswered]
    exact h.known
  · exact hacking.trans htail
  · exact hcompleting.trans hcomp

-- ── Runs ─────────────────────────────────────────────────────────────────────

/-- **STEP LEMMA**: a step that hands its request over keeps the invariant. -/
theorem inv_step {a : Act ρ} (h : Inv svc s) (hok : HandedOver svc a)
    (hstep : step svc s a = some s') : Inv svc s' := by
  cases a with
  | request slotId serial m ptr heap =>
      rw [step] at hstep
      split at hstep
      · exact nomatch hstep
      · rename_i hnew
        exact inv_request h hnew hok hstep
  | ack t junk => exact inv_ack h hstep
  | complete t junk errno response => exact inv_complete h hstep

/-- No step crashes, unless it refuses a request that could not be added and
    does not check for that. -/
theorem step_defined (h : Inv svc s) (a : Act ρ)
    (hrequest : ∀ slotId serial m ptr heap, a = .request slotId serial m ptr heap →
      ptr ∉ s.added.map (·.ptr) ∧ (ptr = 0 → (radioImpl svc.vendor m).checksNull = true)) :
    ∃ s', step svc s a = some s' := by
  cases a with
  | request slotId serial m ptr heap =>
      obtain ⟨hnew, hnull⟩ := hrequest slotId serial m ptr heap rfl
      rw [step, if_neg hnew, request]
      dsimp only
      by_cases h0 : ptr = 0
      · rw [if_pos h0, if_pos (hnull h0)]
        exact ⟨s, rfl⟩
      rw [if_neg h0]
      obtain ⟨pCI, fn, hpCI, hfn⟩ := (@newRequest_ready svc m serial slotId ptr).function
      split
      · exact ⟨_, rfl⟩
      · rw [sendErrorResponse, hpCI]
        dsimp only
        rw [hfn]
        exact ⟨_, rfl⟩
      · exact ⟨_, rfl⟩
  | ack t junk =>
      show ∃ s', (rilOnRequestAck svc.config s.lists t junk).map _ = some s'
      rcases off_or_pending s t with hoff | ⟨hook, r, hr, rfl⟩
      · rw [rilOnRequestAck, check_of_off hoff]
        exact ⟨_, rfl⟩
      · obtain ⟨l, hcheck, -, -⟩ :=
          @check_waiting _ _ _ _ _ junk _ (h.agrees hr) (h.ptr_ne_zero hr) true
        obtain ⟨pCI, -, hpCI, -⟩ := (h.ready hook r hr).function
        rw [rilOnRequestAck, hcheck]
        dsimp only
        rw [if_neg (by rw [hpCI]; simp)]
        exact ⟨_, rfl⟩
  | complete t junk errno response =>
      show ∃ s', (respond svc.config _ 0).map _ = some s'
      rcases off_or_pending s t with hoff | ⟨hook, r, hr, rfl⟩
      · rw [rilOnRequestComplete, check_of_off hoff, respond, h.completing]
        exact ⟨_, rfl⟩
      · obtain ⟨call, -, hcomplete⟩ := complete_pending h hr junk errno response
        rw [hcomplete]
        exact ⟨_, rfl⟩

/-- A step that answers its own request leaves the lists inexact. -/
theorem handedOver_of_exact {a : Act ρ} (hstep : step svc s a = some s')
    (hexact : Exact svc s') : HandedOver svc a := by
  cases a with
  | request slotId serial m ptr heap =>
      rw [step] at hstep
      split at hstep
      · exact nomatch hstep
      · by_cases h0 : ptr = 0
        · exact Or.inl h0
        · exact Or.inr (fun hrefused => not_exact_of_refused h0 hrefused hstep hexact)
  | ack t junk => trivial
  | complete t junk errno response => trivial

end Invariant

/-- **THE LISTS ARE EXACT** all along a run exactly when every method in the run
    hands its request over to the vendor RIL instead of answering it. -/
theorem exact_iff_handedOver {ρ : Type} (svc : Service) (acts : List (Act ρ)) :
    Always (step svc) (Exact svc) ({} : St ρ) acts
      ↔ StepsMeet (step svc) (fun _ a => HandedOver svc a) ({} : St ρ) acts :=
  always_iff_stepsMeet (fun _ (h : Inv svc _) => h.toExact)
    (fun _ _ _ h hok hstep => inv_step h hok hstep)
    (fun _ _ _ _ hstep hexact => handedOver_of_exact hstep hexact) acts inv_init

/-- One slot, and a vendor RIL of version 12. -/
def sampleService : Service := { simCount := 1, vendor := { version := 12 }, commandsV := [] }

/-- The filter for indications, which version 12 does not know. -/
def sampleRequest : Act Unit := .request 0 100 (.setIndicationFilter 5) 8 (fun _ => true)

/-- The request is refused, answered, and still pending. -/
theorem exact_fails_indicationFilter :
    (∃ s, run (step sampleService) {} [sampleRequest] = some s
      ∧ (s.lists.pending .socket1).map (·.ptr) = [8] ∧ answered s = [8])
      ∧ ¬ Always (step sampleService) (Exact sampleService) {} [sampleRequest] := by
  constructor
  · exact ⟨_, rfl, rfl, rfl⟩
  · intro halways
    have hexact := halways [sampleRequest] [] _ rfl rfl 0
    exact nomatch hexact

end RilExact

import Universal7580.RunProofs
import Universal7580.KeyedListProofs
import Mathlib.Logic.Function.Basic

/-! # The pending requests of `ril.cpp`

    A request of the framework is put on the pending list of its slot and
    handed to the vendor RIL as a token, which is the address of its
    `RequestInfo`.  The vendor RIL acknowledges and completes tokens from any
    thread, in any order, and may come back with tokens that were completed
    long ago.

    Operations are cut where the list's mutex is released: between the search
    in the list and the call of the response function other threads run.  What
    every request goes through is the small automaton `Status.next`; the lists
    of all slots together simulate one such automaton for each request
    (`agrees_step`), and the protocol's guarantees are read off it. -/

namespace RilPending

open Run KeyedList

-- ── Data model ───────────────────────────────────────────────────────────────

/-- The list heads `s_pendingRequests`, `s_pendingRequests_socket2` and so
    on. -/
inductive Hook where
  | socket1
  | socket2
  | socket3
  | socket4
  deriving DecidableEq

/-- `CommandInfo`; `F` is the type of response functions, `none` is `NULL`. -/
structure CommandInfo (F : Type) where
  requestNumber : Nat
  responseFunction : Option F

/-- `RequestInfo`, with the address it lies at. -/
structure RequestInfo (F : Type) where
  ptr : Nat
  token : Int
  pCI : Option (CommandInfo F)
  socketId : Int
  cancelled : Bool := false
  isLocal : Bool := false
  wasAckSent : Bool := false

/-- What a build and its vendor RIL fix: `SIM_COUNT`, `s_callbacks.version` and
    the tables `s_commands` and `s_commands_v`. -/
structure Config (F : Type) where
  simCount : Nat
  version : Int
  commands : List (CommandInfo F)
  commandsV : List (CommandInfo F)

/-- The `responseType` argument of a response function. -/
inductive ResponseType where
  | solicited
  | solicitedAckExp
  deriving DecidableEq

/-- A completion whose request is off its list and not answered yet. -/
structure Completion (F R : Type) where
  request : RequestInfo F
  errno : Int
  response : R

/-- A call of a response function, for the request at `ptr`. -/
structure Call (F R : Type) where
  ptr : Nat
  fn : F
  slotId : Int
  responseType : ResponseType
  token : Int
  errno : Int
  response : R

/-- The pending lists, the threads inside `RIL_onRequestAck` and
    `RIL_onRequestComplete` that have left the list's mutex, and the calls made
    so far of `acknowledgeRequest` and of response functions. -/
structure St (F R : Type) where
  pending : Hook → List (RequestInfo F) := fun _ => []
  acking : List Nat := []
  completing : List (Completion F R) := []
  acknowledged : List (Int × Int) := []
  calls : List (Call F R) := []

-- ── Adding requests ──────────────────────────────────────────────────────────

/-- `RIL_OEM_REQUEST_BASE`. -/
def rilOemRequestBase : Nat := 10000

/-- The list `addRequestToList` picks for a slot. -/
def addHook (simCount : Nat) (socketId : Int) : Hook :=
  if 2 ≤ simCount then
    if socketId = 1 then .socket2
    else if 3 ≤ simCount ∧ socketId = 2 then .socket3
    else if 4 ≤ simCount ∧ socketId = 3 then .socket4
    else .socket1
  else .socket1

/-- The list `checkAndDequeueRequestInfoIfAck` picks, by a chain of separate
    `if`s. -/
def dequeueHook (simCount : Nat) (socketId : Int) : Hook :=
  let hook := Hook.socket1
  if 2 ≤ simCount then
    let hook := if socketId = 1 then .socket2 else hook
    let hook := if 3 ≤ simCount ∧ socketId = 2 then .socket3 else hook
    if 4 ≤ simCount ∧ socketId = 3 then .socket4 else hook
  else hook

section Model

variable {F R : Type}

/-- The entry of a request in the command tables. -/
def findCommand (cfg : Config F) (request : Nat) : Option (CommandInfo F) :=
  if request > rilOemRequestBase then cfg.commandsV[request - rilOemRequestBase]?
  else cfg.commands[request]?

/-- The response function of a request, if it has one. -/
def responseFunction (cfg : Config F) (request : Nat) : Option F :=
  (findCommand cfg request).bind (·.responseFunction)

/-- The new `RequestInfo` of `addRequestToList`. -/
def newRequest (cfg : Config F) (serial slotId : Int) (request ptr : Nat) : RequestInfo F :=
  { ptr := ptr, token := serial, pCI := findCommand cfg request, socketId := slotId }

/-- `addRequestToList`; `ptr` is what `calloc` returns. -/
def addRequestToList (cfg : Config F) (s : St F R) (serial slotId : Int) (request ptr : Nat) :
    St F R :=
  let hook := addHook cfg.simCount slotId
  if ptr = 0 then s
  else
    { s with
      pending := Function.update s.pending hook
        (newRequest cfg serial slotId request ptr :: s.pending hook) }

-- ── Acknowledging and completing ─────────────────────────────────────────────

/-- The requests whose memory has not been freed. -/
def allocated (s : St F R) : List (RequestInfo F) :=
  s.pending .socket1 ++ s.pending .socket2 ++ s.pending .socket3 ++ s.pending .socket4
    ++ s.completing.map (·.request)

/-- `pRI->socket_id`.  Memory that is not a request any more reads as
    `junk`. -/
def readSocketId (s : St F R) (t : Nat) (junk : Int) : Int :=
  match (allocated s).find? (fun r => r.ptr = t) with
  | some r => r.socketId
  | none => junk

/-- `checkAndDequeueRequestInfoIfAck`: the request and the lists after it was
    marked or taken off, `none` when the token is on no list. -/
def checkAndDequeueRequestInfoIfAck (cfg : Config F) (s : St F R) (t : Nat) (junk : Int)
    (isAck : Bool) : Option (RequestInfo F × St F R) :=
  if t = 0 then none
  else
    let hook := dequeueHook cfg.simCount (readSocketId s t junk)
    let mark := fun r : RequestInfo F => if isAck then some { r with wasAckSent := true } else none
    match spliceAt RequestInfo.ptr t mark (s.pending hook) with
    | none => none
    | some (r, l) => some (r, { s with pending := Function.update s.pending hook l })

/-- `RIL_onRequestAck`, up to the end of the search.  The log line for a second
    acknowledgement reads `pCI`: `none` is that crash. -/
def rilOnRequestAck (cfg : Config F) (s : St F R) (t : Nat) (junk : Int) : Option (St F R) :=
  match checkAndDequeueRequestInfoIfAck cfg s t junk true with
  | none => some s
  | some (r, s') =>
      if r.wasAckSent ∧ r.pCI.isNone then none else some { s' with acking := s'.acking ++ [t] }

/-- The rest of `RIL_onRequestAck`, in the thread at `i`.  The request may have
    been completed and freed by now. -/
def acknowledge (s : St F R) (i : Nat) (junk : RequestInfo F) : St F R :=
  match s.acking[i]? with
  | none => s
  | some t =>
      let r := ((allocated s).find? (fun r => r.ptr = t)).getD junk
      let s := { s with acking := s.acking.eraseIdx i }
      if r.cancelled then s
      else { s with acknowledged := s.acknowledged ++ [(r.socketId, r.token)] }

/-- `RIL_onRequestComplete`, up to the end of the search. -/
def rilOnRequestComplete (cfg : Config F) (s : St F R) (t : Nat) (junk errno : Int)
    (response : R) : St F R :=
  match checkAndDequeueRequestInfoIfAck cfg s t junk false with
  | none => s
  | some (r, s') => { s' with completing := s'.completing ++ [⟨r, errno, response⟩] }

/-- The response type of a completed request. -/
def responseType (cfg : Config F) (wasAckSent : Bool) : ResponseType :=
  if cfg.version ≥ 13 ∧ wasAckSent then .solicitedAckExp else .solicited

/-- The call of `pCI->responseFunction`; `none` is a crash on a `NULL`
    pointer. -/
def Completion.call (cfg : Config F) (c : Completion F R) : Option (Call F R) :=
  match c.request.pCI with
  | none => none
  | some pCI =>
      pCI.responseFunction.map (fun fn =>
        { ptr := c.request.ptr, fn := fn, slotId := c.request.socketId,
          responseType := responseType cfg c.request.wasAckSent, token := c.request.token,
          errno := c.errno, response := c.response })

/-- The rest of `RIL_onRequestComplete`, in the thread at `i`. -/
def respond (cfg : Config F) (s : St F R) (i : Nat) : Option (St F R) :=
  match s.completing[i]? with
  | none => some s
  | some c =>
      let s := { s with completing := s.completing.eraseIdx i }
      if c.request.isLocal then if c.request.pCI.isNone then none else some s
      else if c.request.cancelled then some s
      else match c.call cfg with
        | none => none
        | some call => some { s with calls := s.calls ++ [call] }

/-- One step of one thread. -/
inductive Act (F R : Type) where
  | add (serial slotId : Int) (request ptr : Nat)
  | ack (t : Nat) (junk : Int)
  | acknowledge (i : Nat) (junk : RequestInfo F)
  | complete (t : Nat) (junk errno : Int) (response : R)
  | respond (i : Nat)

/-- The state after a step, `none` for a crash. -/
def step (cfg : Config F) (s : St F R) : Act F R → Option (St F R)
  | .add serial slotId request ptr => some (addRequestToList cfg s serial slotId request ptr)
  | .ack t junk => rilOnRequestAck cfg s t junk
  | .acknowledge i junk => some (acknowledge s i junk)
  | .complete t junk errno response => some (rilOnRequestComplete cfg s t junk errno response)
  | .respond i => respond cfg s i

end Model

/-- Both functions pick the same list. -/
theorem dequeueHook_eq (simCount : Nat) (socketId : Int) :
    dequeueHook simCount socketId = addHook simCount socketId := by
  rw [dequeueHook, addHook]
  dsimp only
  split
  · by_cases h1 : socketId = 1
    · subst h1
      simp
    · by_cases h2 : socketId = 2
      · subst h2
        simp
      · simp [h1, h2]
  · rfl

-- ── What one request goes through ────────────────────────────────────────────

/-- Where a request stands. -/
inductive Status (F R : Type) where
  | unissued
  | waiting (r : RequestInfo F)
  | answered (c : Completion F R)

section Automaton

variable {F R : Type}

/-- **THE AUTOMATON OF ONE REQUEST**: it is issued once, can be marked while it
    waits, and is answered by the first completion. -/
def Status.next (cfg : Config F) (p : Nat) : Status F R → Act F R → Status F R
  | .unissued, .add serial slotId request ptr =>
      if ptr = p ∧ ptr ≠ 0 then .waiting (newRequest cfg serial slotId request ptr)
      else .unissued
  | .waiting r, .ack t _ => if t = p then .waiting { r with wasAckSent := true } else .waiting r
  | .waiting r, .complete t _ errno response =>
      if t = p then .answered ⟨r, errno, response⟩ else .waiting r
  | st, _ => st

/-- The status of the request at `p` after a list of steps. -/
def status (cfg : Config F) (p : Nat) (acts : List (Act F R)) : Status F R :=
  acts.foldl (Status.next cfg p) .unissued

/-- A request that is answered by calling its response function. -/
structure Ready (r : RequestInfo F) : Prop where
  notLocal : r.isLocal = false
  notCancelled : r.cancelled = false
  function : ∃ pCI fn, r.pCI = some pCI ∧ pCI.responseFunction = some fn

/-- The lists hold nothing for `p`. -/
def Off (s : St F R) (p : Nat) : Prop := ∀ h, atKey RequestInfo.ptr p (s.pending h) = []

/-- No completion of `p` is on its way and no response function was called for
    it. -/
def Silent (s : St F R) (p : Nat) : Prop :=
  atKey (fun c : Completion F R => c.request.ptr) p s.completing = []
    ∧ atKey Call.ptr p s.calls = []

/-- Completion `c` is the one answer for `p`: its response function is about to
    be called, or it was called. -/
def Answered (cfg : Config F) (s : St F R) (p : Nat) (c : Completion F R) : Prop :=
  (atKey (fun c : Completion F R => c.request.ptr) p s.completing = [c]
      ∧ atKey Call.ptr p s.calls = [])
    ∨ (atKey (fun c : Completion F R => c.request.ptr) p s.completing = []
      ∧ ∃ call, c.call cfg = some call ∧ atKey Call.ptr p s.calls = [call])

/-- What the state holds for a request of a status. -/
def Agrees (cfg : Config F) (s : St F R) (p : Nat) : Status F R → Prop
  | .unissued => Off s p ∧ Silent s p
  | .waiting r => Ready r ∧ Silent s p ∧ ∀ h, atKey RequestInfo.ptr p (s.pending h)
      = if h = addHook cfg.simCount r.socketId then [r] else []
  | .answered c => Ready c.request ∧ Off s p ∧ Answered cfg s p c

end Automaton

-- ── The search in the lists ──────────────────────────────────────────────────

section Search

variable {F R : Type} {cfg : Config F} {s : St F R} {t p : Nat} {junk : Int}

/-- A token on no list is not found, whatever its memory reads as. -/
theorem check_of_off (h : Off s t) (isAck : Bool) :
    checkAndDequeueRequestInfoIfAck cfg s t junk isAck = none := by
  rw [checkAndDequeueRequestInfoIfAck]
  split
  · rfl
  · dsimp only
    rw [spliceAt_eq_none (h _)]

theorem mem_allocated {r : RequestInfo F} :
    r ∈ allocated s ↔ (∃ h, r ∈ s.pending h) ∨ ∃ c ∈ s.completing, c.request = r := by
  rw [allocated]
  simp only [List.mem_append, List.mem_map]
  constructor
  · rintro ((((h | h) | h) | h) | h)
    · exact Or.inl ⟨_, h⟩
    · exact Or.inl ⟨_, h⟩
    · exact Or.inl ⟨_, h⟩
    · exact Or.inl ⟨_, h⟩
    · exact Or.inr h
  · rintro (⟨h, hr⟩ | h)
    · cases h with
      | socket1 => exact Or.inl (Or.inl (Or.inl (Or.inl hr)))
      | socket2 => exact Or.inl (Or.inl (Or.inl (Or.inr hr)))
      | socket3 => exact Or.inl (Or.inl (Or.inr hr))
      | socket4 => exact Or.inl (Or.inr hr)
    · exact Or.inr h

/-- The memory of a waiting request still holds its slot. -/
theorem readSocketId_waiting {r : RequestInfo F} (h : Agrees cfg s t (.waiting r)) :
    readSocketId s t junk = r.socketId := by
  obtain ⟨-, ⟨hcompleting, -⟩, hlist⟩ := h
  have hself := hlist (addHook cfg.simCount r.socketId)
  rw [if_pos rfl] at hself
  obtain ⟨hmem, hptr⟩ := key_of_atKey_single hself
  rw [readSocketId]
  cases hfind : (allocated s).find? (fun r => r.ptr = t) with
  | none =>
      have hne := List.find?_eq_none.mp hfind r (mem_allocated.mpr (Or.inl ⟨_, hmem⟩))
      exact absurd (decide_eq_true hptr) hne
  | some r' =>
      have hdec := List.find?_some hfind
      have hr' : r'.ptr = t := of_decide_eq_true hdec
      rcases mem_allocated.mp (List.mem_of_find?_eq_some hfind) with ⟨h', hin⟩ | ⟨c, hc, hreq⟩
      · have hat : r' ∈ atKey RequestInfo.ptr t (s.pending h') := mem_atKey.mpr ⟨hin, hr'⟩
        rw [hlist h'] at hat
        split at hat
        · rw [List.mem_singleton.mp hat]
        · exact nomatch hat
      · have hat : c ∈ atKey (fun c : Completion F R => c.request.ptr) t s.completing :=
          mem_atKey.mpr ⟨hc, by rw [hreq]; exact hr'⟩
        rw [hcompleting] at hat
        exact nomatch hat

/-- A waiting request is found, and only its own entry changes. -/
theorem check_waiting {r : RequestInfo F} (h : Agrees cfg s t (.waiting r)) (ht : t ≠ 0)
    (isAck : Bool) :
    ∃ l, checkAndDequeueRequestInfoIfAck cfg s t junk isAck
        = some (r, { s with
            pending := Function.update s.pending (addHook cfg.simCount r.socketId) l })
      ∧ atKey RequestInfo.ptr t l = (if isAck then [{ r with wasAckSent := true }] else [])
      ∧ offKey RequestInfo.ptr t l
        = offKey RequestInfo.ptr t (s.pending (addHook cfg.simCount r.socketId)) := by
  have hread := @readSocketId_waiting _ _ _ _ _ junk _ h
  obtain ⟨-, -, hlist⟩ := h
  have hself := hlist (addHook cfg.simCount r.socketId)
  rw [if_pos rfl] at hself
  have hptr := (key_of_atKey_single hself).2
  let mark := fun r : RequestInfo F => if isAck then some { r with wasAckSent := true } else none
  have hmark : ∀ y, mark r = some y → y.ptr = t := by
    intro y hy
    cases isAck with
    | false => exact nomatch hy
    | true =>
        rw [← Option.some.inj hy]
        exact hptr
  obtain ⟨l, hl, hat, hoff⟩ := spliceAt_single hmark hself
  refine ⟨l, ?_, ?_, hoff⟩
  · rw [checkAndDequeueRequestInfoIfAck]
    rw [if_neg ht, hread, dequeueHook_eq]
    dsimp only
    rw [hl]
  · rw [hat]
    cases isAck with
    | false => rfl
    | true => rfl

/-- **OTHER REQUESTS**: a search leaves every list as it was but for the entry
    of its token. -/
theorem check_others {isAck : Bool} {r : RequestInfo F} {s' : St F R}
    (h : checkAndDequeueRequestInfoIfAck cfg s t junk isAck = some (r, s')) (hook : Hook) :
    offKey RequestInfo.ptr t (s'.pending hook) = offKey RequestInfo.ptr t (s.pending hook) := by
  rw [checkAndDequeueRequestInfoIfAck] at h
  split at h
  · cases h
  dsimp only at h
  split at h
  · cases h
  · rename_i r' l hl
    obtain ⟨rfl, rfl⟩ := Prod.mk.inj (Option.some.inj h)
    dsimp only
    by_cases hh : hook = dequeueHook cfg.simCount (readSocketId s t junk)
    · subst hh
      rw [Function.update_self]
      refine offKey_spliceAt ?_ hl
      intro x y hx hy
      cases isAck with
      | false => cases hy
      | true =>
          rw [← Option.some.inj hy]
          exact hx
    · rw [Function.update_of_ne hh]

end Search

-- ── Simulation ───────────────────────────────────────────────────────────────

section Simulation

variable {F R : Type} {cfg : Config F} {s s' : St F R} {p : Nat} {st : Nat → Status F R}

/-- The request a step is about. -/
def Act.subject : Act F R → Option Nat
  | .add _ _ _ ptr => some ptr
  | .ack t _ => some t
  | .complete t _ _ _ => some t
  | _ => none

theorem next_of_ne {x : Status F R} {a : Act F R} (h : a.subject ≠ some p) :
    x.next cfg p a = x := by
  have hne : ∀ q, a.subject = some q → q ≠ p := by
    intro q hq heq
    rw [hq, heq] at h
    exact h rfl
  cases x with
  | unissued =>
      cases a with
      | add serial slotId request ptr => exact if_neg (fun hp => hne ptr rfl hp.1)
      | _ => rfl
  | waiting r =>
      cases a with
      | ack t junk => exact if_neg (hne t rfl)
      | complete t junk errno response => exact if_neg (hne t rfl)
      | _ => rfl
  | answered c => rfl

/-- Tokens that do not wait are ignored. -/
theorem next_of_not_waiting {x : Status F R} {a : Act F R} (hx : ∀ r, x ≠ .waiting r)
    (ha : ∀ serial slotId request ptr, a ≠ .add serial slotId request ptr) :
    x.next cfg p a = x := by
  cases x with
  | unissued =>
      cases a with
      | add serial slotId request ptr => exact absurd rfl (ha serial slotId request ptr)
      | _ => rfl
  | waiting r => exact absurd rfl (hx r)
  | answered c => rfl

/-- What a state holds for `p` decides whether it agrees. -/
theorem Agrees.frame {x : Status F R}
    (hpending : ∀ h, atKey RequestInfo.ptr p (s'.pending h)
      = atKey RequestInfo.ptr p (s.pending h))
    (hcompleting : atKey (fun c : Completion F R => c.request.ptr) p s'.completing
      = atKey (fun c : Completion F R => c.request.ptr) p s.completing)
    (hcalls : atKey Call.ptr p s'.calls = atKey Call.ptr p s.calls) (h : Agrees cfg s p x) :
    Agrees cfg s' p x := by
  cases x with
  | unissued =>
      obtain ⟨hoff, hsilent⟩ := h
      refine ⟨fun hook => (hpending hook).trans (hoff hook), ?_⟩
      rw [Silent, hcompleting, hcalls]
      exact hsilent
  | waiting r =>
      obtain ⟨hready, hsilent, hlist⟩ := h
      refine ⟨hready, ?_, fun hook => (hpending hook).trans (hlist hook)⟩
      rw [Silent, hcompleting, hcalls]
      exact hsilent
  | answered c =>
      obtain ⟨hready, hoff, hanswer⟩ := h
      refine ⟨hready, fun hook => (hpending hook).trans (hoff hook), ?_⟩
      rw [Answered, hcompleting, hcalls]
      exact hanswer

/-- A request that does not wait is on no list. -/
theorem Agrees.off {x : Status F R} (h : Agrees cfg s p x) (hx : ∀ r, x ≠ .waiting r) :
    Off s p := by
  cases x with
  | unissued => exact h.1
  | waiting r => exact absurd rfl (hx r)
  | answered c => exact h.2.1

theorem call_of_ready {c : Completion F R} (h : Ready c.request) :
    ∃ fn, c.request.pCI.bind (·.responseFunction) = some fn
      ∧ c.call cfg = some
        { ptr := c.request.ptr, fn := fn, slotId := c.request.socketId,
          responseType := responseType cfg c.request.wasAckSent, token := c.request.token,
          errno := c.errno, response := c.response } := by
  obtain ⟨pCI, fn, hpCI, hfn⟩ := h.function
  refine ⟨fn, ?_, ?_⟩
  · rw [hpCI]
    exact hfn
  · rw [Completion.call]
    rw [hpCI]
    dsimp only
    rw [hfn]
    rfl

/-- What an `add` has to respect: addresses are not reused, and the request has
    a response function. -/
def Issuable (cfg : Config F) (st : Nat → Status F R) : Act F R → Prop
  | .add _ _ request ptr =>
      (ptr ≠ 0 → st ptr = .unissued) ∧ (responseFunction cfg request).isSome
  | _ => True

theorem agrees_add {serial slotId : Int} {request ptr : Nat} (h : ∀ p, Agrees cfg s p (st p))
    (hok : Issuable cfg st (.add serial slotId request ptr)) (p : Nat) :
    Agrees cfg (addRequestToList cfg s serial slotId request ptr) p
      ((st p).next cfg p (.add serial slotId request ptr)) := by
  obtain ⟨hfresh, hfn⟩ := hok
  unfold addRequestToList
  dsimp only
  by_cases h0 : ptr = 0
  · rw [if_pos h0]
    have hsame : (st p).next cfg p (.add serial slotId request ptr) = st p := by
      cases st p with
      | unissued => exact if_neg (fun hp => hp.2 h0)
      | waiting r => rfl
      | answered c => rfl
    rw [hsame]
    exact h p
  rw [if_neg h0]
  by_cases hp : ptr = p
  · subst hp
    have hnew := h ptr
    rw [hfresh h0] at hnew ⊢
    obtain ⟨hoff, hsilent⟩ := hnew
    show Agrees cfg _ ptr (if ptr = ptr ∧ ptr ≠ 0 then _ else _)
    rw [if_pos ⟨rfl, h0⟩]
    obtain ⟨fn, hfn⟩ := Option.isSome_iff_exists.mp hfn
    obtain ⟨pCI, hpCI, hresp⟩ := Option.bind_eq_some_iff.mp hfn
    refine ⟨⟨rfl, rfl, pCI, fn, hpCI, hresp⟩, hsilent, ?_⟩
    intro hook
    show atKey RequestInfo.ptr ptr (Function.update s.pending (addHook cfg.simCount slotId) _ hook)
      = if hook = addHook cfg.simCount slotId then _ else _
    by_cases hh : hook = addHook cfg.simCount slotId
    · have hkey : (newRequest cfg serial slotId request ptr).ptr = ptr := rfl
      rw [if_pos hh, hh, Function.update_self, atKey_cons_self hkey, hoff]
    · rw [if_neg hh, Function.update_of_ne hh, hoff]
  · have hsubject : (Act.add serial slotId request ptr : Act F R).subject ≠ some p :=
      fun heq => hp (Option.some.inj heq)
    rw [next_of_ne hsubject]
    refine Agrees.frame (s := s) ?_ rfl rfl (h p)
    intro hook
    dsimp only
    by_cases hh : hook = addHook cfg.simCount slotId
    · rw [hh, Function.update_self]
      exact atKey_cons_of_ne hp _
    · rw [Function.update_of_ne hh]

/-- The lists after the entry of one token changed, seen from another
    request. -/
theorem atKey_pending_update {t : Nat} {hook : Hook} {l : List (RequestInfo F)}
    (hoff : offKey RequestInfo.ptr t l = offKey RequestInfo.ptr t (s.pending hook)) (hp : p ≠ t)
    (h : Hook) :
    atKey RequestInfo.ptr p (Function.update s.pending hook l h)
      = atKey RequestInfo.ptr p (s.pending h) := by
  by_cases hh : h = hook
  · rw [hh, Function.update_self]
    exact atKey_eq_of_offKey_eq hoff hp
  · rw [Function.update_of_ne hh]

/-- The lists after the entry of one token changed, seen from its own
    request. -/
theorem atKey_pending_self {t : Nat} {r : RequestInfo F} {l l' : List (RequestInfo F)}
    (hlist : ∀ h, atKey RequestInfo.ptr t (s.pending h)
      = if h = addHook cfg.simCount r.socketId then [r] else [])
    (hat : atKey RequestInfo.ptr t l = l') (h : Hook) :
    atKey RequestInfo.ptr t (Function.update s.pending (addHook cfg.simCount r.socketId) l h)
      = if h = addHook cfg.simCount r.socketId then l' else [] := by
  by_cases hh : h = addHook cfg.simCount r.socketId
  · rw [if_pos hh, hh, Function.update_self, hat]
  · rw [if_neg hh, Function.update_of_ne hh, hlist h, if_neg hh]

/-- No request has token 0. -/
theorem token_ne_zero {t : Nat} {r : RequestInfo F} (h0 : st 0 = .unissued)
    (hr : st t = .waiting r) : t ≠ 0 := by
  intro heq
  rw [heq, h0] at hr
  exact nomatch hr

/-- An answer to a token that nobody waits for changes no request's status. -/
theorem agrees_stale {t : Nat} {a : Act F R} (h : ∀ p, Agrees cfg s p (st p))
    (hstale : ∀ r, st t ≠ .waiting r) (hsubject : a.subject = some t)
    (ha : ∀ serial slotId request ptr, a ≠ .add serial slotId request ptr) (p : Nat) :
    Agrees cfg s p ((st p).next cfg p a) := by
  by_cases hp : t = p
  · subst hp
    rw [next_of_not_waiting hstale ha]
    exact h t
  · rw [next_of_ne (fun heq => hp (Option.some.inj (hsubject.symm.trans heq)))]
    exact h p

theorem agrees_ack {t : Nat} {junk : Int} (h : ∀ p, Agrees cfg s p (st p))
    (h0 : st 0 = .unissued) :
    ∃ s', rilOnRequestAck cfg s t junk = some s'
      ∧ ∀ p, Agrees cfg s' p ((st p).next cfg p (.ack t junk)) := by
  have hother : ∀ p, t ≠ p → (Act.ack t junk : Act F R).subject ≠ some p :=
    fun p hp heq => hp (Option.some.inj heq)
  rw [rilOnRequestAck]
  by_cases hwait : ∃ r, st t = .waiting r
  · obtain ⟨r, hr⟩ := hwait
    have ht : t ≠ 0 := token_ne_zero h0 hr
    have hself := h t
    rw [hr] at hself
    obtain ⟨l, hcheck, hat, hoff⟩ := @check_waiting _ _ _ _ _ junk _ hself ht true
    obtain ⟨hready, hsilent, hlist⟩ := hself
    obtain ⟨pCI, -, hpCI, -⟩ := hready.function
    rw [hcheck]
    dsimp only
    rw [if_neg (by rw [hpCI]; simp)]
    refine ⟨_, rfl, ?_⟩
    intro p
    by_cases hp : t = p
    · subst hp
      rw [hr]
      show Agrees cfg _ t (if t = t then _ else _)
      rw [if_pos rfl]
      refine ⟨⟨hready.1, hready.2, hready.3⟩, hsilent, ?_⟩
      exact atKey_pending_self hlist hat
    · rw [next_of_ne (hother p hp)]
      exact Agrees.frame (atKey_pending_update hoff (Ne.symm hp)) rfl rfl (h p)
  · have hstale : ∀ r, st t ≠ .waiting r := fun r hr => hwait ⟨r, hr⟩
    rw [check_of_off ((h t).off hstale)]
    exact ⟨s, rfl, agrees_stale h hstale rfl (fun _ _ _ _ heq => nomatch heq)⟩

theorem agrees_complete {t : Nat} {junk errno : Int} {response : R}
    (h : ∀ p, Agrees cfg s p (st p)) (h0 : st 0 = .unissued) (p : Nat) :
    Agrees cfg (rilOnRequestComplete cfg s t junk errno response) p
      ((st p).next cfg p (.complete t junk errno response)) := by
  have hother : t ≠ p → (Act.complete t junk errno response : Act F R).subject ≠ some p :=
    fun hp heq => hp (Option.some.inj heq)
  rw [rilOnRequestComplete]
  by_cases hwait : ∃ r, st t = .waiting r
  · obtain ⟨r, hr⟩ := hwait
    have ht : t ≠ 0 := token_ne_zero h0 hr
    have hself := h t
    rw [hr] at hself
    obtain ⟨l, hcheck, hat, hoff⟩ := @check_waiting _ _ _ _ _ junk _ hself ht false
    obtain ⟨hready, ⟨hcompleting, hcalls⟩, hlist⟩ := hself
    have hkey : r.ptr = t := by
      have hown := hlist (addHook cfg.simCount r.socketId)
      rw [if_pos rfl] at hown
      exact (key_of_atKey_single hown).2
    rw [hcheck]
    dsimp only
    by_cases hp : t = p
    · subst hp
      rw [hr]
      show Agrees cfg _ t (if t = t then _ else _)
      rw [if_pos rfl]
      refine ⟨hready, ?_, Or.inl ⟨?_, hcalls⟩⟩
      · intro hook
        rw [atKey_pending_self hlist hat hook]
        simp
      · rw [atKey_append, hcompleting]
        exact @atKey_cons_self _ _ _ (fun c : Completion F R => c.request.ptr) _ _ hkey []
    · rw [next_of_ne (hother hp)]
      refine Agrees.frame (atKey_pending_update hoff (Ne.symm hp)) ?_ rfl (h p)
      dsimp only
      rw [atKey_append, atKey_cons_of_ne (by rw [hkey]; exact hp), atKey_nil, List.append_nil]
  · have hstale : ∀ r, st t ≠ .waiting r := fun r hr => hwait ⟨r, hr⟩
    rw [check_of_off ((h t).off hstale)]
    refine agrees_stale h hstale rfl ?_ p
    exact fun _ _ _ _ heq => nomatch heq

theorem agrees_respond {i : Nat} (h : ∀ p, Agrees cfg s p (st p)) :
    ∃ s', respond cfg s i = some s' ∧ ∀ p, Agrees cfg s' p (st p) := by
  rw [respond]
  cases hi : s.completing[i]? with
  | none => exact ⟨s, rfl, h⟩
  | some c =>
      have hmem : c ∈ s.completing := List.mem_of_getElem? hi
      have hself := h c.request.ptr
      -- the thread's own request can only be one that was answered
      have hanswered : ∃ c', st c.request.ptr = .answered c' ∧ Ready c'.request
          ∧ Off s c.request.ptr
          ∧ atKey (fun c : Completion F R => c.request.ptr) c.request.ptr s.completing = [c']
          ∧ atKey Call.ptr c.request.ptr s.calls = [] := by
        have hat : c ∈ atKey (fun c : Completion F R => c.request.ptr) c.request.ptr
            s.completing := mem_atKey.mpr ⟨hmem, rfl⟩
        cases hst : st c.request.ptr with
        | unissued =>
            rw [hst] at hself
            rw [hself.2.1] at hat
            exact nomatch hat
        | waiting r =>
            rw [hst] at hself
            rw [hself.2.1.1] at hat
            exact nomatch hat
        | answered c' =>
            rw [hst] at hself
            obtain ⟨hready, hoff, ⟨hc, hcalls⟩ | ⟨hc, -⟩⟩ := hself
            · exact ⟨c', rfl, hready, hoff, hc, hcalls⟩
            · rw [hc] at hat
              exact nomatch hat
      obtain ⟨c', hst, hready, hoff, hc, hcalls⟩ := hanswered
      obtain ⟨rfl, herase⟩ := atKey_eraseIdx_single hi rfl hc
      obtain ⟨fn, -, hcall⟩ := @call_of_ready _ _ cfg _ hready
      dsimp only
      rw [if_neg (by rw [hready.notLocal]; simp), if_neg (by rw [hready.notCancelled]; simp),
        hcall]
      refine ⟨_, rfl, ?_⟩
      intro p
      by_cases hp : c.request.ptr = p
      · subst hp
        rw [hst]
        refine ⟨hready, hoff, Or.inr ⟨herase, _, hcall, ?_⟩⟩
        dsimp only
        rw [atKey_append, hcalls]
        exact atKey_cons_self rfl []
      · refine Agrees.frame (s := s) (fun _ => rfl) (atKey_eraseIdx_of_ne hi hp) ?_ (h p)
        dsimp only
        rw [atKey_append, @atKey_cons_of_ne _ _ _ Call.ptr _ _ hp, atKey_nil, List.append_nil]

/-- **STEP LEMMA**: no step crashes, and every request moves as its automaton
    does. -/
theorem agrees_step {a : Act F R} (h : ∀ p, Agrees cfg s p (st p)) (h0 : st 0 = .unissued)
    (hok : Issuable cfg st a) :
    ∃ s', step cfg s a = some s' ∧ ∀ p, Agrees cfg s' p ((st p).next cfg p a) := by
  cases a with
  | add serial slotId request ptr => exact ⟨_, rfl, agrees_add h hok⟩
  | ack t junk => exact agrees_ack h h0
  | complete t junk errno response => exact ⟨_, rfl, agrees_complete h h0⟩
  | acknowledge i junk =>
      refine ⟨_, rfl, ?_⟩
      intro p
      have hsubject : (Act.acknowledge i junk : Act F R).subject ≠ some p := fun heq => nomatch heq
      rw [next_of_ne hsubject]
      rw [acknowledge]
      split
      · exact h p
      · dsimp only
        split
        · exact Agrees.frame (fun _ => rfl) rfl rfl (h p)
        · exact Agrees.frame (fun _ => rfl) rfl rfl (h p)
  | respond i =>
      obtain ⟨s', hs', hall⟩ := agrees_respond (i := i) h
      refine ⟨s', hs', ?_⟩
      intro p
      have hsubject : (Act.respond i : Act F R).subject ≠ some p := fun heq => nomatch heq
      rw [next_of_ne hsubject]
      exact hall p

end Simulation

-- ── Whole runs ───────────────────────────────────────────────────────────────

section Runs

variable {F R : Type} {cfg : Config F} {s s' : St F R} {p : Nat} {acts : List (Act F R)}

/-- The address a step issues. -/
def Act.issued : Act F R → Option Nat
  | .add _ _ _ ptr => if ptr = 0 then none else some ptr
  | _ => none

/-- A step acknowledges token `p`. -/
def Act.acks (p : Nat) : Act F R → Bool
  | .ack t _ => t = p
  | _ => false

/-- A step completes token `p`. -/
def Act.completes (p : Nat) : Act F R → Bool
  | .complete t _ _ _ => t = p
  | _ => false

/-- No address is issued twice. -/
def FreshPtrs (acts : List (Act F R)) : Prop := (acts.filterMap Act.issued).Nodup

/-- Every request that is issued has a response function. -/
def HasFunctions (cfg : Config F) (acts : List (Act F R)) : Prop :=
  ∀ serial slotId request ptr, .add serial slotId request ptr ∈ acts →
    (responseFunction cfg request).isSome

theorem status_append (l r : List (Act F R)) :
    status cfg p (l ++ r) = r.foldl (Status.next cfg p) (status cfg p l) :=
  List.foldl_append

theorem status_concat (l : List (Act F R)) (a : Act F R) :
    status cfg p (l ++ [a]) = (status cfg p l).next cfg p a :=
  status_append l [a]

theorem next_unissued {a : Act F R} (h : a.issued ≠ some p) :
    (Status.unissued : Status F R).next cfg p a = .unissued := by
  cases a with
  | add serial slotId request ptr =>
      refine if_neg ?_
      rintro ⟨hp, h0⟩
      refine h ?_
      rw [Act.issued, if_neg h0, hp]
  | _ => rfl

theorem foldl_unissued (h : p ∉ acts.filterMap Act.issued) :
    acts.foldl (Status.next cfg p) .unissued = .unissued := by
  induction acts with
  | nil => rfl
  | cons a rest ih =>
      have ha : a.issued ≠ some p :=
        fun heq => h (List.mem_filterMap.mpr ⟨a, List.mem_cons_self, heq⟩)
      rw [List.foldl_cons, next_unissued ha]
      refine ih (fun hmem => h ?_)
      obtain ⟨b, hb, heq⟩ := List.mem_filterMap.mp hmem
      exact List.mem_filterMap.mpr ⟨b, List.mem_cons_of_mem a hb, heq⟩

theorem next_waiting {r : RequestInfo F} {a : Act F R} (h : a.completes p = false) :
    (Status.waiting r : Status F R).next cfg p a
      = .waiting { r with wasAckSent := r.wasAckSent || a.acks p } := by
  have hsame : ({ r with wasAckSent := r.wasAckSent || false } : RequestInfo F) = r := by
    rw [Bool.or_false]
  cases a with
  | ack t junk =>
      by_cases ht : t = p
      · have hacks : (Act.ack t junk : Act F R).acks p = true := decide_eq_true ht
        rw [hacks, Bool.or_true]
        exact if_pos ht
      · have hacks : (Act.ack t junk : Act F R).acks p = false := decide_eq_false ht
        rw [hacks, hsame]
        exact if_neg ht
  | complete t junk errno response =>
      show _ = Status.waiting { r with wasAckSent := r.wasAckSent || false }
      rw [hsame]
      exact if_neg (of_decide_eq_false h)
  | add serial slotId request ptr => exact congrArg Status.waiting hsame.symm
  | acknowledge i junk => exact congrArg Status.waiting hsame.symm
  | respond i => exact congrArg Status.waiting hsame.symm

/-- A request waits until it is completed, and knows whether it was
    acknowledged. -/
theorem foldl_waiting (h : ∀ a ∈ acts, a.completes p = false) (r : RequestInfo F) :
    acts.foldl (Status.next cfg p) (.waiting r)
      = .waiting { r with wasAckSent := r.wasAckSent || acts.any (Act.acks p) } := by
  induction acts generalizing r with
  | nil => rw [List.any_nil, Bool.or_false]; rfl
  | cons a rest ih =>
      rw [List.foldl_cons, next_waiting (h a List.mem_cons_self),
        ih (fun b hb => h b (List.mem_cons_of_mem a hb)), List.any_cons, Bool.or_assoc]

/-- An answer is final. -/
theorem foldl_answered (acts : List (Act F R)) (c : Completion F R) :
    acts.foldl (Status.next cfg p) (.answered c) = .answered c := by
  induction acts with
  | nil => rfl
  | cons a rest ih => exact ih

theorem status_zero (acts : List (Act F R)) : status cfg 0 acts = .unissued := by
  refine foldl_unissued ?_
  intro hmem
  obtain ⟨a, -, ha⟩ := List.mem_filterMap.mp hmem
  cases a with
  | add serial slotId request ptr =>
      rw [Act.issued] at ha
      split at ha
      · exact nomatch ha
      · rename_i h0
        exact h0 (Option.some.inj ha)
  | _ => exact nomatch ha

/-- Before it is issued, a fresh address is unissued. -/
theorem status_before (hfresh : FreshPtrs acts) {before after : List (Act F R)} {a : Act F R}
    (hcat : acts = before ++ a :: after) (ha : a.issued = some p) :
    status cfg p before = .unissued := by
  refine foldl_unissued ?_
  intro hmem
  rw [hcat, FreshPtrs, List.filterMap_append, List.filterMap_cons_some ha] at hfresh
  exact (List.nodup_append.mp hfresh).2.2 p hmem p List.mem_cons_self rfl

/-- **RUN LEMMA**: no run crashes, and after it every request is where its
    automaton is. -/
theorem run_agrees (hfresh : FreshPtrs acts) (hfn : HasFunctions cfg acts) :
    ∃ s, run (step cfg) ({} : St F R) acts = some s
      ∧ ∀ p, Agrees cfg s p (status cfg p acts) := by
  have hrule := @run_history _ _ (step cfg)
    (fun done (s : St F R) => ∀ p, Agrees cfg s p (status cfg p done)) acts [] {} (fun p => ⟨fun _ => rfl, rfl, rfl⟩)
  refine hrule ?_
  intro mid a rest s hcat hall
  rw [List.nil_append] at hall ⊢
  have hok : Issuable cfg (fun p => status cfg p mid) a := by
    cases a with
    | add serial slotId request ptr =>
        refine ⟨fun h0 => status_before hfresh hcat (if_neg h0), ?_⟩
        refine hfn serial slotId request ptr ?_
        rw [hcat]
        exact List.mem_append_right _ List.mem_cons_self
    | _ => trivial
  obtain ⟨s', hstep, hnext⟩ := agrees_step hall (status_zero mid) hok
  refine ⟨s', hstep, ?_⟩
  intro p
  rw [status_concat]
  exact hnext p

-- ── The protocol ─────────────────────────────────────────────────────────────

/-- `call` is the one call of a response function for `p`: it was made, or a
    thread that has taken `p` off its list is about to make it. -/
def CalledOnce (cfg : Config F) (s : St F R) (p : Nat) (call : Call F R) : Prop :=
  (atKey Call.ptr p s.calls = [call]
      ∧ atKey (fun c : Completion F R => c.request.ptr) p s.completing = [])
    ∨ (atKey Call.ptr p s.calls = []
      ∧ (atKey (fun c : Completion F R => c.request.ptr) p s.completing).map
        (Completion.call cfg) = [some call])

/-- Whenever `p` was issued it was completed afterwards: it is no live
    token. -/
def Stale (acts : List (Act F R)) (p : Nat) : Prop :=
  p = 0 ∨ ∀ before serial slotId request after,
    acts = before ++ .add serial slotId request p :: after → ∃ a ∈ after, a.completes p = true

/-- **THE PENDING-REQUEST PROTOCOL** after the steps `acts`. -/
structure Protocol (cfg : Config F) (acts : List (Act F R)) (s : St F R) : Prop where
  /-- The first completion of a request makes the one call of its response function, with
      the request's own serial and slot. -/
  answered : ∀ before serial slotId request p between junk errno response after,
    acts = before ++ .add serial slotId request p
      :: (between ++ .complete p junk errno response :: after) →
    p ≠ 0 → (∀ a ∈ between, a.completes p = false) →
    ∃ fn, responseFunction cfg request = some fn
      ∧ CalledOnce cfg s p
        { ptr := p, fn := fn, slotId := slotId,
          responseType := if cfg.version ≥ 13 ∧ between.any (Act.acks p) then .solicitedAckExp
            else .solicited
          token := serial, errno := errno, response := response }
  /-- Until then it waits on the list of its slot. -/
  waiting : ∀ before serial slotId request p after,
    acts = before ++ .add serial slotId request p :: after →
    p ≠ 0 → (∀ a ∈ after, a.completes p = false) →
    Silent s p ∧ atKey RequestInfo.ptr p (s.pending (addHook cfg.simCount slotId))
      = [{ newRequest cfg serial slotId request p with wasAckSent := after.any (Act.acks p) }]
  /-- An address that was never issued has no calls. -/
  unissued : ∀ p, p ∉ acts.filterMap Act.issued → Silent s p
  /-- Acknowledging or completing a token that is not live changes nothing. -/
  stale : ∀ p junk errno response, Stale acts p →
    step cfg s (.ack p junk) = some s ∧ step cfg s (.complete p junk errno response) = some s
  /-- A step keeps every other pending request, its place and its mark. -/
  others : ∀ a s', step cfg s a = some s' → ∀ hook,
    match a.subject with
    | some t => offKey RequestInfo.ptr t (s'.pending hook)
        = offKey RequestInfo.ptr t (s.pending hook)
    | none => s'.pending hook = s.pending hook

theorem step_others {a : Act F R} (h : step cfg s a = some s') (hook : Hook) :
    match a.subject with
    | some t => offKey RequestInfo.ptr t (s'.pending hook)
        = offKey RequestInfo.ptr t (s.pending hook)
    | none => s'.pending hook = s.pending hook := by
  cases a with
  | add serial slotId request ptr =>
      obtain rfl := Option.some.inj h
      show offKey RequestInfo.ptr ptr _ = _
      unfold addRequestToList
      dsimp only
      split
      · rfl
      · by_cases hh : hook = addHook cfg.simCount slotId
        · dsimp only
          rw [hh, Function.update_self]
          exact offKey_cons_self rfl _
        · dsimp only
          rw [Function.update_of_ne hh]
  | ack t junk =>
      show offKey RequestInfo.ptr t _ = _
      have h : rilOnRequestAck cfg s t junk = some s' := h
      rw [rilOnRequestAck] at h
      split at h
      · rw [← Option.some.inj h]
      · rename_i r s₁ hcheck
        split at h
        · exact nomatch h
        · rw [← Option.some.inj h]
          exact check_others hcheck hook
  | complete t junk errno response =>
      obtain rfl := Option.some.inj h
      show offKey RequestInfo.ptr t _ = _
      rw [rilOnRequestComplete]
      split
      · rfl
      · rename_i r s₁ hcheck
        exact check_others hcheck hook
  | acknowledge i junk =>
      obtain rfl := Option.some.inj h
      show (acknowledge s i junk).pending hook = _
      rw [acknowledge]
      split
      · rfl
      · dsimp only
        split <;> rfl
  | respond i =>
      show s'.pending hook = _
      have h : respond cfg s i = some s' := h
      rw [respond] at h
      split at h
      · rw [← Option.some.inj h]
      · rename_i c hc
        dsimp only at h
        split at h
        · split at h
          · exact nomatch h
          · rw [← Option.some.inj h]
        · split at h
          · rw [← Option.some.inj h]
          · split at h
            · exact nomatch h
            · rw [← Option.some.inj h]

/-- Where a request stands after it was issued at `ptr`. -/
theorem status_issued (hfresh : FreshPtrs acts) {before after : List (Act F R)}
    {serial slotId : Int} {request : Nat}
    (hcat : acts = before ++ .add serial slotId request p :: after) (h0 : p ≠ 0) :
    status cfg p acts
      = after.foldl (Status.next cfg p) (.waiting (newRequest cfg serial slotId request p)) := by
  have hissued : (Act.add serial slotId request p : Act F R).issued = some p := if_neg h0
  have hnext : (Status.unissued : Status F R).next cfg p (.add serial slotId request p)
      = .waiting (newRequest cfg serial slotId request p) := if_pos ⟨rfl, h0⟩
  rw [hcat, status_append, status_before hfresh hcat hissued, List.foldl_cons, hnext]

/-- A waiting request with a completion ahead ends up answered. -/
theorem foldl_completed (h : ∃ a ∈ acts, a.completes p = true) (r : RequestInfo F) :
    ∃ c, acts.foldl (Status.next cfg p) (.waiting r) = .answered c := by
  induction acts generalizing r with
  | nil =>
      obtain ⟨a, ha, -⟩ := h
      exact nomatch ha
  | cons b rest ih =>
      rw [List.foldl_cons]
      cases hb : b.completes p with
      | false =>
          rw [next_waiting hb]
          refine ih ?_ _
          obtain ⟨a, ha, hc⟩ := h
          rcases List.mem_cons.mp ha with rfl | ha
          · rw [hb] at hc
            exact nomatch hc
          · exact ⟨a, ha, hc⟩
      | true =>
          cases b with
          | complete t junk errno response =>
              have hnext : (Status.waiting r : Status F R).next cfg p
                  (.complete t junk errno response) = .answered ⟨r, errno, response⟩ :=
                if_pos (of_decide_eq_true hb)
              rw [hnext, foldl_answered]
              exact ⟨_, rfl⟩
          | _ => exact nomatch hb

/-- A token that is not live is on no list. -/
theorem off_of_stale (hfresh : FreshPtrs acts) (hall : ∀ p, Agrees cfg s p (status cfg p acts))
    (h : Stale acts p) : Off s p := by
  refine (hall p).off ?_
  intro r hr
  rcases h with rfl | h
  · rw [status_zero] at hr
    exact nomatch hr
  by_cases hissued : p ∈ acts.filterMap Act.issued
  · obtain ⟨a, ha, hp⟩ := List.mem_filterMap.mp hissued
    obtain ⟨before, after, hcat⟩ := List.append_of_mem ha
    cases a with
    | add serial slotId request ptr =>
        rw [Act.issued] at hp
        split at hp
        · exact nomatch hp
        rename_i h0
        obtain rfl := Option.some.inj hp
        obtain ⟨c, hc⟩ := @foldl_completed _ _ cfg _ _
          (h before serial slotId request after hcat) (newRequest cfg serial slotId request ptr)
        rw [status_issued hfresh hcat h0, hc] at hr
        exact nomatch hr
    | _ => exact nomatch hp
  · have hnone : status cfg p acts = .unissued := foldl_unissued hissued
    rw [hnone] at hr
    exact nomatch hr

/-- The one call for an answered request. -/
theorem calledOnce_of_answered {c : Completion F R} (h : Agrees cfg s p (.answered c)) :
    ∃ fn, c.request.pCI.bind (·.responseFunction) = some fn
      ∧ CalledOnce cfg s p
        { ptr := c.request.ptr, fn := fn, slotId := c.request.socketId,
          responseType := responseType cfg c.request.wasAckSent, token := c.request.token,
          errno := c.errno, response := c.response } := by
  obtain ⟨hready, -, hanswer⟩ := h
  obtain ⟨fn, hfn, hcall⟩ := @call_of_ready _ _ cfg _ hready
  refine ⟨fn, hfn, ?_⟩
  rcases hanswer with ⟨hc, hcalls⟩ | ⟨hc, call, hcall', hcalls⟩
  · refine Or.inr ⟨hcalls, ?_⟩
    rw [hc, List.map_singleton, hcall]
  · refine Or.inl ⟨?_, hc⟩
    rw [hcalls, Option.some.inj (hcall.symm.trans hcall')]

/-- **EXACTLY ONE ANSWER**: in every run, over all slots and with any tokens,
    the protocol holds after every step. -/
theorem pending_protocol (cfg : Config F) (acts : List (Act F R)) (hfresh : FreshPtrs acts)
    (hfn : HasFunctions cfg acts) :
    ∃ s, run (step cfg) ({} : St F R) acts = some s ∧ Protocol cfg acts s := by
  obtain ⟨s, hrun, hall⟩ := run_agrees hfresh hfn
  refine ⟨s, hrun, ?_, ?_, ?_, ?_, fun a s' h hook => step_others h hook⟩
  · intro before serial slotId request p between junk errno response after hcat h0 hbetween
    have hstatus : status cfg p acts = .answered
        ⟨{ newRequest cfg serial slotId request p with wasAckSent := between.any (Act.acks p) },
          errno, response⟩ := by
      have hnext : ∀ r, (Status.waiting r : Status F R).next cfg p
          (.complete p junk errno response) = .answered ⟨r, errno, response⟩ :=
        fun r => if_pos rfl
      rw [status_issued hfresh hcat h0, List.foldl_append, foldl_waiting hbetween,
        List.foldl_cons, hnext, foldl_answered]
      rfl
    have hp := hall p
    rw [hstatus] at hp
    exact calledOnce_of_answered hp
  · intro before serial slotId request p after hcat h0 hafter
    have hp := hall p
    rw [status_issued hfresh hcat h0, foldl_waiting hafter] at hp
    obtain ⟨-, hsilent, hlist⟩ := hp
    refine ⟨hsilent, ?_⟩
    exact (hlist (addHook cfg.simCount slotId)).trans (if_pos rfl)
  · intro p hp
    have hnone : status cfg p acts = .unissued := foldl_unissued hp
    have hself := hall p
    rw [hnone] at hself
    exact hself.2
  · intro p junk errno response hstale
    have hoff := off_of_stale hfresh hall hstale
    constructor
    · show rilOnRequestAck cfg s p junk = some s
      rw [rilOnRequestAck, check_of_off hoff]
    · show some (rilOnRequestComplete cfg s p junk errno response) = some s
      rw [rilOnRequestComplete, check_of_off hoff]

end Runs

/-- Two slots and a table with one response function. -/
def sampleConfig : Config String :=
  { simCount := 2, version := 15
    commands := [⟨0, none⟩, ⟨1, some "getIccCardStatusResponse"⟩], commandsV := [] }

/-- A request in each slot; the second is acknowledged and completed twice. -/
def sampleActs : List (Act String Unit) :=
  [.add 100 0 1 8, .add 101 1 1 16, .ack 16 0, .complete 16 0 0 (), .complete 16 7 0 (),
   .respond 0]

theorem pending_protocol_twoSlots :
    ∃ s, run (step sampleConfig) {} sampleActs = some s ∧ Protocol sampleConfig sampleActs s := by
  refine pending_protocol sampleConfig sampleActs (by unfold FreshPtrs; decide) ?_
  intro serial slotId request ptr hmem
  simp only [sampleActs, List.mem_cons, Act.add.injEq, reduceCtorEq, List.not_mem_nil,
    or_false] at hmem
  rcases hmem with ⟨-, -, rfl, -⟩ | ⟨-, -, rfl, -⟩
  · rfl
  · rfl

end RilPending

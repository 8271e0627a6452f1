import Universal7580.BoundedMapProofs
import Universal7580.MealyProofs
import Universal7580.RilOneShotProofs

/-! # The RIL client's handler tables as maps

    The client has a table of 32 slots for the handlers of unsolicited
    responses, and one for the handlers of completed requests.  A registration
    looks for the slot of its id, and failing that for an empty one; a removal
    zeroes the slot and leaves a hole.

    Each table is shown to be a `BoundedMap` of 32 ids: `registerHandler_refines`
    is one registration, `registrations_refine` any list of them, and
    `handler_tables_are_maps` says it for the client's own functions. -/

namespace RilClient

open Mealy

-- ── One table ────────────────────────────────────────────────────────────────

/-- The ids a table has handlers for, as a map. -/
abbrev HandlerMap := BoundedMap (BitVec 32) Nat reqPoolSize

/-- A table holds what a map holds: no id in two slots, a handler in every slot
    in use, and the handler of every id. -/
structure Refines (table : List HandlerSlot) (m : HandlerMap) : Prop where
  ok : TableOk table
  length : table.length = reqPoolSize
  used : ∀ slot ∈ table, slot.id ≠ 0 → slot.handler ≠ none
  get : ∀ id, registered table id = m.get id

section Table

variable {table : List HandlerSlot} {m : HandlerMap} {id : BitVec 32} {handler : Option Nat}

/-- The zeroed table of a new client is the empty map. -/
theorem refines_new : Refines openClientRild.reqHandlers BoundedMap.empty where
  ok := tableOk_new
  length := List.length_replicate ..
  used := by
    intro slot hmem hne
    rw [List.eq_of_mem_replicate hmem] at hne
    exact absurd rfl hne
  get := by
    intro id
    by_cases hzero : id = 0
    · rw [hzero, registered_zero tableOk_new, BoundedMap.get_empty]
    · refine (registered_none ?_).trans (BoundedMap.get_empty id).symm
      intro slot hmem
      rw [List.eq_of_mem_replicate hmem]
      exact Ne.symm hzero

/-- The slots in use for other ids than one hold different ids. -/
theorem nodup_other_ids (h : TableOk table) (id : BitVec 32) :
    ((table.filter fun slot => slot.id ≠ 0 ∧ slot.id ≠ id).map HandlerSlot.id).Nodup := by
  have hpair : table.Pairwise (fun a b => a.id ≠ 0 → a.id ≠ b.id) := by
    rw [List.pairwise_iff_getElem]
    intro i j hi hj hij hne hsame
    exact Nat.ne_of_lt hij (h.distinct i j _ _ (List.getElem?_eq_getElem hi)
      (List.getElem?_eq_getElem hj) hsame hne)
  refine List.pairwise_map.mpr ((hpair.filter _).imp_of_mem ?_)
  intro a b ha _ hab
  have hother := of_decide_eq_true (List.mem_filter.mp ha).2
  exact hab hother.1

/-- The keys of the map other than an id are the ids of the slots in use for
    others. -/
theorem others_eq (h : Refines table m) (id : BitVec 32) :
    m.others id
      = ((table.filter fun slot => slot.id ≠ 0 ∧ slot.id ≠ id).map HandlerSlot.id).toFinset := by
  ext k
  rw [BoundedMap.mem_others, ← h.get, List.mem_toFinset, List.mem_map]
  constructor
  · rintro ⟨hne, hget⟩
    obtain ⟨handler, hhandler⟩ := Option.ne_none_iff_exists'.mp hget
    obtain ⟨i, hi⟩ := slot_of_registered hhandler
    have hzero : k ≠ 0 := by
      rintro rfl
      exact hget (registered_zero h.ok)
    exact ⟨_, List.mem_filter.mpr ⟨List.mem_of_getElem? hi, decide_eq_true ⟨hzero, hne⟩⟩, rfl⟩
  · rintro ⟨slot, hslot, rfl⟩
    obtain ⟨hmem, hother⟩ := List.mem_filter.mp hslot
    obtain ⟨hzero, hne⟩ := of_decide_eq_true hother
    obtain ⟨i, hi⟩ := List.getElem?_of_mem hmem
    exact ⟨hne, by rw [registered_slot h.ok hi hzero]; exact h.used slot hmem hzero⟩

/-- **A FULL TABLE**: the map is full of other ids exactly when the table has
    neither a slot for the id nor an empty one. -/
theorem full_of_others_iff (h : Refines table m) (id : BitVec 32) :
    (m.others id).card = reqPoolSize ↔ ∀ slot ∈ table, slot.id ≠ 0 ∧ slot.id ≠ id := by
  rw [others_eq h, List.toFinset_card_of_nodup (nodup_other_ids h.ok id), List.length_map,
    ← h.length, List.length_filter_eq_length_iff]
  simp

end Table

-- ── One registration ─────────────────────────────────────────────────────────

section Register

variable {table : List HandlerSlot} {m : HandlerMap} {id : BitVec 32} {handler : Option Nat}

/-- What a registration may answer, and when it has no room. -/
theorem registerHandler_answer (table : List HandlerSlot) (id : BitVec 32)
    (handler : Option Nat) :
    (registerHandler table id handler).2
      = if handler ≠ none ∧ ∀ slot ∈ table, slot.id ≠ 0 ∧ slot.id ≠ id then .resource
        else .success := by
  obtain ⟨hmatch, hmiss, hempty, hfull⟩ := scanSlots_spec id table
  unfold registerHandler
  cases hscan : scanSlots table id with
  | mk matched empty =>
    rw [hscan] at hmatch hmiss hempty hfull
    cases handler with
    | none =>
      rw [if_neg (fun h => h.1 rfl)]
      cases matched <;> rfl
    | some fn =>
      cases matched with
      | some i =>
          obtain ⟨slot, hi, hid⟩ := hmatch i rfl
          rw [if_neg (fun h => (h.2 slot (List.mem_of_getElem? hi)).2 hid)]
      | none =>
        cases empty with
        | some i =>
            obtain ⟨slot, hi, hzero⟩ := hempty i rfl
            rw [if_neg (fun h => (h.2 slot (List.mem_of_getElem? hi)).1 hzero)]
        | none =>
            rw [if_pos ⟨Option.some_ne_none fn,
              fun slot hmem => ⟨hfull rfl slot hmem, hmiss rfl slot hmem⟩⟩]

/-- Without room, nothing changes. -/
theorem registerHandler_refused (h : (registerHandler table id handler).2 = .resource) :
    (registerHandler table id handler).1 = table := by
  unfold registerHandler at h ⊢
  cases hscan : scanSlots table id with
  | mk matched empty =>
    rw [hscan] at h
    cases handler <;> cases matched <;> cases empty <;> first | rfl | cases h

/-- A registration changes slots, not their number. -/
theorem length_registerHandler :
    (registerHandler table id handler).1.length = table.length := by
  unfold registerHandler
  cases hscan : scanSlots table id with
  | mk matched empty =>
    cases handler <;> cases matched <;> cases empty <;> simp

/-- A slot in use has a handler. -/
theorem registerHandler_used (h : ∀ slot ∈ table, slot.id ≠ 0 → slot.handler ≠ none) :
    ∀ slot ∈ (registerHandler table id handler).1, slot.id ≠ 0 → slot.handler ≠ none := by
  have hset : ∀ (i : Nat) (new : HandlerSlot), (new.id ≠ 0 → new.handler ≠ none) →
      ∀ slot ∈ table.set i new, slot.id ≠ 0 → slot.handler ≠ none := by
    intro i new hnew slot hmem
    rcases List.mem_or_eq_of_mem_set hmem with hold | rfl
    · exact h slot hold
    · exact hnew
  unfold registerHandler
  cases hscan : scanSlots table id with
  | mk matched empty =>
    cases handler with
    | none =>
      cases matched with
      | none => exact h
      | some i => exact hset i {} (fun hne => absurd rfl hne)
    | some fn =>
      cases matched with
      | some i =>
          intro slot hmem hne
          obtain ⟨j, hj⟩ := List.getElem?_of_mem hmem
          rw [List.getElem?_modify] at hj
          obtain ⟨old, hold, hslot⟩ := Option.map_eq_some_iff.mp hj
          split at hslot
          · rw [← hslot]
            exact Option.some_ne_none fn
          · exact hslot ▸ h old (List.mem_of_getElem? hold) (hslot ▸ hne)
      | none =>
        cases empty with
        | some i => exact hset i { id := id, handler := some fn } (fun _ => Option.some_ne_none fn)
        | none => exact h

/-- What the functions answer for what a map answers. -/
def mapAnswer (done : Bool) : Err := if done then .success else .resource

/-- **ONE REGISTRATION** on the table is one on the map. -/
theorem registerHandler_refines (h : Refines table m) (hid : id ≠ 0) :
    Refines (registerHandler table id handler).1 (m.assign id handler).1
      ∧ (registerHandler table id handler).2 = mapAnswer (m.assign id handler).2 := by
  obtain ⟨hok, hothers, hself⟩ := registerHandler_spec h.ok id handler (fun hzero => absurd hzero hid)
  have hanswer : (registerHandler table id handler).2 = mapAnswer (m.assign id handler).2 := by
    rw [registerHandler_answer, mapAnswer]
    cases hdone : (m.assign id handler).2 with
    | false =>
        obtain ⟨hsome, hfull⟩ := BoundedMap.assign_refused_iff.mp hdone
        rw [if_pos ⟨hsome, (full_of_others_iff h id).mp hfull⟩, if_neg Bool.false_ne_true]
    | true =>
        rw [if_neg, if_pos rfl]
        rintro ⟨hsome, hfull⟩
        rw [BoundedMap.assign_refused_iff.mpr ⟨hsome, (full_of_others_iff h id).mpr hfull⟩] at hdone
        exact Bool.false_ne_true hdone
  refine ⟨⟨hok, length_registerHandler.trans h.length, registerHandler_used h.used, ?_⟩, hanswer⟩
  intro k
  by_cases hk : k = id
  · subst hk
    rw [hself, hanswer]
    cases hdone : (m.assign k handler).2 with
    | true => rw [mapAnswer, if_pos rfl, if_pos rfl, BoundedMap.get_assign_self hdone]
    | false =>
        rw [mapAnswer, if_neg Bool.false_ne_true, if_neg (fun h => by cases h),
          BoundedMap.assign_refused hdone, h.get]
  · rw [hothers k hk, h.get, BoundedMap.get_assign_of_ne hk]

end Register

-- ── The client's tables ──────────────────────────────────────────────────────

inductive HandlerTable where
  | unsolicited
  | requestComplete
  deriving DecidableEq

/-- A call of one of the two registration functions. -/
structure Registration where
  table : HandlerTable
  id : BitVec 32
  handler : Option Nat

def Registration.call (prv : RilClientPrv) (r : Registration) : RilClientPrv × Err :=
  match r.table with
  | .unsolicited => registerUnsolicitedHandler prv r.id r.handler
  | .requestComplete => registerRequestCompleteHandler prv r.id r.handler

def tableOf (prv : RilClientPrv) : HandlerTable → List HandlerSlot
  | .unsolicited => prv.unsolHandlers
  | .requestComplete => prv.reqHandlers

/-- The request an earlier `RecordReqHistory` noted for a token. -/
structure HistoryId (prv : RilClientPrv) (token id : BitVec 32) : Prop where
  noted : ∃ h ∈ prv.history, h.token = token
  same : ∀ h ∈ prv.history, h.token = token → h.id = id

/-- A map for each table. -/
abbrev HandlerMaps := HandlerTable → HandlerMap

def noHandlers : HandlerMaps := fun _ => BoundedMap.empty

/-- What a registration means for the maps. -/
def Registration.assign (maps : HandlerMaps) (r : Registration) : HandlerMaps × Bool :=
  let done := (maps r.table).assign r.id r.handler
  (Function.update maps r.table done.1, done.2)

/-- The handler that the last successful call for an id gave. -/
def lastRegistered (table : HandlerTable) (id : BitVec 32) (log : List (Registration × Err)) :
    Option Nat :=
  log.foldl (fun handler entry =>
    if entry.1.table = table ∧ entry.1.id = id ∧ entry.2 = .success then entry.1.handler
    else handler) none

section Client

variable {prv : RilClientPrv} {maps : HandlerMaps} {r : Registration}

theorem assign_self :
    (r.assign maps).1 r.table = ((maps r.table).assign r.id r.handler).1 :=
  Function.update_self ..

theorem assign_of_ne {t : HandlerTable} (h : t ≠ r.table) : (r.assign maps).1 t = maps t :=
  Function.update_of_ne h ..

theorem tableOf_call_self :
    tableOf (r.call prv).1 r.table = (registerHandler (tableOf prv r.table) r.id r.handler).1 := by
  obtain ⟨table, id, handler⟩ := r
  cases table <;> rfl

/-- The other table is left alone. -/
theorem tableOf_call_of_ne {t : HandlerTable} (h : t ≠ r.table) :
    tableOf (r.call prv).1 t = tableOf prv t := by
  obtain ⟨table, id, handler⟩ := r
  cases table <;> cases t <;> first | rfl | exact absurd rfl h

theorem answer_call :
    (r.call prv).2 = (registerHandler (tableOf prv r.table) r.id r.handler).2 := by
  obtain ⟨table, id, handler⟩ := r
  cases table <;> rfl

/-- A call without room leaves the whole client as it is. -/
theorem call_refused (h : (r.call prv).2 = .resource) : (r.call prv).1 = prv := by
  have hsame := registerHandler_refused (answer_call.symm.trans h)
  obtain ⟨table, id, handler⟩ := r
  cases table with
  | unsolicited => exact congrArg (fun t => { prv with unsolHandlers := t }) hsame
  | requestComplete => exact congrArg (fun t => { prv with reqHandlers := t }) hsame

/-- `FindReqHandler` finds what is registered for the token's request. -/
theorem findReqHandler_eq {token id : BitVec 32} (h : HistoryId prv token id) :
    (findReqHandler prv token).bind HandlerSlot.handler = registered prv.reqHandlers id := by
  obtain ⟨⟨entry, hmem, htoken⟩, hsame⟩ := h
  rw [findReqHandler, registered]
  refine congrArg (fun slot => Option.bind slot HandlerSlot.handler) ?_
  cases hscan : prv.history.findSome? (fun h =>
      if h.token = token then prv.reqHandlers.find? (fun slot => slot.id == h.id) else none) with
  | none =>
      have hnone := List.findSome?_eq_none_iff.mp hscan entry hmem
      rw [if_pos htoken, hsame entry hmem htoken] at hnone
      exact hnone.symm
  | some found =>
      obtain ⟨x, hx, hfound⟩ := List.exists_of_findSome?_eq_some hscan
      split at hfound
      · rename_i hxt
        rw [hsame x hx hxt] at hfound
        exact hfound.symm
      · cases hfound

/-- **ONE CALL** on the client is one on the maps. -/
theorem call_refines (h : ∀ t, Refines (tableOf prv t) (maps t)) (hid : r.id ≠ 0) :
    (∀ t, Refines (tableOf (r.call prv).1 t) ((r.assign maps).1 t))
      ∧ (r.call prv).2 = mapAnswer (r.assign maps).2 := by
  obtain ⟨htable, hanswer⟩ := @registerHandler_refines _ _ _ r.handler (h r.table) hid
  refine ⟨fun t => ?_, answer_call.trans hanswer⟩
  by_cases ht : t = r.table
  · subst ht
    rw [tableOf_call_self, assign_self]
    exact htable
  · rw [tableOf_call_of_ne ht, assign_of_ne ht]
    exact h t

theorem mapAnswer_cases (done : Bool) : mapAnswer done = .success ∨ mapAnswer done = .resource := by
  cases done with
  | true => exact Or.inl rfl
  | false => exact Or.inr rfl

theorem mapAnswer_resource (done : Bool) : mapAnswer done = .resource ↔ done = false := by
  cases done with
  | true => exact iff_of_false (fun h => by cases h) (fun h => by cases h)
  | false => exact iff_of_true rfl rfl

/-- A call leaves the other table and the other ids alone. -/
theorem registered_call_of_ne (h : ∀ t, Refines (tableOf prv t) (maps t)) (hid : r.id ≠ 0)
    {t : HandlerTable} {id : BitVec 32} (hother : t ≠ r.table ∨ id ≠ r.id) :
    registered (tableOf (r.call prv).1 t) id = registered (tableOf prv t) id := by
  obtain ⟨hcall, -⟩ := call_refines (r := r) h hid
  rw [(hcall t).get, (h t).get]
  by_cases ht : t = r.table
  · subst ht
    rw [assign_self, BoundedMap.get_assign_of_ne (hother.resolve_left (fun h => h rfl))]
  · rw [assign_of_ne ht]

/-- Zeroed tables are empty maps. -/
theorem refines_zeroed (hunsol : prv.unsolHandlers = openClientRild.unsolHandlers)
    (hreq : prv.reqHandlers = openClientRild.reqHandlers) (t : HandlerTable) :
    Refines (tableOf prv t) (noHandlers t) := by
  cases t with
  | unsolicited =>
      rw [tableOf, hunsol]
      exact refines_new
  | requestComplete =>
      rw [tableOf, hreq]
      exact refines_new

/-- **EVERY LIST OF CALLS** on the client is one on the maps. -/
theorem registrations_refine (h : ∀ t, Refines (tableOf prv t) (maps t))
    {calls : List Registration} (hids : ∀ r ∈ calls, r.id ≠ 0) :
    (∀ t, Refines (tableOf (runAll Registration.call prv calls).1 t)
        ((runAll Registration.assign maps calls).1 t))
      ∧ (runAll Registration.call prv calls).2
          = (runAll Registration.assign maps calls).2.map mapAnswer :=
  runAll_simulates (R := fun prv maps => ∀ t, Refines (tableOf prv t) (maps t))
    (fun _ maps _ hid h => @call_refines _ maps _ h hid) calls prv maps hids h

/-- A call leaves the history of requests alone. -/
theorem history_registrations (calls : List Registration) :
    ∀ prv, (runAll Registration.call prv calls).1.history = prv.history := by
  induction calls with
  | nil => intro prv; rfl
  | cons r rest ih =>
      intro prv
      rw [runAll, ih]
      obtain ⟨table, id, handler⟩ := r
      cases table <;> rfl

/-- A map holds for an id what the last successful call for it gave. -/
theorem get_runAll_assign (t : HandlerTable) (id : BitVec 32) (calls : List Registration) :
    ((runAll Registration.assign noHandlers calls).1 t).get id
      = lastRegistered t id
          (calls.zip ((runAll Registration.assign noHandlers calls).2.map mapAnswer)) := by
  induction calls using List.reverseRecOn with
  | nil => exact BoundedMap.get_empty id
  | append_singleton calls r ih =>
      rw [runAll_concat, List.map_append,
        List.zip_append (by rw [List.length_map, length_runAll]), lastRegistered,
        List.foldl_append, ← lastRegistered, ← ih]
      generalize (runAll Registration.assign noHandlers calls).1 = maps
      show ((r.assign maps).1 t).get id
        = if r.table = t ∧ r.id = id
              ∧ mapAnswer ((maps r.table).assign r.id r.handler).2 = .success then r.handler
          else (maps t).get id
      by_cases ht : r.table = t
      · subst ht
        rw [assign_self]
        by_cases hid : r.id = id
        · subst hid
          cases hdone : ((maps r.table).assign r.id r.handler).2 with
          | true => rw [if_pos ⟨rfl, rfl, rfl⟩, BoundedMap.get_assign_self hdone]
          | false =>
              rw [if_neg (fun h => by cases h.2.2), BoundedMap.assign_refused hdone]
        · rw [if_neg (fun h => hid h.2.1), BoundedMap.get_assign_of_ne (Ne.symm hid)]
      · rw [if_neg (fun h => ht h.1), assign_of_ne (Ne.symm ht)]

end Client

-- ── Any list of calls ────────────────────────────────────────────────────────

/-- **THE HANDLER TABLES ARE MAPS**: after any list of registrations and
    removals from a client with zeroed tables, the answers and the tables are
    those of two maps of 32 ids; the lookups find the handler that the last
    successful call for the id gave; and the next call is refused, and then
    changes nothing, exactly when 32 other ids are registered, and in any case
    leaves all other ids alone. -/
theorem handler_tables_are_maps (prv : RilClientPrv)
    (hunsol : prv.unsolHandlers = openClientRild.unsolHandlers)
    (hreq : prv.reqHandlers = openClientRild.reqHandlers)
    (calls : List Registration) (hids : ∀ r ∈ calls, r.id ≠ 0) :
    let reached := runAll Registration.call prv calls
    let maps := runAll Registration.assign noHandlers calls
    let log := calls.zip reached.2
    reached.2 = maps.2.map mapAnswer
      ∧ (∀ t, Refines (tableOf reached.1 t) (maps.1 t))
      ∧ (∀ id, findUnsolHandler reached.1 id = lastRegistered .unsolicited id log)
      ∧ (∀ token id, HistoryId prv token id →
          (findReqHandler reached.1 token).bind HandlerSlot.handler
            = lastRegistered .requestComplete id log)
      ∧ ∀ next : Registration, next.id ≠ 0 →
          ((next.call reached.1).2 = .success ∨ (next.call reached.1).2 = .resource)
          ∧ ((next.call reached.1).2 = .resource
              ↔ next.handler ≠ none ∧ ∃ ids : Finset (BitVec 32), ids.card = reqPoolSize
                  ∧ next.id ∉ ids ∧ ∀ id ∈ ids, lastRegistered next.table id log ≠ none)
          ∧ ((next.call reached.1).2 = .resource → (next.call reached.1).1 = reached.1)
          ∧ ∀ t id, t ≠ next.table ∨ id ≠ next.id →
              registered (tableOf (next.call reached.1).1 t) id
                = registered (tableOf reached.1 t) id := by
  intro reached maps log
  obtain ⟨htables, hanswers⟩ := registrations_refine (refines_zeroed hunsol hreq) hids
  have hlog : ∀ t id, (maps.1 t).get id = lastRegistered t id log := by
    intro t id
    rw [show log = calls.zip (maps.2.map mapAnswer) from congrArg calls.zip hanswers]
    exact get_runAll_assign t id calls
  refine ⟨hanswers, htables, ?_, ?_, ?_⟩
  · intro id
    exact ((htables .unsolicited).get id).trans (hlog .unsolicited id)
  · intro token id hid
    have hthere : HistoryId reached.1 token id := by
      have hsame := history_registrations calls prv
      exact ⟨hsame ▸ hid.noted, hsame ▸ hid.same⟩
    rw [findReqHandler_eq hthere]
    exact ((htables .requestComplete).get id).trans (hlog .requestComplete id)
  · intro next hid
    obtain ⟨-, hanswer⟩ := call_refines (r := next) htables hid
    have hrefused : (next.call reached.1).2 = .resource
        ↔ ((maps.1 next.table).assign next.id next.handler).2 = false := by
      rw [hanswer]
      exact mapAnswer_resource _
    refine ⟨?_, ?_, call_refused, fun t id => registered_call_of_ne htables hid⟩
    · rw [hanswer]
      exact mapAnswer_cases _
    · rw [hrefused, BoundedMap.assign_refused_iff, BoundedMap.card_others_eq_iff]
      simp only [hlog]

/-- A handler that was replaced, and one that was taken out. -/
theorem handler_tables_are_maps_replaced :
    let calls : List Registration :=
      [⟨.unsolicited, 11009, some 1⟩, ⟨.unsolicited, 11010, some 2⟩, ⟨.unsolicited, 11009, none⟩,
        ⟨.unsolicited, 11010, some 3⟩]
    findUnsolHandler (runAll Registration.call openClientRild calls).1 11009 = none
      ∧ findUnsolHandler (runAll Registration.call openClientRild calls).1 11010 = some 3 := by
  intro calls
  have hmaps := handler_tables_are_maps openClientRild rfl rfl calls (by decide)
  exact ⟨(hmaps.2.2.1 11009).trans (by decide), (hmaps.2.2.1 11010).trans (by decide)⟩

end RilClient

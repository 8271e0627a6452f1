import Mathlib.Data.List.Nodup
import Mathlib.Logic.Function.Basic
import Universal7580.RunProofs

/-! # The effect factory's instances

    The factory keeps a map of the effect instances it has made.  A key is a
    weak reference, so an instance can be gone while its entry stays; an entry
    goes when the instance's library has destroyed it, or at the next cleanup
    after it expired.

    * `Accounted` says what the map holds, from what has happened so far: the
      instances made, the calls of the libraries' destroy functions, and what
      had expired at the last cleanup;
    * `destroyEffectImpl_cases` says once what the routine does that both
      `destroyEffect` and the destructor call;
    * the destructor walks over the map while that routine erases from it, and
      `effects_accounted` says when it gets through. -/

namespace EffectFactory

open Run

-- ── The libraries ────────────────────────────────────────────────────────────

/-- A `binder_exception_t`. -/
abbrev Exception := Int

def exNone : Exception := 0
def exIllegalArgument : Exception := -3
def exNullPointer : Exception := -4
def exTransactionFailed : Exception := -129

/-- An `effect_dl_interface_s`: which of its pointers are not null. -/
structure DlInterface where
  createEffectFunc : Bool
  queryEffectFunc : Bool
  destroyEffectFunc : Bool
deriving DecidableEq, Repr

/-- An entry of the library map: what `dlsym` finds in the library, and what
    the factory has looked up of it. -/
structure DlEntry where
  symbols : DlInterface
  iface : DlInterface
deriving DecidableEq, Repr

def getDlSyms_l (entry : DlEntry) : DlEntry :=
  { entry with
    iface :=
      { createEffectFunc := entry.iface.createEffectFunc || entry.symbols.createEffectFunc
        queryEffectFunc := entry.iface.queryEffectFunc || entry.symbols.queryEffectFunc
        destroyEffectFunc := entry.iface.destroyEffectFunc || entry.symbols.destroyEffectFunc } }

/-- A call of a library's destroy function, and its answer. -/
structure DestroyCall (υ : Type) where
  library : υ
  handle : Nat
  answer : Exception
deriving DecidableEq, Repr

/-- The factory, over the uuids of the implementations.  An instance is a
    number; the null pointer is one that no library has made.  `mEffectMap` is
    in the order of its keys.  The last four fields are what has happened:
    the instances registered with what they were created for, those that have
    expired, those of them that had when the map was last cleaned up, and the
    calls of the destroy functions. -/
structure State (υ : Type) where
  mEffectLibMap : υ → Option DlEntry
  mEffectMap : List (Nat × υ)
  created : List (Nat × υ)
  expired : List Nat
  cleaned : List Nat
  calls : List (DestroyCall υ)

variable {υ : Type}

/-- `opened` is what `dlopen` gave; the first library of a uuid stays. -/
def openEffectLibrary [DecidableEq υ] (libs : υ → Option DlEntry) (implUuid : υ)
    (opened : Option DlInterface) : υ → Option DlEntry :=
  match opened with
  | none => libs
  | some symbols =>
      match libs implUuid with
      | some _ => libs
      | none =>
          Function.update libs implUuid (some { symbols, iface := ⟨false, false, false⟩ })

/-- The factory when its constructor has loaded the libraries of the
    configuration. -/
def effectFactory [DecidableEq υ] (config : List (υ × Option DlInterface)) : State υ where
  mEffectLibMap := config.foldl (fun libs lib => openEffectLibrary libs lib.1 lib.2) fun _ => none
  mEffectMap := []
  created := []
  expired := []
  cleaned := []
  calls := []

-- ── The calls ────────────────────────────────────────────────────────────────

/-- What a library's create function answers: an exception code, what it has
    put in the result, and where in the map the order of the keys puts that. -/
structure CreateReply where
  ex : Exception
  effectSp : Option Nat
  place : Nat
deriving DecidableEq, Repr

def State.load [DecidableEq υ] (s : State υ) (uuid : υ) (entry : DlEntry) : State υ :=
  { s with mEffectLibMap := Function.update s.mEffectLibMap uuid (some (getDlSyms_l entry)) }

def createEffect [DecidableEq υ] (s : State υ) (uuid : υ) (reply : CreateReply) :
    State υ × Exception :=
  match s.mEffectLibMap uuid with
  | none => (s, exIllegalArgument)
  | some entry =>
      let s := s.load uuid entry
      if (getDlSyms_l entry).iface.createEffectFunc then
        if reply.ex ≠ exNone then (s, reply.ex)
        else
          match reply.effectSp with
          | none => (s, exTransactionFailed)
          | some handle =>
              ({ s with
                 mEffectMap :=
                   s.mEffectMap.take reply.place ++ (handle, uuid) :: s.mEffectMap.drop reply.place
                 created := s.created ++ [(handle, uuid)] }, exNone)
      else (s, exNullPointer)

/-- `getDescriptorWithUuid_l`, of the factory's own queries: it loads the
    functions of the library too. -/
def getDescriptorWithUuid_l [DecidableEq υ] (s : State υ) (uuid : υ) : State υ :=
  match s.mEffectLibMap uuid with
  | none => s
  | some entry => s.load uuid entry

/-- `answer` is what the library's destroy function would answer. -/
def destroyEffectImpl_l (s : State υ) (handle : Nat) (answer : Exception) : State υ × Exception :=
  match s.mEffectMap.find? fun it => it.1 == handle with
  | none => (s, exIllegalArgument)
  | some (_, uuid) =>
      match s.mEffectLibMap uuid with
      | none => (s, exIllegalArgument)
      | some entry =>
          if entry.iface.destroyEffectFunc then
            let s := { s with calls := s.calls ++ [{ library := uuid, handle, answer }] }
            if answer ≠ exNone then (s, answer)
            else ({ s with mEffectMap := s.mEffectMap.filter fun it => it.1 ≠ handle }, exNone)
          else (s, exNullPointer)

def cleanupEffectMap_l (s : State υ) : State υ :=
  { s with
    mEffectMap := s.mEffectMap.filter fun it => it.1 ∉ s.expired
    cleaned := s.expired }

def destroyEffect (s : State υ) (handle : Nat) (answer : Exception) : State υ × Exception :=
  let r := destroyEffectImpl_l s handle answer
  (cleanupEffectMap_l r.1, r.2)

/-- What happens to a factory: the calls, and that an instance expires. -/
inductive Act (υ : Type) where
  | createEffect (uuid : υ) (reply : CreateReply)
  | destroyEffect (handle : Nat) (answer : Exception)
  | query (uuid : υ)
  | expire (handle : Nat)
deriving DecidableEq, Repr

/-- A create function makes an instance that was not there before, and only
    what was made can expire. -/
def step [DecidableEq υ] (s : State υ) : Act υ → Option (State υ)
  | .createEffect uuid reply =>
      if ∀ handle ∈ reply.effectSp, handle ∉ s.created.map Prod.fst then
        some (createEffect s uuid reply).1
      else none
  | .destroyEffect handle answer => some (destroyEffect s handle answer).1
  | .query uuid => some (getDescriptorWithUuid_l s uuid)
  | .expire handle =>
      if handle ∈ s.created.map Prod.fst then some { s with expired := handle :: s.expired }
      else none

/-- The factory as its destructor has left it: the instances the destructor
    called `destroyEffectImpl_l` for, and whether it went on from an entry that
    was erased. -/
structure Teardown (υ : Type) where
  state : State υ
  attempts : List Nat
  usedErased : Bool

/-- The loop of the destructor over the entries of the map.  It takes the next
    entry from the one it is at; where that one was just erased nothing is
    promised of what follows, and the walk ends. -/
def walk (answers : Nat → Exception) : List (Nat × υ) → Teardown υ → Teardown υ
  | [], t => t
  | it :: rest, t =>
      if it.1 ∈ t.state.expired then walk answers rest t
      else
        let r := destroyEffectImpl_l t.state it.1 (answers it.1)
        let attempts := t.attempts ++ [it.1]
        if r.2 = exNone then { state := r.1, attempts, usedErased := true }
        else walk answers rest { t with state := r.1, attempts }

/-- `~EffectFactory`.  An instance that expires during the walk, before its
    turn, might as well have expired before. -/
def destructor (s : State υ) (answers : Nat → Exception) : Teardown υ :=
  walk answers s.mEffectMap { state := s, attempts := [], usedErased := false }

-- ── What is asked of the factory ─────────────────────────────────────────────

/-- The instances whose destruction has succeeded. -/
def State.destroyed (s : State υ) : List Nat :=
  (s.calls.filter fun call => call.answer = exNone).map DestroyCall.handle

/-- The library of a uuid has a destroy function that the factory knows of. -/
def State.destroyFunc (s : State υ) (uuid : υ) : Bool :=
  (s.mEffectLibMap uuid).any fun entry => entry.iface.destroyEffectFunc

/-- The map and the calls agree with what has happened. -/
structure Accounted (s : State υ) : Prop where
  /-- The map holds what was created, not destroyed and not expired at the last
      cleanup, with what it was created for. -/
  holds : ∀ handle uuid, (handle, uuid) ∈ s.mEffectMap ↔
    (handle, uuid) ∈ s.created ∧ handle ∉ s.destroyed ∧ handle ∉ s.cleaned
  once : (s.mEffectMap.map Prod.fst).Nodup
  /-- Only the library that created an instance is told to destroy it. -/
  own : ∀ call ∈ s.calls, (call.handle, call.library) ∈ s.created
  destroyedOnce : s.destroyed.Nodup

/-- What a `destroyEffect` has to do. -/
structure DestroysOwn (s : State υ) (handle : Nat) (answer : Exception) : Prop where
  called : ∀ uuid, (handle, uuid) ∈ s.mEffectMap → s.destroyFunc uuid = true →
    (destroyEffect s handle answer).1.calls
      = s.calls ++ [{ library := uuid, handle, answer }]
  quiet : (∀ uuid, (handle, uuid) ∈ s.mEffectMap → s.destroyFunc uuid = false) →
    (destroyEffect s handle answer).1.calls = s.calls
  kept : ∀ uuid, (destroyEffect s handle answer).2 ≠ exNone → (handle, uuid) ∈ s.mEffectMap →
    handle ∉ s.expired → (handle, uuid) ∈ (destroyEffect s handle answer).1.mEffectMap

/-- What the destructor has to do: one attempt for each instance that was
    created, not destroyed, and is still alive. -/
structure TearsDown (s : State υ) (t : Teardown υ) : Prop where
  each : ∀ handle, handle ∈ t.attempts ↔
    handle ∈ s.created.map Prod.fst ∧ handle ∉ s.destroyed ∧ handle ∉ s.expired
  once : t.attempts.Nodup
  entries : t.usedErased = false

-- ── One attempt to destroy an instance ───────────────────────────────────────

/-- After a destroy function was called: the instance goes from the map if the
    function had no objection. -/
def State.told (s : State υ) (uuid : υ) (handle : Nat) (answer : Exception) : State υ :=
  { s with
    calls := s.calls ++ [{ library := uuid, handle, answer }]
    mEffectMap :=
      if answer = exNone then s.mEffectMap.filter fun it => it.1 ≠ handle else s.mEffectMap }

/-- A key of the map has one entry. -/
theorem entry_unique {entries : List (Nat × υ)} (hnd : (entries.map Prod.fst).Nodup)
    {handle : Nat} {uuid uuid' : υ} (h : (handle, uuid) ∈ entries)
    (h' : (handle, uuid') ∈ entries) : uuid = uuid' := by
  have hpair := List.inj_on_of_nodup_map hnd h h' rfl
  exact congrArg Prod.snd hpair

/-- **ONE ATTEMPT**: either no destroy function is called, nothing changes and
    the attempt fails, or the function of the instance's own library is called
    and has the say. -/
theorem destroyEffectImpl_cases (s : State υ) (hnd : (s.mEffectMap.map Prod.fst).Nodup)
    (handle : Nat) (answer : Exception) :
    ((∀ uuid, (handle, uuid) ∈ s.mEffectMap → s.destroyFunc uuid = false) ∧
      (destroyEffectImpl_l s handle answer).1 = s ∧
      (destroyEffectImpl_l s handle answer).2 ≠ exNone) ∨
    ∃ uuid, (handle, uuid) ∈ s.mEffectMap ∧ s.destroyFunc uuid = true ∧
      destroyEffectImpl_l s handle answer = (s.told uuid handle answer, answer) := by
  -- the failures before the call
  have hfail : ∀ ex, ex ≠ exNone → destroyEffectImpl_l s handle answer = (s, ex) →
      (destroyEffectImpl_l s handle answer).1 = s ∧
        (destroyEffectImpl_l s handle answer).2 ≠ exNone := by
    intro ex hex heq
    rw [heq]
    exact ⟨rfl, hex⟩
  cases hfind : s.mEffectMap.find? fun it => it.1 == handle with
  | none =>
      refine Or.inl ⟨?_, hfail exIllegalArgument (by decide) ?_⟩
      · intro uuid hmem
        have hmiss := List.find?_eq_none.mp hfind _ hmem
        simp at hmiss
      · rw [destroyEffectImpl_l, hfind]
  | some it =>
      obtain ⟨found, uuid⟩ := it
      have hkey : found = handle := by
        simpa using List.find?_some hfind
      subst hkey
      have hmem := List.mem_of_find?_eq_some hfind
      have honly : ∀ uuid', (found, uuid') ∈ s.mEffectMap → uuid' = uuid :=
        fun uuid' h' => entry_unique hnd h' hmem
      cases hlib : s.mEffectLibMap uuid with
      | none =>
          refine Or.inl ⟨?_, hfail exIllegalArgument (by decide) ?_⟩
          · intro uuid' h'
            rw [honly uuid' h', State.destroyFunc, hlib]
            rfl
          · rw [destroyEffectImpl_l, hfind]
            simp only [hlib]
      | some entry =>
          have hfunc : s.destroyFunc uuid = entry.iface.destroyEffectFunc := by
            rw [State.destroyFunc, hlib]
            rfl
          cases hloaded : entry.iface.destroyEffectFunc with
          | false =>
              refine Or.inl ⟨?_, hfail exNullPointer (by decide) ?_⟩
              · intro uuid' h'
                rw [honly uuid' h', hfunc, hloaded]
              · rw [destroyEffectImpl_l, hfind]
                simp [hlib, hloaded]
          | true =>
              refine Or.inr ⟨uuid, hmem, hfunc.trans hloaded, ?_⟩
              rw [destroyEffectImpl_l, hfind]
              by_cases hans : answer = exNone
              · simp [hlib, hloaded, hans, State.told]
              · simp [hlib, hloaded, hans, State.told]

/-- An attempt succeeds if there is a function to call and it has no objection. -/
theorem destroyEffectImpl_ok {s : State υ} (hnd : (s.mEffectMap.map Prod.fst).Nodup)
    {handle : Nat} {uuid : υ} (hmem : (handle, uuid) ∈ s.mEffectMap) (answer : Exception) :
    (destroyEffectImpl_l s handle answer).2 = exNone
      ↔ s.destroyFunc uuid = true ∧ answer = exNone := by
  rcases destroyEffectImpl_cases s hnd handle answer with ⟨hno, -, hex⟩ | ⟨uuid', hmem', hfunc, heq⟩
  · constructor
    · intro h
      exact absurd h hex
    · rintro ⟨hfunc, -⟩
      rw [hno uuid hmem] at hfunc
      exact nomatch hfunc
  · obtain rfl := entry_unique hnd hmem' hmem
    rw [heq]
    constructor
    · intro h
      exact ⟨hfunc, h⟩
    · rintro ⟨-, h⟩
      exact h

-- ── What every call keeps ────────────────────────────────────────────────────

/-- The accounts, and what of the past they rest on. -/
structure Inv (s : State υ) : Prop where
  accounted : Accounted s
  ids : (s.created.map Prod.fst).Nodup
  gone : ∀ handle ∈ s.cleaned, handle ∈ s.expired
  made : ∀ handle ∈ s.expired, handle ∈ s.created.map Prod.fst

theorem inv_effectFactory [DecidableEq υ] (config : List (υ × Option DlInterface)) :
    Inv (effectFactory config) where
  accounted :=
    { holds := by
        intro handle uuid
        simp [effectFactory]
      once := List.nodup_nil
      own := by
        intro call hmem
        exact nomatch hmem
      destroyedOnce := List.nodup_nil }
  ids := List.nodup_nil
  gone := by
    intro handle hmem
    exact nomatch hmem
  made := by
    intro handle hmem
    exact nomatch hmem

/-- Looking up the functions of a library changes nothing that is accounted. -/
theorem inv_load [DecidableEq υ] {s : State υ} (h : Inv s) (uuid : υ) (entry : DlEntry) :
    Inv (s.load uuid entry) where
  accounted :=
    { holds := h.accounted.holds
      once := h.accounted.once
      own := h.accounted.own
      destroyedOnce := h.accounted.destroyedOnce }
  ids := h.ids
  gone := h.gone
  made := h.made

theorem created_of_destroyed {s : State υ} (h : Accounted s) {handle : Nat}
    (hmem : handle ∈ s.destroyed) : handle ∈ s.created.map Prod.fst := by
  obtain ⟨call, hcall, rfl⟩ := List.mem_map.mp hmem
  have hown := h.own call (List.mem_of_mem_filter hcall)
  exact List.mem_map_of_mem (f := Prod.fst) hown

/-- A new instance gets an entry. -/
theorem inv_register {s : State υ} (h : Inv s) {handle : Nat} (uuid : υ) (place : Nat)
    (hfresh : handle ∉ s.created.map Prod.fst) :
    Inv { s with
      mEffectMap := s.mEffectMap.take place ++ (handle, uuid) :: s.mEffectMap.drop place
      created := s.created ++ [(handle, uuid)] } := by
  have hperm : (s.mEffectMap.take place ++ (handle, uuid) :: s.mEffectMap.drop place).Perm
      ((handle, uuid) :: s.mEffectMap) := by
    have hmid := @List.perm_middle _ (handle, uuid) (s.mEffectMap.take place)
      (s.mEffectMap.drop place)
    rwa [List.take_append_drop] at hmid
  have hlive : handle ∉ s.destroyed := fun hd => hfresh (created_of_destroyed h.accounted hd)
  have hkept : handle ∉ s.cleaned := fun hc => hfresh (h.made _ (h.gone _ hc))
  have hunlisted : handle ∉ s.mEffectMap.map Prod.fst := by
    intro hmem
    obtain ⟨⟨_, uuid'⟩, hentry, rfl⟩ := List.mem_map.mp hmem
    exact hfresh (List.mem_map_of_mem (f := Prod.fst) ((h.accounted.holds _ _).mp hentry).1)
  constructor
  · constructor
    · intro other uuid'
      rw [hperm.mem_iff, List.mem_cons, h.accounted.holds other uuid']
      simp only [List.mem_append, List.mem_singleton]
      constructor
      · rintro (heq | ⟨hc, hd, hcl⟩)
        · obtain ⟨rfl, rfl⟩ := Prod.mk.inj heq
          exact ⟨Or.inr rfl, hlive, hkept⟩
        · exact ⟨Or.inl hc, hd, hcl⟩
      · rintro ⟨hc | heq, hd, hcl⟩
        · exact Or.inr ⟨hc, hd, hcl⟩
        · exact Or.inl heq
    · rw [(hperm.map Prod.fst).nodup_iff]
      exact List.nodup_cons.mpr ⟨hunlisted, h.accounted.once⟩
    · intro call hcall
      exact List.mem_append_left _ (h.accounted.own call hcall)
    · exact h.accounted.destroyedOnce
  · show ((s.created ++ [(handle, uuid)]).map Prod.fst).Nodup
    rw [List.map_append]
    exact (List.nodup_append_comm.mp (List.nodup_cons.mpr ⟨hfresh, h.ids⟩))
  · exact h.gone
  · intro other hother
    show other ∈ (s.created ++ [(handle, uuid)]).map Prod.fst
    rw [List.map_append]
    exact List.mem_append_left _ (h.made other hother)

theorem inv_createEffect [DecidableEq υ] {s : State υ} (h : Inv s) (uuid : υ) {reply : CreateReply}
    (hfresh : ∀ handle ∈ reply.effectSp, handle ∉ s.created.map Prod.fst) :
    Inv (createEffect s uuid reply).1 := by
  rw [createEffect]
  split
  · exact h
  · rename_i entry hlib
    have hload := inv_load h uuid entry
    dsimp only
    split
    · split
      · exact hload
      · cases hsp : reply.effectSp with
        | none => exact hload
        | some handle =>
            exact inv_register hload uuid reply.place (hfresh handle hsp)
    · exact hload

/-- The destroy function of an instance's library has answered. -/
theorem inv_told {s : State υ} (h : Inv s) {handle : Nat} {uuid : υ}
    (hmem : (handle, uuid) ∈ s.mEffectMap) (answer : Exception) :
    Inv (s.told uuid handle answer) := by
  obtain ⟨hcreated, hlive, -⟩ := (h.accounted.holds handle uuid).mp hmem
  have hown : ∀ call ∈ (s.told uuid handle answer).calls, (call.handle, call.library) ∈ s.created := by
    intro call hcall
    rcases List.mem_append.mp hcall with hold | hnew
    · exact h.accounted.own call hold
    · rw [List.mem_singleton.mp hnew]
      exact hcreated
  by_cases hans : answer = exNone
  · have hdestroyed : (s.told uuid handle answer).destroyed = s.destroyed ++ [handle] := by
      simp [State.destroyed, State.told, hans]
    have hmap : (s.told uuid handle answer).mEffectMap
        = s.mEffectMap.filter fun it => it.1 ≠ handle := if_pos hans
    refine ⟨⟨?_, ?_, hown, ?_⟩, h.ids, h.gone, h.made⟩
    · intro other uuid'
      rw [hmap, hdestroyed, List.mem_filter, h.accounted.holds other uuid']
      simp only [ne_eq, decide_eq_true_eq, List.mem_append, List.mem_singleton, not_or]
      constructor
      · rintro ⟨⟨hc, hd, hcl⟩, hne⟩
        exact ⟨hc, ⟨hd, hne⟩, hcl⟩
      · rintro ⟨hc, ⟨hd, hne⟩, hcl⟩
        exact ⟨⟨hc, hd, hcl⟩, hne⟩
    · rw [hmap]
      exact h.accounted.once.sublist (List.filter_sublist.map Prod.fst)
    · rw [hdestroyed]
      exact List.nodup_append_comm.mp (List.nodup_cons.mpr ⟨hlive, h.accounted.destroyedOnce⟩)
  · have hdestroyed : (s.told uuid handle answer).destroyed = s.destroyed := by
      simp [State.destroyed, State.told, hans]
    have hmap : (s.told uuid handle answer).mEffectMap = s.mEffectMap := if_neg hans
    refine ⟨⟨?_, ?_, hown, ?_⟩, h.ids, h.gone, h.made⟩
    · intro other uuid'
      rw [hmap, hdestroyed]
      exact h.accounted.holds other uuid'
    · rw [hmap]
      exact h.accounted.once
    · rw [hdestroyed]
      exact h.accounted.destroyedOnce

theorem inv_destroyEffectImpl {s : State υ} (h : Inv s) (handle : Nat) (answer : Exception) :
    Inv (destroyEffectImpl_l s handle answer).1 := by
  rcases destroyEffectImpl_cases s h.accounted.once handle answer with
    ⟨-, hsame, -⟩ | ⟨uuid, hmem, -, heq⟩
  · rw [hsame]
    exact h
  · rw [heq]
    exact inv_told h hmem answer

theorem inv_cleanupEffectMap {s : State υ} (h : Inv s) : Inv (cleanupEffectMap_l s) where
  accounted :=
    { holds := by
        intro handle uuid
        show (handle, uuid) ∈ s.mEffectMap.filter (fun it => it.1 ∉ s.expired) ↔
          (handle, uuid) ∈ s.created ∧ handle ∉ s.destroyed ∧ handle ∉ s.expired
        rw [List.mem_filter, h.accounted.holds handle uuid, decide_eq_true_eq]
        constructor
        · rintro ⟨⟨hc, hd, -⟩, hx⟩
          exact ⟨hc, hd, hx⟩
        · rintro ⟨hc, hd, hx⟩
          exact ⟨⟨hc, hd, fun hcl => hx (h.gone handle hcl)⟩, hx⟩
      once := h.accounted.once.sublist (List.filter_sublist.map Prod.fst)
      own := h.accounted.own
      destroyedOnce := h.accounted.destroyedOnce }
  ids := h.ids
  gone := fun _ hmem => hmem
  made := h.made

theorem inv_step [DecidableEq υ] {s s' : State υ} {a : Act υ} (h : Inv s)
    (hstep : step s a = some s') : Inv s' := by
  cases a with
  | createEffect uuid reply =>
      rw [step] at hstep
      split at hstep
      · rename_i hfresh
        obtain rfl := Option.some.inj hstep
        exact inv_createEffect h uuid hfresh
      · exact nomatch hstep
  | destroyEffect handle answer =>
      obtain rfl := Option.some.inj hstep
      exact inv_cleanupEffectMap (inv_destroyEffectImpl h handle answer)
  | query uuid =>
      obtain rfl := Option.some.inj hstep
      rw [getDescriptorWithUuid_l]
      split
      · exact h
      · exact inv_load h uuid _
  | expire handle =>
      rw [step] at hstep
      split at hstep
      · rename_i hmade
        obtain rfl := Option.some.inj hstep
        refine ⟨⟨h.accounted.holds, h.accounted.once, h.accounted.own, h.accounted.destroyedOnce⟩,
          h.ids, ?_, ?_⟩
        · intro other hother
          exact List.mem_cons_of_mem handle (h.gone other hother)
        · intro other hother
          rcases List.mem_cons.mp hother with rfl | hold
          · exact hmade
          · exact h.made other hold
      · exact nomatch hstep

theorem inv_run [DecidableEq υ] (config : List (υ × Option DlInterface)) (acts : List (Act υ))
    {s : State υ} (h : run step (effectFactory config) acts = some s) : Inv s :=
  run_invariant (fun _ _ _ hs hstep => inv_step hs hstep) acts (inv_effectFactory config) h

/-- Every `destroyEffect` does what it has to. -/
theorem destroysOwn {s : State υ} (h : Inv s) (handle : Nat) (answer : Exception) :
    DestroysOwn s handle answer := by
  have hnd := h.accounted.once
  rcases destroyEffectImpl_cases s hnd handle answer with ⟨hno, hsame, -⟩ | ⟨uuid, hmem, hfunc, heq⟩
  · have hstate : (destroyEffect s handle answer).1 = cleanupEffectMap_l s :=
      congrArg cleanupEffectMap_l hsame
    constructor
    · intro uuid hmem hfunc
      rw [hno uuid hmem] at hfunc
      exact nomatch hfunc
    · intro _
      rw [hstate]
      rfl
    · intro uuid _ hmem hlive
      rw [hstate]
      exact List.mem_filter.mpr ⟨hmem, decide_eq_true hlive⟩
  · have hstate : (destroyEffect s handle answer).1
        = cleanupEffectMap_l (s.told uuid handle answer) :=
      congrArg (fun r : State υ × Exception => cleanupEffectMap_l r.1) heq
    have hstatus : (destroyEffect s handle answer).2 = answer := congrArg Prod.snd heq
    constructor
    · intro uuid' hmem' _
      obtain rfl := entry_unique hnd hmem hmem'
      rw [hstate]
      rfl
    · intro hquiet
      rw [hquiet uuid hmem] at hfunc
      exact nomatch hfunc
    · intro uuid' hfailed hmem' hlive
      rw [hstatus] at hfailed
      have hmap : (s.told uuid handle answer).mEffectMap = s.mEffectMap := if_neg hfailed
      rw [hstate]
      refine List.mem_filter.mpr ⟨?_, decide_eq_true hlive⟩
      rw [hmap]
      exact hmem'

-- ── The walk of the destructor ───────────────────────────────────────────────

/-- The destructor would succeed in destroying the instance of an entry. -/
def State.Falls (s : State υ) (answers : Nat → Exception) (it : Nat × υ) : Prop :=
  it.1 ∉ s.expired ∧ s.destroyFunc it.2 = true ∧ answers it.1 = exNone

theorem inv_walk (answers : Nat → Exception) :
    ∀ (rest : List (Nat × υ)) {t : Teardown υ}, Inv t.state → Inv (walk answers rest t).state := by
  intro rest
  induction rest with
  | nil =>
      intro t h
      exact h
  | cons it rest ih =>
      intro t h
      rw [walk]
      split
      · exact ih h
      · dsimp only
        have hone := inv_destroyEffectImpl h it.1 (answers it.1)
        split
        · exact hone
        · exact ih hone

/-- A failed attempt leaves what the walk looks at as it was. -/
theorem failed_attempt {s : State υ} (hnd : (s.mEffectMap.map Prod.fst).Nodup) {handle : Nat}
    {answer : Exception} (h : (destroyEffectImpl_l s handle answer).2 ≠ exNone) :
    (destroyEffectImpl_l s handle answer).1.mEffectMap = s.mEffectMap ∧
      (destroyEffectImpl_l s handle answer).1.expired = s.expired ∧
      (destroyEffectImpl_l s handle answer).1.mEffectLibMap = s.mEffectLibMap := by
  rcases destroyEffectImpl_cases s hnd handle answer with ⟨-, hsame, -⟩ | ⟨uuid, -, -, heq⟩
  · rw [hsame]
    exact ⟨rfl, rfl, rfl⟩
  · rw [heq] at h ⊢
    exact ⟨if_neg h, rfl, rfl⟩

/-- **THE WALK**: it stays off erased entries exactly if it erases none, and
    then it tries every live entry, in their order. -/
theorem walk_spec (answers : Nat → Exception) :
    ∀ (rest : List (Nat × υ)) {t : Teardown υ}, (t.state.mEffectMap.map Prod.fst).Nodup →
      (∀ it ∈ rest, it ∈ t.state.mEffectMap) → t.usedErased = false →
      ((walk answers rest t).usedErased = false
        ↔ ∀ it ∈ rest, ¬ t.state.Falls answers it) ∧
      ((walk answers rest t).usedErased = false →
        (walk answers rest t).attempts
          = t.attempts ++ (rest.map Prod.fst).filter fun handle => handle ∉ t.state.expired) := by
  intro rest
  induction rest with
  | nil =>
      intro t _ _ herased
      refine ⟨?_, ?_⟩
      · constructor
        · intro _ it hmem
          exact nomatch hmem
        · intro _
          exact herased
      · intro _
        exact (List.append_nil _).symm
  | cons it rest ih =>
      intro t hnd hsub herased
      have hmem := hsub it List.mem_cons_self
      have hrest : ∀ other ∈ rest, other ∈ t.state.mEffectMap :=
        fun other hother => hsub other (List.mem_cons_of_mem it hother)
      rw [walk]
      split
      · -- the instance is gone
        rename_i hexpired
        obtain ⟨hiff, hattempts⟩ := ih hnd hrest herased
        refine ⟨?_, ?_⟩
        · rw [hiff, List.forall_mem_cons]
          constructor
          · intro hfalls
            exact ⟨fun hf => hf.1 hexpired, hfalls⟩
          · rintro ⟨-, hfalls⟩
            exact hfalls
        · intro hclean
          rw [hattempts hclean]
          simp [hexpired]
      · rename_i hlive
        have hok := @destroyEffectImpl_ok _ _ hnd it.1 it.2 hmem (answers it.1)
        dsimp only
        split
        · -- its entry is erased under the walk
          rename_i hsuccess
          obtain ⟨hfunc, hans⟩ := hok.mp hsuccess
          refine ⟨?_, ?_⟩
          · constructor
            · intro hclean
              exact nomatch hclean
            · intro hfalls
              exact absurd ⟨hlive, hfunc, hans⟩ (hfalls it List.mem_cons_self)
          · intro hclean
            exact nomatch hclean
        · rename_i hfailed
          obtain ⟨hmap, hexp, hlib⟩ := failed_attempt hnd hfailed
          have hfallsEq : ∀ other,
              (destroyEffectImpl_l t.state it.1 (answers it.1)).1.Falls answers other
                ↔ t.state.Falls answers other := by
            intro other
            rw [State.Falls, State.Falls, State.destroyFunc, State.destroyFunc, hexp, hlib]
          obtain ⟨hiff, hattempts⟩ := ih
            (t := { t with
              state := (destroyEffectImpl_l t.state it.1 (answers it.1)).1
              attempts := t.attempts ++ [it.1] })
            (by rw [hmap]; exact hnd) (by rw [hmap]; exact hrest) herased
          refine ⟨?_, ?_⟩
          · rw [hiff, List.forall_mem_cons]
            constructor
            · intro hfalls
              refine ⟨?_, fun other hother hf => hfalls other hother ((hfallsEq other).mpr hf)⟩
              rintro ⟨-, hfunc, hans⟩
              exact hfailed (hok.mpr ⟨hfunc, hans⟩)
            · rintro ⟨-, hfalls⟩ other hother hf
              exact hfalls other hother ((hfallsEq other).mp hf)
          · intro hclean
            rw [hattempts hclean, hexp]
            simp [hlive]

/-- What the walk has to try is what is alive of the map. -/
theorem alive_iff {s : State υ} (h : Inv s) (handle : Nat) :
    handle ∈ (s.mEffectMap.map Prod.fst).filter (fun other => other ∉ s.expired) ↔
      handle ∈ s.created.map Prod.fst ∧ handle ∉ s.destroyed ∧ handle ∉ s.expired := by
  rw [List.mem_filter, decide_eq_true_eq]
  constructor
  · rintro ⟨hmem, hlive⟩
    obtain ⟨⟨_, uuid⟩, hentry, rfl⟩ := List.mem_map.mp hmem
    obtain ⟨hcreated, hkept, -⟩ := (h.accounted.holds _ _).mp hentry
    exact ⟨List.mem_map_of_mem (f := Prod.fst) hcreated, hkept, hlive⟩
  · rintro ⟨hmem, hkept, hlive⟩
    obtain ⟨⟨_, uuid⟩, hcreated, rfl⟩ := List.mem_map.mp hmem
    have hentry := (h.accounted.holds _ _).mpr
      ⟨hcreated, hkept, fun hcl => hlive (h.gone _ hcl)⟩
    exact ⟨List.mem_map_of_mem (f := Prod.fst) hentry, hlive⟩

/-- The destructor does what it has to exactly if it destroys nothing. -/
theorem tearsDown_iff {s : State υ} (h : Inv s) (answers : Nat → Exception) :
    TearsDown s (destructor s answers) ↔ ∀ it ∈ s.mEffectMap, ¬ s.Falls answers it := by
  obtain ⟨hiff, hattempts⟩ := walk_spec answers s.mEffectMap
    (t := { state := s, attempts := [], usedErased := false }) h.accounted.once
    (fun _ hmem => hmem) rfl
  constructor
  · intro hdown
    exact hiff.mp hdown.entries
  · intro hfalls
    have hclean := hiff.mpr hfalls
    have heq : (destructor s answers).attempts
        = (s.mEffectMap.map Prod.fst).filter fun handle => handle ∉ s.expired := hattempts hclean
    refine ⟨?_, ?_, hclean⟩
    · intro handle
      rw [heq]
      exact alive_iff h handle
    · rw [heq]
      exact h.accounted.once.filter _

/-- **EFFECT INSTANCES**: after any calls the map, the calls of the destroy
    functions and every further `destroyEffect` are as they should be, before
    and after the destructor.  The destructor itself is as it should be exactly
    if it destroys nothing: if no instance that is registered and alive has a
    destroy function that has no objection. -/
theorem effects_accounted [DecidableEq υ] (config : List (υ × Option DlInterface))
    (acts : List (Act υ)) (answers : Nat → Exception) {s : State υ}
    (h : run step (effectFactory config) acts = some s) :
    (Accounted s ∧ (∀ handle answer, DestroysOwn s handle answer) ∧
      Accounted (destructor s answers).state ∧ TearsDown s (destructor s answers)) ↔
    ∀ handle uuid, (handle, uuid) ∈ s.mEffectMap → handle ∉ s.expired →
      s.destroyFunc uuid = true → answers handle ≠ exNone := by
  have hinv := inv_run config acts h
  constructor
  · rintro ⟨-, -, -, hdown⟩ handle uuid hmem hlive hfunc hans
    exact (tearsDown_iff hinv answers).mp hdown (handle, uuid) hmem ⟨hlive, hfunc, hans⟩
  · intro hcond
    refine ⟨hinv.accounted, destroysOwn hinv, (inv_walk answers s.mEffectMap hinv).accounted, ?_⟩
    refine (tearsDown_iff hinv answers).mpr ?_
    rintro ⟨handle, uuid⟩ hmem ⟨hlive, hfunc, hans⟩
    exact hcond handle uuid hmem hlive hfunc hans

/-- Two instances of one library, the second still there when the factory goes
    and not to be destroyed. -/
theorem effects_accounted_refused :
    ∃ s, run step (effectFactory [(7, some ⟨true, true, true⟩)])
        [.createEffect 7 ⟨exNone, some 1, 0⟩, .createEffect 7 ⟨exNone, some 2, 0⟩,
         .destroyEffect 1 exNone] = some s ∧
      Accounted s ∧ TearsDown s (destructor s fun _ => exNullPointer) := by
  refine ⟨_, rfl, ?_⟩
  have h := (effects_accounted [(7, some ⟨true, true, true⟩)]
    [.createEffect 7 ⟨exNone, some 1, 0⟩, .createEffect 7 ⟨exNone, some 2, 0⟩,
     .destroyEffect 1 exNone] (fun _ => exNullPointer) rfl).mpr (by
      intro handle uuid _ _ _
      decide)
  exact ⟨h.1, h.2.2.2⟩

/-- One instance, still alive, whose library destroys it: the destructor goes
    on from the entry it has erased. -/
theorem walk_over_erased :
    ∃ s, run step (effectFactory [(7, some ⟨true, true, true⟩)])
        [.createEffect 7 ⟨exNone, some 1, 0⟩] = some s ∧
      ¬ TearsDown s (destructor s fun _ => exNone) := by
  refine ⟨_, rfl, ?_⟩
  intro h
  exact absurd h.entries (by decide)

end EffectFactory

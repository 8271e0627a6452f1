import Mathlib.Data.List.Sort
import Universal7580.EffectFactoryProofs

/-! # The effect factory's queries

    `queryEffects` walks over the identities that were made when the libraries were
    loaded, and `queryProcessing` over what the configuration has for each kind of
    stream.  Both ask the library of an implementation for its descriptor, and both
    have a proxy to add to it: the first writes it into what the library has
    answered, the second into what the library is then handed to overwrite.

    * `Loaded` says what the factory's set and map hold, from the libraries that
      could be opened, and no query changes it;
    * `queries_agree_iff` says when the two queries answer the same. -/

namespace EffectQuery

open EffectFactory

-- ── Descriptors and the configuration ────────────────────────────────────────

/-- `Descriptor::Identity`. -/
structure Identity (υ : Type) where
  type : υ
  uuid : υ
  proxy : Option υ
deriving DecidableEq, Repr, Inhabited

/-- A `Descriptor`: its `common.id`, and all the rest. -/
structure Descriptor (υ δ : Type) where
  id : Identity υ
  rest : δ
deriving DecidableEq, Repr, Inhabited

structure Library (υ : Type) where
  name : String
  uuid : υ
deriving DecidableEq, Repr

structure EffectLibraries (υ : Type) where
  proxyLibrary : Option (Library υ)
  libraries : List (Library υ)
deriving DecidableEq, Repr

/-- What `EffectConfig` has parsed.  The maps that are looped over are lists, in the
    order of the loop; `findUuid` is the type that the name of an effect stands for. -/
structure EffectConfig (υ τ : Type) where
  effectsMap : List (String × EffectLibraries υ)
  libraryMap : String → Option String
  processingMap : List (τ × List (EffectLibraries υ))
  findUuid : String × EffectLibraries υ → Option υ

/-- The libraries of the device: what `dlopen` finds at a path, and what the query
    function there makes of a descriptor. -/
structure Host (υ δ : Type) where
  dlopen : String → Option DlInterface
  queryEffect : String → υ → Descriptor υ δ → Exception × Descriptor υ δ

/-- An entry of the library map. -/
structure LibEntry where
  dl : DlEntry
  libPath : String
deriving DecidableEq, Repr

/-- The part of the factory that the queries look at.  The set is a list in the order
    of its elements. -/
structure Factory (υ : Type) where
  mIdentitySet : List (Identity υ)
  mEffectLibMap : υ → Option LibEntry

variable {υ τ δ : Type}

def EffectLibraries.proxyUuid (libs : EffectLibraries υ) : Option υ :=
  libs.proxyLibrary.map Library.uuid

def Descriptor.withProxy (desc : Descriptor υ δ) (proxy : Option υ) : Descriptor υ δ :=
  { desc with id := { desc.id with proxy := proxy } }

theorem withProxy_eq_iff {desc : Descriptor υ δ} {proxy : Option υ} :
    desc.withProxy proxy = desc ↔ desc.id.proxy = proxy := by
  constructor
  · intro h
    rw [← h]
    rfl
  · rintro rfl
    rfl

-- ── Loading the libraries ────────────────────────────────────────────────────

section Load

variable [LinearOrder υ]

/-- The order of the set: by type, uuid and proxy. -/
def Identity.lt (a b : Identity υ) : Prop :=
  a.type < b.type ∨ a.type = b.type ∧ (a.uuid < b.uuid ∨ a.uuid = b.uuid ∧
    (a.proxy = none ∧ b.proxy ≠ none ∨ ∃ p ∈ a.proxy, ∃ p' ∈ b.proxy, p < p'))

instance (a b : Identity υ) : Decidable (Identity.lt a b) :=
  inferInstanceAs (Decidable (_ ∨ _ ∧ (_ ∨ _ ∧ (_ ∧ _ ∨ _))))

def insertIdentity (ids : List (Identity υ)) (id : Identity υ) : List (Identity υ) :=
  if id ∈ ids then ids else ids.orderedInsert Identity.lt id

/-- The first library of a uuid stays in the map. -/
def openEffectLibrary (host : Host υ δ) (f : Factory υ) (implUuid : υ) (path : String) :
    Factory υ × Bool :=
  match host.dlopen path with
  | none => (f, false)
  | some symbols =>
      match f.mEffectLibMap implUuid with
      | some _ => (f, true)
      | none =>
          let entry := { dl := { symbols, iface := ⟨false, false, false⟩ }, libPath := path }
          ({ f with mEffectLibMap := Function.update f.mEffectLibMap implUuid (some entry) }, true)

def createIdentityWithConfig (config : EffectConfig υ τ) (host : Host υ δ) (typeUuid : υ)
    (proxyUuid : Option υ) (f : Factory υ) (configLib : Library υ) : Factory υ :=
  match config.libraryMap configLib.name with
  | none => f
  | some path =>
      let id := { type := typeUuid, uuid := configLib.uuid, proxy := proxyUuid }
      let opened := openEffectLibrary host f id.uuid path
      if opened.2 = true then
        { opened.1 with mIdentitySet := insertIdentity opened.1.mIdentitySet id }
      else opened.1

def loadEffect (config : EffectConfig υ τ) (host : Host υ δ) (f : Factory υ)
    (effect : String × EffectLibraries υ) : Factory υ :=
  match config.findUuid effect with
  | none => f
  | some type =>
      effect.2.libraries.foldl
        (createIdentityWithConfig config host type effect.2.proxyUuid) f

def loadEffectLibs (config : EffectConfig υ τ) (host : Host υ δ) : Factory υ :=
  config.effectsMap.foldl (loadEffect config host)
    { mIdentitySet := [], mEffectLibMap := fun _ => none }

end Load

-- ── The queries ──────────────────────────────────────────────────────────────

/-- A loop that changes the factory and collects. -/
def visitAll {α β : Type} (visit : Factory υ → α → Factory υ × List β) :
    Factory υ → List α → Factory υ × List β
  | f, [] => (f, [])
  | f, a :: rest =>
      let r := visit f a
      let others := visitAll visit r.1 rest
      (others.1, r.2 ++ others.2)

section Query

variable [DecidableEq υ]

/-- `desc` is what the caller has put in the descriptor. -/
def getDescriptorWithUuid_l (host : Host υ δ) (f : Factory υ) (uuid : υ)
    (desc : Descriptor υ δ) : Factory υ × Exception × Descriptor υ δ :=
  match f.mEffectLibMap uuid with
  | none => (f, exIllegalArgument, desc)
  | some entry =>
      let f := { f with
        mEffectLibMap := Function.update f.mEffectLibMap uuid
          (some { entry with dl := getDlSyms_l entry.dl }) }
      if (getDlSyms_l entry.dl).iface.queryEffectFunc = true then
        (f, host.queryEffect entry.libPath uuid desc)
      else (f, exNullPointer, desc)

variable [Inhabited υ] [Inhabited δ]

/-- What `copy_if` takes from the set. -/
def Selected (inType inImpl inProxy : Option υ) (id : Identity υ) : Prop :=
  (∀ type ∈ inType, type = id.type) ∧ (∀ uuid ∈ inImpl, uuid = id.uuid)
    ∧ ∀ proxy ∈ inProxy, id.proxy = some proxy

instance (inType inImpl inProxy : Option υ) (id : Identity υ) :
    Decidable (Selected inType inImpl inProxy id) :=
  inferInstanceAs (Decidable (_ ∧ _ ∧ _))

/-- The loop body of `queryEffects`.  The proxy is written behind the query. -/
def queryIdentity (host : Host υ δ) (f : Factory υ) (id : Identity υ) :
    Factory υ × List (υ × Descriptor υ δ) :=
  if (f.mEffectLibMap id.uuid).isSome = true then
    let r := getDescriptorWithUuid_l host f id.uuid default
    if r.2.1 ≠ exNone then (r.1, []) else (r.1, [(id.uuid, r.2.2.withProxy id.proxy)])
  else (f, [])

/-- `queryEffects`, with the implementation that each descriptor was asked for. -/
def effectsFor (host : Host υ δ) (f : Factory υ) (inType inImpl inProxy : Option υ) :
    Factory υ × List (υ × Descriptor υ δ) :=
  visitAll (queryIdentity host) f
    (f.mIdentitySet.filter fun id => Selected inType inImpl inProxy id)

def queryEffects (host : Host υ δ) (f : Factory υ) (inType inImpl inProxy : Option υ) :
    List (Descriptor υ δ) :=
  (effectsFor host f inType inImpl inProxy).2.map Prod.snd

/-- The inner loop body of `queryProcessing`.  The proxy is written before the query. -/
def queryLibrary (host : Host υ δ) (proxyUuid : Option υ) (f : Factory υ) (lib : Library υ) :
    Factory υ × List (υ × Descriptor υ δ) :=
  let r := getDescriptorWithUuid_l host f lib.uuid (Descriptor.withProxy default proxyUuid)
  if r.2.1 ≠ exNone then (r.1, []) else (r.1, [(lib.uuid, r.2.2)])

def queryLibraries (host : Host υ δ) (f : Factory υ) (libs : EffectLibraries υ) :
    Factory υ × List (υ × Descriptor υ δ) :=
  visitAll (queryLibrary host libs.proxyUuid) f libs.libraries

/-- A `Processing`, as it is returned. -/
structure Processing (υ τ δ : Type) where
  type : τ
  ids : List (Descriptor υ δ)

variable [DecidableEq τ]

def queryStream (host : Host υ δ) (inType : Option τ) (f : Factory υ)
    (proc : τ × List (EffectLibraries υ)) : Factory υ × List (τ × List (υ × Descriptor υ δ)) :=
  if ∀ type ∈ inType, type = proc.1 then
    let r := visitAll (queryLibraries host) f proc.2
    (r.1, [(proc.1, r.2)])
  else (f, [])

/-- `queryProcessing`, with the implementation that each descriptor was asked for. -/
def processingFor (config : EffectConfig υ τ) (host : Host υ δ) (f : Factory υ)
    (inType : Option τ) : Factory υ × List (τ × List (υ × Descriptor υ δ)) :=
  visitAll (queryStream host inType) f config.processingMap

def queryProcessing (config : EffectConfig υ τ) (host : Host υ δ) (f : Factory υ)
    (inType : Option τ) : List (Processing υ τ δ) :=
  (processingFor config host f inType).2.map fun proc =>
    { type := proc.1, ids := proc.2.map Prod.snd }

/-- The calls that load functions of the libraries. -/
inductive Call (υ τ : Type) where
  | createEffect (uuid : υ)
  | queryEffects (inType inImpl inProxy : Option υ)
  | queryProcessing (inType : Option τ)

def Factory.load (f : Factory υ) (uuid : υ) : Factory υ :=
  match f.mEffectLibMap uuid with
  | none => f
  | some entry =>
      { f with
        mEffectLibMap :=
          Function.update f.mEffectLibMap uuid (some { entry with dl := getDlSyms_l entry.dl }) }

def step (config : EffectConfig υ τ) (host : Host υ δ) (f : Factory υ) : Call υ τ → Factory υ
  | .createEffect uuid => f.load uuid
  | .queryEffects inType inImpl inProxy => (effectsFor host f inType inImpl inProxy).1
  | .queryProcessing inType => (processingFor config host f inType).1

end Query

-- ── What was opened ──────────────────────────────────────────────────────────

/-- A library that could be opened, and the identity it was opened for. -/
structure Opened (υ : Type) where
  id : Identity υ
  symbols : DlInterface
  path : String

def openedLibrary (config : EffectConfig υ τ) (host : Host υ δ) (typeUuid : υ)
    (proxyUuid : Option υ) (lib : Library υ) : Option (Opened υ) :=
  (config.libraryMap lib.name).bind fun path => (host.dlopen path).map fun symbols =>
    { id := { type := typeUuid, uuid := lib.uuid, proxy := proxyUuid }, symbols, path }

def openedEffect (config : EffectConfig υ τ) (host : Host υ δ)
    (effect : String × EffectLibraries υ) : List (Opened υ) :=
  match config.findUuid effect with
  | none => []
  | some type => effect.2.libraries.filterMap (openedLibrary config host type effect.2.proxyUuid)

def opened (config : EffectConfig υ τ) (host : Host υ δ) : List (Opened υ) :=
  config.effectsMap.flatMap (openedEffect config host)

section Loaded

variable [LinearOrder υ] {config : EffectConfig υ τ} {host : Host υ δ} {os : List (Opened υ)}
  {f : Factory υ}

/-- The set has the identities of what was opened, the map the first library of each
    uuid, and no function is known that the library does not have. -/
structure Loaded (os : List (Opened υ)) (f : Factory υ) : Prop where
  ids : ∀ id, id ∈ f.mIdentitySet ↔ ∃ o ∈ os, o.id = id
  libs : ∀ uuid, (f.mEffectLibMap uuid).map (fun e => (e.dl.symbols, e.libPath))
    = (os.find? fun o => o.id.uuid = uuid).map fun o => (o.symbols, o.path)
  iface : ∀ uuid, ∀ e ∈ f.mEffectLibMap uuid,
    e.dl.iface.queryEffectFunc = true → e.dl.symbols.queryEffectFunc = true

theorem mem_insertIdentity {ids : List (Identity υ)} {id id' : Identity υ} :
    id' ∈ insertIdentity ids id ↔ id' ∈ ids ∨ id' = id := by
  rw [insertIdentity]
  by_cases hmem : id ∈ ids
  · rw [if_pos hmem]
    refine ⟨Or.inl, ?_⟩
    rintro (h | rfl)
    · exact h
    · exact hmem
  · rw [if_neg hmem, List.mem_orderedInsert, or_comm]

theorem Loaded.init : Loaded ([] : List (Opened υ))
    { mIdentitySet := [], mEffectLibMap := fun _ => none } where
  ids := fun _ => iff_of_false List.not_mem_nil fun ⟨_, h, _⟩ => List.not_mem_nil h
  libs := fun _ => rfl
  iface := fun _ _ h => absurd (Option.mem_def.mp h) (Option.some_ne_none _).symm

theorem Loaded.mem_ids (h : Loaded os f) (o : Opened υ) (id : Identity υ) :
    id ∈ insertIdentity f.mIdentitySet o.id ↔ ∃ o' ∈ os ++ [o], o'.id = id := by
  rw [mem_insertIdentity, h.ids]
  constructor
  · rintro (⟨o', ho, rfl⟩ | rfl)
    · exact ⟨o', List.mem_append_left _ ho, rfl⟩
    · exact ⟨o, List.mem_append_right _ List.mem_cons_self, rfl⟩
  · rintro ⟨o', ho, rfl⟩
    rcases List.mem_append.mp ho with hold | hnew
    · exact Or.inl ⟨o', hold, rfl⟩
    · rw [List.mem_singleton.mp hnew]
      exact Or.inr rfl

/-- **AGAIN**: a uuid that is in the map stays with its library. -/
theorem Loaded.again (h : Loaded os f) (o : Opened υ) {entry : LibEntry}
    (hmap : f.mEffectLibMap o.id.uuid = some entry) :
    Loaded (os ++ [o]) { f with mIdentitySet := insertIdentity f.mIdentitySet o.id } := by
  have hold := h.libs o.id.uuid
  rw [hmap] at hold
  refine ⟨h.mem_ids o, fun uuid => ?_, h.iface⟩
  show (f.mEffectLibMap uuid).map _ = _
  rw [h.libs uuid, List.find?_append]
  cases hfind : os.find? fun o => o.id.uuid = uuid with
  | some o' => rfl
  | none =>
      have hne : o.id.uuid ≠ uuid := by
        rintro rfl
        rw [hfind] at hold
        cases hold
      rw [List.find?_singleton, if_neg (by rw [decide_eq_true_eq]; exact hne)]
      rfl

/-- **THE FIRST** library of a uuid goes into the map, with no function loaded. -/
theorem Loaded.first (h : Loaded os f) (o : Opened υ)
    (hmap : f.mEffectLibMap o.id.uuid = none) :
    Loaded (os ++ [o])
      { mIdentitySet := insertIdentity f.mIdentitySet o.id
        mEffectLibMap := Function.update f.mEffectLibMap o.id.uuid
          (some { dl := { symbols := o.symbols, iface := ⟨false, false, false⟩ },
                  libPath := o.path }) } := by
  have hold := h.libs o.id.uuid
  rw [hmap] at hold
  refine ⟨h.mem_ids o, fun uuid => ?_, fun uuid => ?_⟩
  · show (Function.update f.mEffectLibMap o.id.uuid _ uuid).map _ = _
    rw [List.find?_append]
    by_cases heq : uuid = o.id.uuid
    · subst heq
      have hfind := Option.map_eq_none_iff.mp hold.symm
      rw [Function.update_self, hfind, List.find?_singleton, if_pos (decide_eq_true rfl)]
      rfl
    · rw [Function.update_of_ne heq, h.libs uuid, List.find?_singleton,
        if_neg (by rw [decide_eq_true_eq]; exact fun h' => heq h'.symm), Option.or_none]
  · show ∀ e ∈ Function.update f.mEffectLibMap o.id.uuid _ uuid, _
    by_cases heq : uuid = o.id.uuid
    · rw [heq, Function.update_self]
      intro e he hknown
      rw [← Option.some.inj he] at hknown
      cases hknown
    · rw [Function.update_of_ne heq]
      exact h.iface uuid

variable (config host) in
/-- A library is opened. -/
theorem Loaded.createIdentity (h : Loaded os f) (type : υ) (proxy : Option υ)
    (lib : Library υ) :
    Loaded (os ++ (openedLibrary config host type proxy lib).toList)
      (createIdentityWithConfig config host type proxy f lib) := by
  rw [openedLibrary, createIdentityWithConfig]
  cases hpath : config.libraryMap lib.name with
  | none =>
      show Loaded (os ++ []) f
      rw [List.append_nil]
      exact h
  | some path =>
      dsimp only [Option.bind_some]
      rw [openEffectLibrary]
      cases hopen : host.dlopen path with
      | none =>
          show Loaded (os ++ []) f
          rw [List.append_nil]
          exact h
      | some symbols =>
          dsimp only [Option.map_some, Option.toList_some]
          cases hmap : f.mEffectLibMap lib.uuid with
          | some entry => exact h.again ⟨⟨type, lib.uuid, proxy⟩, symbols, path⟩ hmap
          | none => exact h.first ⟨⟨type, lib.uuid, proxy⟩, symbols, path⟩ hmap

theorem Loaded.createIdentities (type : υ) (proxy : Option υ) :
    ∀ (libs : List (Library υ)) {os : List (Opened υ)} {f : Factory υ}, Loaded os f →
      Loaded (os ++ libs.filterMap (openedLibrary config host type proxy))
        (libs.foldl (createIdentityWithConfig config host type proxy) f) := by
  intro libs
  induction libs with
  | nil =>
      intro os f h
      rw [List.filterMap_nil, List.append_nil]
      exact h
  | cons lib libs ih =>
      intro os f h
      have hone := ih (h.createIdentity config host type proxy lib)
      rw [List.append_assoc] at hone
      have hcons : (lib :: libs).filterMap (openedLibrary config host type proxy)
          = (openedLibrary config host type proxy lib).toList
            ++ libs.filterMap (openedLibrary config host type proxy) := by
        rw [List.filterMap_cons]
        cases openedLibrary config host type proxy lib with
        | none => rfl
        | some o => rfl
      rw [hcons]
      exact hone

theorem Loaded.loadEffects : ∀ (effects : List (String × EffectLibraries υ))
    {os : List (Opened υ)} {f : Factory υ}, Loaded os f →
      Loaded (os ++ effects.flatMap (openedEffect config host))
        (effects.foldl (loadEffect config host) f) := by
  intro effects
  induction effects with
  | nil =>
      intro os f h
      rw [List.flatMap_nil, List.append_nil]
      exact h
  | cons effect effects ih =>
      intro os f h
      have hone : Loaded (os ++ openedEffect config host effect)
          (loadEffect config host f effect) := by
        rw [openedEffect, loadEffect]
        cases config.findUuid effect with
        | none =>
            show Loaded (os ++ []) f
            rw [List.append_nil]
            exact h
        | some type => exact h.createIdentities type effect.2.proxyUuid effect.2.libraries
      have hrest := ih hone
      rw [List.append_assoc] at hrest
      rw [List.flatMap_cons]
      exact hrest

theorem loaded_loadEffectLibs (config : EffectConfig υ τ) (host : Host υ δ) :
    Loaded (opened config host) (loadEffectLibs config host) :=
  Loaded.init.loadEffects config.effectsMap

/-- The map is the one that instances are made and destroyed with. -/
theorem loadEffectLibs_effectFactory (config : EffectConfig υ τ) (host : Host υ δ) (uuid : υ) :
    ((loadEffectLibs config host).mEffectLibMap uuid).map (fun e => e.dl.symbols)
      = ((effectFactory ((opened config host).map fun o =>
          (o.id.uuid, some o.symbols))).mEffectLibMap uuid).map DlEntry.symbols := by
  have hfold : ∀ (os : List (Opened υ)) (libs : υ → Option DlEntry),
      (((os.map fun o => (o.id.uuid, some o.symbols)).foldl
          (fun libs lib => EffectFactory.openEffectLibrary libs lib.1 lib.2) libs) uuid).map
            DlEntry.symbols
        = ((libs uuid).map DlEntry.symbols).or
          ((os.find? fun o => o.id.uuid = uuid).map Opened.symbols) := by
    intro os
    induction os with
    | nil => exact fun libs => Option.or_none.symm
    | cons o os ih =>
        intro libs
        rw [List.map_cons, List.foldl_cons, ih, EffectFactory.openEffectLibrary]
        dsimp only
        by_cases heq : o.id.uuid = uuid
        · rw [List.find?_cons_of_pos (by rw [heq]; exact decide_eq_true rfl)]
          subst heq
          cases hlib : libs o.id.uuid with
          | some entry =>
              dsimp only
              rw [hlib]
              rfl
          | none =>
              dsimp only
              rw [Function.update_self]
              rfl
        · rw [List.find?_cons_of_neg (by rw [decide_eq_true_eq]; exact heq)]
          cases libs o.id.uuid with
          | some entry => rfl
          | none =>
              dsimp only
              rw [Function.update_of_ne fun h => heq h.symm]
  have hlibs := congrArg (Option.map Prod.fst) ((loaded_loadEffectLibs config host).libs uuid)
  rw [Option.map_map, Option.map_map] at hlibs
  rw [effectFactory, hfold]
  exact hlibs

end Loaded

-- ── What is answered ─────────────────────────────────────────────────────────

/-- What `getDescriptorWithUuid_l` answers, from what was opened. -/
def answer [DecidableEq υ] (os : List (Opened υ)) (host : Host υ δ) (uuid : υ)
    (desc : Descriptor υ δ) : Exception × Descriptor υ δ :=
  match os.find? fun o => o.id.uuid = uuid with
  | none => (exIllegalArgument, desc)
  | some o =>
      if o.symbols.queryEffectFunc = true then host.queryEffect o.path uuid desc
      else (exNullPointer, desc)

/-- A loop collects what each turn answers, if no turn changes what is answered. -/
theorem visitAll_spec {α β : Type} {I : Factory υ → Prop}
    {visit : Factory υ → α → Factory υ × List β} {out : α → List β}
    (hvisit : ∀ f a, I f → (visit f a).2 = out a ∧ I (visit f a).1) :
    ∀ (as : List α) {f : Factory υ}, I f →
      (visitAll visit f as).2 = as.flatMap out ∧ I (visitAll visit f as).1 := by
  intro as
  induction as with
  | nil => exact fun h => ⟨rfl, h⟩
  | cons a as ih =>
      intro f h
      obtain ⟨hout, hnext⟩ := hvisit f a h
      obtain ⟨hrest, hlast⟩ := ih hnext
      refine ⟨?_, hlast⟩
      rw [visitAll, List.flatMap_cons]
      show (visit f a).2 ++ (visitAll visit (visit f a).1 as).2 = _
      rw [hout, hrest]

section Answers

variable [LinearOrder υ] {config : EffectConfig υ τ} {host : Host υ δ} {os : List (Opened υ)}
  {f : Factory υ}

/-- Looking functions up changes nothing that is answered. -/
theorem Loaded.lookup (h : Loaded os f) {uuid : υ} {entry : LibEntry}
    (hmap : f.mEffectLibMap uuid = some entry) :
    Loaded os
      { f with
        mEffectLibMap :=
          Function.update f.mEffectLibMap uuid
            (some { entry with dl := getDlSyms_l entry.dl }) } := by
  refine ⟨h.ids, fun other => ?_, fun other => ?_⟩
  · rw [← h.libs other]
    by_cases heq : other = uuid
    · subst heq
      show (Function.update f.mEffectLibMap other _ other).map _ = _
      rw [Function.update_self, hmap]
      rfl
    · show (Function.update f.mEffectLibMap uuid _ other).map _ = _
      rw [Function.update_of_ne heq]
  · show ∀ e ∈ Function.update f.mEffectLibMap uuid _ other, _
    by_cases heq : other = uuid
    · rw [heq, Function.update_self]
      intro e he hknown
      rw [← Option.some.inj he] at hknown ⊢
      rcases Bool.or_eq_true_iff.mp hknown with hold | hfound
      · exact h.iface uuid entry hmap hold
      · exact hfound
    · rw [Function.update_of_ne heq]
      exact h.iface other

variable (host) in
/-- **ONE QUERY**. -/
theorem Loaded.getDescriptor (h : Loaded os f) (uuid : υ) (desc : Descriptor υ δ) :
    (getDescriptorWithUuid_l host f uuid desc).2 = answer os host uuid desc
      ∧ Loaded os (getDescriptorWithUuid_l host f uuid desc).1 := by
  have hlibs := h.libs uuid
  rw [getDescriptorWithUuid_l, answer]
  cases hmap : f.mEffectLibMap uuid with
  | none =>
      rw [hmap] at hlibs
      rw [Option.map_eq_none_iff.mp hlibs.symm]
      exact ⟨rfl, h⟩
  | some entry =>
      rw [hmap] at hlibs
      obtain ⟨o, hfind, ho⟩ := Option.map_eq_some_iff.mp hlibs.symm
      obtain ⟨hsymbols, hpath⟩ := Prod.mk.inj ho
      have hknown : (getDlSyms_l entry.dl).iface.queryEffectFunc = o.symbols.queryEffectFunc := by
        show (entry.dl.iface.queryEffectFunc || entry.dl.symbols.queryEffectFunc) = _
        rw [hsymbols, Bool.or_eq_right_iff_imp]
        exact h.iface uuid entry hmap
      rw [hfind]
      dsimp only
      rw [hknown, hpath]
      by_cases hfunc : o.symbols.queryEffectFunc = true
      · rw [if_pos hfunc, if_pos hfunc]
        exact ⟨rfl, h.lookup hmap⟩
      · rw [if_neg hfunc, if_neg hfunc]
        exact ⟨rfl, h.lookup hmap⟩

theorem answer_eq_ok {uuid : υ} {desc d : Descriptor υ δ} :
    answer os host uuid desc = (exNone, d)
      ↔ ∃ o, (os.find? fun o => o.id.uuid = uuid) = some o ∧ o.symbols.queryEffectFunc = true
          ∧ host.queryEffect o.path uuid desc = (exNone, d) := by
  rw [answer]
  cases os.find? fun o => o.id.uuid = uuid with
  | none =>
      refine iff_of_false (fun h => ?_) fun ⟨_, h, _⟩ => absurd h.symm (Option.some_ne_none _)
      exact absurd (congrArg Prod.fst h) (by decide : exIllegalArgument ≠ exNone)
  | some o =>
      dsimp only
      by_cases hfunc : o.symbols.queryEffectFunc = true
      · rw [if_pos hfunc]
        constructor
        · exact fun h => ⟨o, rfl, hfunc, h⟩
        · rintro ⟨o', ho, -, h⟩
          rw [Option.some.inj ho]
          exact h
      · rw [if_neg hfunc]
        refine iff_of_false (fun h => ?_) ?_
        · exact absurd (congrArg Prod.fst h) (by decide : exNullPointer ≠ exNone)
        · rintro ⟨o', ho, hfunc', -⟩
          rw [← Option.some.inj ho] at hfunc'
          exact hfunc hfunc'

variable [Inhabited υ] [Inhabited δ]

/-- What an identity of the set gives. -/
def identityOut (os : List (Opened υ)) (host : Host υ δ) (id : Identity υ) :
    List (υ × Descriptor υ δ) :=
  if (answer os host id.uuid default).1 = exNone then
    [(id.uuid, (answer os host id.uuid default).2.withProxy id.proxy)]
  else []

/-- What a library of a stream gives. -/
def libraryOut (os : List (Opened υ)) (host : Host υ δ) (proxyUuid : Option υ)
    (lib : Library υ) : List (υ × Descriptor υ δ) :=
  if (answer os host lib.uuid (Descriptor.withProxy default proxyUuid)).1 = exNone then
    [(lib.uuid, (answer os host lib.uuid (Descriptor.withProxy default proxyUuid)).2)]
  else []

theorem Loaded.queryIdentity (h : Loaded os f) (id : Identity υ) :
    (queryIdentity host f id).2 = identityOut os host id
      ∧ Loaded os (queryIdentity host f id).1 := by
  obtain ⟨hanswer, hnext⟩ := h.getDescriptor host id.uuid default
  rw [EffectQuery.queryIdentity, identityOut]
  by_cases hin : (f.mEffectLibMap id.uuid).isSome = true
  · rw [if_pos hin]
    dsimp only
    rw [hanswer]
    by_cases hok : (answer os host id.uuid default).1 = exNone
    · rw [if_neg (not_not_intro hok), if_pos hok]
      exact ⟨rfl, hnext⟩
    · rw [if_pos hok, if_neg hok]
      exact ⟨rfl, hnext⟩
  · rw [if_neg hin]
    have hnone : f.mEffectLibMap id.uuid = none := Option.not_isSome_iff_eq_none.mp hin
    have hno : (answer os host id.uuid (default : Descriptor υ δ)).1 = exIllegalArgument := by
      rw [← hanswer, getDescriptorWithUuid_l, hnone]
    rw [if_neg (by rw [hno]; decide)]
    exact ⟨rfl, h⟩

theorem Loaded.queryLibrary (h : Loaded os f) (proxyUuid : Option υ) (lib : Library υ) :
    (queryLibrary host proxyUuid f lib).2 = libraryOut os host proxyUuid lib
      ∧ Loaded os (queryLibrary host proxyUuid f lib).1 := by
  obtain ⟨hanswer, hnext⟩ := h.getDescriptor host lib.uuid
    (Descriptor.withProxy default proxyUuid)
  rw [EffectQuery.queryLibrary, libraryOut, hanswer]
  by_cases hok : (answer os host lib.uuid (Descriptor.withProxy default proxyUuid)).1 = exNone
  · rw [if_neg (not_not_intro hok), if_pos hok]
    exact ⟨rfl, hnext⟩
  · rw [if_pos hok, if_neg hok]
    exact ⟨rfl, hnext⟩

theorem Loaded.effectsFor (h : Loaded os f) (inType inImpl inProxy : Option υ) :
    (effectsFor host f inType inImpl inProxy).2
        = (f.mIdentitySet.filter fun id => Selected inType inImpl inProxy id).flatMap
          (identityOut os host)
      ∧ Loaded os (effectsFor host f inType inImpl inProxy).1 :=
  visitAll_spec (fun _ id hf => hf.queryIdentity id) _ h

variable [DecidableEq τ]

/-- What a kind of stream gives. -/
def streamOut (os : List (Opened υ)) (host : Host υ δ) (inType : Option τ)
    (proc : τ × List (EffectLibraries υ)) : List (τ × List (υ × Descriptor υ δ)) :=
  if ∀ type ∈ inType, type = proc.1 then
    [(proc.1, proc.2.flatMap fun libs =>
      libs.libraries.flatMap (libraryOut os host libs.proxyUuid))]
  else []

theorem Loaded.queryStream (h : Loaded os f) (inType : Option τ)
    (proc : τ × List (EffectLibraries υ)) :
    (queryStream host inType f proc).2 = streamOut os host inType proc
      ∧ Loaded os (queryStream host inType f proc).1 := by
  have hlibs : ∀ g (libs : EffectLibraries υ), Loaded os g →
      (queryLibraries host g libs).2
          = libs.libraries.flatMap (libraryOut os host libs.proxyUuid)
        ∧ Loaded os (queryLibraries host g libs).1 := fun g libs hg =>
    visitAll_spec (fun _ lib hf => hf.queryLibrary libs.proxyUuid lib) _ hg
  obtain ⟨hout, hnext⟩ := visitAll_spec hlibs proc.2 h
  rw [EffectQuery.queryStream, streamOut]
  by_cases htype : ∀ type ∈ inType, type = proc.1
  · rw [if_pos htype, if_pos htype]
    dsimp only
    rw [hout]
    exact ⟨rfl, hnext⟩
  · rw [if_neg htype, if_neg htype]
    exact ⟨rfl, h⟩

theorem Loaded.processingFor (h : Loaded os f) (inType : Option τ) :
    (processingFor config host f inType).2
        = config.processingMap.flatMap (streamOut os host inType)
      ∧ Loaded os (processingFor config host f inType).1 :=
  visitAll_spec (fun _ proc hf => hf.queryStream inType proc) _ h

theorem Loaded.step (h : Loaded os f) (call : Call υ τ) : Loaded os (step config host f call) := by
  cases call with
  | createEffect uuid =>
      show Loaded os (f.load uuid)
      rw [Factory.load]
      cases hmap : f.mEffectLibMap uuid with
      | none => exact h
      | some entry => exact h.lookup hmap
  | queryEffects inType inImpl inProxy => exact (h.effectsFor inType inImpl inProxy).2
  | queryProcessing inType => exact (h.processingFor inType).2

/-- **ANY CALLS** leave the factory as it was loaded. -/
theorem loaded_calls (config : EffectConfig υ τ) (host : Host υ δ) (calls : List (Call υ τ)) :
    Loaded (opened config host)
      (calls.foldl (EffectQuery.step config host) (loadEffectLibs config host)) := by
  have hrun : ∀ (calls : List (Call υ τ)) {f : Factory υ}, Loaded (opened config host) f →
      Loaded (opened config host) (calls.foldl (EffectQuery.step config host) f) := by
    intro calls
    induction calls with
    | nil => exact fun h => h
    | cons call calls ih => exact fun h => ih (h.step call)
  exact hrun calls (loaded_loadEffectLibs config host)

-- ── When the queries agree ───────────────────────────────────────────────────

/-- `queryProcessing` reports the descriptor for the implementation. -/
def Processed (config : EffectConfig υ τ) (host : Host υ δ) (f : Factory υ) (inType : Option τ)
    (uuid : υ) (desc : Descriptor υ δ) : Prop :=
  ∃ proc ∈ (processingFor config host f inType).2, (uuid, desc) ∈ proc.2

/-- The proxy that the configuration has for an implementation. -/
def Listed (config : EffectConfig υ τ) (uuid : υ) (proxy : Option υ) : Prop :=
  ∃ effect ∈ config.effectsMap, ∃ lib ∈ effect.2.libraries,
    lib.uuid = uuid ∧ effect.2.proxyUuid = proxy

structure QueriesAgree (config : EffectConfig υ τ) (host : Host υ δ) (f : Factory υ) : Prop where
  /-- One descriptor for an implementation, proxy included. -/
  same : ∀ inType uuid desc, Processed config host f inType uuid desc →
    ∀ fType fImpl fProxy desc', (uuid, desc') ∈ (effectsFor host f fType fImpl fProxy).2 →
      desc' = desc
  /-- What is reported for a stream is found by its uuid and its proxy. -/
  found : ∀ inType uuid desc, Processed config host f inType uuid desc →
    ∃ proxy, Listed config uuid proxy
      ∧ ∃ desc', (uuid, desc') ∈ (effectsFor host f none (some uuid) proxy).2

/-- Each implementation uuid is listed once. -/
def ListedOnce (config : EffectConfig υ τ) : Prop :=
  (config.effectsMap.flatMap fun effect => effect.2.libraries.map Library.uuid).Nodup

/-- A query function overwrites the whole descriptor. -/
def Overwrites (host : Host υ δ) : Prop :=
  ∀ path uuid desc desc', host.queryEffect path uuid desc = host.queryEffect path uuid desc'

/-- A stream of the configuration has the implementation. -/
def InStream (config : EffectConfig υ τ) (uuid : υ) : Prop :=
  ∃ proc ∈ config.processingMap, ∃ libs ∈ proc.2, ∃ lib ∈ libs.libraries, lib.uuid = uuid

/-- What a library that can be opened says of itself has the proxy of the configuration,
    if a stream has it. -/
def OwnProxies (config : EffectConfig υ τ) (host : Host υ δ) : Prop :=
  ∀ effect ∈ config.effectsMap, ∀ lib ∈ effect.2.libraries, InStream config lib.uuid →
    (config.findUuid effect).isSome = true →
    ∀ path symbols desc, config.libraryMap lib.name = some path →
      host.dlopen path = some symbols → symbols.queryEffectFunc = true →
      host.queryEffect path lib.uuid default = (exNone, desc) →
      desc.id.proxy = effect.2.proxyUuid

/-- What `queryEffects` reports. -/
theorem Loaded.mem_effectsFor (h : Loaded os f) {fType fImpl fProxy : Option υ} {uuid : υ}
    {desc : Descriptor υ δ} :
    (uuid, desc) ∈ (EffectQuery.effectsFor host f fType fImpl fProxy).2
      ↔ ∃ o ∈ os, Selected fType fImpl fProxy o.id ∧ o.id.uuid = uuid
          ∧ ∃ d, answer os host uuid default = (exNone, d) ∧ desc = d.withProxy o.id.proxy := by
  rw [(h.effectsFor fType fImpl fProxy).1, List.mem_flatMap]
  constructor
  · rintro ⟨id, hid, hmem⟩
    obtain ⟨hin, hsel⟩ := List.mem_filter.mp hid
    obtain ⟨o, ho, rfl⟩ := (h.ids id).mp hin
    rw [identityOut] at hmem
    split at hmem
    · rename_i hok
      obtain ⟨rfl, rfl⟩ := Prod.mk.inj (List.mem_singleton.mp hmem)
      exact ⟨o, ho, of_decide_eq_true hsel, rfl, _, Prod.ext hok rfl, rfl⟩
    · exact absurd hmem List.not_mem_nil
  · rintro ⟨o, ho, hsel, rfl, d, hanswer, rfl⟩
    refine ⟨o.id, List.mem_filter.mpr ⟨(h.ids o.id).mpr ⟨o, ho, rfl⟩, decide_eq_true hsel⟩, ?_⟩
    rw [identityOut, hanswer, if_pos rfl]
    exact List.mem_singleton.mpr rfl

/-- What `queryProcessing` reports. -/
theorem Loaded.processed_iff (h : Loaded os f) {inType : Option τ} {uuid : υ}
    {desc : Descriptor υ δ} :
    Processed config host f inType uuid desc
      ↔ ∃ proc ∈ config.processingMap, (∀ type ∈ inType, type = proc.1)
          ∧ ∃ libs ∈ proc.2, ∃ lib ∈ libs.libraries, lib.uuid = uuid
            ∧ answer os host uuid (Descriptor.withProxy default libs.proxyUuid)
              = (exNone, desc) := by
  rw [Processed, (h.processingFor inType).1]
  constructor
  · rintro ⟨out, hout, hmem⟩
    obtain ⟨proc, hproc, hstream⟩ := List.mem_flatMap.mp hout
    rw [streamOut] at hstream
    split at hstream
    · rename_i htype
      rw [List.mem_singleton.mp hstream] at hmem
      obtain ⟨libs, hlibs, hin⟩ := List.mem_flatMap.mp hmem
      obtain ⟨lib, hlib, hone⟩ := List.mem_flatMap.mp hin
      rw [libraryOut] at hone
      split at hone
      · rename_i hok
        obtain ⟨rfl, rfl⟩ := Prod.mk.inj (List.mem_singleton.mp hone)
        exact ⟨proc, hproc, htype, libs, hlibs, lib, hlib, rfl, Prod.ext hok rfl⟩
      · exact absurd hone List.not_mem_nil
    · exact absurd hstream List.not_mem_nil
  · rintro ⟨proc, hproc, htype, libs, hlibs, lib, hlib, rfl, hanswer⟩
    refine ⟨(proc.1, proc.2.flatMap fun libs =>
      libs.libraries.flatMap (libraryOut os host libs.proxyUuid)), ?_, ?_⟩
    · refine List.mem_flatMap.mpr ⟨proc, hproc, ?_⟩
      rw [streamOut, if_pos htype]
      exact List.mem_singleton.mpr rfl
    · refine List.mem_flatMap.mpr ⟨libs, hlibs, List.mem_flatMap.mpr ⟨lib, hlib, ?_⟩⟩
      rw [libraryOut, hanswer, if_pos rfl]
      exact List.mem_singleton.mpr rfl

end Answers

-- ── Listed once ──────────────────────────────────────────────────────────────

section Once

variable {config : EffectConfig υ τ} {host : Host υ δ}

theorem mem_opened {o : Opened υ} :
    o ∈ opened config host
      ↔ ∃ effect ∈ config.effectsMap, ∃ type, config.findUuid effect = some type
          ∧ ∃ lib ∈ effect.2.libraries, ∃ path symbols, config.libraryMap lib.name = some path
            ∧ host.dlopen path = some symbols
            ∧ o = ⟨⟨type, lib.uuid, effect.2.proxyUuid⟩, symbols, path⟩ := by
  rw [opened, List.mem_flatMap]
  constructor
  · rintro ⟨effect, heffect, ho⟩
    rw [openedEffect] at ho
    split at ho
    · exact absurd ho List.not_mem_nil
    · rename_i type htype
      obtain ⟨lib, hlib, hone⟩ := List.mem_filterMap.mp ho
      obtain ⟨path, hpath, hopen⟩ := Option.bind_eq_some_iff.mp hone
      obtain ⟨symbols, hsymbols, rfl⟩ := Option.map_eq_some_iff.mp hopen
      exact ⟨effect, heffect, type, htype, lib, hlib, path, symbols, hpath, hsymbols, rfl⟩
  · rintro ⟨effect, heffect, type, htype, lib, hlib, path, symbols, hpath, hsymbols, rfl⟩
    refine ⟨effect, heffect, ?_⟩
    rw [openedEffect, htype]
    refine List.mem_filterMap.mpr ⟨lib, hlib, ?_⟩
    rw [openedLibrary, hpath, Option.bind_some, hsymbols]
    rfl

theorem openedLibrary_uuid {type : υ} {proxy : Option υ} {lib : Library υ} {o : Opened υ}
    (h : openedLibrary config host type proxy lib = some o) : o.id.uuid = lib.uuid := by
  obtain ⟨path, -, hopen⟩ := Option.bind_eq_some_iff.mp h
  obtain ⟨symbols, -, rfl⟩ := Option.map_eq_some_iff.mp hopen
  rfl

/-- What is opened is opened for uuids of the configuration, in their order. -/
theorem opened_sublist (effects : List (String × EffectLibraries υ)) :
    List.Sublist ((effects.flatMap (openedEffect config host)).map fun o => o.id.uuid)
      (effects.flatMap fun effect => effect.2.libraries.map Library.uuid) := by
  have hlibs : ∀ (type : υ) (proxy : Option υ) (libs : List (Library υ)),
      List.Sublist ((libs.filterMap (openedLibrary config host type proxy)).map fun o => o.id.uuid)
        (libs.map Library.uuid) := by
    intro type proxy libs
    induction libs with
    | nil => exact List.Sublist.slnil
    | cons lib libs ih =>
        rw [List.filterMap_cons, List.map_cons]
        cases hopen : openedLibrary config host type proxy lib with
        | none => exact ih.cons _
        | some o =>
            rw [List.map_cons, openedLibrary_uuid hopen]
            exact ih.cons_cons _
  induction effects with
  | nil => exact List.Sublist.slnil
  | cons effect effects ih =>
      rw [List.flatMap_cons, List.flatMap_cons, List.map_append]
      refine List.Sublist.append ?_ ih
      rw [openedEffect]
      cases config.findUuid effect with
      | none => exact List.nil_sublist _
      | some type => exact hlibs type effect.2.proxyUuid effect.2.libraries

/-- An implementation that is listed once is opened once. -/
theorem opened_unique (honce : ListedOnce config) {o o' : Opened υ}
    (ho : o ∈ opened config host) (ho' : o' ∈ opened config host)
    (huuid : o.id.uuid = o'.id.uuid) : o = o' :=
  List.inj_on_of_nodup_map ((opened_sublist config.effectsMap).nodup honce) ho ho' huuid

variable [LinearOrder υ]

theorem find_uuid {os : List (Opened υ)} {uuid : υ} {o : Opened υ}
    (h : (os.find? fun o => o.id.uuid = uuid) = some o) : o ∈ os ∧ o.id.uuid = uuid := by
  have hkey := List.find?_some h
  exact ⟨List.mem_of_find?_eq_some h, of_decide_eq_true hkey⟩

theorem find_opened (honce : ListedOnce config) {o : Opened υ} (ho : o ∈ opened config host) :
    ((opened config host).find? fun o' => o'.id.uuid = o.id.uuid) = some o := by
  cases hfind : (opened config host).find? fun o' => o'.id.uuid = o.id.uuid with
  | none => exact absurd (decide_eq_true rfl) (List.find?_eq_none.mp hfind o ho)
  | some o' =>
      obtain ⟨ho', hkey⟩ := find_uuid hfind
      rw [opened_unique honce ho' ho hkey]

variable [Inhabited υ] [Inhabited δ] [DecidableEq τ] {f : Factory υ}

/-- What is not asked for leaves nothing out. -/
theorem no_filter {α : Type} {p : α → Prop} : ∀ x ∈ (none : Option α), p x :=
  fun x hx => absurd hx (Option.not_mem_none x)

/-- What is reported for a stream is found, whatever the proxies. -/
theorem processed_found (hover : Overwrites host)
    (h : Loaded (opened config host) f) {inType : Option τ} {uuid : υ} {desc : Descriptor υ δ}
    (hproc : Processed config host f inType uuid desc) :
    ∃ o ∈ opened config host, o.id.uuid = uuid ∧ Listed config uuid o.id.proxy
      ∧ o.symbols.queryEffectFunc = true
      ∧ host.queryEffect o.path uuid default = (exNone, desc)
      ∧ ∀ fType fImpl fProxy, Selected fType fImpl fProxy o.id →
        (uuid, desc.withProxy o.id.proxy) ∈ (effectsFor host f fType fImpl fProxy).2 := by
  obtain ⟨-, -, -, libs, -, lib, -, -, hanswer⟩ := h.processed_iff.mp hproc
  obtain ⟨o, hfind, hfunc, hquery⟩ := answer_eq_ok.mp hanswer
  rw [hover o.path uuid _ default] at hquery
  obtain ⟨ho, huuid⟩ := find_uuid hfind
  refine ⟨o, ho, huuid, ?_, hfunc, hquery, fun fType fImpl fProxy hsel => ?_⟩
  · obtain ⟨effect, heffect, type, -, lib', hlib', path, symbols, -, -, rfl⟩ := mem_opened.mp ho
    exact ⟨effect, heffect, lib', hlib', huuid, rfl⟩
  · exact h.mem_effectsFor.mpr
      ⟨o, ho, hsel, huuid, desc, answer_eq_ok.mpr ⟨o, hfind, hfunc, hquery⟩, rfl⟩

/-- **ONE DESCRIPTOR** from both queries, exactly if the libraries know their proxies. -/
theorem loaded_agree_iff (honce : ListedOnce config) (hover : Overwrites host)
    (h : Loaded (opened config host) f) :
    QueriesAgree config host f ↔ OwnProxies config host := by
  constructor
  · rintro ⟨hsame, -⟩ effect heffect lib hlib hstream htype path symbols desc hpath hopen hfunc
      hquery
    obtain ⟨type, htype⟩ := Option.isSome_iff_exists.mp htype
    have ho : (⟨⟨type, lib.uuid, effect.2.proxyUuid⟩, symbols, path⟩ : Opened υ)
        ∈ opened config host :=
      mem_opened.mpr ⟨effect, heffect, type, htype, lib, hlib, path, symbols, hpath, hopen, rfl⟩
    obtain ⟨proc, hproc, libs, hlibs, lib', hlib', huuid⟩ := hstream
    have hanswer : answer (opened config host) host lib.uuid
        (Descriptor.withProxy default libs.proxyUuid) = (exNone, desc) := by
      rw [← hover path lib.uuid (Descriptor.withProxy default libs.proxyUuid) default] at hquery
      exact answer_eq_ok.mpr ⟨_, find_opened honce ho, hfunc, hquery⟩
    have hreported : Processed config host f none lib.uuid desc :=
      h.processed_iff.mpr
        ⟨proc, hproc, no_filter, libs, hlibs, lib', hlib', huuid, hanswer⟩
    obtain ⟨o, ho', huuid', -, -, -, hfound⟩ := processed_found hover h hreported
    obtain rfl := opened_unique honce ho' ho huuid'
    have hselected : Selected none none none
        (⟨type, lib.uuid, effect.2.proxyUuid⟩ : Identity υ) := ⟨no_filter, no_filter, no_filter⟩
    exact withProxy_eq_iff.mp
      (hsame none lib.uuid desc hreported none none none _ (hfound none none none hselected))
  · intro hown
    refine ⟨fun inType uuid desc hproc fType fImpl fProxy desc' hmem => ?_,
      fun inType uuid desc hproc => ?_⟩
    · obtain ⟨proc, hin, -, libs, hlibs, lib, hlib, hlibUuid, -⟩ := h.processed_iff.mp hproc
      obtain ⟨o, ho, huuid, -, hfunc, hquery, -⟩ := processed_found hover h hproc
      -- both have asked the one library that was opened for the uuid
      obtain ⟨o', ho', -, huuid', d, hanswer, rfl⟩ := h.mem_effectsFor.mp hmem
      obtain rfl := opened_unique honce ho' ho (huuid'.trans huuid.symm)
      obtain ⟨o, hfind, -, hquery'⟩ := answer_eq_ok.mp hanswer
      obtain ⟨ho, hkey⟩ := find_uuid hfind
      obtain rfl := opened_unique honce ho ho' (hkey.trans huuid.symm)
      obtain rfl := congrArg Prod.snd (hquery'.symm.trans hquery)
      obtain ⟨effect, heffect, type, htype, lib', hlib', path, symbols, hpath, hopen, rfl⟩ :=
        mem_opened.mp ho
      subst huuid
      exact withProxy_eq_iff.mpr (hown effect heffect lib' hlib'
        ⟨proc, hin, libs, hlibs, lib, hlib, hlibUuid⟩ (by rw [htype]; rfl) path symbols _ hpath
        hopen hfunc hquery)
    · obtain ⟨o, -, huuid, hlisted, -, -, hfound⟩ := processed_found hover h hproc
      refine ⟨o.id.proxy, hlisted, _, hfound none (some uuid) o.id.proxy ⟨?_, ?_, ?_⟩⟩
      · exact no_filter
      · exact fun _ ht => (Option.some.inj ht).symm.trans huuid.symm
      · exact fun _ ht => ht

/-- **THE TWO QUERIES** after any calls: where each implementation is listed once and
    the libraries overwrite whole descriptors, they report one descriptor for an
    implementation, and `queryEffects` finds what `queryProcessing` reports, exactly
    if each library that a stream has and that can be asked gives the proxy of the
    configuration as its own. -/
theorem queries_agree_iff (config : EffectConfig υ τ) (host : Host υ δ)
    (honce : ListedOnce config) (hover : Overwrites host) (calls : List (Call υ τ)) :
    QueriesAgree config host (calls.foldl (step config host) (loadEffectLibs config host))
      ↔ OwnProxies config host :=
  loaded_agree_iff honce hover (loaded_calls config host calls)

end Once

-- ── A proxy ──────────────────────────────────────────────────────────────────

/-- One effect with a proxy, and one stream that has it. -/
def proxyConfig : EffectConfig Nat Nat where
  effectsMap := [("bass", ⟨some ⟨"proxy", 9⟩, [⟨"bundle", 7⟩]⟩)]
  libraryMap name := if name = "bundle" then some "libbundle.so" else none
  processingMap := [(3, [⟨some ⟨"proxy", 9⟩, [⟨"bundle", 7⟩]⟩])]
  findUuid _ := some 1

/-- One library, which gives `proxy` as its own. -/
def proxyHost (proxy : Option Nat) : Host Nat Nat where
  dlopen path := if path = "libbundle.so" then some ⟨true, true, true⟩ else none
  queryEffect _ uuid _ := (exNone, ⟨⟨1, uuid, proxy⟩, 5⟩)

theorem proxyConfig_once : ListedOnce proxyConfig := by
  unfold ListedOnce
  decide

theorem proxyHost_own (proxy : Option Nat) :
    OwnProxies proxyConfig (proxyHost proxy) ↔ proxy = some 9 := by
  constructor
  · intro h
    exact h _ List.mem_cons_self _ List.mem_cons_self
      ⟨_, List.mem_cons_self, _, List.mem_cons_self, _, List.mem_cons_self, rfl⟩ rfl _ _ _ rfl
      rfl rfl rfl
  · rintro rfl effect heffect lib hlib - - path symbols desc - - - hquery
    obtain rfl := List.mem_singleton.mp heffect
    have hdesc : (⟨⟨1, lib.uuid, some 9⟩, 5⟩ : Descriptor Nat Nat) = desc :=
      congrArg Prod.snd hquery
    rw [← hdesc]
    rfl

/-- The library knows its proxy. -/
theorem queries_agree_own :
    QueriesAgree proxyConfig (proxyHost (some 9))
      (loadEffectLibs proxyConfig (proxyHost (some 9))) :=
  (queries_agree_iff proxyConfig (proxyHost (some 9)) proxyConfig_once (fun _ _ _ _ => rfl) []).mpr
    ((proxyHost_own (some 9)).mpr rfl)

/-- It does not: `queryEffects` reports the proxy and `queryProcessing` none. -/
theorem queries_disagree :
    ListedOnce proxyConfig ∧ Overwrites (proxyHost none) ∧
      ¬QueriesAgree proxyConfig (proxyHost none) (loadEffectLibs proxyConfig (proxyHost none)) := by
  refine ⟨proxyConfig_once, fun _ _ _ _ => rfl, fun h => ?_⟩
  have hown := (loaded_agree_iff proxyConfig_once (fun _ _ _ _ => rfl)
    (loaded_loadEffectLibs proxyConfig (proxyHost none))).mp h
  exact absurd ((proxyHost_own none).mp hown) (by decide)

end EffectQuery

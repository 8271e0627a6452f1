import Mathlib.Algebra.GroupWithZero.Nat
import Universal7580.CameraMetadataProofs
import Universal7580.ListMapProofs

/-! # A `CameraMetadata` as a map

    An object is there to say which data a tag has.  Behind it is a buffer of
    entries with room for so many entries and so many bytes, and an operation
    that adds to it makes room before: `resizeIfNeeded` counts entries and bytes
    and, where either is short, moves all entries to a larger buffer.

    `Contract` is what the `camera_metadata` functions promise about the entries
    of a buffer.  On it rest

    * `resizeIfNeeded_roomy`: what is to be added has room afterwards, and the
      entries are the same;
    * `objMaps_exec`: each operation does to the entries what `effect` says it
      does to the maps that the objects stand for;
    * `metadata_map`: so does a run, and `find` reads the map. -/

namespace CameraMetadata

open Run ListMap

variable {β δ : Type} {api : Api β δ}

-- ── The contract ─────────────────────────────────────────────────────────────

/-- The bytes that entries have outside of themselves. -/
def dataSize (api : Api β δ) (l : List (UInt32 × δ)) : Nat :=
  (l.map fun e => api.entryDataSize (api.tagType e.1) e.2).sum

/-- What the `camera_metadata` functions promise: they fail only where there is
    no room. -/
structure Contract (api : Api β δ) where
  entries : β → List (UInt32 × δ)
  entryCount_eq : ∀ c, api.entryCount c = (entries c).length
  dataCount_eq : ∀ c, api.dataCount c = dataSize api (entries c)
  entries_allocate : ∀ n m, entries (api.allocate n m) = []
  entryCapacity_allocate : ∀ n m, api.entryCapacity (api.allocate n m) = n
  dataCapacity_allocate : ∀ n m, api.dataCapacity (api.allocate n m) = m
  entries_clone : ∀ c, entries (api.clone c) = entries c
  entries_sort : ∀ c, (entries c).Perm (entries (api.sort c).2)
  append_fits : ∀ c src,
    (entries c).length + (entries src).length ≤ api.entryCapacity c →
    dataSize api (entries c) + dataSize api (entries src) ≤ api.dataCapacity c →
    (api.append c src).1 = .ok ∧ entries (api.append c src).2 = entries c ++ entries src
      ∧ api.entryCapacity (api.append c src).2 = api.entryCapacity c
      ∧ api.dataCapacity (api.append c src).2 = api.dataCapacity c
  find_found : ∀ c tag index, api.find c tag = (.ok, index) →
    ∃ data, (entries c)[index]? = some (tag, data)
  find_missing : ∀ c tag, tag ∉ keys (entries c) → (api.find c tag).1 = .notFound
  find_present : ∀ c tag, tag ∈ keys (entries c) → (api.find c tag).1 = .ok
  delete_ok : ∀ c index, index < (entries c).length →
    (api.delete c index).1 = .ok ∧ entries (api.delete c index).2 = (entries c).eraseIdx index
  add_fits : ∀ c tag data, api.tagType tag ≠ -1 →
    (entries c).length + 1 ≤ api.entryCapacity c →
    dataSize api (entries c) + api.entryDataSize (api.tagType tag) data ≤ api.dataCapacity c →
    (api.add c tag data).1 = .ok ∧ entries (api.add c tag data).2 = entries c ++ [(tag, data)]
  update_fits : ∀ c index tag old data, (entries c)[index]? = some (tag, old) →
    dataSize api (entries c) + api.entryDataSize (api.tagType tag) data
      ≤ api.dataCapacity c + api.entryDataSize (api.tagType tag) old →
    (api.update c index data).1 = .ok
      ∧ entries (api.update c index data).2 = (entries c).set index (tag, data)

-- ── What the objects hold ────────────────────────────────────────────────────

section Listings

variable (k : Contract api)

/-- The entries of a buffer; a null pointer has none. -/
def listing (s : State β) : Option Nat → List (UInt32 × δ)
  | none => []
  | some b => k.entries (s.content b)

def objListing (s : State β) (o : Nat) : List (UInt32 × δ) := listing k s (s.objs o).mBuffer

/-- `find`: the data of the entry, or the count 0. -/
def find (s : State β) (o : Nat) (tag : UInt32) : Option δ :=
  match (s.objs o).mBuffer with
  | none => none
  | some b =>
      match api.find (s.content b) tag with
      | (.ok, index) => (k.entries (s.content b))[index]?.map Prod.snd
      | _ => none

-- ── The maps ─────────────────────────────────────────────────────────────────

/-- The data of the tags of every object. -/
abbrev Maps (δ : Type) := Nat → UInt32 → Option δ

def noTags : UInt32 → Option δ := fun _ => none

def bufferMap (s : State β) (buffer : Option Nat) : UInt32 → Option δ := read (listing k s buffer)

def objMaps (s : State β) : Maps δ := fun o => read (objListing k s o)

/-- **WHAT AN OPERATION IS FOR**, as a map.  `s` is asked only for the buffers
    that the client gives. -/
def effect (s : State β) (maps : Maps δ) : Op β δ → Maps δ
  | .new o | .newCapacity o _ _ _ | .destroy o | .release o | .clear o =>
      Function.update maps o noTags
  | .newCopy o other _ | .assign o other _ => Function.update maps o (maps other)
  | .newMove o other | .assignMove o other | .acquire o other =>
      Function.update (Function.update maps other noTags) o (maps other)
  | .newBuffer o buffer | .acquireBuffer o buffer | .assignBuffer o buffer _ =>
      Function.update maps o (bufferMap k s buffer)
  | .append o other _ => Function.update maps o (union (maps o) (maps other))
  | .appendBuffer o buffer _ => Function.update maps o (union (maps o) (bufferMap k s buffer))
  | .update o tag data _ =>
      if api.tagType tag = -1 then maps
      else Function.update maps o (Function.update (maps o) tag (some data))
  | .erase o tag => Function.update maps o (Function.update (maps o) tag none)
  | .sort _ | .getAndLock _ | .unlock _ _ | .clientAllocate _ | .clientFree _ => maps

/-- The maps after a run. -/
def mapsAfter (s : State β) (maps : Maps δ) : List (Op β δ) → Maps δ
  | [] => maps
  | op :: rest =>
      match step api s op with
      | none => maps
      | some s' => mapsAfter s' (effect k s maps op) rest

/-- There is memory for the operation. -/
def Op.memory : Op β δ → Bool
  | .newCapacity _ _ _ memory | .newCopy _ _ memory | .assign _ _ memory
  | .assignBuffer _ _ memory | .append _ _ memory | .appendBuffer _ _ memory
  | .update _ _ _ memory => memory
  | _ => true

/-- Two maps have no tag in common. -/
def Disjoint (m m' : UInt32 → Option δ) : Prop := ∀ tag, m tag = none ∨ m' tag = none

/-- What is appended has other tags, and a buffer of the client has no tag
    twice. -/
def Tags (s : State β) : Op β δ → Prop
  | .append o other _ => Disjoint (objMaps k s o) (objMaps k s other)
  | .appendBuffer o buffer _ => Disjoint (objMaps k s o) (bufferMap k s buffer)
  | .clientAllocate c => (keys (k.entries c)).Nodup
  | _ => True

/-- **THE CONDITION** on a step: there is memory, the objects that it changes
    are not locked, and the tags are as `Tags` says. -/
def Proper (s : State β) (op : Op β δ) : Prop :=
  op.memory = true
    ∧ (∀ o, op.receiver = some o ∨ op.taken = some o → (s.objs o).mLocked = false)
    ∧ Tags k s op

/-- After the resizing there is room in the buffer of `o` for so much more, and
    the entries are what they were. -/
def Roomy (s : State β) (o extraEntries extraData : Nat) : Prop :=
  let r := resizeIfNeeded api s o extraEntries extraData true
  r.2 = ok ∧ ∃ b, (r.1.objs o).mBuffer = some b
    ∧ k.entries (r.1.content b) = objListing k s o
    ∧ (objListing k s o).length + extraEntries ≤ api.entryCapacity (r.1.content b)
    ∧ dataSize api (objListing k s o) + extraData ≤ api.dataCapacity (r.1.content b)

/-- What is added has room, and the operation does not fail. -/
def Succeeds (s : State β) (op : Op β δ) : Prop :=
  match op with
  | .update o tag data _ =>
      api.tagType tag ≠ -1 →
        Roomy k s o 1 (api.entryDataSize (api.tagType tag) data) ∧ (exec api s op).2 = .status ok
  | .append o other _ =>
      ((s.objs other).mBuffer ≠ none →
        Roomy k s o (objListing k s other).length (dataSize api (objListing k s other)))
        ∧ (exec api s op).2 = .status ok
  | .appendBuffer o buffer _ =>
      (buffer ≠ none →
        Roomy k s o (listing k s buffer).length (dataSize api (listing k s buffer)))
        ∧ (exec api s op).2 = .status ok
  | _ => True

/-- No buffer that is there has a tag twice. -/
structure Filed (s : State β) : Prop where
  below : ∀ b, s.allocated b = true → b < s.next
  nodup : ∀ b, s.allocated b = true → (keys (k.entries (s.content b))).Nodup

end Listings

-- ── Moves of buffers ─────────────────────────────────────────────────────────

section Moves

variable {k : Contract api} {s : State β} {o : Nat}

theorem filed_start [Inhabited β] : Filed k (start : State β) where
  below := fun _ h => nomatch h
  nodup := fun _ h => nomatch h

theorem Filed.alloc (h : Filed k s) {c : β} (hc : (keys (k.entries c)).Nodup) :
    Filed k (s.alloc c) where
  below := by
    intro b hb
    rcases Nat.lt_or_ge b s.next with hlt | hge
    · exact Nat.lt_succ_of_lt hlt
    · by_cases hnext : b = s.next
      · exact hnext ▸ Nat.lt_succ_self _
      · have hb : Function.update s.allocated s.next true b = true := hb
        rw [Function.update_of_ne hnext] at hb
        exact Nat.lt_succ_of_lt (h.below b hb)
  nodup := by
    intro b hb
    show (keys (k.entries (Function.update s.content s.next c b))).Nodup
    have hb : Function.update s.allocated s.next true b = true := hb
    by_cases hnext : b = s.next
    · rw [hnext, Function.update_self]
      exact hc
    · rw [Function.update_of_ne hnext] at hb ⊢
      exact h.nodup b hb

theorem Filed.setBuffer (h : Filed k s) (o : Nat) (buffer : Option Nat) :
    Filed k (s.setBuffer o buffer) := ⟨h.below, h.nodup⟩

theorem Filed.free (h : Filed k s) (b : Nat) : Filed k (s.free b) := by
  have hallocated : ∀ b', (s.free b).allocated b' = true → s.allocated b' = true := by
    intro b' hb'
    rw [free_allocated] at hb'
    by_cases hne : b' = b
    · rw [hne, Function.update_self] at hb'
      exact nomatch hb'
    · rw [Function.update_of_ne hne] at hb'
      exact hb'
  exact ⟨fun b' hb' => h.below b' (hallocated b' hb'), fun b' hb' => h.nodup b' (hallocated b' hb')⟩

theorem Filed.write (h : Filed k s) (b : Nat) {c : β} (hc : (keys (k.entries c)).Nodup) :
    Filed k (s.write b c) where
  below := h.below
  nodup := by
    intro b' hb'
    show (keys (k.entries (Function.update s.content b c b'))).Nodup
    by_cases hne : b' = b
    · rw [hne, Function.update_self]
      exact hc
    · rw [Function.update_of_ne hne]
      exact h.nodup b' hb'

theorem Filed.hold (h : Filed k s) (buffer : Option Nat) (mine : Bool) :
    Filed k (s.hold buffer mine) := by
  cases buffer with
  | none => exact h
  | some b => exact ⟨h.below, h.nodup⟩

/-- The entries of a buffer that is there have no tag twice. -/
theorem Filed.listing (h : Filed k s) {buffer : Option Nat}
    (hbuffer : buffer.all s.allocated = true) : (keys (listing k s buffer)).Nodup := by
  cases buffer with
  | none => exact List.nodup_nil
  | some b => exact h.nodup b hbuffer

theorem objListing_nodup (hinv : Inv s) (h : Filed k s) (o : Nat) :
    (keys (objListing k s o)).Nodup := by
  rw [objListing]
  cases hb : (s.objs o).mBuffer with
  | none => exact List.nodup_nil
  | some b => exact h.nodup b (hinv.owned o b hb).1

theorem listing_alloc (s : State β) (c : β) {buffer : Option Nat}
    (h : ∀ b, buffer = some b → b < s.next) : listing k (s.alloc c) buffer = listing k s buffer := by
  cases buffer with
  | none => rfl
  | some b => exact congrArg k.entries (Function.update_of_ne (Nat.ne_of_lt (h b rfl)) ..)

theorem objListing_alloc (h : Inv s) (c : β) : objListing k (s.alloc c) = objListing k s := by
  funext o
  exact listing_alloc s c fun b hb => (h.owned o b hb).2.2

theorem listing_alloc_next (s : State β) (c : β) :
    listing k (s.alloc c) (some s.next) = k.entries c :=
  congrArg k.entries (Function.update_self ..)

theorem listing_setBuffer (s : State β) (o : Nat) (buffer buffer' : Option Nat) :
    listing k (s.setBuffer o buffer) buffer' = listing k s buffer' := by
  cases buffer' <;> rfl

/-- **A BUFFER FOR AN OBJECT** is its entries for that object. -/
theorem objListing_setBuffer (s : State β) (o : Nat) (buffer : Option Nat) :
    objListing k (s.setBuffer o buffer) = Function.update (objListing k s) o (listing k s buffer) := by
  funext p
  rw [objListing, listing_setBuffer]
  by_cases hp : p = o
  · subst hp
    rw [setBuffer_self, Function.update_self]
  · rw [setBuffer_other s hp, Function.update_of_ne hp]
    rfl

theorem listing_free (s : State β) (b : Nat) (buffer : Option Nat) :
    listing k (s.free b) buffer = listing k s buffer := by
  cases buffer <;> rfl

theorem listing_hold (s : State β) (buffer : Option Nat) (mine : Bool) (buffer' : Option Nat) :
    listing k (s.hold buffer mine) buffer' = listing k s buffer' := by
  cases buffer <;> cases buffer' <;> rfl

theorem objListing_hold (s : State β) (buffer : Option Nat) (mine : Bool) :
    objListing k (s.hold buffer mine) = objListing k s := by
  cases buffer <;> rfl

/-- **WRITING** to the buffer of an object changes the entries of that object
    alone. -/
theorem objListing_write (h : Inv s) {b : Nat} (hb : (s.objs o).mBuffer = some b) (c : β) :
    objListing k (s.write b c) = Function.update (objListing k s) o (k.entries c) := by
  funext p
  show listing k (s.write b c) (s.objs p).mBuffer = _
  by_cases hp : p = o
  · subst hp
    rw [hb, Function.update_self]
    exact congrArg k.entries (Function.update_self ..)
  · rw [Function.update_of_ne hp, objListing]
    cases hb' : (s.objs p).mBuffer with
    | none => rfl
    | some b' =>
        have hne : b' ≠ b := by
          rintro rfl
          exact hp (h.unique p o b' hb' hb)
        exact congrArg k.entries (Function.update_of_ne hne ..)

end Moves

-- ── Buffers that change hands ────────────────────────────────────────────────

section Hands

variable {k : Contract api} {s : State β} {o other : Nat}

theorem setBuffer_locked (s : State β) (o : Nat) (buffer : Option Nat) (p : Nat) :
    ((s.setBuffer o buffer).objs p).mLocked = (s.objs p).mLocked := by
  by_cases hp : p = o
  · subst hp
    rw [setBuffer_self]
  · rw [setBuffer_other s hp]

theorem not_locked (h : (s.objs o).mLocked = false) : ¬(s.objs o).mLocked = true := by
  rw [h]
  exact Bool.false_ne_true

theorem Filed.clear (h : Filed k s) (o : Nat) : Filed k (clear s o) := by
  rcases clear_cases s o with heq | ⟨b, -, -, heq⟩
  · rw [heq]
    exact h
  · rw [heq]
    exact (h.setBuffer o none).free b

theorem listing_clear (s : State β) (o : Nat) (buffer : Option Nat) :
    listing k (clear s o) buffer = listing k s buffer := by
  rcases clear_cases s o with heq | ⟨b, -, -, heq⟩
  · rw [heq]
  · rw [heq, listing_free, listing_setBuffer]

theorem objListing_clear (hfree : (s.objs o).mLocked = false) :
    objListing k (clear s o) = Function.update (objListing k s) o [] := by
  rw [CameraMetadata.clear, if_neg (not_locked hfree)]
  cases hb : (s.objs o).mBuffer with
  | none =>
      have hself : objListing k s o = [] := by
        rw [objListing, hb]
        rfl
      rw [← hself, Function.update_eq_self]
  | some b => exact objListing_setBuffer s o none

/-- An object changes its buffer for another one. -/
theorem objListing_replace (hfree : (s.objs o).mLocked = false) (buffer : Option Nat) :
    objListing k ((clear s o).setBuffer o buffer)
      = Function.update (objListing k s) o (listing k s buffer) := by
  rw [objListing_setBuffer, objListing_clear hfree, listing_clear, Function.update_idem]

theorem objListing_acquireBuffer (hfree : (s.objs o).mLocked = false) (buffer : Option Nat) :
    objListing k (acquireBuffer s o buffer)
      = Function.update (objListing k s) o (listing k s buffer) := by
  rw [acquireBuffer, if_neg (not_locked hfree)]
  exact objListing_replace hfree buffer

theorem Filed.acquireBuffer (h : Filed k s) (o : Nat) (buffer : Option Nat) :
    Filed k (acquireBuffer s o buffer) := by
  rw [CameraMetadata.acquireBuffer]
  split
  · exact h
  · exact (h.clear o).setBuffer o buffer

/-- What `other` has goes to `o`. -/
theorem objListing_acquire (hfree : (s.objs o).mLocked = false)
    (hother : (s.objs other).mLocked = false) :
    objListing k (acquire s o other)
      = Function.update (Function.update (objListing k s) other []) o (objListing k s other) := by
  rw [acquire, if_neg (not_locked hfree), release, if_neg (not_locked hother)]
  dsimp only
  rw [objListing_acquireBuffer ((setBuffer_locked s other none o).trans hfree),
    objListing_setBuffer, listing_setBuffer]
  rfl

theorem Filed.acquire (h : Filed k s) (o other : Nat) : Filed k (acquire s o other) := by
  rw [CameraMetadata.acquire]
  split
  · exact h
  · rw [release]
    split
    · exact h.acquireBuffer o none
    · exact (h.setBuffer other none).acquireBuffer o _

theorem objListing_assignMove (hfree : (s.objs o).mLocked = false) :
    objListing k (assignMove s o other)
      = Function.update (Function.update (objListing k s) other []) o (objListing k s other) := by
  rw [assignMove]
  by_cases hne : o = other
  · subst hne
    rw [if_neg (not_not_intro rfl), Function.update_idem, Function.update_eq_self]
  · rw [if_pos hne, if_neg (not_locked hfree)]
    dsimp only
    rw [clear_other s (Ne.symm hne), objListing_setBuffer, objListing_replace hfree,
      Function.update_comm hne]
    rfl

theorem Filed.assignMove (h : Filed k s) (o other : Nat) : Filed k (assignMove s o other) := by
  rw [CameraMetadata.assignMove]
  split
  · split
    · exact h
    · exact ((h.clear o).setBuffer o _).setBuffer other none
  · exact h

/-- A copy has the entries of what it is a copy of. -/
theorem cloneBuffer_spec (hinv : Inv s) (h : Filed k s) {buffer : Option Nat}
    (hbuffer : buffer.all s.allocated = true) :
    Filed k (cloneBuffer api s buffer true).1
      ∧ objListing k (cloneBuffer api s buffer true).1 = objListing k s
      ∧ listing k (cloneBuffer api s buffer true).1 (cloneBuffer api s buffer true).2
          = listing k s buffer := by
  cases buffer with
  | none => exact ⟨h, rfl, rfl⟩
  | some b =>
      have hentries := k.entries_clone (s.content b)
      refine ⟨h.alloc ?_, objListing_alloc hinv _, ?_⟩
      · rw [hentries]
        exact h.nodup b hbuffer
      · exact (listing_alloc_next s _).trans hentries

theorem assignBuffer_spec (hinv : Inv s) (h : Filed k s) (hfree : (s.objs o).mLocked = false)
    {buffer : Option Nat} (hbuffer : buffer.all s.allocated = true) :
    Filed k (assignBuffer api s o buffer true)
      ∧ objListing k (assignBuffer api s o buffer true)
          = Function.update (objListing k s) o (listing k s buffer) := by
  rw [assignBuffer, if_neg (not_locked hfree)]
  split
  · obtain ⟨hfiled, hobj, hlisting⟩ := cloneBuffer_spec hinv h hbuffer
    obtain ⟨-, -, hobjs, -⟩ := @inv_cloneBuffer _ _ _ api hinv buffer true
    refine ⟨(hfiled.clear o).setBuffer o _, ?_⟩
    dsimp only
    rw [objListing_replace (by rw [hobjs]; exact hfree), hobj, hlisting]
  · rename_i hsame
    rw [not_not.mp hsame]
    exact ⟨h, (Function.update_eq_self ..).symm⟩

theorem objListing_construct (s : State β) (o : Nat) (buffer : Option Nat) :
    objListing k (construct s o buffer)
      = Function.update (objListing k s) o (listing k s buffer) := by
  rw [construct, objListing_setBuffer]
  cases buffer <;> rfl

end Hands

-- ── Room ─────────────────────────────────────────────────────────────────────

section Room

variable {k : Contract api} {s : State β} {o : Nat}

theorem le_newCount (count extra capacity : Nat) : count + extra ≤ newCount count extra capacity := by
  rw [newCount]
  split
  · exact Nat.le_mul_of_pos_right _ (by decide)
  · exact Nat.le_of_not_gt ‹_›

/-- A buffer that is moved to a larger one. -/
theorem append_allocate (k : Contract api) {n m : Nat} {c : β} (hn : (k.entries c).length ≤ n)
    (hm : dataSize api (k.entries c) ≤ m) :
    k.entries (api.append (api.allocate n m) c).2 = k.entries c
      ∧ api.entryCapacity (api.append (api.allocate n m) c).2 = n
      ∧ api.dataCapacity (api.append (api.allocate n m) c).2 = m := by
  have hempty := k.entries_allocate n m
  obtain ⟨-, hentries, hcapacity, hdata⟩ := k.append_fits (api.allocate n m) c
    (by rw [hempty, k.entryCapacity_allocate, List.length_nil, Nat.zero_add]; exact hn)
    (by rw [hempty, k.dataCapacity_allocate]; exact Nat.le_trans (Nat.le_of_eq (Nat.zero_add _)) hm)
  refine ⟨?_, ?_, ?_⟩
  · rw [hentries, hempty, List.nil_append]
  · rw [hcapacity, k.entryCapacity_allocate]
  · rw [hdata, k.dataCapacity_allocate]

/-- What a resized object still is: the same entries everywhere, and the same
    content of the buffers that were there. -/
structure Resized (k : Contract api) (s s' : State β) : Prop where
  filed : Filed k s'
  same : objListing k s' = objListing k s
  old : ∀ b, b < s.next → s'.content b = s.content b

/-- An object gets a new buffer with the entries that it has. -/
theorem resized_alloc (hinv : Inv s) (h : Filed k s) {c : β}
    (hentries : k.entries c = objListing k s o) :
    Resized k s ((s.alloc c).setBuffer o (some s.next)) where
  filed := by
    refine (h.alloc ?_).setBuffer o _
    rw [hentries]
    exact objListing_nodup hinv h o
  same := by
    rw [objListing_setBuffer, listing_alloc_next, hentries, objListing_alloc hinv,
      Function.update_eq_self]
  old := fun b hb => Function.update_of_ne (Nat.ne_of_lt hb) ..

/-- **ROOM**: where there is memory, `resizeIfNeeded` leaves room for what it is
    asked for, and the entries as they were. -/
theorem resizeIfNeeded_roomy (hinv : Inv s) (h : Filed k s) (o extraEntries extraData : Nat) :
    Roomy k s o extraEntries extraData
      ∧ Resized k s (resizeIfNeeded api s o extraEntries extraData true).1 := by
  rw [Roomy, resizeIfNeeded]
  cases hb : (s.objs o).mBuffer with
  | none =>
      have hnone : objListing k s o = [] := by
        rw [objListing, hb]
        rfl
      have hempty := k.entries_allocate (extraEntries * 2) (extraData * 2)
      have hcontent : ((s.alloc (api.allocate (extraEntries * 2) (extraData * 2))).setBuffer o
          (some s.next)).content s.next = api.allocate (extraEntries * 2) (extraData * 2) :=
        Function.update_self ..
      refine ⟨⟨rfl, s.next, ?_, ?_, ?_, ?_⟩, resized_alloc hinv h (hempty.trans hnone.symm)⟩
      · exact congrArg Obj.mBuffer (setBuffer_self _ _ _)
      · exact (congrArg k.entries hcontent).trans (hempty.trans hnone.symm)
      · refine Nat.le_trans ?_ (Nat.le_of_eq ((congrArg api.entryCapacity hcontent).trans
          (k.entryCapacity_allocate _ _)).symm)
        rw [hnone, List.length_nil]
        omega
      · refine Nat.le_trans ?_ (Nat.le_of_eq ((congrArg api.dataCapacity hcontent).trans
          (k.dataCapacity_allocate _ _)).symm)
        rw [hnone, dataSize, List.map_nil, List.sum_nil]
        omega
  | some b =>
      have hself : objListing k s o = k.entries (s.content b) := by
        rw [objListing, hb]
        rfl
      have hcount := k.entryCount_eq (s.content b)
      have hdata := k.dataCount_eq (s.content b)
      have hroom := le_newCount (api.entryCount (s.content b)) extraEntries
        (api.entryCapacity (s.content b))
      have hdataRoom := le_newCount (api.dataCount (s.content b)) extraData
        (api.dataCapacity (s.content b))
      dsimp only
      generalize newCount (api.entryCount (s.content b)) extraEntries
        (api.entryCapacity (s.content b)) = n at *
      generalize newCount (api.dataCount (s.content b)) extraData
        (api.dataCapacity (s.content b)) = m at *
      split
      · obtain ⟨hentries, hcapacity, hdataCapacity⟩ := append_allocate k
          (n := n) (m := m) (c := s.content b) (by omega) (by omega)
        generalize (api.append (api.allocate n m) (s.content b)).2 = larger at *
        have hlarger := hentries.trans hself.symm
        have hcontent : (((s.alloc larger).setBuffer o (some s.next)).free b).content s.next
            = larger := Function.update_self ..
        obtain ⟨hfiled, hsame, hold⟩ := resized_alloc hinv h hlarger
        refine ⟨⟨rfl, s.next, ?_, ?_, ?_, ?_⟩, ⟨hfiled.free b, hsame, hold⟩⟩
        · exact congrArg Obj.mBuffer (setBuffer_self _ _ _)
        · exact (congrArg k.entries hcontent).trans hlarger
        · rw [if_pos rfl, hcontent, hcapacity, hself]
          omega
        · rw [if_pos rfl, hcontent, hdataCapacity, hself]
          omega
      · refine ⟨⟨rfl, b, hb, hself.symm, ?_, ?_⟩, ⟨h, rfl, fun _ _ => rfl⟩⟩
        · show _ ≤ api.entryCapacity (s.content b)
          rw [hself]
          omega
        · show _ ≤ api.dataCapacity (s.content b)
          rw [hself]
          omega

end Room

-- ── Entries that change ──────────────────────────────────────────────────────

section Entries

variable {k : Contract api} {s : State β} {o : Nat}

/-- `o` has the entries `l`, without a tag twice, and all others what they had. -/
structure Becomes (k : Contract api) (s : State β) (o : Nat) (l : List (UInt32 × δ))
    (s' : State β) : Prop where
  filed : Filed k s'
  listing : objListing k s' = Function.update (objListing k s) o l

/-- Writing to a buffer, after a resizing or without one. -/
theorem becomes_write {s' : State β} {b : Nat} {c : β} (hinv : Inv s') (h : Filed k s')
    (hsame : objListing k s' = objListing k s) (hb : (s'.objs o).mBuffer = some b)
    (hnodup : (keys (k.entries c)).Nodup) :
    Becomes k s o (k.entries c) (s'.write b c) where
  filed := h.write b hnodup
  listing := by rw [objListing_write hinv hb, hsame]

theorem becomes_self (h : Filed k s) : Becomes k s o (objListing k s o) s where
  filed := h
  listing := (Function.update_eq_self ..).symm

theorem objListing_of_some {b : Nat} (hb : (s.objs o).mBuffer = some b) :
    objListing k s o = k.entries (s.content b) := by
  rw [objListing, hb]
  rfl

theorem objListing_of_none (hb : (s.objs o).mBuffer = none) : objListing k s o = [] := by
  rw [objListing, hb]
  rfl

/-- **SORT** leaves the entries, in another order. -/
theorem sort_spec (hinv : Inv s) (h : Filed k s) :
    ∃ l, (objListing k s o).Perm l ∧ Becomes k s o l (sort api s o).1 := by
  rw [sort]
  cases hb : (s.objs o).mBuffer with
  | none => exact ⟨_, List.Perm.refl _, becomes_self h⟩
  | some b =>
      have hself := objListing_of_some (k := k) hb
      have hperm := k.entries_sort (s.content b)
      refine ⟨_, hself ▸ hperm, becomes_write hinv h rfl hb ?_⟩
      exact (hperm.map Prod.fst).nodup_iff.mp (hself ▸ objListing_nodup hinv h o)

/-- **APPEND** adds the entries, and has room for them. -/
theorem append_spec (hinv : Inv s) (h : Filed k s) (hfree : (s.objs o).mLocked = false)
    (hlive : s.live o = true) {buffer : Option Nat} (hbuffer : buffer.all s.allocated = true)
    (hdisjoint : Disjoint (objMaps k s o) (bufferMap k s buffer)) :
    Becomes k s o (objListing k s o ++ listing k s buffer) (append api s o buffer true).1
      ∧ (append api s o buffer true).2 = ok
      ∧ (buffer ≠ none →
          Roomy k s o (listing k s buffer).length (dataSize api (listing k s buffer))) := by
  cases buffer with
  | none =>
      refine ⟨?_, rfl, fun hne => absurd rfl hne⟩
      rw [listing, List.append_nil]
      exact becomes_self h
  | some src =>
      have hnodup := nodup_append (objListing_nodup hinv h o) (h.listing hbuffer) hdisjoint
      obtain ⟨hroomy, hfiled, hsame, hold⟩ := resizeIfNeeded_roomy hinv h o
        (listing k s (some src)).length (dataSize api (listing k s (some src)))
      obtain ⟨hinv', -⟩ := @inv_resizeIfNeeded _ _ _ _ api hinv hfree hlive
        (listing k s (some src)).length (dataSize api (listing k s (some src))) true
      have hcount : api.entryCount (s.content src) = (listing k s (some src)).length :=
        k.entryCount_eq _
      have hdata : api.dataCount (s.content src) = dataSize api (listing k s (some src)) :=
        k.dataCount_eq _
      have hroomy' := hroomy
      obtain ⟨-, b, hb, hentries, hentryRoom, hdataRoom⟩ := hroomy'
      rw [append]
      dsimp only
      rw [hcount, hdata]
      generalize (resizeIfNeeded api s o (listing k s (some src)).length
        (dataSize api (listing k s (some src))) true).1 = s' at *
      have hsrc : k.entries (s'.content src) = listing k s (some src) :=
        congrArg k.entries (hold src (h.below src hbuffer))
      obtain ⟨hok, happended, -⟩ := k.append_fits (s'.content b) (s'.content src)
        (by rw [hentries, hsrc]; exact hentryRoom) (by rw [hentries, hsrc]; exact hdataRoom)
      rw [hentries, hsrc] at happended
      rw [hb]
      refine ⟨?_, congrArg Result.status hok, fun _ => hroomy⟩
      rw [← happended] at hnodup ⊢
      exact becomes_write hinv' hfiled hsame hb hnodup

/-- Where a tag is found, or that it is missing. -/
theorem find_cases (k : Contract api) (c : β) (tag : UInt32) :
    (∃ index data, api.find c tag = (.ok, index) ∧ (k.entries c)[index]? = some (tag, data))
      ∨ (∃ index, api.find c tag = (.notFound, index)) ∧ tag ∉ keys (k.entries c) := by
  by_cases hmem : tag ∈ keys (k.entries c)
  · have hok := k.find_present c tag hmem
    have hfind : api.find c tag = (.ok, (api.find c tag).2) := Prod.ext hok rfl
    obtain ⟨data, hdata⟩ := k.find_found c tag _ hfind
    exact Or.inl ⟨_, data, hfind, hdata⟩
  · exact Or.inr ⟨⟨_, Prod.ext (k.find_missing c tag hmem) rfl⟩, hmem⟩

/-- **FIND** reads the map. -/
theorem find_eq (hinv : Inv s) (h : Filed k s) (tag : UInt32) :
    find k s o tag = objMaps k s o tag := by
  have hnodup := objListing_nodup hinv h o
  rw [find, objMaps]
  cases hb : (s.objs o).mBuffer with
  | none =>
      rw [objListing_of_none hb]
      rfl
  | some b =>
      rw [objListing_of_some hb] at hnodup ⊢
      dsimp only
      rcases find_cases k (s.content b) tag with ⟨index, data, hfind, hentry⟩ | ⟨⟨index, hfind⟩, hmem⟩
      · rw [hfind]
        show (k.entries (s.content b))[index]?.map Prod.snd = _
        rw [hentry]
        exact (read_of_mem hnodup (List.mem_of_getElem? hentry)).symm
      · rw [hfind]
        exact (read_eq_none.mpr hmem).symm

/-- **ERASE** takes the tag away. -/
theorem erase_spec (hinv : Inv s) (h : Filed k s) (tag : UInt32) :
    ∃ l, read l = Function.update (objMaps k s o) tag none
      ∧ Becomes k s o l (erase api s o tag).1 := by
  have hnodup := objListing_nodup hinv h o
  have hmissing : tag ∉ keys (objListing k s o) →
      read (objListing k s o) = Function.update (objMaps k s o) tag none := by
    intro hmem
    rw [← read_eq_none.mpr hmem]
    exact (Function.update_eq_self ..).symm
  rw [erase]
  cases hb : (s.objs o).mBuffer with
  | none =>
      refine ⟨_, hmissing ?_, becomes_self h⟩
      rw [objListing_of_none hb]
      exact List.not_mem_nil
  | some b =>
      have hself := objListing_of_some (k := k) hb
      dsimp only
      rcases find_cases k (s.content b) tag with ⟨index, data, hfind, hentry⟩ | ⟨⟨index, hfind⟩, hmem⟩
      · obtain ⟨hlt, -⟩ := List.getElem?_eq_some_iff.mp hentry
        obtain ⟨-, hdeleted⟩ := k.delete_ok (s.content b) index hlt
        rw [hself] at hnodup
        rw [hfind]
        refine ⟨k.entries (api.delete (s.content b) index).2, ?_, becomes_write hinv h rfl hb ?_⟩
        · rw [hdeleted, read_eraseIdx hnodup hentry, objMaps, hself]
        · rw [hdeleted]
          exact nodup_eraseIdx hnodup index
      · rw [hfind]
        exact ⟨_, hmissing (hself ▸ hmem), becomes_self h⟩

/-- **UPDATE** gives the tag its data, and has room for them. -/
theorem updateImpl_spec (hinv : Inv s) (h : Filed k s) (hfree : (s.objs o).mLocked = false)
    (hlive : s.live o = true) {tag : UInt32} (htag : api.tagType tag ≠ -1) (data : δ) :
    ∃ l, read l = Function.update (objMaps k s o) tag (some data)
      ∧ Becomes k s o l (updateImpl api s o tag data true).1
      ∧ (updateImpl api s o tag data true).2 = ok
      ∧ Roomy k s o 1 (api.entryDataSize (api.tagType tag) data) := by
  have hnodup := objListing_nodup hinv h o
  obtain ⟨hroomy, hfiled, hsame, -⟩ := resizeIfNeeded_roomy hinv h o 1
    (api.entryDataSize (api.tagType tag) data)
  obtain ⟨hinv', -⟩ := @inv_resizeIfNeeded _ _ _ _ api hinv hfree hlive 1
    (api.entryDataSize (api.tagType tag) data) true
  have hroomy' := hroomy
  obtain ⟨hok, b, hb, hentries, hentryRoom, hdataRoom⟩ := hroomy'
  rw [updateImpl, if_neg htag]
  dsimp only
  rw [if_neg (not_not_intro hok)]
  generalize (resizeIfNeeded api s o 1 (api.entryDataSize (api.tagType tag) data) true).1 = s' at *
  rw [hb]
  dsimp only
  rw [← hentries] at hentryRoom hdataRoom
  rcases find_cases k (s'.content b) tag with ⟨index, old, hfind, hentry⟩ | ⟨⟨index, hfind⟩, hmem⟩
  · obtain ⟨hstatus, hupdated⟩ := k.update_fits (s'.content b) index tag old data hentry
      (Nat.le_trans hdataRoom (Nat.le_add_right _ _))
    rw [hfind]
    refine ⟨k.entries (api.update (s'.content b) index data).2, ?_,
      becomes_write hinv' hfiled hsame hb ?_, congrArg Result.status hstatus, hroomy⟩
    · rw [hentries] at hupdated hentry
      rw [hupdated, read_set hnodup hentry]
      rfl
    · rw [hentries] at hupdated hentry
      rw [hupdated, keys_set hentry]
      exact hnodup
  · obtain ⟨hstatus, hadded⟩ := k.add_fits (s'.content b) tag data htag hentryRoom hdataRoom
    rw [hfind]
    refine ⟨k.entries (api.add (s'.content b) tag data).2, ?_,
      becomes_write hinv' hfiled hsame hb ?_, congrArg Result.status hstatus, hroomy⟩
    · rw [hentries] at hadded hmem
      rw [hadded, read_concat hmem]
      rfl
    · rw [hentries] at hadded hmem
      rw [hadded]
      exact nodup_concat hnodup hmem data

end Entries

-- ── Operations and maps ──────────────────────────────────────────────────────

section Operations

variable {k : Contract api} {s s' : State β} {o other : Nat}

theorem objMaps_of_listing {l : List (UInt32 × δ)}
    (h : objListing k s' = Function.update (objListing k s) o l) :
    objMaps k s' = Function.update (objMaps k s) o (read l) := by
  show read ∘ objListing k s' = Function.update (read ∘ objListing k s) o (read l)
  rw [h, Function.comp_update]

theorem objMaps_of_move
    (h : objListing k s'
      = Function.update (Function.update (objListing k s) other []) o (objListing k s other)) :
    objMaps k s'
      = Function.update (Function.update (objMaps k s) other noTags) o (objMaps k s other) := by
  show read ∘ objListing k s' = Function.update
    (Function.update (read ∘ objListing k s) other (read [])) o (read (objListing k s other))
  rw [h, Function.comp_update, Function.comp_update]

theorem objMaps_of_same (h : objListing k s' = objListing k s) : objMaps k s' = objMaps k s :=
  funext fun o => congrArg read (congrFun h o)

theorem objListing_unlocked (s : State β) (o : Nat) :
    objListing k (s.unlocked o) = objListing k s := by
  funext p
  show listing k (s.unlocked o)
    (Function.update s.objs o { s.objs o with mLocked := false } p).mBuffer = _
  by_cases hp : p = o
  · rw [hp, Function.update_self, objListing]
    cases (s.objs o).mBuffer <;> rfl
  · rw [Function.update_of_ne hp, objListing]
    cases (s.objs p).mBuffer <;> rfl

theorem objListing_getAndLock (s : State β) (o : Nat) :
    objListing k (getAndLock s o).1 = objListing k s := by
  funext p
  show listing k (getAndLock s o).1
    (Function.update s.objs o { s.objs o with mLocked := true } p).mBuffer = _
  by_cases hp : p = o
  · rw [hp, Function.update_self, objListing]
    cases (s.objs o).mBuffer <;> rfl
  · rw [Function.update_of_ne hp, objListing]
    cases (s.objs p).mBuffer <;> rfl

theorem objMaps_destroy (s : State β) (o : Nat) :
    objMaps k (destroy s o) = Function.update (objMaps k s) o noTags := by
  have hfree : ((s.unlocked o).objs o).mLocked = false := by
    show (Function.update s.objs o { s.objs o with mLocked := false } o).mLocked = false
    rw [Function.update_self]
  have hcleared := objListing_clear (k := k) hfree
  rw [objListing_unlocked] at hcleared
  have hlisting : objListing k (destroy s o) = Function.update (objListing k s) o [] := hcleared
  exact objMaps_of_listing hlisting

/-- The buffer of an object is there. -/
theorem allocated_of_inv (hinv : Inv s) (o : Nat) :
    (s.objs o).mBuffer.all s.allocated = true := by
  cases hb : (s.objs o).mBuffer with
  | none => rfl
  | some b => exact (hinv.owned o b hb).1

theorem respects_of_proper {op : Op β δ} (h : Proper k s op) : Respects s op := by
  obtain ⟨-, hfree, -⟩ := h
  cases op with
  | sort o => exact hfree o (Or.inl rfl)
  | append o other memory => exact hfree o (Or.inl rfl)
  | appendBuffer o buffer memory => exact hfree o (Or.inl rfl)
  | erase o tag => exact hfree o (Or.inl rfl)
  | newMove o other => exact Or.inl (hfree other (Or.inr rfl))
  | assignMove o other => exact Or.inr (Or.inr (Or.inl (hfree other (Or.inr rfl))))
  | acquire o other => exact Or.inr (Or.inl (hfree other (Or.inr rfl)))
  | _ => trivial

theorem Filed.construct (h : Filed k s) (o : Nat) (buffer : Option Nat) :
    Filed k (construct s o buffer) := ⟨h.below, h.nodup⟩

theorem objMaps_construct (s : State β) (o : Nat) (buffer : Option Nat) :
    objMaps k (construct s o buffer) = Function.update (objMaps k s) o (bufferMap k s buffer) :=
  objMaps_of_listing (objListing_construct s o buffer)

/-- **ONE OPERATION** does to the entries what it is for, and the buffers stay
    without a tag twice. -/
theorem objMaps_exec {op : Op β δ} (hinv : Inv s) (h : Filed k s)
    (henabled : enabled s op = true) (hproper : Proper k s op) :
    Filed k (exec api s op).1 ∧ objMaps k (exec api s op).1 = effect k s (objMaps k s) op := by
  obtain ⟨hmemory, hunlocked, htags⟩ := hproper
  cases op with
  | new o => exact ⟨h.construct o none, objMaps_construct s o none⟩
  | newCapacity o entries data memory =>
      obtain rfl : memory = true := hmemory
      have hempty := k.entries_allocate entries data
      refine ⟨(h.alloc ?_).construct o _, (objMaps_construct _ o _).trans ?_⟩
      · rw [hempty]
        exact List.nodup_nil
      · rw [bufferMap, listing_alloc_next, hempty, objMaps_of_same (objListing_alloc hinv _)]
        rfl
  | newCopy o other memory =>
      obtain rfl : memory = true := hmemory
      obtain ⟨hfiled, hsame, hlisting⟩ := cloneBuffer_spec hinv h (allocated_of_inv hinv other)
      refine ⟨hfiled.construct o _, (objMaps_construct _ o _).trans ?_⟩
      rw [bufferMap, hlisting, objMaps_of_same hsame]
      rfl
  | newMove o other =>
      obtain ⟨hdead, hlive⟩ : s.live o = false ∧ s.live other = true := by
        simpa [enabled] using henabled
      have hne : o ≠ other := by
        rintro rfl
        cases hdead.symm.trans hlive
      refine ⟨(h.construct o _).setBuffer other none, objMaps_of_move ?_⟩
      show objListing k ((construct s o (s.objs other).mBuffer).setBuffer other none) = _
      rw [objListing_setBuffer, objListing_construct, Function.update_comm hne]
      rfl
  | newBuffer o buffer =>
      refine ⟨(h.hold buffer false).construct o buffer, (objMaps_construct _ o buffer).trans ?_⟩
      rw [bufferMap, listing_hold, objMaps_of_same (objListing_hold s buffer false)]
      rfl
  | assign o other memory =>
      obtain rfl : memory = true := hmemory
      obtain ⟨hfiled, hlisting⟩ := assignBuffer_spec hinv h (hunlocked o (Or.inl rfl))
        (allocated_of_inv hinv other)
      exact ⟨hfiled, objMaps_of_listing hlisting⟩
  | assignMove o other =>
      exact ⟨h.assignMove o other, objMaps_of_move (objListing_assignMove (hunlocked o (Or.inl rfl)))⟩
  | assignBuffer o buffer memory =>
      obtain rfl : memory = true := hmemory
      have hboth : s.live o = true ∧ buffer.all s.allocated = true := by
        rw [enabled, Bool.and_eq_true] at henabled
        exact henabled
      obtain ⟨hfiled, hlisting⟩ := assignBuffer_spec hinv h (hunlocked o (Or.inl rfl)) hboth.2
      exact ⟨hfiled, objMaps_of_listing hlisting⟩
  | destroy o =>
      have hunlocked : Filed k (s.unlocked o) := ⟨h.below, h.nodup⟩
      have hcleared := hunlocked.clear o
      exact ⟨⟨hcleared.below, hcleared.nodup⟩, objMaps_destroy s o⟩
  | sort o =>
      obtain ⟨l, hperm, hfiled, hlisting⟩ := sort_spec (o := o) hinv h
      refine ⟨hfiled, (objMaps_of_listing hlisting).trans ?_⟩
      rw [read_perm (objListing_nodup hinv h o) hperm]
      exact Function.update_eq_self ..
  | getAndLock o => exact ⟨⟨h.below, h.nodup⟩, objMaps_of_same (objListing_getAndLock s o)⟩
  | unlock o buffer =>
      show Filed k (unlock s o buffer).1 ∧ objMaps k (unlock s o buffer).1 = objMaps k s
      rw [unlock]
      split
      · exact ⟨h, rfl⟩
      · split
        · exact ⟨h, rfl⟩
        · exact ⟨⟨h.below, h.nodup⟩, objMaps_of_same (objListing_unlocked s o)⟩
  | release o =>
      show Filed k ((release s o).1.hold (release s o).2 true)
        ∧ objMaps k ((release s o).1.hold (release s o).2 true) = _
      rw [release, if_neg (not_locked (hunlocked o (Or.inl rfl)))]
      refine ⟨(h.setBuffer o none).hold _ true, ?_⟩
      rw [objMaps_of_same (objListing_hold _ _ _)]
      exact objMaps_of_listing (objListing_setBuffer s o none)
  | clear o =>
      exact ⟨h.clear o, objMaps_of_listing (objListing_clear (hunlocked o (Or.inl rfl)))⟩
  | acquireBuffer o buffer =>
      have hfree := hunlocked o (Or.inl rfl)
      rw [exec, if_neg (not_locked hfree)]
      refine ⟨(h.hold buffer false).acquireBuffer o buffer, ?_⟩
      have hfree' : ((s.hold buffer false).objs o).mLocked = false := by
        cases buffer <;> exact hfree
      have hlisting := objListing_acquireBuffer (k := k) hfree' buffer
      rw [objListing_hold, listing_hold] at hlisting
      exact objMaps_of_listing hlisting
  | acquire o other =>
      exact ⟨h.acquire o other, objMaps_of_move
        (objListing_acquire (hunlocked o (Or.inl rfl)) (hunlocked other (Or.inr rfl)))⟩
  | append o other memory =>
      obtain rfl : memory = true := hmemory
      obtain ⟨hlive, -⟩ : s.live o = true ∧ s.live other = true := by
        simpa [enabled] using henabled
      obtain ⟨⟨hfiled, hlisting⟩, -⟩ := append_spec hinv h (hunlocked o (Or.inl rfl)) hlive
        (allocated_of_inv hinv other) htags
      refine ⟨hfiled, (objMaps_of_listing hlisting).trans ?_⟩
      exact congrArg (Function.update _ o) (read_append htags)
  | appendBuffer o buffer memory =>
      obtain rfl : memory = true := hmemory
      have hboth : s.live o = true ∧ buffer.all s.allocated = true := by
        rw [enabled, Bool.and_eq_true] at henabled
        exact henabled
      obtain ⟨⟨hfiled, hlisting⟩, -⟩ := append_spec hinv h (hunlocked o (Or.inl rfl)) hboth.1
        hboth.2 htags
      refine ⟨hfiled, (objMaps_of_listing hlisting).trans ?_⟩
      exact congrArg (Function.update _ o) (read_append htags)
  | update o tag data memory =>
      obtain rfl : memory = true := hmemory
      have hfree := hunlocked o (Or.inl rfl)
      show Filed k (update api s o tag data true).1 ∧ objMaps k (update api s o tag data true).1 = _
      rw [update, if_neg (not_locked hfree), effect]
      by_cases htag : api.tagType tag = -1
      · rw [updateImpl, if_pos htag, if_pos htag]
        exact ⟨h, rfl⟩
      · rw [if_neg htag]
        obtain ⟨l, hread, ⟨hfiled, hlisting⟩, -⟩ := updateImpl_spec hinv h hfree henabled htag data
        refine ⟨hfiled, (objMaps_of_listing hlisting).trans ?_⟩
        rw [hread]
  | erase o tag =>
      obtain ⟨l, hread, hfiled, hlisting⟩ := erase_spec (o := o) hinv h tag
      refine ⟨hfiled, (objMaps_of_listing hlisting).trans ?_⟩
      rw [hread]
      rfl
  | clientAllocate c =>
      refine ⟨(h.alloc htags).hold (some s.next) true, ?_⟩
      exact objMaps_of_same ((objListing_hold _ (some s.next) true).trans (objListing_alloc hinv c))
  | clientFree b =>
      exact ⟨(h.free b).hold (some b) false, objMaps_of_same (objListing_hold _ (some b) false)⟩

/-- What is added has room. -/
theorem succeeds_of_proper {op : Op β δ} (hinv : Inv s) (h : Filed k s)
    (henabled : enabled s op = true) (hproper : Proper k s op) : Succeeds k s op := by
  obtain ⟨hmemory, hunlocked, htags⟩ := hproper
  cases op with
  | append o other memory =>
      obtain rfl : memory = true := hmemory
      obtain ⟨hlive, -⟩ : s.live o = true ∧ s.live other = true := by
        simpa [enabled] using henabled
      obtain ⟨-, hstatus, hroomy⟩ := append_spec hinv h (hunlocked o (Or.inl rfl)) hlive
        (allocated_of_inv hinv other) htags
      exact ⟨hroomy, congrArg Reply.status hstatus⟩
  | appendBuffer o buffer memory =>
      obtain rfl : memory = true := hmemory
      have hboth : s.live o = true ∧ buffer.all s.allocated = true := by
        rw [enabled, Bool.and_eq_true] at henabled
        exact henabled
      obtain ⟨-, hstatus, hroomy⟩ := append_spec hinv h (hunlocked o (Or.inl rfl)) hboth.1
        hboth.2 htags
      exact ⟨hroomy, congrArg Reply.status hstatus⟩
  | update o tag data memory =>
      obtain rfl : memory = true := hmemory
      have hfree := hunlocked o (Or.inl rfl)
      intro htag
      obtain ⟨-, -, -, hstatus, hroomy⟩ := updateImpl_spec hinv h hfree henabled htag data
      refine ⟨hroomy, congrArg Reply.status (Eq.trans ?_ hstatus)⟩
      rw [update, if_neg (not_locked hfree)]
  | _ => trivial

end Operations

-- ── Runs ─────────────────────────────────────────────────────────────────────

/-- **RUNS** from any place where the buffers are in order. -/
theorem run_maps (k : Contract api) : ∀ (acts : List (Op β δ)) {s s' : State β}, Inv s →
    Filed k s → run (step api) s acts = some s' → StepsMeet (step api) (Proper k) s acts →
    Inv s' ∧ Filed k s' ∧ objMaps k s' = mapsAfter k s (objMaps k s) acts
      ∧ StepsMeet (step api) (Succeeds k) s acts := by
  intro acts
  induction acts with
  | nil =>
      intro s s' hinv h hrun _
      obtain rfl := Option.some.inj hrun
      refine ⟨hinv, h, rfl, ?_⟩
      intro done op rest s₁ s₂ hcat
      exact nomatch (List.append_eq_nil_iff.mp hcat.symm).2
  | cons op rest ih =>
      intro s s' hinv h hrun hok
      obtain ⟨s₁, hstep, hrest⟩ := run_cons_eq_some hrun
      obtain ⟨hproper, hok⟩ := stepsMeet_cons.mp hok s₁ hstep
      have henabled := enabled_of_step hstep
      have hinv₁ := inv_step api hinv (respects_of_proper hproper) hstep
      obtain rfl : (exec api s op).1 = s₁ := by
        rw [step, if_pos henabled] at hstep
        exact Option.some.inj hstep
      obtain ⟨h₁, hmaps⟩ := objMaps_exec hinv h henabled hproper
      obtain ⟨hinv', h', hafter, hsucceeds⟩ := ih hinv₁ h₁ hrest hok
      refine ⟨hinv', h', ?_, ?_⟩
      · rw [hafter, hmaps, mapsAfter, hstep]
      · refine stepsMeet_cons.mpr fun s₂ hstep₂ => ⟨succeeds_of_proper hinv h henabled hproper, ?_⟩
        rw [← Option.some.inj (hstep.symm.trans hstep₂)]
        exact hsucceeds

/-- **A METADATA IS A MAP**: after any proper run no tag is there twice, `find`
    reads what the run makes of the maps, and whatever was added had room. -/
theorem metadata_map [Inhabited β] (k : Contract api) (acts : List (Op β δ)) {s : State β}
    (hrun : run (step api) start acts = some s)
    (hok : StepsMeet (step api) (Proper k) start acts) :
    (∀ o, (keys (objListing k s o)).Nodup)
      ∧ (∀ o tag, find k s o tag = mapsAfter k start (fun _ => noTags) acts o tag)
      ∧ StepsMeet (step api) (Succeeds k) start acts := by
  obtain ⟨hinv, h, hmaps, hsucceeds⟩ := run_maps k acts inv_start filed_start hrun hok
  refine ⟨objListing_nodup hinv h, ?_, hsucceeds⟩
  intro o tag
  rw [find_eq hinv h, hmaps]
  rfl

-- ── A case ───────────────────────────────────────────────────────────────────

theorem dataSize_entriesApi (l : List (UInt32 × Nat)) : dataSize entriesApi l = 0 := by
  induction l with
  | nil => rfl
  | cons e l ih =>
      rw [dataSize, List.map_cons, List.sum_cons]
      exact (Nat.zero_add _).trans ih

theorem entriesApi_found {c : Entries} {tag : UInt32} {index : Nat}
    (h : entriesApi.find c tag = (.ok, index)) :
    ∃ data, c.entries[index]? = some (tag, data) := by
  have hfind : entriesApi.find c tag = match c.entries.findIdx? fun e => e.1 = tag with
      | none => (.notFound, 0)
      | some index => (.ok, index) := rfl
  rw [hfind] at h
  cases hidx : c.entries.findIdx? fun e => e.1 = tag with
  | none =>
      rw [hidx] at h
      exact nomatch h
  | some i =>
      rw [hidx] at h
      obtain ⟨-, rfl⟩ := Prod.mk.inj h
      obtain ⟨hlt, htag, -⟩ := List.findIdx?_eq_some_iff_getElem.mp hidx
      refine ⟨(c.entries[i]).2, ?_⟩
      rw [List.getElem?_eq_getElem hlt, ← of_decide_eq_true htag]

theorem entriesApi_find_fst (c : Entries) (tag : UInt32) :
    (entriesApi.find c tag).1 = if tag ∈ keys c.entries then .ok else .notFound := by
  have hfind : entriesApi.find c tag = match c.entries.findIdx? fun e => e.1 = tag with
      | none => (.notFound, 0)
      | some index => (.ok, index) := rfl
  rw [hfind]
  cases hidx : c.entries.findIdx? fun e => e.1 = tag with
  | none =>
      have hno := List.findIdx?_eq_none_iff.mp hidx
      rw [if_neg]
      rintro hmem
      obtain ⟨e, he, rfl⟩ := List.mem_map.mp hmem
      exact absurd rfl (of_decide_eq_false (hno e he))
  | some i =>
      obtain ⟨hlt, htag, -⟩ := List.findIdx?_eq_some_iff_getElem.mp hidx
      rw [if_pos]
      exact List.mem_map.mpr ⟨_, List.getElem_mem hlt, of_decide_eq_true htag⟩

/-- Entries with a datum of at most four bytes keep the contract. -/
def entriesContract : Contract entriesApi where
  entries := Entries.entries
  entryCount_eq _ := rfl
  dataCount_eq c := (dataSize_entriesApi c.entries).symm
  entries_allocate _ _ := rfl
  entryCapacity_allocate _ _ := rfl
  dataCapacity_allocate _ _ := rfl
  entries_clone _ := rfl
  entries_sort c := (List.mergeSort_perm c.entries _).symm
  append_fits c src h _ := by
    have happend : entriesApi.append c src = (.ok, { c with entries := c.entries ++ src.entries }) :=
      if_pos h
    rw [happend]
    exact ⟨rfl, rfl, rfl, rfl⟩
  find_found _ _ _ h := entriesApi_found h
  find_missing c tag h := (entriesApi_find_fst c tag).trans (if_neg h)
  find_present c tag h := (entriesApi_find_fst c tag).trans (if_pos h)
  delete_ok _ _ _ := ⟨rfl, rfl⟩
  add_fits c tag data _ h _ := by
    have hadd : entriesApi.add c tag data = (.ok, { c with entries := c.entries ++ [(tag, data)] }) :=
      if_pos h
    rw [hadd]
    exact ⟨rfl, rfl⟩
  update_fits c index tag old data h _ := by
    refine ⟨rfl, ?_⟩
    show c.entries.modify index (fun e => (e.1, data)) = _
    rw [List.modify_eq_set, h]
    rfl

/-- Two objects, one appended to the other; an update in place behind it. -/
theorem metadata_map_append :
    ∃ s, run (step entriesApi) start
        [.new 0, .update 0 7 3 true, .new 1, .update 1 8 5 true, .append 0 1 true,
          .update 0 7 4 true] = some s
      ∧ find entriesContract s 0 7 = some 4 ∧ find entriesContract s 0 8 = some 5 := by
  have hone : ∀ (s : State Entries) (o : Nat), (s.objs o).mLocked = false →
      ∀ p, some o = some p ∨ none = some p → (s.objs p).mLocked = false := by
    rintro s o h p (hp | hp)
    · exact Option.some.inj hp ▸ h
    · exact nomatch hp
  have hnew : ∀ (s : State Entries) (p : Nat), none = some p ∨ none = some p →
      (s.objs p).mLocked = false := by
    rintro s p (hp | hp)
    · exact nomatch hp
    · exact nomatch hp
  have hdisjoint : ∀ tag : UInt32, read [(7, 3)] tag = none ∨ read [(8, 5)] tag = none := by
    intro tag
    by_cases htag : tag = 7
    · exact Or.inr (htag ▸ rfl)
    · exact Or.inl (read_cons_ne htag 3 [])
  obtain ⟨-, hfind, -⟩ := metadata_map entriesContract
    [.new 0, .update 0 7 3 true, .new 1, .update 1 8 5 true, .append 0 1 true, .update 0 7 4 true]
    rfl (by
      refine stepsMeet_cons.mpr fun s h => ⟨⟨rfl, hnew _, trivial⟩, ?_⟩
      obtain rfl := Option.some.inj h
      refine stepsMeet_cons.mpr fun s h => ⟨⟨rfl, hone _ 0 rfl, trivial⟩, ?_⟩
      obtain rfl := Option.some.inj h
      refine stepsMeet_cons.mpr fun s h => ⟨⟨rfl, hnew _, trivial⟩, ?_⟩
      obtain rfl := Option.some.inj h
      refine stepsMeet_cons.mpr fun s h => ⟨⟨rfl, hone _ 1 rfl, trivial⟩, ?_⟩
      obtain rfl := Option.some.inj h
      refine stepsMeet_cons.mpr fun s h => ⟨⟨rfl, hone _ 0 rfl, hdisjoint⟩, ?_⟩
      obtain rfl := Option.some.inj h
      refine stepsMeet_cons.mpr fun s h => ⟨⟨rfl, hone _ 0 rfl, trivial⟩, ?_⟩
      intro done op rest s₁ s₂ hcat
      exact nomatch (List.append_eq_nil_iff.mp hcat.symm).2)
  exact ⟨_, rfl, hfind 0 7, hfind 0 8⟩

end CameraMetadata

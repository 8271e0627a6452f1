import Universal7580.AudioBackendProofs
import Universal7580.AudioLedgerProofs

/-! # One usecase per id

    `adev_open_output_stream` refuses a stream whose usecase is active.  The
    usecase of a stream becomes active later, when the stream leaves standby, so
    two streams that were opened in standby can both have it.  `Owned` says that
    every entry of the list belongs to a stream that is out of standby, that
    these streams have different usecases, and that a paused offload stream has
    no entry; then no id is there twice, a stream finds its own entry, and
    stopping a stream removes no other one's.

    The main results are `usecases_owned`, for every run in which a stream only
    leaves standby while no other one has its usecase, and `usecase_twice`, a
    run with two deep buffer streams. -/

namespace AudioHal

open AudioRouting Run

namespace Ledger

-- ── Streams that have a usecase ───────────────────────────────────────────

/-- An open output out of standby, with its usecase. -/
def awake (l : Ledger) (n : Nat) (p : Playback) : Prop :=
  ((l.outs n).isOpen = true ∧ (l.outs n).standby = false) ∧ (l.outs n).usecase = p

/-- An output that may have an entry: an offload stream only if it is not
    paused. -/
def plays (l : Ledger) (n : Nat) (p : Playback) : Prop :=
  l.awake n p ∧ (p = .offload → (l.outs n).offloadState.isPaused = false)

/-- An open input out of standby. -/
def records (l : Ledger) (n : Nat) : Prop := (l.ins n).isOpen = true ∧ (l.ins n).standby = false

/-- The fields of an open stream fit: with the effect hooks a stream in standby is
    idle, only offload streams have a state and a compress handle, and a stream
    with a handle is out of standby. -/
structure StreamOk (fx : Bool) (o : StreamOut) : Prop where
  hooks : fx = true → o.standby = true → o.offloadState = .idle
  pcm : o.usecase ≠ .offload → o.offloadState = .idle ∧ o.compr = none
  handle : o.compr.isSome = true → o.standby = false

/-- **OWNED**: every entry belongs to a stream that may have it, and no two such
    streams have one usecase. -/
structure Owned (l : Ledger) : Prop where
  ptrs : (l.entries.map Identity.ptr).Nodup
  ids : (l.entries.map Identity.id).Nodup
  fresh : ∀ e ∈ l.entries, e.ptr < l.nextPtr
  output : ∀ e ∈ l.entries, ∀ p, e.id = .playback p → ∃ n, e.stream = .output n ∧ l.plays n p
  input : ∀ e ∈ l.entries, e.id = .capture → ∃ n, e.stream = .input n ∧ l.records n
  call : ∀ e ∈ l.entries, e.id = .voiceCall → l.inCall = true
  oneOutput : ∀ n m p, l.awake n p → l.awake m p → n = m
  oneInput : ∀ n m, l.records n → l.records m → n = m
  streams : ∀ n, (l.outs n).isOpen = true → StreamOk l.offloadFx (l.outs n)

section Entries

variable {l l' : Ledger} {n m : Nat} {p : Playback} {id : UsecaseId} {e : Identity}

theorem plays_congr (h : l'.outs n = l.outs n) : l'.plays n p ↔ l.plays n p := by
  rw [plays, plays, awake, awake, h]

theorem awake_congr (h : l'.outs n = l.outs n) : l'.awake n p ↔ l.awake n p := by
  rw [awake, awake, h]

theorem records_congr (h : l'.ins n = l.ins n) : l'.records n ↔ l.records n := by
  rw [records, records, h]

theorem find_eq_some (h : l.find id = some e) : e ∈ l.entries ∧ e.id = id :=
  ⟨List.mem_of_find?_eq_some h, by simpa using List.find?_some h⟩

theorem id_ne_of_find (h : l.find id = none) (he : e ∈ l.entries) : e.id ≠ id := by
  have := List.find?_eq_none.mp h e he
  simpa using this

theorem find_eq_none (h : ∀ e ∈ l.entries, e.id ≠ id) : l.find id = none := by
  refine List.find?_eq_none.mpr fun e he => ?_
  simpa using h e he

theorem eq_of_id (hids : (l.entries.map Identity.id).Nodup) {e' : Identity} (he : e ∈ l.entries)
    (he' : e' ∈ l.entries) (hid : e.id = e'.id) : e = e' :=
  List.inj_on_of_nodup_map hids he he' hid

/-- Dropping takes the entry with the id, and no other one. -/
theorem mem_drop (hids : (l.entries.map Identity.id).Nodup)
    (hptrs : (l.entries.map Identity.ptr).Nodup) :
    e ∈ (l.drop id).entries ↔ e ∈ l.entries ∧ e.id ≠ id := by
  rw [drop]
  cases hfind : l.find id with
  | none => exact ⟨fun he => ⟨he, id_ne_of_find hfind he⟩, fun h => h.1⟩
  | some e₀ =>
      obtain ⟨hmem, hid⟩ := find_eq_some hfind
      simp only [List.mem_filter, decide_eq_true_eq]
      refine and_congr_right fun he => not_congr ⟨fun hptr => ?_, fun h => ?_⟩
      · rw [List.inj_on_of_nodup_map hptrs he hmem hptr]
        exact hid
      · rw [eq_of_id hids he hmem (h.trans hid.symm)]

theorem drop_sublist (l : Ledger) (id : UsecaseId) : (l.drop id).entries.Sublist l.entries := by
  rw [drop]
  split
  · exact List.Sublist.refl _
  · exact List.filter_sublist

theorem drop_nextPtr (l : Ledger) (id : UsecaseId) : (l.drop id).nextPtr = l.nextPtr := by
  rw [drop]
  split <;> rfl

theorem drop_inCall (l : Ledger) (id : UsecaseId) : (l.drop id).inCall = l.inCall := by
  rw [drop]
  split <;> rfl

theorem drop_offloadFx (l : Ledger) (id : UsecaseId) : (l.drop id).offloadFx = l.offloadFx := by
  rw [drop]
  split <;> rfl

/-- An entry added under a new id and dropped again leaves the others. -/
theorem drop_add_entries (h : ∀ e ∈ l.entries, e.ptr < l.nextPtr) (hnew : l.find id = none)
    (stream : Stream) : ((l.add id stream).drop id).entries = l.entries := by
  have hfind : (l.add id stream).find id
      = some { ptr := l.nextPtr, id := id, stream := stream } := by
    rw [find, add, List.find?_append]
    have hnone : l.entries.find? (fun e => e.id = id) = none := hnew
    rw [hnone]
    simp
  rw [drop, hfind]
  simp only [add, List.filter_append]
  have hold : l.entries.filter (fun e => e.ptr ≠ l.nextPtr) = l.entries :=
    List.filter_eq_self.mpr fun e he => by simpa using Nat.ne_of_lt (h e he)
  rw [hold]
  simp

end Entries

-- ── Keeping the invariant ─────────────────────────────────────────────────

section Keeping

variable {l l' : Ledger} {n : Nat} {p : Playback} {f : StreamOut → StreamOut}

/-- Fewer entries, whose owners may still have them, and no new owner. -/
theorem owned_shrink (h : l.Owned) (hsub : l'.entries.Sublist l.entries)
    (hnext : l.nextPtr ≤ l'.nextPtr)
    (houtput : ∀ e ∈ l'.entries, ∀ n p, e.id = .playback p → l.plays n p → l'.plays n p)
    (hinput : ∀ e ∈ l'.entries, ∀ n, e.id = .capture → l.records n → l'.records n)
    (hcall : ∀ e ∈ l'.entries, e.id = .voiceCall → l'.inCall = true)
    (hawake : ∀ n p, l'.awake n p → l.awake n p) (hrecords : ∀ n, l'.records n → l.records n)
    (hstreams : ∀ n, (l'.outs n).isOpen = true → StreamOk l'.offloadFx (l'.outs n)) :
    l'.Owned where
  ptrs := h.ptrs.sublist (hsub.map _)
  ids := h.ids.sublist (hsub.map _)
  fresh := fun e he => Nat.lt_of_lt_of_le (h.fresh e (hsub.subset he)) hnext
  output := by
    intro e he p hid
    obtain ⟨n, hstream, hplays⟩ := h.output e (hsub.subset he) p hid
    exact ⟨n, hstream, houtput e he n p hid hplays⟩
  input := by
    intro e he hid
    obtain ⟨n, hstream, hrec⟩ := h.input e (hsub.subset he) hid
    exact ⟨n, hstream, hinput e he n hid hrec⟩
  call := hcall
  oneOutput := fun n m p hn hm => h.oneOutput n m p (hawake n p hn) (hawake m p hm)
  oneInput := fun n m hn hm => h.oneInput n m (hrecords n hn) (hrecords m hm)
  streams := hstreams

theorem streams_setOut (h : ∀ n, (l.outs n).isOpen = true → StreamOk l.offloadFx (l.outs n))
    (hnew : (f (l.outs n)).isOpen = true → StreamOk l.offloadFx (f (l.outs n))) :
    ∀ m, ((l.setOut n f).outs m).isOpen = true → StreamOk l.offloadFx ((l.setOut n f).outs m) := by
  intro m hopen
  by_cases hm : m = n
  · subst hm
    rw [setOut_outs_self] at hopen ⊢
    exact hnew hopen
  · rw [setOut_outs_of_ne l f hm] at hopen ⊢
    exact h m hopen

/-- A change of one stream by which it becomes no owner that it was not, and
    stays the owner of what it has. -/
theorem owned_setOut (h : l.Owned)
    (hawake : ∀ p, (l.setOut n f).awake n p → l.awake n p)
    (hplays : ∀ p, (∃ e ∈ l.entries, e.id = .playback p) → l.plays n p → (l.setOut n f).plays n p)
    (hok : (f (l.outs n)).isOpen = true → StreamOk l.offloadFx (f (l.outs n))) :
    (l.setOut n f).Owned := by
  refine owned_shrink h (List.Sublist.refl _) (Nat.le_refl _) ?_ (fun _ _ _ _ h => h) h.call ?_
    (fun _ h => h) (streams_setOut h.streams hok)
  · intro e he m q hid hm
    by_cases hmn : m = n
    · subst hmn
      exact hplays q ⟨e, he, hid⟩ hm
    · exact (plays_congr (setOut_outs_of_ne l f hmn)).mpr hm
  · intro m q hm
    by_cases hmn : m = n
    · subst hmn
      exact hawake q hm
    · exact (awake_congr (setOut_outs_of_ne l f hmn)).mp hm

/-- Dropping an entry, and then changing the stream that had it. -/
theorem owned_drop_setOut (h : l.Owned) (hp : (l.outs n).usecase = p)
    (hawake : ∀ q, (l.setOut n f).awake n q → l.awake n q)
    (hok : (f (l.outs n)).isOpen = true → StreamOk l.offloadFx (f (l.outs n))) :
    ((l.setOut n f).drop (.playback p)).Owned := by
  have hids : ((l.setOut n f).entries.map Identity.id).Nodup := h.ids
  have hptrs : ((l.setOut n f).entries.map Identity.ptr).Nodup := h.ptrs
  refine owned_shrink h (drop_sublist _ _)
    (Nat.le_of_eq (drop_nextPtr (l.setOut n f) (.playback p)).symm) ?_ ?_ ?_ ?_ ?_ ?_
  · intro e he m q hid hm
    obtain ⟨-, hne⟩ := (mem_drop hids hptrs).mp he
    have hmn : m ≠ n := by
      rintro rfl
      rw [hid, ← hp, hm.1.2] at hne
      exact hne rfl
    refine (plays_congr ?_).mpr hm
    rw [drop_outs]
    exact setOut_outs_of_ne l f hmn
  · intro e _ m _ hm
    refine (records_congr ?_).mpr hm
    rw [drop_ins]
    rfl
  · intro e he hid
    rw [drop_inCall]
    exact h.call e ((drop_sublist (l.setOut n f) _).subset he) hid
  · intro m q hm
    have hsame : ((l.setOut n f).drop (.playback p)).outs m = (l.setOut n f).outs m :=
      congrFun (drop_outs _ _) m
    have hm' := (awake_congr hsame).mp hm
    by_cases hmn : m = n
    · subst hmn
      exact hawake q hm'
    · exact (awake_congr (setOut_outs_of_ne l f hmn)).mp hm'
  · intro m hm
    refine (records_congr ?_).mp hm
    rw [drop_ins]
    rfl
  · rw [drop_outs, drop_offloadFx]
    exact streams_setOut h.streams hok

/-- What standby makes of a stream. -/
def standbyOut (fx : Bool) (o : StreamOut) : StreamOut :=
  { o with
    standby := true
    compr := if o.usecase = .offload then none else o.compr
    offloadState := if fx then .idle else o.offloadState }

theorem setOut_congr {g : StreamOut → StreamOut} (h : f (l.outs n) = g (l.outs n)) :
    l.setOut n f = l.setOut n g := by
  rw [setOut, setOut, h]

/-- `stop_output_stream` after a change of the stream that keeps its usecase and
    its state. -/
theorem stopOutput_setOut (l : Ledger) (n : Nat) (f : StreamOut → StreamOut)
    (husecase : (f (l.outs n)).usecase = (l.outs n).usecase)
    (hstate : (f (l.outs n)).offloadState = (l.outs n).offloadState) :
    (l.setOut n f).stopOutput n
      = if l.offloadFx = true ∧ (l.outs n).offloadState.isPaused = true then
          l.setOut n ((fun o => { o with offloadState := .idle }) ∘ f)
        else if l.offloadFx = true then
          (l.setOut n ((fun o => { o with offloadState := .idle }) ∘ f)).drop
            (.playback (l.outs n).usecase)
        else (l.setOut n f).drop (.playback (l.outs n).usecase) := by
  have hfx : (l.setOut n f).offloadFx = l.offloadFx := rfl
  rw [stopOutput, hfx]
  by_cases hhooks : l.offloadFx = true
  · simp only [hhooks, if_true, true_and, setOut_setOut, setOut_outs_self, hstate, husecase,
      Function.comp_apply]
  · simp only [hhooks, Bool.false_eq_true, if_false, false_and, setOut_outs_self, husecase]

/-- Standby puts the stream in standby and drops its entry, unless the stream is
    paused and the hooks are there. -/
theorem outStandby_eq (l : Ledger) (n : Nat) :
    l.outStandby n
      = if l.offloadFx = true ∧ (l.outs n).offloadState.isPaused = true then
          l.setOut n (standbyOut l.offloadFx)
        else (l.setOut n (standbyOut l.offloadFx)).drop (.playback (l.outs n).usecase) := by
  have hfirst : l.outStandby n = (l.setOut n fun o =>
      { o with standby := true, compr := if o.usecase = .offload then none else o.compr }).stopOutput
        n := by
    rw [outStandby]
    simp only [setOut_outs_self, setOut_setOut]
    split
    · rename_i hoffload
      refine congrArg (fun l : Ledger => l.stopOutput n) (setOut_congr ?_)
      simp [hoffload]
    · rename_i hoffload
      refine congrArg (fun l : Ledger => l.stopOutput n) (setOut_congr ?_)
      simp [hoffload]
  rw [hfirst, stopOutput_setOut l n _ rfl rfl]
  by_cases hhooks : l.offloadFx = true
  · simp only [hhooks, true_and, if_true]
    split <;> rfl
  · have hfx : l.offloadFx = false := by simpa using hhooks
    simp only [hfx, Bool.false_eq_true, false_and, if_false]
    exact congrArg (fun l : Ledger => l.drop _) (setOut_congr rfl)

theorem outStandby_outs_self (l : Ledger) (n : Nat) :
    (l.outStandby n).outs n = standbyOut l.offloadFx (l.outs n) := by
  rw [outStandby_eq]
  split
  · rw [setOut_outs_self]
  · rw [drop_outs, setOut_outs_self]

/-- **STANDBY** keeps every entry but the one of its stream with its owner. -/
theorem owned_outStandby (h : l.Owned) (hopen : (l.outs n).isOpen = true) :
    (l.outStandby n).Owned := by
  have hok := h.streams n hopen
  have hawake : ∀ p, ¬ (l.setOut n (standbyOut l.offloadFx)).awake n p := by
    intro p hp
    rw [awake, setOut_outs_self] at hp
    exact nomatch hp.1.2
  have hok' : StreamOk l.offloadFx (standbyOut l.offloadFx (l.outs n)) := by
    refine ⟨fun hfx _ => ?_, fun hpcm => ?_, fun hcompr => ?_⟩
    · simp [standbyOut, hfx]
    · have hpcm' : (l.outs n).usecase ≠ .offload := hpcm
      obtain ⟨hidle, hnone⟩ := hok.pcm hpcm'
      simp [standbyOut, hidle, hnone]
    · simp only [standbyOut] at hcompr
      split at hcompr
      · exact nomatch hcompr
      · rename_i hpcm
        rw [(hok.pcm hpcm).2] at hcompr
        exact nomatch hcompr
  rw [outStandby_eq]
  split
  · rename_i hpaused
    refine owned_setOut h (fun p hp => absurd hp (hawake p)) ?_ (fun _ => hok')
    -- a paused stream has no entry
    rintro p - hplays
    by_cases hoffload : (l.outs n).usecase = .offload
    · rw [hplays.2 (hplays.1.2.symm.trans hoffload)] at hpaused
      exact nomatch hpaused.2
    · rw [(hok.pcm hoffload).1] at hpaused
      exact nomatch hpaused.2
  · exact owned_drop_setOut h rfl (fun p hp => absurd hp (hawake p)) (fun _ => hok')

/-- A stream in standby can be freed. -/
theorem owned_close (h : l.Owned) (hstandby : (l.outs n).standby = true) :
    (l.setOut n fun o => { o with isOpen := false }).Owned := by
  refine owned_setOut h ?_ ?_ (fun hopen => nomatch hopen)
  · intro p hp
    rw [awake, setOut_outs_self] at hp
    exact nomatch hp.1.1
  · intro p _ hp
    rw [hp.1.1.2] at hstandby
    exact nomatch hstandby

/-- A new entry, whose owner may have it, beside the others with theirs. -/
theorem owned_grow {id : UsecaseId} {stream : Stream} (h : l.Owned) (hnew : l.find id = none)
    (hentries : l'.entries = (l.add id stream).entries) (hnext : l'.nextPtr = l.nextPtr + 1)
    (houtput : ∀ n q, id ≠ .playback q → l.plays n q → l'.plays n q)
    (hinput : id ≠ .capture → ∀ n, l.records n → l'.records n)
    (hcall : l.inCall = true → l'.inCall = true)
    (hnewOutput : ∀ p, id = .playback p → ∃ n, stream = .output n ∧ l'.plays n p)
    (hnewInput : id = .capture → ∃ n, stream = .input n ∧ l'.records n)
    (hnewCall : id = .voiceCall → l'.inCall = true)
    (honeOutput : ∀ n m p, l'.awake n p → l'.awake m p → n = m)
    (honeInput : ∀ n m, l'.records n → l'.records m → n = m)
    (hstreams : ∀ n, (l'.outs n).isOpen = true → StreamOk l'.offloadFx (l'.outs n)) :
    l'.Owned := by
  have hold : ∀ e ∈ l'.entries, e ∈ l.entries ∧ e.id ≠ id
      ∨ e = { ptr := l.nextPtr, id := id, stream := stream } := by
    intro e he
    rw [hentries] at he
    rcases List.mem_append.mp he with he | he
    · exact .inl ⟨he, id_ne_of_find hnew he⟩
    · exact .inr (List.mem_singleton.mp he)
  refine ⟨?_, ?_, ?_, ?_, ?_, ?_, honeOutput, honeInput, hstreams⟩
  · rw [hentries, add, List.map_append]
    refine List.nodup_append'.mpr ⟨h.ptrs, List.nodup_singleton _, ?_⟩
    rw [List.map_singleton, List.disjoint_singleton]
    intro hmem
    obtain ⟨e, he, hptr⟩ := List.mem_map.mp hmem
    exact Nat.lt_irrefl _ (hptr ▸ h.fresh e he)
  · rw [hentries, add, List.map_append]
    refine List.nodup_append'.mpr ⟨h.ids, List.nodup_singleton _, ?_⟩
    rw [List.map_singleton, List.disjoint_singleton]
    intro hmem
    obtain ⟨e, he, hid⟩ := List.mem_map.mp hmem
    exact id_ne_of_find hnew he hid
  · intro e he
    rw [hnext]
    obtain ⟨he, -⟩ | rfl := hold e he
    · exact Nat.lt_succ_of_lt (h.fresh e he)
    · exact Nat.lt_succ_self _
  · intro e he p hid
    obtain ⟨he, hne⟩ | rfl := hold e he
    · obtain ⟨n, hstream, hplays⟩ := h.output e he p hid
      exact ⟨n, hstream, houtput n p (fun heq => hne (hid.trans heq.symm)) hplays⟩
    · exact hnewOutput p hid
  · intro e he hid
    obtain ⟨he, hne⟩ | rfl := hold e he
    · obtain ⟨n, hstream, hrec⟩ := h.input e he hid
      exact ⟨n, hstream, hinput (fun heq => hne (hid.trans heq.symm)) n hrec⟩
    · exact hnewInput hid
  · intro e he hid
    obtain ⟨he, -⟩ | rfl := hold e he
    · exact hcall (h.call e he hid)
    · exact hnewCall hid

/-- **LEAVING STANDBY**, or going on after a pause: the stream gets an entry. -/
theorem owned_add_setOut (h : l.Owned) (hp : (l.outs n).usecase = p)
    (hopen : (f (l.outs n)).isOpen = true) (hstandby : (f (l.outs n)).standby = false)
    (husecase : (f (l.outs n)).usecase = p)
    (hstate : p = .offload → (f (l.outs n)).offloadState.isPaused = false)
    (hok : StreamOk l.offloadFx (f (l.outs n)))
    (hother : ∀ m, m ≠ n → ¬ l.awake m p) (hnone : ¬ l.plays n p) :
    ((l.add (.playback p) (.output n)).setOut n f).Owned := by
  have hnew : l.find (.playback p) = none := by
    refine find_eq_none fun e he hid => ?_
    obtain ⟨m, -, hm⟩ := h.output e he p hid
    by_cases hmn : m = n
    · exact hnone (hmn ▸ hm)
    · exact hother m hmn hm.1
  have houts : ∀ m, m ≠ n →
      ((l.add (.playback p) (.output n)).setOut n f).outs m = l.outs m :=
    fun m hm => setOut_outs_of_ne _ f hm
  have hself : ((l.add (.playback p) (.output n)).setOut n f).outs n = f (l.outs n) :=
    setOut_outs_self _ n f
  have hawake : ((l.add (.playback p) (.output n)).setOut n f).awake n p := by
    rw [awake, hself]
    exact ⟨⟨hopen, hstandby⟩, husecase⟩
  -- an awake stream is this one, with this usecase, or was awake before
  have hcases : ∀ m q, ((l.add (.playback p) (.output n)).setOut n f).awake m q →
      m = n ∧ q = p ∨ m ≠ n ∧ q ≠ p ∧ l.awake m q := by
    intro m q hm
    by_cases hmn : m = n
    · rw [hmn, awake, hself] at hm
      exact .inl ⟨hmn, hm.2.symm.trans husecase⟩
    · have hm' := (awake_congr (houts m hmn)).mp hm
      exact .inr ⟨hmn, fun hq => hother m hmn (hq ▸ hm'), hm'⟩
  refine owned_grow h hnew rfl rfl ?_ (fun _ _ h => h) (fun h => h) ?_ (fun h => (nomatch h))
    (fun h => (nomatch h)) ?_ h.oneInput ?_
  · intro m q hne hm
    have hmn : m ≠ n := by
      rintro rfl
      exact hne (congrArg UsecaseId.playback (hp.symm.trans hm.1.2))
    exact (plays_congr (houts m hmn)).mpr hm
  · intro q hq
    obtain rfl : p = q := UsecaseId.playback.inj hq
    refine ⟨n, rfl, hawake, fun hoffload => ?_⟩
    rw [hself]
    exact hstate hoffload
  · intro m k q hm hk
    obtain ⟨rfl, rfl⟩ | ⟨-, hq, hm⟩ := hcases m q hm
    · obtain ⟨rfl, -⟩ | ⟨-, hq, -⟩ := hcases k q hk
      · rfl
      · exact absurd rfl hq
    · obtain ⟨-, rfl⟩ | ⟨-, -, hk⟩ := hcases k q hk
      · exact absurd rfl hq
      · exact h.oneOutput m k q hm hk
  · intro m hm
    by_cases hmn : m = n
    · rw [hmn, hself]
      exact hok
    · rw [houts m hmn] at hm ⊢
      exact h.streams m hm

/-- **A FAILED START** leaves the other entries alone. -/
theorem owned_failed_start (h : l.Owned) (hopen : (l.outs n).isOpen = true)
    (hstandby : (l.outs n).standby = true) (hother : ∀ m, m ≠ n → ¬ l.awake m (l.outs n).usecase) :
    (((l.add (.playback (l.outs n).usecase) (.output n)).setOut n fun o =>
      { o with compr := none }).stopOutput n).Owned := by
  have hok := h.streams n hopen
  have hnew : l.find (.playback (l.outs n).usecase) = none := by
    refine find_eq_none fun e he hid => ?_
    obtain ⟨m, -, hm⟩ := h.output e he _ hid
    by_cases hmn : m = n
    · rw [hmn] at hm
      rw [hm.1.1.2] at hstandby
      exact nomatch hstandby
    · exact hother m hmn hm.1
  have hnotAwake : ∀ p, ¬ l.awake n p := by
    intro p hp
    rw [hp.1.2] at hstandby
    exact nomatch hstandby
  -- what is left of the start, for any change of the stream that keeps it in standby
  have hrest : ∀ g : StreamOut → StreamOut, (∀ o, (g o).standby = o.standby) →
      ((g (l.outs n)).isOpen = true → StreamOk l.offloadFx (g (l.outs n))) →
      (((l.add (.playback (l.outs n).usecase) (.output n)).setOut n g).drop
        (.playback (l.outs n).usecase)).Owned := by
    intro g hg hgok
    have hentries : (((l.add (.playback (l.outs n).usecase) (.output n)).setOut n g).drop
        (.playback (l.outs n).usecase)).entries = l.entries :=
      @drop_add_entries (l.setOut n g) _ h.fresh hnew (.output n)
    have houts : (((l.add (.playback (l.outs n).usecase) (.output n)).setOut n g).drop
        (.playback (l.outs n).usecase)).outs = (l.setOut n g).outs := drop_outs _ _
    have hins : (((l.add (.playback (l.outs n).usecase) (.output n)).setOut n g).drop
        (.playback (l.outs n).usecase)).ins = l.ins := drop_ins _ _
    have hstill : ∀ p, ¬ (l.setOut n g).awake n p := by
      intro p hp
      rw [awake, setOut_outs_self, hg, hstandby] at hp
      exact nomatch hp.1.2
    refine owned_shrink h ?_ ?_ ?_ ?_ ?_ ?_ ?_ ?_
    · rw [hentries]
    · rw [drop_nextPtr]
      exact Nat.le_succ _
    · intro e _ m p _ hm
      have hmn : m ≠ n := fun heq => hnotAwake p (heq ▸ hm.1)
      refine (plays_congr ?_).mpr hm
      rw [houts]
      exact setOut_outs_of_ne l g hmn
    · intro e _ m _ hm
      exact (records_congr (congrFun hins m)).mpr hm
    · intro e he hid
      rw [hentries] at he
      rw [drop_inCall]
      exact h.call e he hid
    · intro m p hm
      have hm' := (awake_congr (l := l.setOut n g) (congrFun houts m)).mp hm
      have hmn : m ≠ n := by
        rintro rfl
        exact hstill p hm'
      exact (awake_congr (setOut_outs_of_ne l g hmn)).mp hm'
    · exact fun m hm => (records_congr (congrFun hins m)).mp hm
    · rw [houts, drop_offloadFx]
      exact streams_setOut h.streams hgok
  rw [stopOutput_setOut _ n _ rfl rfl]
  have houtsn : (l.add (.playback (l.outs n).usecase) (.output n)).outs n = l.outs n := rfl
  have hfx : (l.add (.playback (l.outs n).usecase) (.output n)).offloadFx = l.offloadFx := rfl
  rw [houtsn, hfx]
  split
  · -- with the hooks a stream in standby is not paused
    rename_i hpaused
    rw [hok.hooks hpaused.1 hstandby] at hpaused
    exact nomatch hpaused.2
  · split
    · refine hrest _ (fun _ => rfl) fun _ => ?_
      exact ⟨fun _ _ => rfl, fun _ => ⟨rfl, rfl⟩, fun hc => (nomatch hc)⟩
    · rename_i hhooks
      refine hrest _ (fun _ => rfl) fun _ => ?_
      exact ⟨fun hfx => absurd hfx hhooks, fun hpcm => ⟨(hok.pcm hpcm).1, rfl⟩,
        fun hc => (nomatch hc)⟩

theorem setIn_ins_self (l : Ledger) (n : Nat) (g : StreamIn → StreamIn) :
    (l.setIn n g).ins n = g (l.ins n) := Function.update_self ..

theorem setIn_ins_of_ne {m : Nat} (l : Ledger) (g : StreamIn → StreamIn) (h : m ≠ n) :
    (l.setIn n g).ins m = l.ins m := Function.update_of_ne h ..

/-- A change of an input that is no owner after it, nor had been one. -/
theorem owned_setIn {g : StreamIn → StreamIn} (h : l.Owned) (hbefore : ¬ l.records n)
    (hafter : ¬ (l.setIn n g).records n) : (l.setIn n g).Owned := by
  refine owned_shrink h (List.Sublist.refl _) (Nat.le_refl _) (fun _ _ _ _ _ h => h) ?_ h.call
    (fun _ _ h => h) ?_ h.streams
  · intro e _ m _ hm
    have hmn : m ≠ n := fun heq => hbefore (heq ▸ hm)
    exact (records_congr (setIn_ins_of_ne l g hmn)).mpr hm
  · intro m hm
    have hmn : m ≠ n := fun heq => hafter (heq ▸ hm)
    exact (records_congr (setIn_ins_of_ne l g hmn)).mp hm

/-- `do_in_standby_l` drops the entry of the inputs. -/
theorem owned_drop_setIn {g : StreamIn → StreamIn} (h : l.Owned)
    (hafter : ¬ (l.setIn n g).records n) : ((l.drop .capture).setIn n g).Owned := by
  have houts : ((l.drop .capture).setIn n g).outs = l.outs := drop_outs _ _
  refine owned_shrink h (drop_sublist _ _) (Nat.le_of_eq (drop_nextPtr l .capture).symm) ?_ ?_ ?_ ?_
    ?_ ?_
  · intro e _ m p _ hm
    exact (plays_congr (congrFun houts m)).mpr hm
  · intro e he _ hid
    exact absurd hid ((mem_drop h.ids h.ptrs).mp he).2
  · intro e he hid
    have hcall : ((l.drop .capture).setIn n g).inCall = l.inCall := drop_inCall _ _
    rw [hcall]
    exact h.call e ((drop_sublist l _).subset he) hid
  · exact fun m p hm => (awake_congr (congrFun houts m)).mp hm
  · intro m hm
    have hins : ((l.drop .capture).setIn n g).ins m = (l.setIn n g).ins m := by
      rw [setIn_drop, drop_ins]
    have hm' : (l.setIn n g).records m := (records_congr hins).mp hm
    have hmn : m ≠ n := fun heq => hafter (heq ▸ hm')
    exact (records_congr (setIn_ins_of_ne l g hmn)).mp hm'
  · have hfx : ((l.drop .capture).setIn n g).offloadFx = l.offloadFx := drop_offloadFx _ _
    rw [houts, hfx]
    exact h.streams

/-- An input that starts while no other one is out of standby. -/
theorem owned_add_setIn {g : StreamIn → StreamIn} (h : l.Owned)
    (hopen : (g (l.ins n)).isOpen = true) (hstandby : (g (l.ins n)).standby = false)
    (hother : ∀ m, ¬ l.records m) : ((l.add .capture (.input n)).setIn n g).Owned := by
  have hnew : l.find .capture = none := by
    refine find_eq_none fun e he hid => ?_
    obtain ⟨m, -, hm⟩ := h.input e he hid
    exact hother m hm
  have honly : ∀ m, ((l.add .capture (.input n)).setIn n g).records m → m = n := by
    intro m hm
    by_contra hmn
    exact hother m ((records_congr (setIn_ins_of_ne _ g hmn)).mp hm)
  refine owned_grow h hnew rfl rfl (fun _ _ _ h => h) (fun hne => absurd rfl hne) (fun h => h)
    (fun _ h => (nomatch h)) ?_ (fun h => (nomatch h)) h.oneOutput ?_ h.streams
  · intro _
    refine ⟨n, rfl, ?_⟩
    rw [records, setIn_ins_self]
    exact ⟨hopen, hstandby⟩
  · exact fun m k hm hk => (honly m hm).trans (honly k hk).symm

/-- A start of an input that fails leaves the other entries alone. -/
theorem owned_add_drop_capture (h : l.Owned) (hother : ∀ m, ¬ l.records m) :
    ((l.add .capture (.input n)).drop .capture).Owned := by
  have hnew : l.find .capture = none := by
    refine find_eq_none fun e he hid => ?_
    obtain ⟨m, -, hm⟩ := h.input e he hid
    exact hother m hm
  have hentries := drop_add_entries h.fresh hnew (.input n)
  have houts : ((l.add .capture (.input n)).drop .capture).outs = l.outs := drop_outs _ _
  have hins : ((l.add .capture (.input n)).drop .capture).ins = l.ins := drop_ins _ _
  refine owned_shrink h ?_ ?_ ?_ ?_ ?_ ?_ ?_ ?_
  · rw [hentries]
  · rw [drop_nextPtr]
    exact Nat.le_succ _
  · exact fun e _ m p _ hm => (plays_congr (congrFun houts m)).mpr hm
  · exact fun e _ m _ hm => (records_congr (congrFun hins m)).mpr hm
  · intro e he hid
    rw [hentries] at he
    rw [drop_inCall]
    exact h.call e he hid
  · exact fun m p hm => (awake_congr (congrFun houts m)).mp hm
  · exact fun m hm => (records_congr (congrFun hins m)).mp hm
  · rw [houts, drop_offloadFx]
    exact h.streams

/-- `stop_voice_call` drops the entry of the call. -/
theorem owned_hangUp (h : l.Owned) : ((l.setInCall false).drop .voiceCall).Owned := by
  have houts : ((l.setInCall false).drop .voiceCall).outs = l.outs := drop_outs _ _
  have hins : ((l.setInCall false).drop .voiceCall).ins = l.ins := drop_ins _ _
  have hids : ((l.setInCall false).entries.map Identity.id).Nodup := h.ids
  have hptrs : ((l.setInCall false).entries.map Identity.ptr).Nodup := h.ptrs
  refine owned_shrink h (drop_sublist (l.setInCall false) _)
    (Nat.le_of_eq (drop_nextPtr (l.setInCall false) .voiceCall).symm) ?_ ?_ ?_ ?_ ?_ ?_
  · exact fun e _ m p _ hm => (plays_congr (congrFun houts m)).mpr hm
  · exact fun e _ m _ hm => (records_congr (congrFun hins m)).mpr hm
  · intro e he hid
    exact absurd hid ((mem_drop hids hptrs).mp he).2
  · exact fun m p hm => (awake_congr (congrFun houts m)).mp hm
  · exact fun m hm => (records_congr (congrFun hins m)).mp hm
  · rw [houts, drop_offloadFx]
    exact h.streams

theorem find_hangUp (h : l.Owned) :
    ((l.setInCall false).drop .voiceCall).find .voiceCall = none := by
  have hids : ((l.setInCall false).entries.map Identity.id).Nodup := h.ids
  have hptrs : ((l.setInCall false).entries.map Identity.ptr).Nodup := h.ptrs
  exact find_eq_none fun e he => ((mem_drop hids hptrs).mp he).2

theorem owned_startCall (h : l.Owned) (hnew : l.find .voiceCall = none) (stream : Stream) :
    ((l.setInCall true).add .voiceCall stream).Owned :=
  owned_grow h hnew rfl rfl (fun _ _ _ h => h) (fun _ _ h => h) (fun _ => rfl)
    (fun _ h => (nomatch h)) (fun h => (nomatch h)) (fun _ => rfl) h.oneOutput h.oneInput h.streams

end Keeping

end Ledger

-- ── One operation ─────────────────────────────────────────────────────────

/-- Another open output out of standby has the usecase of this one. -/
def Adev.outputTaken (s : Adev) (n : Nat) : Prop :=
  ∃ m, m ≠ n ∧ ((s.outs m).isOpen = true ∧ (s.outs m).standby = false)
    ∧ (s.outs m).usecase = (s.outs n).usecase

/-- Another open input is out of standby. -/
def Adev.inputTaken (s : Adev) (n : Nat) : Prop :=
  ∃ m, m ≠ n ∧ (s.ins m).isOpen = true ∧ (s.ins m).standby = false

/-- A stream that leaves standby must be the only one with its usecase; an
    offload stream must not be flushed then, and an input must not lack its
    resampler when its PCM device is open already. -/
def Adev.keepsUnique (s : Adev) : Act → Prop
  | .write n w =>
      (s.outs n).standby = true → w.alloc = true →
        ¬ s.outputTaken n
          ∧ ((s.outs n).usecase = .offload → (s.outs n).offloadState = .pausedFlushed →
            w.opened = false)
  | .read n w =>
      (s.ins n).standby = true → w.alloc = true →
        (getPcmDevice (s.ins n).usecaseType (s.ins n).devices).isSome = true →
          ¬ s.inputTaken n ∧ (w.opened = true → w.resampler = true)
  | _ => True

section Steps

variable {view : StreamOut → InputView} {s : Adev} {n : Nat}

/-- `start_output_stream` adds the entry, and takes the stream out of it again
    when the device does not open. -/
theorem ledger_startOutputStream (s : Adev) (n : Nat) (w : WriteResult) :
    (w.alloc = false ∧ s.startOutputStream view n w = (s, false))
      ∨ (w.alloc = true ∧ (s.startOutputStream view n w).2 = true
        ∧ ((s.outs n).usecase = .offload → w.opened = true)
        ∧ (s.startOutputStream view n w).1.ledger
          = (s.ledger.add (.playback (s.outs n).usecase) (.output n)).setOut n fun o =>
            { o with compr := if o.usecase = .offload then some false else none })
      ∨ (w.alloc = true ∧ (s.startOutputStream view n w).2 = false
        ∧ (s.startOutputStream view n w).1.ledger
          = ((s.ledger.add (.playback (s.outs n).usecase) (.output n)).setOut n fun o =>
            { o with compr := none }).stopOutput n) := by
  cases halloc : w.alloc with
  | false =>
      refine .inl ⟨rfl, ?_⟩
      rw [Adev.startOutputStream, halloc, enableOutputPath_of_not_alloc]
  | true =>
      refine .inr ?_
      have hledger := @ledger_enableOutputPath view s n
      have hok := @enableOutputPath_ok view s n true
      rw [Adev.startOutputStream, halloc]
      generalize s.enableOutputPath view n true = r at hledger hok ⊢
      obtain ⟨s₁, ok⟩ := r
      obtain rfl : ok = true := hok
      have husecase : (s₁.outs n).usecase = (s.outs n).usecase :=
        congrArg (fun l : Ledger => (l.outs n).usecase) hledger
      have hset : ∀ c, (s₁.setOut n fun o => { o with compr := c }).ledger
          = (s.ledger.add (.playback (s.outs n).usecase) (.output n)).setOut n fun o =>
            { o with compr := c } := by
        intro c
        rw [ledger_setOut, hledger]
        exact fun _ => rfl
      have hcongr : ∀ c, (c = if (s.outs n).usecase = .offload then some false else none) →
          (s.ledger.add (.playback (s.outs n).usecase) (.output n)).setOut n (fun o =>
            { o with compr := c })
          = (s.ledger.add (.playback (s.outs n).usecase) (.output n)).setOut n fun o =>
            { o with compr := if o.usecase = .offload then some false else none } := by
        intro c hc
        refine Ledger.setOut_congr ?_
        rw [hc]
        rfl
      simp only [husecase]
      by_cases hoffload : (s.outs n).usecase = .offload
      · rw [if_pos hoffload]
        by_cases hopened : w.opened = true
        · rw [if_pos hopened]
          refine .inl ⟨trivial, rfl, fun _ => hopened, ?_⟩
          exact (hset _).trans (hcongr _ (if_pos hoffload).symm)
        · rw [if_neg hopened]
          refine .inr ⟨trivial, rfl, ?_⟩
          rw [ledger_stopOutputStream, hset]
      · rw [if_neg hoffload]
        split
        · refine .inl ⟨trivial, rfl, fun h => absurd h hoffload, ?_⟩
          exact (hset _).trans (hcongr _ (if_neg hoffload).symm)
        · refine .inr ⟨trivial, rfl, ?_⟩
          rw [ledger_stopOutputStream, hset]

theorem owned_doOutStandby (h : s.ledger.Owned) (hopen : (s.outs n).isOpen = true) :
    (s.doOutStandby n).ledger.Owned := by
  rw [ledger_doOutStandby]
  exact Ledger.owned_outStandby h hopen

theorem owned_outStandbyOp (h : s.ledger.Owned) (hopen : (s.outs n).isOpen = true) :
    (s.outStandby n).ledger.Owned := by
  rw [Adev.outStandby]
  split
  · exact h
  · exact owned_doOutStandby h hopen

theorem owned_doInStandby (h : s.ledger.Owned) (n : Nat) : (s.doInStandby n).ledger.Owned := by
  rw [ledger_doInStandby]
  split
  · exact h
  · refine Ledger.owned_drop_setIn h ?_
    rw [Ledger.records, Ledger.setIn_ins_self]
    exact fun hrec => nomatch hrec.2

theorem owned_forceInStandby (h : s.ledger.Owned) (i : Option Nat) :
    (s.forceInStandby i).ledger.Owned := by
  cases i with
  | none => exact h
  | some n => exact owned_doInStandby h n

/-- What `out_write_offload` makes of a stream: the device is started, if it was
    not playing. -/
def playingOut (o : StreamOut) : StreamOut :=
  { o with
    compr := if o.offloadState = .playing then o.compr else o.compr.map fun _ => true
    offloadState := .playing }

theorem setOut_self {l : Ledger} {f : StreamOut → StreamOut} (h : f (l.outs n) = l.outs n) :
    l.setOut n f = l := by
  rw [Ledger.setOut, h, Function.update_eq_self]

theorem ledger_startCompress (s : Adev) (n : Nat) :
    (if (s.outs n).offloadState = .playing then s
      else s.setOut n fun o =>
        { o with compr := o.compr.map fun _ => true, offloadState := .playing }).ledger
      = s.ledger.setOut n playingOut := by
  split
  · rename_i hplaying
    refine (setOut_self ?_).symm
    have hstate : (s.ledger.outs n).offloadState = .playing := hplaying
    rw [playingOut, if_pos hstate, ← hstate]
  · rename_i hplaying
    rw [ledger_setOut]
    · refine Ledger.setOut_congr ?_
      have hstate : (s.ledger.outs n).offloadState ≠ .playing := hplaying
      simp only [playingOut, hstate, if_false]
    · exact fun _ => rfl

/-- `out_write_offload` on a stream that is not flushed, on a flushed one, and
    on a flushed one without memory. -/
theorem ledger_writeOffload (s : Adev) (n : Nat) (w : WriteResult) :
    ((s.outs n).offloadState ≠ .pausedFlushed
        ∧ (s.writeOffload view n w).ledger = s.ledger.setOut n playingOut)
      ∨ ((s.outs n).offloadState = .pausedFlushed
        ∧ (s.writeOffload view n w).ledger
          = (s.ledger.add (.playback (s.outs n).usecase) (.output n)).setOut n playingOut)
      ∨ ((s.outs n).offloadState = .pausedFlushed
        ∧ (s.writeOffload view n w).ledger = s.ledger.setOut n fun o => { o with locked := true }) := by
  rw [Adev.writeOffload]
  by_cases hflushed : (s.outs n).offloadState = .pausedFlushed
  · rw [if_pos hflushed]
    refine .inr ?_
    cases w.allocFlushed with
    | false =>
        rw [enableOutputPath_of_not_alloc]
        refine .inr ⟨hflushed, ?_⟩
        exact ledger_setOut s n fun _ => rfl
    | true =>
        have hledger := @ledger_enableOutputPath view s n
        have hok := @enableOutputPath_ok view s n true
        generalize s.enableOutputPath view n true = r at hledger hok ⊢
        obtain ⟨s₁, ok⟩ := r
        obtain rfl : ok = true := hok
        refine .inl ⟨hflushed, ?_⟩
        rw [← hledger]
        exact ledger_startCompress s₁ n
  · rw [if_neg hflushed]
    exact .inl ⟨hflushed, ledger_startCompress s n⟩

/-- A paused stream, or one in standby, has no other one with its usecase. -/
theorem not_awake_of_awake {l : Ledger} {p : Playback} (h : l.Owned) (hn : l.awake n p) :
    ∀ m, m ≠ n → ¬ l.awake m p := fun m hm hawake => hm (h.oneOutput m n p hawake hn)

/-- **WRITING OFFLOAD** on a stream out of standby. -/
theorem owned_writeOffload (h : s.ledger.Owned) (hopen : (s.outs n).isOpen = true)
    (hoffload : (s.outs n).usecase = .offload) (hstandby : (s.outs n).standby = false)
    (w : WriteResult) : (s.writeOffload view n w).ledger.Owned := by
  have hawake : s.ledger.awake n .offload := ⟨⟨hopen, hstandby⟩, hoffload⟩
  have hstandby' : (s.ledger.outs n).standby = false := hstandby
  have hstreamOk : Ledger.StreamOk s.ledger.offloadFx (playingOut (s.ledger.outs n)) := by
    refine ⟨fun _ h => ?_, fun h => absurd hoffload h, fun _ => hstandby⟩
    exact nomatch hstandby'.symm.trans h
  obtain ⟨-, hw⟩ | ⟨hflushed, hw⟩ | ⟨hflushed, hw⟩ := @ledger_writeOffload view s n w
  · rw [hw]
    refine Ledger.owned_setOut h (fun p hp => ?_) (fun p _ hp => ?_) (fun _ => hstreamOk)
    · rw [Ledger.awake, Ledger.setOut_outs_self] at hp
      exact hp
    · rw [Ledger.plays, Ledger.awake, Ledger.setOut_outs_self]
      exact ⟨hp.1, fun _ => rfl⟩
  · rw [hw, hoffload]
    refine Ledger.owned_add_setOut h hoffload hopen hstandby hoffload (fun _ => rfl) hstreamOk
      (not_awake_of_awake h hawake) fun hplays => ?_
    have hpaused : (s.ledger.outs n).offloadState = .pausedFlushed := hflushed
    have := hplays.2 rfl
    rw [hpaused] at this
    exact nomatch this
  · rw [hw]
    refine Ledger.owned_setOut h (fun p hp => ?_) (fun p _ hp => ?_) (fun _ => ?_)
    · rw [Ledger.awake, Ledger.setOut_outs_self] at hp
      exact hp
    · rw [Ledger.plays, Ledger.awake, Ledger.setOut_outs_self]
      exact hp
    · exact ⟨(h.streams n hopen).hooks, (h.streams n hopen).pcm, (h.streams n hopen).handle⟩

/-- A stream right after its start. -/
def startedOut (o : StreamOut) : StreamOut :=
  { o with standby := false, compr := if o.usecase = .offload then some false else none }

/-- **LEAVING STANDBY**: the ledger of a stream that was started and is played. -/
theorem owned_started (h : s.ledger.Owned)
    (hstandby : (s.outs n).standby = true) (htaken : ¬ s.outputTaken n) {f : StreamOut → StreamOut}
    (hf : (f (s.ledger.outs n)).isOpen = true ∧ (f (s.ledger.outs n)).standby = false
      ∧ (f (s.ledger.outs n)).usecase = (s.outs n).usecase)
    (hstate : (f (s.ledger.outs n)).offloadState.isPaused = false)
    (hpcm : (s.outs n).usecase ≠ .offload →
      (f (s.ledger.outs n)).offloadState = .idle ∧ (f (s.ledger.outs n)).compr = none) :
    ((s.ledger.add (.playback (s.outs n).usecase) (.output n)).setOut n f).Owned := by
  obtain ⟨hfopen, hfstandby, hfusecase⟩ := hf
  refine Ledger.owned_add_setOut h rfl hfopen hfstandby hfusecase (fun _ => hstate) ?_ ?_ ?_
  · refine ⟨fun _ h => ?_, fun h => ?_, fun _ => hfstandby⟩
    · exact nomatch hfstandby.symm.trans h
    · exact hpcm fun heq => h (hfusecase.trans heq)
  · exact fun m hm hawake => htaken ⟨m, hm, hawake⟩
  · exact fun hplays => nomatch hstandby.symm.trans hplays.1.1.2

theorem owned_writePcm (h : s.ledger.Owned) (hopen : (s.outs n).isOpen = true) (w : WriteResult) :
    (s.writePcm n w).ledger.Owned := by
  rw [Adev.writePcm]
  split
  · exact h
  · exact owned_outStandbyOp h hopen

/-- The stream right after its start. -/
theorem bare_started {s₁ : Adev}
    (hledger : s₁.ledger = (s.ledger.add (.playback (s.outs n).usecase) (.output n)).setOut n fun o =>
      { o with compr := if o.usecase = .offload then some false else none }) :
    (s₁.setOut n fun o => { o with standby := false }).ledger
        = (s.ledger.add (.playback (s.outs n).usecase) (.output n)).setOut n startedOut
      ∧ ((s₁.setOut n fun o => { o with standby := false }).outs n).bare
        = startedOut (s.ledger.outs n) := by
  have hset : (s₁.setOut n fun o => { o with standby := false }).ledger
      = (s.ledger.add (.playback (s.outs n).usecase) (.output n)).setOut n startedOut := by
    rw [ledger_setOut, hledger, Ledger.setOut_setOut]
    · rfl
    · exact fun _ => rfl
  exact ⟨hset, (congrArg (fun l : Ledger => l.outs n) hset).trans (Ledger.setOut_outs_self _ n _)⟩

/-- **STARTING OFFLOAD** on a stream in standby: nothing happens, or the entry is
    added and the device plays, or the entry is taken out again. -/
theorem ledger_startOffload {w : WriteResult} (hoffload : (s.outs n).usecase = .offload)
    (hstandby : (s.outs n).standby = true)
    (hflushed : w.alloc = true → (s.outs n).offloadState = .pausedFlushed → w.opened = false)
    {s' : Adev} (hw : s.outWrite view n w = some s') :
    s' = s
      ∨ (w.alloc = true ∧ s'.ledger
          = (s.ledger.add (.playback (s.outs n).usecase) (.output n)).setOut n
            (playingOut ∘ startedOut))
      ∨ (w.alloc = true ∧ s'.ledger
          = ((s.ledger.add (.playback (s.outs n).usecase) (.output n)).setOut n fun o =>
            { o with compr := none }).stopOutput n) := by
  rw [Adev.outWrite, if_pos hstandby] at hw
  split at hw
  · cases hw
  · obtain ⟨-, hstart⟩ | ⟨halloc, hstart, hopened, hledger⟩ | ⟨halloc, hstart, hledger⟩ :=
      @ledger_startOutputStream view s n w
    · rw [hstart] at hw
      exact .inl (Option.some.inj hw).symm
    · generalize s.startOutputStream view n w = r at hw hstart hledger
      obtain ⟨s₁, ok⟩ := r
      obtain rfl : ok = true := hstart
      obtain ⟨hset, hbare⟩ := bare_started hledger
      have husecase : ((s₁.setOut n fun o => { o with standby := false }).outs n).usecase
          = .offload := (congrArg StreamOut.usecase hbare).trans hoffload
      have hstate : ((s₁.setOut n fun o => { o with standby := false }).outs n).offloadState
          = (s.outs n).offloadState := (congrArg StreamOut.offloadState hbare).trans rfl
      have hnotFlushed : (s.outs n).offloadState ≠ .pausedFlushed := by
        intro hpaused
        rw [hopened hoffload] at hflushed
        cases hflushed halloc hpaused
      simp only [husecase, if_true] at hw
      obtain rfl := Option.some.inj hw
      refine .inr (.inl ⟨halloc, ?_⟩)
      rw [← hstate] at hnotFlushed
      obtain ⟨-, hledger'⟩ | ⟨hpaused, -⟩ | ⟨hpaused, -⟩ :=
        @ledger_writeOffload view (s₁.setOut n fun o => { o with standby := false }) n w
      · rw [← Ledger.setOut_setOut, ← hset]
        exact hledger'
      · exact absurd hpaused hnotFlushed
      · exact absurd hpaused hnotFlushed
    · generalize s.startOutputStream view n w = r at hw hstart hledger
      obtain ⟨s₁, ok⟩ := r
      obtain rfl : ok = false := hstart
      obtain rfl := Option.some.inj hw
      exact .inr (.inr ⟨halloc, hledger⟩)

/-- The start of an offload stream. -/
theorem owned_startOffload (h : s.ledger.Owned) (hopen : (s.outs n).isOpen = true)
    (hstandby : (s.outs n).standby = true) (hoffload : (s.outs n).usecase = .offload)
    {w : WriteResult} (hok : s.keepsUnique (.write n w)) {s' : Adev}
    (hw : s.outWrite view n w = some s') : s'.ledger.Owned := by
  obtain rfl | ⟨halloc, hledger⟩ | ⟨halloc, hledger⟩ :=
    ledger_startOffload hoffload hstandby (fun halloc => (hok hstandby halloc).2 hoffload) hw
  · exact h
  · rw [hledger]
    exact owned_started h hstandby (hok hstandby halloc).1 ⟨hopen, rfl, rfl⟩ rfl
      fun h => absurd hoffload h
  · rw [hledger]
    exact Ledger.owned_failed_start h hopen hstandby
      fun m hm hawake => (hok hstandby halloc).1 ⟨m, hm, hawake⟩

/-- The start of a PCM stream, and its first write. -/
theorem owned_startPcm (h : s.ledger.Owned) (hopen : (s.outs n).isOpen = true)
    (hstandby : (s.outs n).standby = true) (hpcm : (s.outs n).usecase ≠ .offload)
    {w : WriteResult} (hok : s.keepsUnique (.write n w)) {s' : Adev}
    (hw : s.outWrite view n w = some s') : s'.ledger.Owned := by
  rw [Adev.outWrite, if_pos hstandby] at hw
  split at hw
  · cases hw
  · obtain ⟨-, hstart⟩ | ⟨halloc, hstart, -, hledger⟩ | ⟨halloc, hstart, hledger⟩ :=
      @ledger_startOutputStream view s n w
    · rw [hstart] at hw
      exact Option.some.inj hw ▸ h
    · generalize s.startOutputStream view n w = r at hw hstart hledger
      obtain ⟨s₁, ok⟩ := r
      obtain rfl : ok = true := hstart
      obtain ⟨hset, hbare⟩ := bare_started hledger
      have husecase : ((s₁.setOut n fun o => { o with standby := false }).outs n).usecase
          = (s.outs n).usecase := (congrArg StreamOut.usecase hbare).trans rfl
      have hopen₁ : ((s₁.setOut n fun o => { o with standby := false }).outs n).isOpen = true :=
        (congrArg StreamOut.isOpen hbare).trans hopen
      simp only [husecase, if_neg hpcm] at hw
      obtain rfl := Option.some.inj hw
      have hidle := ((h.streams n hopen).pcm hpcm).1
      refine owned_forceInStandby (owned_writePcm ?_ hopen₁ w) _
      rw [hset]
      refine owned_started h hstandby (hok hstandby halloc).1 ⟨hopen, rfl, rfl⟩ ?_
        fun _ => ⟨hidle, ?_⟩
      · show (s.ledger.outs n).offloadState.isPaused = false
        rw [hidle]
        rfl
      · exact if_neg hpcm
    · generalize s.startOutputStream view n w = r at hw hstart hledger
      obtain ⟨s₁, ok⟩ := r
      obtain rfl : ok = false := hstart
      obtain rfl := Option.some.inj hw
      rw [hledger]
      exact Ledger.owned_failed_start h hopen hstandby
        fun m hm hawake => (hok hstandby halloc).1 ⟨m, hm, hawake⟩

/-- **WRITING** keeps the invariant, if a stream only leaves standby when no other
    one has its usecase. -/
theorem owned_outWrite (h : s.ledger.Owned) (hopen : (s.outs n).isOpen = true) {w : WriteResult}
    (hok : s.keepsUnique (.write n w)) {s' : Adev} (hw : s.outWrite view n w = some s') :
    s'.ledger.Owned := by
  by_cases hstandby : (s.outs n).standby = true
  · by_cases hoffload : (s.outs n).usecase = .offload
    · exact owned_startOffload h hopen hstandby hoffload hok hw
    · exact owned_startPcm h hopen hstandby hoffload hok hw
  · rw [Adev.outWrite, if_neg hstandby] at hw
    have hawake : (s.outs n).standby = false := by simpa using hstandby
    split at hw
    · rename_i hoffload
      exact Option.some.inj hw ▸ owned_writeOffload h hopen hoffload hawake w
    · exact Option.some.inj hw ▸ owned_writePcm h hopen w

theorem owned_openOutput (h : s.ledger.Owned) (hopen : (s.outs n).isOpen = false)
    (a : OpenOutput) : (s.openOutputStream n a).ledger.Owned := by
  have hclosed : ∀ p, ¬ s.ledger.awake n p := fun p hp => nomatch hopen.symm.trans hp.1.1
  -- the stream that is left is freed, or in standby
  have hreplace : ∀ (s₁ : Adev) (o : StreamOut), s₁.ledger = s.ledger → (o.isOpen = true →
      o.standby = true ∧ Ledger.StreamOk s.ledger.offloadFx o.bare) →
      (s₁.setOut n fun _ => o).ledger.Owned := by
    intro s₁ o hs₁ ho
    rw [ledger_putOut, hs₁]
    refine Ledger.owned_setOut h (fun p hp => ?_) (fun p _ hp => absurd hp.1 (hclosed p))
      fun hopen => (ho hopen).2
    rw [Ledger.awake, Ledger.setOut_outs_self] at hp
    exact nomatch (ho hp.1.1).1.symm.trans hp.1.2
  have hopened := opened_openOutputStream s n a
  generalize s.openOutputStream n a = s' at hopened ⊢
  cases hopened with
  | noMemory => exact h
  | refused => exact hreplace s _ rfl fun hfreed => (nomatch hfreed)
  | active => exact hreplace (s.publish n a) _ rfl fun hfreed => (nomatch hfreed)
  | standby =>
      refine hreplace (s.publish n a) _ rfl fun _ => ⟨rfl, ?_⟩
      exact ⟨fun _ _ => rfl, fun _ => ⟨rfl, rfl⟩, fun h => (nomatch h)⟩

theorem owned_closeOutput (h : s.ledger.Owned) (hopen : (s.outs n).isOpen = true) :
    (s.closeOutputStream n).ledger.Owned := by
  have hstandby : ((s.outStandby n).ledger.outs n).standby = true := by
    rw [ledger_outStandby]
    split
    · rename_i hstandby
      exact hstandby
    · rw [Ledger.outStandby_outs_self]
      rfl
  rw [Adev.closeOutputStream, ledger_setOut]
  · exact Ledger.owned_close (owned_outStandbyOp h hopen) hstandby
  · exact fun _ => rfl

/-- **ROUTING** an output that is out of standby. -/
theorem owned_rerouteOutput (h : s.ledger.Owned) (hopen : (s.outs n).isOpen = true)
    (val : Devices) : (s.rerouteOutput view n val).ledger.Owned := by
  rw [Adev.rerouteOutput]
  simp only
  split
  · rw [ledger_selectDevices]
    exact h
  · rename_i uc _
    split
    · exact owned_doOutStandby h hopen
    · split
      · rw [ledger_selectDevices, ledger_setOffloadParameters]
        exact h
      · rw [ledger_selectDevices]
        exact h

theorem owned_stopVoiceCall (h : s.ledger.Owned) : s.stopVoiceCall.ledger.Owned := by
  rw [ledger_stopVoiceCall]
  exact Ledger.owned_hangUp h

theorem owned_startVoiceCall (h : s.ledger.Owned) (hnew : s.ledger.find .voiceCall = none)
    (n : Nat) (alloc : Bool) : (s.startVoiceCall view n alloc).ledger.Owned := by
  cases alloc with
  | false =>
      rw [Adev.startVoiceCall, if_pos rfl]
      exact h
  | true =>
      rw [ledger_startVoiceCall]
      exact Ledger.owned_startCall h hnew _

theorem owned_restartVoiceCall (h : s.ledger.Owned) (alloc : Bool) :
    (s.restartVoiceCall view alloc).ledger.Owned := by
  rw [Adev.restartVoiceCall]
  split
  · exact owned_stopVoiceCall h
  · refine owned_startVoiceCall (owned_stopVoiceCall h) ?_ _ alloc
    rw [ledger_stopVoiceCall]
    exact Ledger.find_hangUp h

/-- No call is started beside another one: outside a call there is no entry. -/
theorem owned_updateVoiceCall (h : s.ledger.Owned) (n : Nat) (alloc : Bool) :
    (s.updateVoiceCall view n alloc).ledger.Owned := by
  rw [Adev.updateVoiceCall]
  split
  · split
    · exact owned_restartVoiceCall h alloc
    · rename_i hcall
      refine owned_startVoiceCall h (Ledger.find_eq_none fun e he hid => hcall ?_) n alloc
      exact h.call e he hid
  · exact h

theorem owned_outSetParameters (h : s.ledger.Owned) (hopen : (s.outs n).isOpen = true)
    (val : Devices) (alloc : Bool) : (s.outSetParameters view n val alloc).ledger.Owned := by
  rw [Adev.outSetParameters]
  refine owned_forceInStandby ?_ _
  split
  · have hset : (s.setOut n fun o => { o with devices := val }).ledger = s.ledger :=
      ledger_setOut_of_bare s n fun _ => rfl
    have hopen' : ((s.setOut n fun o => { o with devices := val }).outs n).isOpen = true :=
      (congrArg (fun l : Ledger => (l.outs n).isOpen) hset).trans hopen
    refine owned_updateVoiceCall ?_ n alloc
    rw [ledger_updateBtSco]
    split
    · rw [hset]
      exact h
    · refine owned_rerouteOutput ?_ hopen' val
      rw [hset]
      exact h
  · exact h

/-- **PAUSING** takes the entry away. -/
theorem owned_outPause (h : s.ledger.Owned) (hopen : (s.outs n).isOpen = true)
    (hoffload : (s.outs n).usecase = .offload) : (s.outPause n).ledger.Owned := by
  rw [Adev.outPause]
  split
  · rename_i hplaying
    have hstandby : (s.ledger.outs n).standby = false := (h.streams n hopen).handle hplaying.1
    have hset : (s.setOut n fun o => { o with offloadState := .paused }).ledger
        = s.ledger.setOut n fun o => { o with offloadState := .paused } :=
      ledger_setOut s n fun _ => rfl
    rw [ledger_disableOutputPath, hset, setOut_usecase]
    · refine Ledger.owned_drop_setOut h rfl (fun p hp => ?_) fun _ => ?_
      · rw [Ledger.awake, Ledger.setOut_outs_self] at hp
        exact hp
      · refine ⟨fun _ hs => ?_, fun hpcm => absurd hoffload hpcm, (h.streams n hopen).handle⟩
        cases hstandby.symm.trans hs
    · exact fun _ => rfl
  · exact h

/-- **RESUMING** brings it back, and nothing else, if there is memory for it. -/
theorem owned_outResume (h : s.ledger.Owned) (hopen : (s.outs n).isOpen = true)
    (hoffload : (s.outs n).usecase = .offload) (alloc : Bool) :
    (s.outResume view n alloc).ledger.Owned := by
  rw [Adev.outResume]
  split
  · rename_i hpaused
    have hstandby : (s.ledger.outs n).standby = false := (h.streams n hopen).handle hpaused.1
    have hawake : s.ledger.awake n .offload := ⟨⟨hopen, hstandby⟩, hoffload⟩
    have hok : Ledger.StreamOk s.ledger.offloadFx
        { s.ledger.outs n with offloadState := .playing } := by
      refine ⟨fun _ hs => ?_, fun hpcm => absurd hoffload hpcm, (h.streams n hopen).handle⟩
      cases hstandby.symm.trans hs
    have hset : ∀ s₁ : Adev, (s₁.setOut n fun o => { o with offloadState := .playing }).ledger
        = s₁.ledger.setOut n fun o => { o with offloadState := .playing } :=
      fun s₁ => ledger_setOut s₁ n fun _ => rfl
    cases alloc with
    | false =>
        rw [enableOutputPath_of_not_alloc, hset]
        refine Ledger.owned_setOut h (fun p hp => ?_) (fun p _ hp => ?_) fun _ => hok
        · rw [Ledger.awake, Ledger.setOut_outs_self] at hp
          exact hp
        · rw [Ledger.plays, Ledger.awake, Ledger.setOut_outs_self]
          exact ⟨hp.1, fun _ => rfl⟩
    | true =>
        rw [hset, ledger_enableOutputPath, hoffload]
        refine Ledger.owned_add_setOut h hoffload hopen hstandby hoffload (fun _ => rfl) hok
          (not_awake_of_awake h hawake) fun hplays => ?_
        have hstate : (s.ledger.outs n).offloadState = .paused := hpaused.2
        have := hplays.2 rfl
        rw [hstate] at this
        cases this
  · exact h

theorem owned_outFlush (h : s.ledger.Owned) (hopen : (s.outs n).isOpen = true)
    (hoffload : (s.outs n).usecase = .offload) : (s.outFlush n).ledger.Owned := by
  rw [Adev.outFlush]
  split
  · rename_i hpaused
    have hstate : (s.ledger.outs n).offloadState = .paused := hpaused
    rw [ledger_setOut]
    · refine Ledger.owned_setOut h (fun p hp => ?_) (fun p _ hp => ?_) fun _ => ?_
      · rw [Ledger.awake, Ledger.setOut_outs_self] at hp
        exact hp
      · have := hp.2 (hp.1.2.symm.trans hoffload)
        rw [hstate] at this
        cases this
      · refine ⟨fun hfx hs => ?_, fun hpcm => absurd hoffload hpcm, (h.streams n hopen).handle⟩
        have := (h.streams n hopen).hooks hfx hs
        rw [hstate] at this
        cases this
    · exact fun _ => rfl
  · exact h

-- ── Inputs ────────────────────────────────────────────────────────────────

theorem owned_openInput (h : s.ledger.Owned) (hopen : (s.ins n).isOpen = false) (a : OpenInput) :
    (s.openInputStream n a).ledger.Owned := by
  rw [Adev.openInputStream]
  split
  · exact h
  · split
    · rw [ledger_putIn]
      refine Ledger.owned_setIn h (fun hrec => ?_) fun hrec => ?_
      · cases hopen.symm.trans hrec.1
      · rw [Ledger.records, Ledger.setIn_ins_self] at hrec
        cases hrec.2
    · exact h

theorem owned_closeInput (h : s.ledger.Owned) : (s.closeInputStream n).ledger.Owned := by
  have hstandby : ((s.doInStandby n).ledger.ins n).standby = true := by
    rw [ledger_doInStandby]
    split
    · rename_i hstandby
      exact hstandby
    · rw [Ledger.setIn_ins_self]
  rw [Adev.closeInputStream, ledger_setIn]
  · refine Ledger.owned_setIn (owned_doInStandby h n) (fun hrec => ?_) fun hrec => ?_
    · exact nomatch hstandby.symm.trans hrec.2
    · rw [Ledger.records, Ledger.setIn_ins_self] at hrec
      exact nomatch hrec.1
  · exact fun _ => rfl

/-- `start_input_stream` adds the entry of the inputs, and takes it out again
    when the device does not open. -/
theorem ledger_startInputStream (s : Adev) (n : Nat) (w : ReadResult) :
    ((s.startInputStream view n w).2 = false ∧ (s.startInputStream view n w).1.ledger = s.ledger)
      ∨ (w.alloc = true
        ∧ (getPcmDevice (s.ins n).usecaseType (s.ins n).devices).isSome = true
        ∧ ((w.opened = true ∧ (s.startInputStream view n w).2 = w.resampler
            ∧ (s.startInputStream view n w).1.ledger = s.ledger.add .capture (.input n))
          ∨ ((s.startInputStream view n w).2 = false
            ∧ (s.startInputStream view n w).1.ledger
              = (s.ledger.add .capture (.input n)).drop .capture))) := by
  simp only [Adev.startInputStream]
  split
  · exact .inl ⟨rfl, rfl⟩
  · rename_i p hp
    have hsome : (getPcmDevice (s.ins n).usecaseType (s.ins n).devices).isSome = true := by
      rw [hp]
      rfl
    split
    · exact .inl ⟨rfl, rfl⟩
    · rename_i halloc
      have hadd : (((({ s with activeInput := some n } : Adev).setIn n fun i =>
          { i with pcmDevList := [p] }).onRouting fun r =>
            r.addUsecase .capture (.input n) [p.card]).selectDevices view .capture).ledger
          = s.ledger.add .capture (.input n) := by
        rw [ledger_selectDevices, ledger_addUsecase, ledger_setIn_of_bare]
        · rfl
        · exact fun _ => rfl
      refine .inr ⟨by simpa using halloc, hsome, ?_⟩
      split
      · rename_i hopened
        exact .inl ⟨hopened, rfl, hadd⟩
      · refine .inr ⟨rfl, ?_⟩
        refine Eq.trans (ledger_stopInputStream _ n) ?_
        rw [hadd]

/-- The entry of an input is its own, if no other input is out of standby. -/
theorem none_records (hstandby : (s.ins n).standby = true)
    (htaken : ¬∃ m, m ≠ n ∧ s.ledger.records m) : ∀ m, ¬s.ledger.records m := by
  intro m hm
  by_cases hmn : m = n
  · rw [hmn] at hm
    cases hstandby.symm.trans hm.2
  · exact htaken ⟨m, hmn, hm⟩

/-- **READING** keeps the invariant, if an input only leaves standby when no other
    one is out of it. -/
theorem owned_inRead (h : s.ledger.Owned) (hopen : (s.ins n).isOpen = true) {w : ReadResult}
    (hok : s.keepsUnique (.read n w)) {s' : Adev} (hr : s.inRead view n w = some s') :
    s'.ledger.Owned := by
  refine inRead_rule (motive := fun s => s.ledger.Owned) hr (fun _ => h) ?_ ?_
    fun s₁ hs₁ => owned_doInStandby hs₁ n
  · intro hstandby hfailed
    obtain ⟨-, hledger⟩ | ⟨halloc, hprofile, hstart⟩ := @ledger_startInputStream view s n w
    · rw [hledger]
      exact h
    · obtain ⟨htaken, hresampler⟩ := hok hstandby halloc hprofile
      obtain ⟨hopened, hstart, -⟩ | ⟨-, hledger⟩ := hstart
      · cases hfailed.symm.trans (hstart.trans (hresampler hopened))
      · rw [hledger]
        exact Ledger.owned_add_drop_capture h (none_records hstandby htaken)
  · intro hstandby hstarted
    obtain ⟨hstart, -⟩ | ⟨halloc, hprofile, hstart⟩ := @ledger_startInputStream view s n w
    · cases hstarted.symm.trans hstart
    · have htaken := (hok hstandby halloc hprofile).1
      obtain ⟨-, -, hledger⟩ | ⟨hstart, -⟩ := hstart
      · rw [ledger_setIn, hledger]
        · exact Ledger.owned_add_setIn h hopen rfl (none_records hstandby htaken)
        · exact fun _ => rfl
      · cases hstarted.symm.trans hstart

theorem owned_rerouteInput (h : s.ledger.Owned) (n : Nat) (val : Devices) :
    (s.rerouteInput view n val).ledger.Owned := by
  rw [Adev.rerouteInput]
  split
  · split
    · rw [ledger_selectDevices]
      exact h
    · exact owned_doInStandby h n
  · rw [ledger_selectDevices]
    exact h

theorem owned_inSetParameters (h : s.ledger.Owned) (n : Nat) (source : Option Source)
    (routing : Option Devices) : (s.inSetParameters view n source routing).ledger.Owned := by
  have hset : ∀ (s₁ : Adev) (f : StreamIn → StreamIn), (∀ i, (f i).bare = i.bare) →
      s₁.ledger.Owned → (s₁.setIn n f).ledger.Owned := by
    intro s₁ f hf hs₁
    rw [ledger_setIn_of_bare s₁ n hf]
    exact hs₁
  refine inSetParameters_rule (motive := fun s => s.ledger.Owned) n source routing h ?_ ?_ ?_
  · intro source'
    exact hset s _ (fun _ => rfl) h
  · intro s₁ val hs₁
    exact hset s₁ _ (fun _ => rfl) hs₁
  · intro s₁ val hs₁
    exact owned_rerouteInput hs₁ n val

theorem owned_addRemoveAudioEffect (h : s.ledger.Owned) (n : Nat) (auxChanged : Bool)
    (aec : Option Bool) : (s.addRemoveAudioEffect view n auxChanged aec).ledger.Owned := by
  have haux : (if auxChanged then s.doInStandby n else s).ledger.Owned := by
    split
    · exact owned_doInStandby h n
    · exact h
  simp only [Adev.addRemoveAudioEffect]
  generalize (if auxChanged then s.doInStandby n else s) = s₁ at haux ⊢
  split
  · exact haux
  · have hset : (s₁.setIn n fun i => { i with enableAec := ‹Bool› }).ledger = s₁.ledger :=
      ledger_setIn_of_bare s₁ n fun _ => rfl
    split
    · rw [hset]
      exact haux
    · refine owned_doInStandby ?_ n
      rw [ledger_selectDevices, hset]
      exact haux

theorem owned_setMode (h : s.ledger.Owned) (mode : Mode) : (s.setMode mode).ledger.Owned := by
  rw [Adev.setMode]
  split
  · simp only
    split
    · exact owned_stopVoiceCall (s := { s with mode := mode }) h
    · exact h
  · exact h

theorem owned_wbAmr (h : s.ledger.Owned) (type : Int) (alloc : Bool) :
    (s.wbAmr view type alloc).ledger.Owned := by
  rw [Adev.wbAmr]
  split
  · simp only
    split
    · exact owned_restartVoiceCall
        (s := { s with session := { s.session with wbAmrType := type } }) h alloc
    · exact h
  · exact h

-- ── Every operation ───────────────────────────────────────────────────────

/-- **STEP**: an operation that meets the condition keeps the invariant. -/
theorem owned_step (s : Adev) (a : Act) (s' : Adev) (h : s.ledger.Owned) (hok : s.keepsUnique a)
    (hstep : step view s a = some s') : s'.ledger.Owned := by
  cases a with
  | openOutput n a =>
      rw [step] at hstep
      split at hstep
      · cases hstep
      · rename_i hopen
        exact Option.some.inj hstep ▸ owned_openOutput h (by simpa using hopen) a
  | closeOutput n =>
      rw [step] at hstep
      obtain ⟨⟨hopen, -⟩, hs⟩ := onOut_eq_some hstep
      exact Option.some.inj hs ▸ owned_closeOutput h hopen
  | write n w =>
      rw [step] at hstep
      obtain ⟨⟨hopen, -⟩, hs⟩ := onOut_eq_some hstep
      exact owned_outWrite h hopen hok hs
  | outStandby n =>
      rw [step] at hstep
      obtain ⟨⟨hopen, -⟩, hs⟩ := onOut_eq_some hstep
      exact Option.some.inj hs ▸ owned_outStandbyOp h hopen
  | outSetParameters n val alloc =>
      rw [step] at hstep
      obtain ⟨⟨hopen, -⟩, hs⟩ := onOut_eq_some hstep
      split at hs
      · cases hs
      · exact Option.some.inj hs ▸ owned_outSetParameters h hopen val alloc
  | pause n =>
      rw [step] at hstep
      obtain ⟨⟨hopen, -⟩, ⟨hoffload, rfl⟩ | ⟨-, rfl⟩⟩ := onOffload_eq_some hstep
      · exact owned_outPause h hopen hoffload
      · exact h
  | resume n alloc =>
      rw [step] at hstep
      obtain ⟨⟨hopen, -⟩, ⟨hoffload, rfl⟩ | ⟨-, rfl⟩⟩ := onOffload_eq_some hstep
      · exact owned_outResume h hopen hoffload alloc
      · exact h
  | flush n =>
      rw [step] at hstep
      obtain ⟨⟨hopen, -⟩, ⟨hoffload, rfl⟩ | ⟨-, rfl⟩⟩ := onOffload_eq_some hstep
      · exact owned_outFlush h hopen hoffload
      · exact h
  | drain n =>
      rw [step] at hstep
      obtain ⟨-, ⟨-, rfl⟩ | ⟨-, rfl⟩⟩ := onOffload_eq_some hstep
      · exact h
      · exact h
  | openInput n a =>
      rw [step] at hstep
      split at hstep
      · cases hstep
      · rename_i hopen
        exact Option.some.inj hstep ▸ owned_openInput h (by simpa using hopen) a
  | closeInput n =>
      rw [step] at hstep
      obtain ⟨-, rfl⟩ := onIn_eq_some hstep
      exact owned_closeInput h
  | read n w =>
      rw [step] at hstep
      split at hstep
      · rename_i hopen
        exact owned_inRead h hopen hok hstep
      · cases hstep
  | inStandby n =>
      rw [step] at hstep
      obtain ⟨-, rfl⟩ := onIn_eq_some hstep
      exact owned_doInStandby h n
  | inSetParameters n source routing =>
      rw [step] at hstep
      obtain ⟨-, rfl⟩ := onIn_eq_some hstep
      exact owned_inSetParameters h n source routing
  | effect n auxChanged aec =>
      rw [step] at hstep
      obtain ⟨-, rfl⟩ := onIn_eq_some hstep
      exact owned_addRemoveAudioEffect h n auxChanged aec
  | setMode mode => exact Option.some.inj hstep ▸ owned_setMode h mode
  | wbAmr type alloc => exact Option.some.inj hstep ▸ owned_wbAmr h type alloc
  | bluetoothWb on => exact Option.some.inj hstep ▸ h

end Steps

-- ── What the streams find and stop ────────────────────────────────────────

/-- **USECASES ARE OWNED**: no id is there twice, a stream out of standby finds
    its own usecase, and standby and pause of a stream, which is also what
    closing it and a failed write do, leave every usecase in place that is not
    the stream's own. -/
structure UsecasesOwned (s : Adev) : Prop where
  unique : (s.routing.usecases.map Usecase.id).Nodup
  output : ∀ n, (s.outs n).isOpen = true → (s.outs n).standby = false → ∀ uc,
    s.routing.getUsecaseFromId (.playback (s.outs n).usecase) = some uc → uc.stream = .output n
  input : ∀ n, (s.ins n).isOpen = true → (s.ins n).standby = false → ∀ uc,
    s.routing.getUsecaseFromId .capture = some uc → uc.stream = .input n
  outStandby : ∀ n, (s.outs n).isOpen = true → ∀ uc ∈ s.routing.usecases,
    uc ∈ (s.outStandby n).routing.usecases
      ∨ uc.stream = .output n ∧ uc.id = .playback (s.outs n).usecase
  outPause : ∀ n, (s.outs n).isOpen = true → ∀ uc ∈ s.routing.usecases,
    uc ∈ (s.outPause n).routing.usecases
      ∨ uc.stream = .output n ∧ uc.id = .playback (s.outs n).usecase
  inStandby : ∀ n, (s.ins n).isOpen = true → ∀ uc ∈ s.routing.usecases,
    uc ∈ (s.doInStandby n).routing.usecases ∨ uc.stream = .input n ∧ uc.id = .capture

section Owners

variable {s : Adev} {n : Nat} {uc : Usecase}

/-- An entry of the ledger is a usecase without its devices. -/
theorem entry_of_find {id : UsecaseId} (h : s.routing.getUsecaseFromId id = some uc) :
    uc.identity ∈ s.ledger.entries ∧ uc.id = id :=
  ⟨List.mem_map_of_mem (getUsecaseFromId_eq_some h).1, (getUsecaseFromId_eq_some h).2⟩

theorem usecase_ids (s : Adev) :
    s.ledger.entries.map Identity.id = s.routing.usecases.map Usecase.id := by
  rw [Adev.ledger, List.map_map]
  rfl

theorem usecase_ptrs (s : Adev) :
    s.ledger.entries.map Identity.ptr = s.routing.usecases.map Usecase.ptr := by
  rw [Adev.ledger, List.map_map]
  rfl

/-- A stream out of standby finds its own usecase. -/
theorem own_output (h : s.ledger.Owned) {p : Playback} (hawake : s.ledger.awake n p)
    (huc : s.routing.getUsecaseFromId (.playback p) = some uc) : uc.stream = .output n := by
  obtain ⟨hmem, hid⟩ := entry_of_find huc
  obtain ⟨m, hstream, hm⟩ := h.output uc.identity hmem p hid
  rw [h.oneOutput n m p hawake hm.1]
  exact hstream

theorem own_input (h : s.ledger.Owned) (hrec : s.ledger.records n)
    (huc : s.routing.getUsecaseFromId .capture = some uc) : uc.stream = .input n := by
  obtain ⟨hmem, hid⟩ := entry_of_find huc
  obtain ⟨m, hstream, hm⟩ := h.input uc.identity hmem hid
  rw [h.oneInput n m hrec hm]
  exact hstream

/-- Removing the usecase that was found leaves the others. -/
theorem stays_or_found {r : Routing} {found : Usecase}
    (hptrs : (r.usecases.map Usecase.ptr).Nodup) (hfound : found ∈ r.usecases)
    (huc : uc ∈ r.usecases) : uc ∈ (r.removeUsecase found.ptr).usecases ∨ uc = found := by
  by_cases hptr : uc.ptr = found.ptr
  · exact .inr (List.inj_on_of_nodup_map hptrs huc hfound hptr)
  · refine .inl (List.mem_filter.mpr ⟨huc, ?_⟩)
    simpa using hptr

/-- `disable_output_path_l` stops at most the usecase of the stream. -/
theorem mem_disableOutputPath (hptrs : (s.routing.usecases.map Usecase.ptr).Nodup)
    (hown : ∀ found, s.routing.getUsecaseFromId (.playback (s.outs n).usecase) = some found →
      found.stream = .output n) (huc : uc ∈ s.routing.usecases) :
    uc ∈ (s.disableOutputPath n).routing.usecases
      ∨ uc.stream = .output n ∧ uc.id = .playback (s.outs n).usecase := by
  rw [Adev.disableOutputPath]
  split
  · exact .inl huc
  · rename_i found hfound
    obtain ⟨hmem, hid⟩ := getUsecaseFromId_eq_some hfound
    have husecases := disableSndDevice_usecases s.routing found found.outSndDevice
    rw [← husecases] at hptrs hmem huc
    obtain huc | rfl := stays_or_found hptrs hmem huc
    · exact .inl huc
    · exact .inr ⟨hown uc hfound, hid⟩

theorem mem_outStandby (h : s.ledger.Owned) (hopen : (s.outs n).isOpen = true)
    (huc : uc ∈ s.routing.usecases) :
    uc ∈ (s.outStandby n).routing.usecases
      ∨ uc.stream = .output n ∧ uc.id = .playback (s.outs n).usecase := by
  have hptrs : (s.routing.usecases.map Usecase.ptr).Nodup := usecase_ptrs s ▸ h.ptrs
  rw [Adev.outStandby]
  split
  · exact .inl huc
  · rename_i hstandby
    have hawake : s.ledger.awake n (s.outs n).usecase :=
      ⟨⟨hopen, Bool.eq_false_iff.mpr hstandby⟩, rfl⟩
    have hown := fun found => @own_output s n found h _ hawake
    -- the stream keeps its usecase until the path is disabled
    have hdisable : ∀ s₁ : Adev, s₁.routing = s.routing →
        (s₁.outs n).usecase = (s.outs n).usecase →
        uc ∈ (s₁.disableOutputPath n).routing.usecases
          ∨ uc.stream = .output n ∧ uc.id = .playback (s.outs n).usecase := by
      intro s₁ hrouting husecase
      rw [← husecase]
      refine mem_disableOutputPath ?_ ?_ ?_
      · rw [hrouting]
        exact hptrs
      · rw [hrouting, husecase]
        exact hown
      · rw [hrouting]
        exact huc
    have hstop : ∀ s₁ : Adev, s₁.routing = s.routing →
        (s₁.outs n).usecase = (s.outs n).usecase →
        uc ∈ (s₁.stopOutputStream n).routing.usecases
          ∨ uc.stream = .output n ∧ uc.id = .playback (s.outs n).usecase := by
      intro s₁ hrouting husecase
      rw [Adev.stopOutputStream]
      split
      · simp only
        split
        · left
          rw [setOut_routing, hrouting]
          exact huc
        · refine hdisable _ hrouting (Eq.trans ?_ husecase)
          exact setOut_usecase s₁ n fun _ => rfl
      · exact hdisable s₁ hrouting husecase
    have hset : ((s.setOut n fun o => { o with standby := true }).outs n).usecase
        = (s.outs n).usecase := setOut_usecase s n fun _ => rfl
    rw [Adev.doOutStandby]
    split
    · refine hstop _ rfl (Eq.trans ?_ hset)
      exact setOut_usecase _ n fun _ => rfl
    · exact hstop _ rfl hset

theorem mem_outPause (h : s.ledger.Owned) (hopen : (s.outs n).isOpen = true)
    (huc : uc ∈ s.routing.usecases) :
    uc ∈ (s.outPause n).routing.usecases
      ∨ uc.stream = .output n ∧ uc.id = .playback (s.outs n).usecase := by
  rw [Adev.outPause]
  split
  · rename_i hplaying
    have hawake : s.ledger.awake n (s.outs n).usecase :=
      ⟨⟨hopen, (h.streams n hopen).handle hplaying.1⟩, rfl⟩
    have husecase : ((s.setOut n fun o => { o with offloadState := .paused }).outs n).usecase
        = (s.outs n).usecase := setOut_usecase s n fun _ => rfl
    rw [← husecase]
    refine mem_disableOutputPath (usecase_ptrs s ▸ h.ptrs) (fun found hfound => ?_) huc
    rw [husecase] at hfound
    exact own_output h hawake hfound
  · exact .inl huc

theorem mem_doInStandby (h : s.ledger.Owned) (hopen : (s.ins n).isOpen = true)
    (huc : uc ∈ s.routing.usecases) :
    uc ∈ (s.doInStandby n).routing.usecases ∨ uc.stream = .input n ∧ uc.id = .capture := by
  have hptrs : (s.routing.usecases.map Usecase.ptr).Nodup := usecase_ptrs s ▸ h.ptrs
  rw [Adev.doInStandby]
  split
  · exact .inl huc
  · rename_i hstandby
    rw [setIn_routing, Adev.stopInputStream]
    simp only
    split
    · exact .inl huc
    · rename_i found hfound
      obtain ⟨hmem, hid⟩ := getUsecaseFromId_eq_some hfound
      have husecases := disableSndDevice_usecases s.routing found found.inSndDevice
      rw [← husecases] at hptrs hmem huc
      obtain huc | rfl := stays_or_found hptrs hmem huc
      · exact .inl huc
      · exact .inr ⟨own_input h ⟨hopen, Bool.eq_false_iff.mpr hstandby⟩ hfound, hid⟩

theorem usecasesOwned_of_owned (h : s.ledger.Owned) : UsecasesOwned s where
  unique := usecase_ids s ▸ h.ids
  output := fun _ hopen hstandby _ huc => own_output h ⟨⟨hopen, hstandby⟩, rfl⟩ huc
  input := fun _ hopen hstandby _ huc => own_input h ⟨hopen, hstandby⟩ huc
  outStandby := fun _ hopen _ huc => mem_outStandby h hopen huc
  outPause := fun _ hopen _ huc => mem_outPause h hopen huc
  inStandby := fun _ hopen _ huc => mem_doInStandby h hopen huc

end Owners

-- ── Every run ─────────────────────────────────────────────────────────────

theorem owned_start (fx : Bool) (session : VoiceSession) : (start fx session).ledger.Owned where
  ptrs := List.nodup_nil
  ids := List.nodup_nil
  fresh := fun _ h => absurd h List.not_mem_nil
  output := fun _ h => absurd h List.not_mem_nil
  input := fun _ h => absurd h List.not_mem_nil
  call := fun _ h => absurd h List.not_mem_nil
  oneOutput := fun _ _ _ h => nomatch h.1.1
  oneInput := fun _ _ h => nomatch h.1
  streams := fun _ h => nomatch h

/-- **USECASES ARE OWNED** in every state of a run in which streams only leave
    standby while no other stream has their usecase. -/
theorem usecases_owned (view : StreamOut → InputView) (fx : Bool) (session : VoiceSession)
    (acts : List Act) (hok : StepsMeet (step view) Adev.keepsUnique (start fx session) acts) :
    Always (step view) UsecasesOwned (start fx session) acts :=
  always_of_stepsMeet (fun _ h => usecasesOwned_of_owned h) owned_step acts (owned_start fx session)
    hok

/-- Opening a stream does nothing to the other ones. -/
theorem openOutputStream_outs_of_ne {s : Adev} {n m : Nat} {a : OpenOutput} (h : m ≠ n) :
    (s.openOutputStream n a).outs m = s.outs m := by
  have hopened := opened_openOutputStream s n a
  generalize s.openOutputStream n a = s' at hopened ⊢
  cases hopened with
  | noMemory => rfl
  | refused | active | standby => exact Function.update_of_ne h _ _

/-- A stream that was opened is in standby, and its usecase is not active. -/
theorem openOutputStream_opened {s : Adev} {n : Nat} {a : OpenOutput}
    (hclosed : (s.outs n).isOpen = false)
    (hopened : ((s.openOutputStream n a).outs n).isOpen = true) :
    (s.openOutputStream n a).outs n = { a.stream with standby := true }
      ∧ s.routing.getUsecaseFromId (.playback a.usecase) = none := by
  have hcases := opened_openOutputStream s n a
  generalize s.openOutputStream n a = s' at hcases hopened ⊢
  cases hcases with
  | noMemory => exact nomatch hclosed.symm.trans hopened
  | refused | active => simp [Adev.setOut] at hopened
  | standby halloc hpublishes hidle => exact ⟨Function.update_self .., hidle⟩

/-- Music by offload: played, paused, resumed and stopped. -/
def offloadPlayback : List Act := [
  .openOutput 0 offloadOutput, .write 0 writeOk, .pause 0, .resume 0 true, .outStandby 0]

theorem usecases_owned_offloadPlayback :
    StepsMeet (step plainView) Adev.keepsUnique (start false plainSession) offloadPlayback
      ∧ Always (step plainView) UsecasesOwned (start false plainSession) offloadPlayback := by
  have hok : StepsMeet (step plainView) Adev.keepsUnique (start false plainSession)
      offloadPlayback := by
    refine stepsMeet_cons.mpr fun s₁ hopen => ⟨trivial, ?_⟩
    obtain rfl := Option.some.inj hopen
    refine stepsMeet_cons.mpr fun s₂ _ => ⟨fun _ _ => ⟨?_, fun _ hflushed => ?_⟩, ?_⟩
    · -- no other output was ever opened
      rintro ⟨m, hm, ⟨hopen, -⟩, -⟩
      rw [openOutputStream_outs_of_ne hm] at hopen
      exact nomatch hopen
    · have hidle : (((start false plainSession).openOutputStream 0 offloadOutput).outs
          0).offloadState = .idle := by
        decide +kernel
      rw [hidle] at hflushed
      exact nomatch hflushed
    · refine stepsMeet_of_forall ?_ s₂
      intro a ha s
      simp only [List.mem_cons, List.not_mem_nil, or_false] at ha
      obtain rfl | rfl | rfl := ha <;> exact trivial
  exact ⟨hok, usecases_owned plainView false plainSession offloadPlayback hok⟩

-- ── A run with one usecase twice ──────────────────────────────────────────

def deepBufferOutput : OpenOutput where
  offload := false
  deepBuffer := true
  primary := false
  devices := Devices.outSpeaker
  infoOk := true
  alloc := true
  codecAlloc := true

/-- Two streams that are opened before one of them is written to. -/
def twoDeepBuffers : List Act := [
  .openOutput 0 deepBufferOutput, .openOutput 1 deepBufferOutput, .write 0 writeOk,
  .write 1 writeOk]

theorem usecase_twice :
    ¬ ∀ (view : StreamOut → InputView) (fx : Bool) (session : VoiceSession) (acts : List Act),
      Always (step view) UsecasesOwned (start fx session) acts := by
  intro hclaim
  have hend : (run (step plainView) (start false plainSession) twoDeepBuffers).map
      (fun s => s.routing.usecases.map Usecase.id)
      = some [.playback .deepBuffer, .playback .deepBuffer] := by
    decide +kernel
  obtain ⟨s, hrun, hids⟩ := Option.map_eq_some_iff.mp hend
  have hunique := (hclaim plainView false plainSession twoDeepBuffers twoDeepBuffers [] s
    (List.append_nil _).symm hrun).unique
  rw [hids] at hunique
  exact absurd hunique (by decide)

end AudioHal

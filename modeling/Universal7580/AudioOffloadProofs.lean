import Universal7580.AudioUsecaseProofs

/-! # The offload stream

    The state of a compress-offload stream, its usecase and its compress handle
    are changed by seven calls.  They agree after a call exactly if the call is
    none of three: a write to a paused stream, which starts the device and goes
    to PLAYING without a usecase; a resume without memory for the usecase; and a
    standby without the effect hooks, because only
    `stop_output_offload_stream` with the hooks resets the state.

    `offload_states` says so for every sequence of calls on the stream. -/

namespace AudioHal

open AudioRouting Run

-- ── Distinct addresses ────────────────────────────────────────────────────

/-- No address is in the list twice, and none was not given out yet. -/
def Distinct (entries : List Identity) (nextPtr : Nat) : Prop :=
  (entries.map Identity.ptr).Nodup ∧ ∀ e ∈ entries, e.ptr < nextPtr

section Distinct

variable {entries : List Identity} {nextPtr : Nat}

theorem distinct_add (h : Distinct entries nextPtr) (id : UsecaseId) (stream : Stream) :
    Distinct (entries ++ [{ ptr := nextPtr, id := id, stream := stream }]) (nextPtr + 1) := by
  obtain ⟨hptrs, hfresh⟩ := h
  refine ⟨?_, ?_⟩
  · rw [List.map_append, List.map_singleton]
    refine List.nodup_append'.mpr ⟨hptrs, List.nodup_singleton _, ?_⟩
    rw [List.disjoint_singleton]
    intro hmem
    obtain ⟨e, he, hptr⟩ := List.mem_map.mp hmem
    exact Nat.lt_irrefl _ (hptr ▸ hfresh e he)
  · intro e he
    obtain he | he := List.mem_append.mp he
    · exact Nat.lt_succ_of_lt (hfresh e he)
    · rw [List.mem_singleton.mp he]
      exact Nat.lt_succ_self _

theorem distinct_sublist {entries' : List Identity} (h : Distinct entries nextPtr)
    (hsub : entries'.Sublist entries) : Distinct entries' nextPtr :=
  ⟨h.1.sublist (hsub.map _), fun e he => h.2 e (hsub.subset he)⟩

/-- The addresses of a routing are distinct. -/
def DistinctPtrs (r : Routing) : Prop := Distinct (r.usecases.map Usecase.identity) r.nextPtr

theorem distinctPtrs_of_skeleton {r r' : Routing} (h : DistinctPtrs r)
    (hskeleton : r'.skeleton = r.skeleton) : DistinctPtrs r' := by
  have hentries : r'.usecases.map Usecase.identity = r.usecases.map Usecase.identity :=
    congrArg Prod.fst hskeleton
  have hnext : r'.nextPtr = r.nextPtr := congrArg (fun k => k.2.2.1) hskeleton
  rw [DistinctPtrs, hentries, hnext]
  exact h

theorem distinctPtrs_add {r : Routing} (h : DistinctPtrs r) (id : UsecaseId) (stream : Stream)
    (mixers : List Nat) : DistinctPtrs (r.addUsecase id stream mixers) := by
  have hadd := distinct_add h id stream
  rw [DistinctPtrs, Routing.addUsecase, List.map_append]
  exact hadd

theorem distinctPtrs_remove {r : Routing} (h : DistinctPtrs r) (p : Nat) :
    DistinctPtrs (r.removeUsecase p) :=
  distinct_sublist h (List.filter_sublist.map _)

theorem distinctPtrs_kept (view : StreamOut → InputView) : Kept view DistinctPtrs where
  select := fun s id h => distinctPtrs_of_skeleton h (selectDevices_skeleton s id)
  addOutput := fun _ _ _ _ h => distinctPtrs_add h _ _ _
  addInput := fun _ _ _ h => distinctPtrs_add h _ _ _
  startCall := fun r _ h => @distinctPtrs_add { r with inCall := true } h _ _ _
  stopOutput := fun r _ uc h _ =>
    distinctPtrs_remove (distinctPtrs_of_skeleton h
      (skeleton_of_frame (disableSndDevice_frame r uc _))) _
  stopInput := fun r uc h _ =>
    distinctPtrs_remove (distinctPtrs_of_skeleton h
      (skeleton_of_frame (disableSndDevice_frame r uc _))) _
  stopCall := by
    intro r uc h _
    have hcall : DistinctPtrs { r with inCall := false } := h
    refine distinctPtrs_remove (distinctPtrs_of_skeleton hcall (skeleton_of_frame ?_)) _
    rw [disableSndDevice_frame, disableSndDevice_frame]
  hangUp := fun _ h _ => h

end Distinct

section Reroute

variable {view : StreamOut → InputView} {s : Adev}

theorem distinctPtrs_offload (r : Routing) (uc : Usecase) (h : DistinctPtrs r) :
    DistinctPtrs (r.setOffloadParameters uc) :=
  distinctPtrs_of_skeleton h (setOffloadParameters_skeleton r uc)

theorem distinctPtrs_reroute (h : DistinctPtrs s.routing) (n : Nat) (val : Devices) :
    DistinctPtrs (s.rerouteOutput view n val).routing :=
  kept_rerouteOutput (distinctPtrs_kept view) (fun r _ uc h _ => distinctPtrs_offload r uc h) h n val

theorem distinctPtrs_step (s : Adev) (a : Act) (s' : Adev) (h : DistinctPtrs s.routing)
    (hstep : step view s a = some s') : DistinctPtrs s'.routing :=
  kept_step_offload (distinctPtrs_kept view) (fun r _ uc h _ => distinctPtrs_offload r uc h)
    s a s' h hstep

theorem distinctPtrs_run {fx : Bool} {session : VoiceSession} {acts : List Act}
    (hrun : run (step view) (start fx session) acts = some s) : DistinctPtrs s.routing :=
  run_invariant distinctPtrs_step acts
    (show DistinctPtrs initial from ⟨List.nodup_nil, fun _ h => absurd h List.not_mem_nil⟩) hrun

end Reroute

-- ── Counting the entries of an id ─────────────────────────────────────────

namespace Ledger

/-- How many entries have an id. -/
def count (l : Ledger) (id : UsecaseId) : Nat := l.entries.countP fun e => e.id = id

section Count

variable {l : Ledger} {id id' : UsecaseId}

theorem count_add (l : Ledger) (id : UsecaseId) (stream : Stream) :
    (l.add id stream).count id = l.count id + 1 := by
  simp [count, add]

theorem count_add_of_ne (h : id' ≠ id) (stream : Stream) :
    (l.add id' stream).count id = l.count id := by
  simp [count, add, h]

theorem count_of_find_none (h : l.find id = none) : l.count id = 0 :=
  List.countP_eq_zero.mpr fun e he => by simpa using id_ne_of_find h he

/-- Removing by address removes one entry. -/
theorem drop_eq_erase (h : Distinct l.entries l.nextPtr) {e : Identity} (hfind : l.find id = some e) :
    (l.drop id).entries = l.entries.erase e := by
  obtain ⟨hmem, -⟩ := find_eq_some hfind
  rw [List.Nodup.erase_eq_filter (List.Nodup.of_map _ h.1), drop, hfind]
  refine List.filter_congr fun e' he' => ?_
  have hptr : e'.ptr = e.ptr ↔ e' = e :=
    ⟨fun hp => List.inj_on_of_nodup_map h.1 he' hmem hp, fun he => congrArg Identity.ptr he⟩
  by_cases he : e' = e <;> simp [hptr, he]

theorem count_drop (h : Distinct l.entries l.nextPtr) (id id' : UsecaseId) :
    (l.drop id').count id = if id' = id then l.count id - 1 else l.count id := by
  cases hfind : l.find id' with
  | none =>
      have hdrop : l.drop id' = l := by
        rw [drop, hfind]
      rw [hdrop]
      split
      · rename_i hid
        rw [← hid, count_of_find_none hfind]
      · rfl
  | some e =>
      obtain ⟨hmem, hid⟩ := find_eq_some hfind
      have hcount := (List.perm_cons_erase hmem).countP_eq fun e => decide (e.id = id)
      rw [List.countP_cons, hid] at hcount
      rw [count, drop_eq_erase h hfind, count, hcount]
      by_cases heq : id' = id <;> simp [heq]

end Count

end Ledger

-- ── The calls on the stream ───────────────────────────────────────────────

/-- The calls on an offload stream. -/
inductive OffloadOp where
  | write (w : WriteResult)
  | pause
  | resume (alloc : Bool)
  | flush
  | drain
  | routing (val : Devices) (alloc : Bool)
  | standby
  deriving DecidableEq, Repr

def OffloadOp.act (n : Nat) : OffloadOp → Act
  | .write w => .write n w
  | .pause => .pause n
  | .resume alloc => .resume n alloc
  | .flush => .flush n
  | .drain => .drain n
  | .routing val alloc => .outSetParameters n val alloc
  | .standby => .outStandby n

def offloadStep (view : StreamOut → InputView) (n : Nat) (s : Adev) (op : OffloadOp) :
    Option Adev :=
  step view s (op.act n)

/-- The active offload usecases. -/
def Adev.offloadUsecases (s : Adev) : Nat :=
  s.routing.usecases.countP fun uc => uc.id = .playback .offload

/-- What the state of an offload stream says about its usecase and its compress
    handle. -/
structure OffloadOk (n : Nat) (s : Adev) : Prop where
  standby : (s.outs n).standby = true →
    (s.outs n).offloadState = .idle ∧ s.offloadUsecases = 0
  playing : (s.outs n).offloadState = .playing →
    s.offloadUsecases = 1 ∧ (s.outs n).compr = some true
  paused : (s.outs n).offloadState.isPaused = true → s.offloadUsecases = 0

/-- Does routing the stream put it in standby? -/
def Adev.routedToStandby (s : Adev) (n : Nat) (val : Devices) : Bool :=
  val != 0 && !(s.outs n).standby
    && (s.routing.getUsecaseFromId (.playback (s.outs n).usecase)).isSome
    && needsStandby (s.outs n).pcmDevList val

/-- No write to a paused stream, no resume of one without memory, and no standby
    of a stream out of standby without the effect hooks. -/
def Adev.keepsOffload (n : Nat) (s : Adev) : OffloadOp → Prop
  | .write _ => (s.outs n).offloadState ≠ .paused
  | .resume alloc => (s.outs n).offloadState = .paused → alloc = true
  | .routing val _ => s.routedToStandby n val = true → s.offloadFx = true
  | .standby => (s.outs n).standby = false → s.offloadFx = true
  | _ => True

/-- The three things an offload stream can be doing, with the number of active
    offload usecases. -/
inductive Phase (o : StreamOut) (count : Nat) : Prop where
  | stopped (usecase : o.usecase = .offload) (standby : o.standby = true)
      (state : o.offloadState = .idle) (compr : o.compr = none) (none : count = 0)
  | playing (usecase : o.usecase = .offload) (standby : o.standby = false)
      (state : o.offloadState = .playing) (compr : o.compr = some true) (one : count = 1)
  | paused (usecase : o.usecase = .offload) (standby : o.standby = false)
      (state : o.offloadState.isPaused = true) (compr : o.compr = some true) (none : count = 0)

/-- The phase of a stream of the ledger. -/
def Ledger.phase (l : Ledger) (n : Nat) : Prop := Phase (l.outs n) (l.count (.playback .offload))

structure OffloadInv (n : Nat) (s : Adev) : Prop where
  distinct : DistinctPtrs s.routing
  phase : s.ledger.phase n

section Phases

variable {view : StreamOut → InputView} {n : Nat} {s : Adev}

theorem offloadUsecases_eq (s : Adev) : s.offloadUsecases = s.ledger.count (.playback .offload) := by
  rw [Adev.offloadUsecases, Ledger.count, Adev.ledger, List.countP_map]
  rfl

theorem usecase_of_phase {o : StreamOut} {count : Nat} (h : Phase o count) :
    o.usecase = .offload := by
  cases h with
  | stopped usecase _ _ _ _ => exact usecase
  | playing usecase _ _ _ _ => exact usecase
  | paused usecase _ _ _ _ => exact usecase

theorem usecase_of_inv (h : OffloadInv n s) : (s.outs n).usecase = .offload := by
  have hu := usecase_of_phase h.phase
  exact hu

theorem offloadOk_of_inv (h : OffloadInv n s) : OffloadOk n s := by
  cases h.phase with
  | stopped usecase standby state compr none =>
      have state : (s.outs n).offloadState = .idle := state
      refine ⟨fun _ => ⟨state, ?_⟩, fun hplaying => ?_, fun _ => ?_⟩
      · rw [offloadUsecases_eq, none]
      · exact nomatch state.symm.trans hplaying
      · rw [offloadUsecases_eq, none]
  | playing usecase standby state compr one =>
      have state : (s.outs n).offloadState = .playing := state
      refine ⟨fun hstandby => ?_, fun _ => ⟨?_, compr⟩, fun hpaused => ?_⟩
      · exact nomatch standby.symm.trans hstandby
      · rw [offloadUsecases_eq, one]
      · rw [state] at hpaused
        exact nomatch hpaused
  | paused usecase standby state compr none =>
      have state : (s.outs n).offloadState.isPaused = true := state
      refine ⟨fun hstandby => ?_, fun hplaying => ?_, fun _ => ?_⟩
      · exact nomatch standby.symm.trans hstandby
      · rw [hplaying] at state
        exact nomatch state
      · rw [offloadUsecases_eq, none]

/-- The entries of a start that is taken back. -/
theorem count_stopOutput {l : Ledger} {f : StreamOut → StreamOut}
    (hdistinct : Distinct l.entries l.nextPtr) (husecase : (l.outs n).usecase = .offload)
    (hf : (f (l.outs n)).usecase = (l.outs n).usecase)
    (hstate : (f (l.outs n)).offloadState = (l.outs n).offloadState)
    (hrunning : (l.outs n).offloadState.isPaused = false) :
    ((l.setOut n f).stopOutput n).count (.playback .offload) = l.count (.playback .offload) - 1 := by
  rw [Ledger.stopOutput_setOut l n f hf hstate, hrunning, husecase]
  simp only [Bool.false_eq_true, and_false, if_false]
  have hdrop := (Ledger.count_drop hdistinct (.playback .offload) (.playback .offload)).trans
    (if_pos rfl)
  split
  · rw [← Ledger.setOut_drop]
    exact hdrop
  · rw [← Ledger.setOut_drop]
    exact hdrop

/-- **WRITING** to a stream in standby starts it or leaves it in standby. -/
theorem phase_write_stopped (hd : DistinctPtrs s.routing)
    (usecase : (s.ledger.outs n).usecase = .offload) (standby : (s.ledger.outs n).standby = true)
    (state : (s.ledger.outs n).offloadState = .idle) (compr : (s.ledger.outs n).compr = none)
    (none : s.ledger.count (.playback .offload) = 0) {w : WriteResult} {s' : Adev}
    (hw : s.outWrite view n w = some s') : s'.ledger.phase n := by
  have hu : (s.outs n).usecase = .offload := usecase
  have hidle : (s.outs n).offloadState = .idle := state
  have hflushed : w.alloc = true → (s.outs n).offloadState = .pausedFlushed → w.opened = false :=
    fun _ h => nomatch hidle.symm.trans h
  have hadd : (s.ledger.add (.playback (s.outs n).usecase) (.output n)).count (.playback .offload)
      = 1 := by
    rw [hu, Ledger.count_add, none]
  obtain rfl | ⟨-, hledger⟩ | ⟨-, hledger⟩ := ledger_startOffload hu standby hflushed hw
  · exact .stopped usecase standby state compr none
  · rw [hledger, Ledger.phase, Ledger.setOut_outs_self]
    refine .playing usecase rfl rfl ?_ hadd
    simp only [Function.comp_apply, playingOut, startedOut, Ledger.add, usecase, state, if_true]
    rfl
  · have hstop := @count_stopOutput n (s.ledger.add (.playback (s.outs n).usecase) (.output n))
      (fun o => { o with compr := .none })
      (distinct_add hd (.playback (s.outs n).usecase) (.output n)) hu rfl rfl
      (congrArg OffloadState.isPaused state)
    have hcount : s'.ledger.count (.playback .offload) = 0 := by
      rw [hledger]
      exact hstop.trans (by rw [hadd])
    rw [Ledger.phase, hcount, hledger, Ledger.stopOutput_setOut _ n _ rfl rfl]
    split
    · rw [Ledger.setOut_outs_self]
      exact .stopped usecase standby rfl rfl rfl
    · split
      · rw [Ledger.drop_outs, Ledger.setOut_outs_self]
        exact .stopped usecase standby rfl rfl rfl
      · rw [Ledger.drop_outs, Ledger.setOut_outs_self]
        exact .stopped usecase standby state rfl rfl

/-- Out of standby a write goes to `out_write_offload`. -/
theorem outWrite_awake (hu : (s.outs n).usecase = .offload) (standby : (s.outs n).standby = false)
    {w : WriteResult} {s' : Adev} (hw : s.outWrite view n w = some s') :
    s' = s.writeOffload view n w := by
  rw [Adev.outWrite, standby, if_neg (fun h => by cases h), if_pos hu] at hw
  exact (Option.some.inj hw).symm

theorem phase_write_playing (usecase : (s.ledger.outs n).usecase = .offload)
    (standby : (s.ledger.outs n).standby = false)
    (state : (s.ledger.outs n).offloadState = .playing)
    (compr : (s.ledger.outs n).compr = some true)
    (one : s.ledger.count (.playback .offload) = 1) {w : WriteResult} {s' : Adev}
    (hw : s.outWrite view n w = some s') : s'.ledger.phase n := by
  have hplaying : (s.outs n).offloadState = .playing := state
  obtain rfl := outWrite_awake usecase standby hw
  obtain ⟨-, hledger⟩ | ⟨hflushed, -⟩ | ⟨hflushed, -⟩ := @ledger_writeOffload view s n w
  · have hself : playingOut (s.ledger.outs n) = s.ledger.outs n := by
      rw [playingOut, if_pos state, ← state]
    rw [hledger, setOut_self hself]
    exact .playing usecase standby state compr one
  · cases hplaying.symm.trans hflushed
  · cases hplaying.symm.trans hflushed

/-- Writing to a flushed stream goes on playing, or leaves it as it is, for ever:
    then the stream stays locked. -/
theorem phase_write_paused (usecase : (s.ledger.outs n).usecase = .offload)
    (standby : (s.ledger.outs n).standby = false)
    (state : (s.ledger.outs n).offloadState.isPaused = true)
    (compr : (s.ledger.outs n).compr = some true)
    (none : s.ledger.count (.playback .offload) = 0) {w : WriteResult} {s' : Adev}
    (hw : s.outWrite view n w = some s') (hok : (s.outs n).offloadState ≠ .paused) :
    s'.ledger.phase n := by
  have hu : (s.outs n).usecase = .offload := usecase
  obtain rfl := outWrite_awake hu standby hw
  obtain ⟨hflushed, -⟩ | ⟨-, hledger⟩ | ⟨-, hledger⟩ := @ledger_writeOffload view s n w
  · have hpaused : (s.outs n).offloadState.isPaused = true := state
    cases hs : (s.outs n).offloadState with
    | idle => exact nomatch (congrArg OffloadState.isPaused hs).symm.trans hpaused
    | playing => exact nomatch (congrArg OffloadState.isPaused hs).symm.trans hpaused
    | paused => exact absurd hs hok
    | pausedFlushed => exact absurd hs hflushed
  · have hcount := Ledger.count_add s.ledger (.playback .offload) (.output n)
    rw [hledger, hu, Ledger.phase, Ledger.setOut_outs_self]
    refine .playing usecase standby rfl ?_ (hcount.trans (by rw [none]))
    simp only [playingOut, Ledger.add, compr]
    split <;> rfl
  · rw [hledger, Ledger.phase, Ledger.setOut_outs_self]
    exact .paused usecase standby state compr none

theorem phase_outWrite (h : OffloadInv n s) {w : WriteResult} {s' : Adev}
    (hw : s.outWrite view n w = some s') (hok : (s.outs n).offloadState ≠ .paused) :
    s'.ledger.phase n := by
  cases h.phase with
  | stopped usecase standby state compr none =>
      exact phase_write_stopped h.distinct usecase standby state compr none hw
  | playing usecase standby state compr one =>
      exact phase_write_playing usecase standby state compr one hw
  | paused usecase standby state compr none =>
      exact phase_write_paused usecase standby state compr none hw hok

theorem count_outStandby {l : Ledger} (hu : (l.outs n).usecase = .offload)
    (hd : Distinct l.entries l.nextPtr) :
    (l.outStandby n).count (.playback .offload)
      = if l.offloadFx = true ∧ (l.outs n).offloadState.isPaused = true then
          l.count (.playback .offload)
        else l.count (.playback .offload) - 1 := by
  have hdrop := (Ledger.count_drop hd (.playback .offload) (.playback .offload)).trans (if_pos rfl)
  rw [Ledger.outStandby_eq, hu]
  split
  · rfl
  · rw [← Ledger.setOut_drop]
    exact hdrop

/-- **STANDBY** stops the stream, if the hooks reset its state. -/
theorem phase_outStandby {l : Ledger} (hd : Distinct l.entries l.nextPtr)
    (hfx : l.offloadFx = true) (hphase : l.phase n) : (l.outStandby n).phase n := by
  have hu := usecase_of_phase hphase
  have hcount : (l.outStandby n).count (.playback .offload) = 0 := by
    rw [count_outStandby hu hd, hfx]
    cases hphase with
    | stopped usecase standby state compr none => simp [none]
    | playing usecase standby state compr one => simp [one, state, OffloadState.isPaused]
    | paused usecase standby state compr none => simp [none]
  rw [Ledger.phase, hcount, Ledger.outStandby_outs_self, hfx]
  exact .stopped hu rfl rfl (if_pos hu) rfl

/-- Without the hooks the state stays, and is wrong. -/
theorem state_outStandby {l : Ledger} (hfx : l.offloadFx = false)
    (hstandby : (l.outs n).standby = false) (hphase : l.phase n) :
    ((l.outStandby n).outs n).standby = true ∧ ((l.outStandby n).outs n).offloadState ≠ .idle := by
  rw [Ledger.outStandby_outs_self, hfx]
  refine ⟨rfl, fun hidle => ?_⟩
  have hidle : (l.outs n).offloadState = .idle := hidle
  cases hphase with
  | stopped usecase standby state compr none => exact nomatch standby.symm.trans hstandby
  | playing usecase standby state compr one => exact nomatch state.symm.trans hidle
  | paused usecase standby state compr none =>
      rw [hidle] at state
      exact nomatch state

-- ── Pausing, resuming, flushing ───────────────────────────────────────────

theorem phase_outPause (h : OffloadInv n s) : (s.outPause n).ledger.phase n := by
  rw [Adev.outPause]
  split
  · rename_i hplaying
    have hset : (s.setOut n fun o => { o with offloadState := .paused }).ledger
        = s.ledger.setOut n fun o => { o with offloadState := .paused } :=
      ledger_setOut s n fun _ => rfl
    have hcount := (@Ledger.count_drop s.ledger h.distinct (.playback .offload)
      (.playback .offload)).trans (if_pos rfl)
    have husecase : ((s.setOut n fun o => { o with offloadState := .paused }).outs n).usecase
        = .offload := by
      rw [setOut_usecase]
      · exact usecase_of_inv h
      · exact fun _ => rfl
    rw [ledger_disableOutputPath, hset, husecase, ← Ledger.setOut_drop, Ledger.phase,
      Ledger.setOut_outs_self, Ledger.drop_outs]
    cases h.phase with
    | stopped usecase standby state compr none => cases state.symm.trans hplaying.2
    | playing usecase standby state compr one =>
        exact .paused usecase standby rfl compr (hcount.trans (by rw [one]))
    | paused usecase standby state compr none =>
        have hstate : (s.ledger.outs n).offloadState = .playing := hplaying.2
        rw [hstate] at state
        cases state
  · exact h.phase

theorem phase_outFlush (h : OffloadInv n s) : (s.outFlush n).ledger.phase n := by
  rw [Adev.outFlush]
  split
  · rename_i hpaused
    have hset : (s.setOut n fun o => { o with offloadState := .pausedFlushed }).ledger
        = s.ledger.setOut n fun o => { o with offloadState := .pausedFlushed } :=
      ledger_setOut s n fun _ => rfl
    rw [hset, Ledger.phase, Ledger.setOut_outs_self]
    cases h.phase with
    | stopped usecase standby state compr none => cases state.symm.trans hpaused
    | playing usecase standby state compr one => cases state.symm.trans hpaused
    | paused usecase standby state compr none => exact .paused usecase standby rfl compr none
  · exact h.phase

/-- **RESUMING** with memory for the usecase. -/
theorem phase_outResume (h : OffloadInv n s) {alloc : Bool}
    (hok : (s.outs n).offloadState = .paused → alloc = true) :
    (s.outResume view n alloc).ledger.phase n := by
  rw [Adev.outResume]
  split
  · rename_i hpaused
    obtain rfl := hok hpaused.2
    have hu : (s.outs n).usecase = .offload := usecase_of_inv h
    have hset : ((s.enableOutputPath view n true).1.setOut n fun o =>
        { o with offloadState := .playing }).ledger
        = (s.ledger.add (.playback .offload) (.output n)).setOut n fun o =>
          { o with offloadState := .playing } := by
      rw [ledger_setOut, ledger_enableOutputPath, hu]
      exact fun _ => rfl
    have hcount := Ledger.count_add s.ledger (.playback .offload) (.output n)
    rw [hset, Ledger.phase, Ledger.setOut_outs_self]
    cases h.phase with
    | stopped usecase standby state compr none => cases state.symm.trans hpaused.2
    | playing usecase standby state compr one => cases state.symm.trans hpaused.2
    | paused usecase standby state compr none =>
        exact .playing usecase standby rfl compr (hcount.trans (by rw [none]))
  · exact h.phase

-- ── Routing ───────────────────────────────────────────────────────────────

/-- Calls come and go without the streams and the offload usecases. -/
theorem updateVoiceCall_frame (hd : DistinctPtrs s.routing) (n : Nat) (alloc : Bool) :
    (s.updateVoiceCall view n alloc).ledger.outs = s.ledger.outs
      ∧ (s.updateVoiceCall view n alloc).ledger.count (.playback .offload)
        = s.ledger.count (.playback .offload) := by
  have hne : (UsecaseId.voiceCall) ≠ .playback .offload := fun h => nomatch h
  have hstart : ∀ (s₁ : Adev) (m : Nat),
      (s₁.startVoiceCall view m alloc).ledger.outs = s₁.ledger.outs
        ∧ (s₁.startVoiceCall view m alloc).ledger.count (.playback .offload)
          = s₁.ledger.count (.playback .offload) := by
    intro s₁ m
    cases alloc with
    | false =>
        rw [Adev.startVoiceCall, if_pos rfl]
        exact ⟨rfl, rfl⟩
    | true =>
        rw [ledger_startVoiceCall]
        exact ⟨rfl, Ledger.count_add_of_ne hne _⟩
  have hstop : s.stopVoiceCall.ledger.outs = s.ledger.outs
      ∧ s.stopVoiceCall.ledger.count (.playback .offload)
        = s.ledger.count (.playback .offload) := by
    rw [ledger_stopVoiceCall]
    refine ⟨Ledger.drop_outs _ _, ?_⟩
    exact (@Ledger.count_drop (s.ledger.setInCall false) hd _ _).trans (if_neg hne)
  rw [Adev.updateVoiceCall]
  split
  · split
    · rw [Adev.restartVoiceCall]
      split
      · exact hstop
      · exact ⟨(hstart _ _).1.trans hstop.1, (hstart _ _).2.trans hstop.2⟩
    · exact hstart s n
  · exact ⟨rfl, rfl⟩

theorem ledger_rerouteOutput (s : Adev) (n : Nat) (val : Devices) :
    (s.rerouteOutput view n val).ledger
      = if ((s.routing.getUsecaseFromId (.playback (s.outs n).usecase)).isSome
          && needsStandby (s.outs n).pcmDevList val) = true then s.ledger.outStandby n
        else s.ledger := by
  rw [Adev.rerouteOutput]
  simp only
  split
  · rename_i hnone
    rw [hnone, ledger_selectDevices]
    rfl
  · rename_i uc huc
    rw [huc]
    by_cases hneeds : needsStandby (s.outs n).pcmDevList val = true
    · rw [if_pos hneeds, hneeds]
      exact ledger_doOutStandby s n
    · rw [if_neg hneeds, ledger_selectDevices, Bool.eq_false_iff.mpr hneeds]
      split
      · exact ledger_setOffloadParameters s uc
      · rfl

/-- Routing an offload stream puts it in standby, or leaves its state alone. -/
theorem outSetParameters_frame (hu : (s.outs n).usecase = .offload) (hd : DistinctPtrs s.routing)
    (val : Devices) (alloc : Bool) :
    (s.outSetParameters view n val alloc).ledger.outs
        = (if s.routedToStandby n val then s.ledger.outStandby n else s.ledger).outs
      ∧ (s.outSetParameters view n val alloc).ledger.count (.playback .offload)
        = (if s.routedToStandby n val then s.ledger.outStandby n else s.ledger).count
          (.playback .offload) := by
  have hforced : ¬ ((s.outs n).devices ≠ val ∧ val ≠ 0 ∧ (s.outs n).standby = false
      ∧ (s.outs n).usecase = .playback) := by
    rintro ⟨-, -, -, hplayback⟩
    exact nomatch hu.symm.trans hplayback
  simp only [Adev.outSetParameters, if_neg hforced, Adev.forceInStandby, Option.elim_none]
  by_cases hval : val = 0
  · have hstays : s.routedToStandby n val = false := by
      simp [Adev.routedToStandby, hval]
    rw [if_neg (fun h => h hval), hstays]
    exact ⟨rfl, rfl⟩
  · rw [if_pos hval]
    have hset : (s.setOut n fun o => { o with devices := val }).ledger = s.ledger :=
      ledger_setOut_of_bare s n fun _ => rfl
    have houts : (s.setOut n fun o => { o with devices := val }).outs n
        = { s.outs n with devices := val } := by
      simp [Adev.setOut]
    have hreroute := @ledger_rerouteOutput view (s.setOut n fun o => { o with devices := val }) n val
    have hdistinct := @distinctPtrs_reroute view (s.setOut n fun o => { o with devices := val }) hd
      n val
    simp only [setOut_routing, houts, hset] at hreroute
    have hstandby : ((s.setOut n fun o => { o with devices := val }).outs n).standby
        = (s.outs n).standby := by
      rw [houts]
    rw [hstandby]
    -- what is left before the call is looked at
    have hbefore : ∀ s₁ : Adev, s₁.ledger = (if s.routedToStandby n val then s.ledger.outStandby n
        else s.ledger) → DistinctPtrs s₁.routing →
        ((s₁.updateBtSco n).updateVoiceCall view n alloc).ledger.outs
            = (if s.routedToStandby n val then s.ledger.outStandby n else s.ledger).outs
          ∧ ((s₁.updateBtSco n).updateVoiceCall view n alloc).ledger.count (.playback .offload)
            = (if s.routedToStandby n val then s.ledger.outStandby n else s.ledger).count
              (.playback .offload) := by
      intro s₁ hledger hd₁
      have hframe := @updateVoiceCall_frame view (s₁.updateBtSco n) (by
        rw [updateBtSco_routing]
        exact hd₁) n alloc
      rw [ledger_updateBtSco, hledger] at hframe
      exact hframe
    split
    · rename_i hstandby
      refine hbefore _ ?_ hd
      have hstays : s.routedToStandby n val = false := by
        simp [Adev.routedToStandby, hstandby]
      rw [hstays]
      exact hset
    · rename_i hstandby
      refine hbefore _ ?_ hdistinct
      have hrouted : s.routedToStandby n val
          = ((s.routing.getUsecaseFromId (.playback (s.outs n).usecase)).isSome
            && needsStandby (s.outs n).pcmDevList val) := by
        rw [Adev.routedToStandby, bne_iff_ne.mpr hval, Bool.eq_false_iff.mpr hstandby]
        rfl
      rw [hreroute, hrouted]

theorem phase_outSetParameters (h : OffloadInv n s) {val : Devices}
    (hok : s.routedToStandby n val = true → s.offloadFx = true) (alloc : Bool) :
    (s.outSetParameters view n val alloc).ledger.phase n := by
  obtain ⟨houts, hcount⟩ :=
    @outSetParameters_frame view n s (usecase_of_inv h) h.distinct val alloc
  rw [Ledger.phase, houts, hcount]
  split
  · rename_i hrouted
    exact phase_outStandby h.distinct (hok hrouted) h.phase
  · exact h.phase

-- ── Every call ────────────────────────────────────────────────────────────

/-- **STEP**: a call that is none of the three keeps state, usecase and handle
    together. -/
theorem offloadInv_step (s : Adev) (op : OffloadOp) (s' : Adev) (h : OffloadInv n s)
    (hok : s.keepsOffload n op) (hstep : offloadStep view n s op = some s') : OffloadInv n s' := by
  refine ⟨distinctPtrs_step s (op.act n) s' h.distinct hstep, ?_⟩
  rw [offloadStep] at hstep
  cases op with
  | write w =>
      rw [OffloadOp.act, step] at hstep
      obtain ⟨-, hw⟩ := onOut_eq_some hstep
      exact phase_outWrite h hw hok
  | pause =>
      rw [OffloadOp.act, step] at hstep
      obtain ⟨-, ⟨-, rfl⟩ | ⟨-, rfl⟩⟩ := onOffload_eq_some hstep
      · exact phase_outPause h
      · exact h.phase
  | resume alloc =>
      rw [OffloadOp.act, step] at hstep
      obtain ⟨-, ⟨-, rfl⟩ | ⟨-, rfl⟩⟩ := onOffload_eq_some hstep
      · exact phase_outResume h hok
      · exact h.phase
  | flush =>
      rw [OffloadOp.act, step] at hstep
      obtain ⟨-, ⟨-, rfl⟩ | ⟨-, rfl⟩⟩ := onOffload_eq_some hstep
      · exact phase_outFlush h
      · exact h.phase
  | drain =>
      rw [OffloadOp.act, step] at hstep
      obtain ⟨-, ⟨-, rfl⟩ | ⟨-, rfl⟩⟩ := onOffload_eq_some hstep
      · exact h.phase
      · exact h.phase
  | routing val alloc =>
      rw [OffloadOp.act, step] at hstep
      obtain ⟨-, hs⟩ := onOut_eq_some hstep
      split at hs
      · cases hs
      · exact Option.some.inj hs ▸ phase_outSetParameters h hok alloc
  | standby =>
      rw [OffloadOp.act, step] at hstep
      obtain ⟨-, hs⟩ := onOut_eq_some hstep
      obtain rfl := Option.some.inj hs
      rw [ledger_outStandby]
      split
      · exact h.phase
      · rename_i hstandby
        exact phase_outStandby h.distinct (hok (Bool.eq_false_iff.mpr hstandby)) h.phase

/-- **BREAK**: each of the three leaves them apart. -/
theorem offloadOk_step (s : Adev) (op : OffloadOp) (s' : Adev) (h : OffloadInv n s)
    (hstep : offloadStep view n s op = some s') (hafter : OffloadOk n s') :
    s.keepsOffload n op := by
  have hu : (s.outs n).usecase = .offload := usecase_of_inv h
  -- a paused stream has no usecase, and is not in standby
  have hpaused : (s.outs n).offloadState = .paused →
      (s.outs n).standby = false ∧ (s.outs n).compr = some true
        ∧ s.ledger.count (.playback .offload) = 0 := by
    intro hstate
    cases h.phase with
    | stopped usecase standby state compr none => cases state.symm.trans hstate
    | playing usecase standby state compr one => cases state.symm.trans hstate
    | paused usecase standby state compr none => exact ⟨standby, compr, none⟩
  -- without the hooks a stream in standby is not idle
  have hstopped : ∀ s₁ : Adev, s₁.ledger.outs = (s.ledger.outStandby n).outs → OffloadOk n s₁ →
      (s.outs n).standby = false → s.offloadFx = true := by
    intro s₁ houts hok hstandby
    by_contra hfx
    obtain ⟨hstandby', hstate⟩ := state_outStandby (l := s.ledger) (Bool.eq_false_iff.mpr hfx)
      hstandby h.phase
    rw [← houts] at hstandby' hstate
    exact hstate (hok.standby hstandby').1
  rw [offloadStep] at hstep
  cases op with
  | write w =>
      intro hstate
      rw [OffloadOp.act, step] at hstep
      obtain ⟨-, hw⟩ := onOut_eq_some hstep
      obtain ⟨hstandby, -, hcount⟩ := hpaused hstate
      obtain rfl := outWrite_awake hu hstandby hw
      obtain ⟨-, hledger⟩ | ⟨hflushed, -⟩ | ⟨hflushed, -⟩ := @ledger_writeOffload view s n w
      · have hplaying : ((s.writeOffload view n w).ledger.outs n).offloadState = .playing := by
          rw [hledger, Ledger.setOut_outs_self]
          rfl
        have hone := (hafter.playing hplaying).1
        rw [offloadUsecases_eq, hledger] at hone
        cases hcount.symm.trans hone
      · cases hstate.symm.trans hflushed
      · cases hstate.symm.trans hflushed
  | pause => trivial
  | resume alloc =>
      intro hstate
      by_contra halloc
      obtain ⟨-, hcompr, hcount⟩ := hpaused hstate
      rw [OffloadOp.act, step] at hstep
      obtain ⟨-, ⟨-, rfl⟩ | ⟨hpcm, -⟩⟩ := onOffload_eq_some hstep
      · have hresumed : (s.outs n).compr.isSome = true ∧ (s.outs n).offloadState = .paused := by
          rw [hcompr]
          exact ⟨rfl, hstate⟩
        rw [Adev.outResume, if_pos hresumed, Bool.eq_false_iff.mpr halloc,
          enableOutputPath_of_not_alloc] at hafter
        have hset : (s.setOut n fun o => { o with offloadState := .playing }).ledger
            = s.ledger.setOut n fun o => { o with offloadState := .playing } :=
          ledger_setOut s n fun _ => rfl
        have hplaying : ((s.setOut n fun o => { o with offloadState := .playing }).ledger.outs
            n).offloadState = .playing := by
          rw [hset, Ledger.setOut_outs_self]
        have hone := (hafter.playing hplaying).1
        rw [offloadUsecases_eq, hset] at hone
        cases hcount.symm.trans hone
      · exact absurd hu hpcm
  | flush => trivial
  | drain => trivial
  | routing val alloc =>
      intro hrouted
      rw [OffloadOp.act, step] at hstep
      obtain ⟨-, hs⟩ := onOut_eq_some hstep
      split at hs
      · cases hs
      · obtain rfl := Option.some.inj hs
        obtain ⟨houts, -⟩ := @outSetParameters_frame view n s hu h.distinct val alloc
        rw [if_pos hrouted] at houts
        refine hstopped _ houts hafter ?_
        by_contra hstandby
        simp [Adev.routedToStandby, hstandby] at hrouted
  | standby =>
      intro hstandby
      rw [OffloadOp.act, step] at hstep
      obtain ⟨-, hs⟩ := onOut_eq_some hstep
      obtain rfl := Option.some.inj hs
      refine hstopped _ ?_ hafter hstandby
      rw [ledger_outStandby, hstandby]
      rfl

end Phases

-- ── Every sequence of calls ───────────────────────────────────────────────

/-- An offload stream as `adev_open_output_stream` leaves it. -/
theorem offloadInv_opened {view : StreamOut → InputView} {n : Nat} {s s₀ : Adev} {a : OpenOutput}
    (hd : DistinctPtrs s.routing) (hoffload : a.offload = true)
    (hopen : step view s (.openOutput n a) = some s₀) (hopened : (s₀.outs n).isOpen = true) :
    OffloadInv n s₀ := by
  refine ⟨distinctPtrs_step s _ s₀ hd hopen, ?_⟩
  have husecase : a.usecase = .offload := by
    rw [OpenOutput.usecase, hoffload]
    rfl
  rw [step] at hopen
  split at hopen
  · cases hopen
  · rename_i hclosed
    obtain rfl := Option.some.inj hopen
    obtain ⟨houts, hnone⟩ := openOutputStream_opened (Bool.eq_false_iff.mpr hclosed) hopened
    have hcount : (s.openOutputStream n a).ledger.count (.playback .offload) = 0 := by
      rw [← offloadUsecases_eq, Adev.offloadUsecases, openOutputStream_routing]
      rw [husecase] at hnone
      refine List.countP_eq_zero.mpr fun uc huc => ?_
      have hid := List.find?_eq_none.mp hnone uc huc
      exact hid
    rw [Ledger.phase, hcount, ledger_outs, houts]
    exact .stopped husecase rfl rfl rfl rfl

/-- **OFFLOAD STREAM**: after every sequence of calls on an offload stream its
    state, its usecase and its compress handle fit together exactly if no call
    was a write to the paused stream, a resume without memory, or a standby
    without the effect hooks. -/
theorem offload_states (view : StreamOut → InputView) (fx : Bool) (session : VoiceSession)
    (before : List Act) (s s₀ : Adev) (n : Nat) (a : OpenOutput)
    (hrun : run (step view) (start fx session) before = some s) (hoffload : a.offload = true)
    (hopen : step view s (.openOutput n a) = some s₀) (hopened : (s₀.outs n).isOpen = true)
    (ops : List OffloadOp) :
    Always (offloadStep view n) (OffloadOk n) s₀ ops
      ↔ StepsMeet (offloadStep view n) (Adev.keepsOffload n) s₀ ops :=
  always_iff_stepsMeet (fun _ h => offloadOk_of_inv h) offloadInv_step offloadOk_step ops
    (offloadInv_opened (distinctPtrs_run hrun) hoffload hopen hopened)

/-- A stream that is played, paused, flushed and played again, with the hooks
    loaded and then put in standby. -/
def flushAndPlay : List OffloadOp :=
  [.write writeOk, .pause, .flush, .write writeOk, .standby]

theorem offload_states_flushAndPlay :
    ∃ s₀, step plainView (start true plainSession) (.openOutput 0 offloadOutput) = some s₀
      ∧ (s₀.outs 0).isOpen = true
      ∧ (Always (offloadStep plainView 0) (OffloadOk 0) s₀ flushAndPlay
        ↔ StepsMeet (offloadStep plainView 0) (Adev.keepsOffload 0) s₀ flushAndPlay) := by
  have hopened : (step plainView (start true plainSession) (.openOutput 0 offloadOutput)).map
      (fun s => (s.outs 0).isOpen) = some true := by
    decide +kernel
  obtain ⟨s₀, hopen, hisOpen⟩ := Option.map_eq_some_iff.mp hopened
  exact ⟨s₀, hopen, hisOpen, offload_states plainView true plainSession []
    (start true plainSession) s₀ 0 offloadOutput rfl rfl hopen hisOpen flushAndPlay⟩

-- ── A run that leaves PLAYING behind ──────────────────────────────────────

/-- Without the hooks the stream is in standby and PLAYING. -/
theorem standby_while_playing :
    ¬ ∀ (view : StreamOut → InputView) (fx : Bool) (session : VoiceSession) (before : List Act)
        (s s₀ : Adev) (n : Nat) (a : OpenOutput),
      run (step view) (start fx session) before = some s → a.offload = true →
      step view s (.openOutput n a) = some s₀ → (s₀.outs n).isOpen = true →
      ∀ ops : List OffloadOp, Always (offloadStep view n) (OffloadOk n) s₀ ops := by
  intro hclaim
  have hend : ((step plainView (start false plainSession) (.openOutput 0 offloadOutput)).bind
      fun s₀ => (run (offloadStep plainView 0) s₀ [.write writeOk, .standby]).map fun s =>
        ((s₀.outs 0).isOpen, (s.outs 0).standby, (s.outs 0).offloadState))
      = some (true, true, .playing) := by
    decide +kernel
  obtain ⟨s₀, hopen, hend⟩ := Option.bind_eq_some_iff.mp hend
  obtain ⟨s, hrun, hs⟩ := Option.map_eq_some_iff.mp hend
  obtain ⟨hisOpen, hs⟩ := Prod.mk.inj hs
  obtain ⟨hstandby, hstate⟩ := Prod.mk.inj hs
  have hok := hclaim plainView false plainSession [] (start false plainSession) s₀ 0 offloadOutput
    rfl rfl hopen hisOpen [.write writeOk, .standby] [.write writeOk, .standby] [] s
    (List.append_nil _).symm hrun
  exact nomatch hstate.symm.trans (hok.standby hstandby).1

end AudioHal

import Universal7580.AudioPrimaryProofs
import Universal7580.AudioOffloadProofs

/-! # Voice sessions

    The PCMs of the modem are opened by two features: a voice call, and a
    Bluetooth SCO link outside of a call.  Each closes them by the mode at the
    time it stops, not by the mode it started in.

    `voice_sessions` says exactly when that goes well: a call is active if and
    only if its usecase is, no call outlives the switch to NORMAL, and modem PCMs
    are open only for a call or a link, in all states of a run exactly if no link
    that opened them ends in mode IN_CALL without a call. -/

namespace AudioHal

open AudioRouting Run

-- ── The PCMs of the modem ─────────────────────────────────────────────────

/-- What `pcm_open` returns, with `pcm_is_ready`. -/
inductive PcmOpen where
  | null
  | notReady
  | ready
  deriving DecidableEq, Repr

/-- The results of the calls of `pcm_open`. -/
structure PcmOpens where
  voiceRx : PcmOpen
  voiceTx : PcmOpen
  scoRx : PcmOpen
  scoTx : PcmOpen
  deriving DecidableEq, Repr

/-- Which of the PCM pointers are set. -/
structure VoicePcms where
  voiceRx : Bool
  voiceTx : Bool
  scoRx : Bool
  scoTx : Bool
  deriving DecidableEq, Repr

namespace VoicePcms

/-- A modem PCM is open. -/
def voiceOpen (p : VoicePcms) : Bool := p.voiceRx || p.voiceTx

/-- `start_voice_session`.  When the first PCM is not ready it is the other one,
    not opened yet, that is closed. -/
def startVoiceSession (p : VoicePcms) (o : PcmOpens) : VoicePcms :=
  if p.voiceOpen then p
  else
    let p := { p with voiceRx := o.voiceRx != PcmOpen.null }
    if o.voiceRx = .notReady then { p with voiceTx := false }
    else
      let p := { p with voiceTx := o.voiceTx != PcmOpen.null }
      if o.voiceTx = .notReady then { p with voiceRx := false } else p

/-- `stop_voice_session`. -/
def stopVoiceSession (p : VoicePcms) : VoicePcms := { p with voiceRx := false, voiceTx := false }

/-- `start_voice_session_bt_sco`. -/
def startVoiceSessionBtSco (p : VoicePcms) (mode : Mode) (o : PcmOpens) : VoicePcms :=
  if p.scoRx || p.scoTx then p
  else
    let p := { p with scoRx := o.scoRx != PcmOpen.null }
    if o.scoRx = .notReady then { p with scoRx := false }
    else
      let p := { p with scoTx := o.scoTx != PcmOpen.null }
      if o.scoTx = .notReady then { p with scoTx := false, scoRx := false }
      else if mode ≠ .inCall then p.startVoiceSession o
      else p

/-- `stop_voice_session_bt_sco`. -/
def stopVoiceSessionBtSco (p : VoicePcms) (mode : Mode) : VoicePcms :=
  let p := { p with scoRx := false, scoTx := false }
  if mode ≠ .inCall then p.stopVoiceSession else p

end VoicePcms

-- ── The device with its PCMs ──────────────────────────────────────────────

structure VoiceDevice where
  hal : Adev
  pcms : VoicePcms

section Model

variable (view : StreamOut → InputView)

/-- The Bluetooth part of `out_set_parameters`. -/
def Adev.btScoPcms (s : Adev) (n : Nat) (p : VoicePcms) (o : PcmOpens) : VoicePcms :=
  let sco := hasDevice (s.outs n).devices Devices.outAllSco
  if (s.mode = .inCommunication ∨ s.mode = .inCall) ∧ sco = true ∧ s.btScoActive = false then
    p.startVoiceSessionBtSco s.mode o
  else if sco = false ∧ s.btScoActive = true then p.stopVoiceSessionBtSco s.mode
  else p

/-- `start_voice_call`, on the PCMs. -/
def VoicePcms.startCall (p : VoicePcms) (alloc : Bool) (o : PcmOpens) : VoicePcms :=
  if alloc = false then p else p.startVoiceSession o

/-- `stop_voice_call` and `start_voice_call`. -/
def Adev.restartPcms (s : Adev) (alloc : Bool) (p : VoicePcms) (o : PcmOpens) : VoicePcms :=
  match s.primaryOutput with
  | none => p.stopVoiceSession
  | some _ => p.stopVoiceSession.startCall alloc o

/-- The voice call part of `out_set_parameters`. -/
def Adev.voiceCallPcms (s : Adev) (n : Nat) (alloc : Bool) (p : VoicePcms) (o : PcmOpens) :
    VoicePcms :=
  if s.mode = .inCall ∧ s.primaryOutput = some n then
    if s.routing.inCall then s.restartPcms alloc p o else p.startCall alloc o
  else p

/-- The state in which `out_set_parameters` comes to its Bluetooth part. -/
def Adev.rerouted (s : Adev) (n : Nat) (val : Devices) : Adev :=
  let s := s.setOut n fun o => { o with devices := val }
  if (s.outs n).standby then s else s.rerouteOutput view n val

/-- What an operation of the HAL does to the PCMs. -/
def Adev.pcmsAfter (s : Adev) (p : VoicePcms) (o : PcmOpens) : Act → VoicePcms
  | .outSetParameters n val alloc =>
      if val ≠ 0 then
        let s := s.rerouted view n val
        (s.updateBtSco n).voiceCallPcms n alloc (s.btScoPcms n p o) o
      else p
  | .setMode mode =>
      if s.mode ≠ mode ∧ mode = .normal ∧ s.routing.inCall = true then p.stopVoiceSession else p
  | .wbAmr type alloc =>
      if s.session.wbAmrType ≠ type ∧ s.routing.inCall = true then s.restartPcms alloc p o else p
  | _ => p

/-- An operation, with what `pcm_open` returns in it. -/
def voiceStep (d : VoiceDevice) (e : Act × PcmOpens) : Option VoiceDevice :=
  (step view d.hal e.1).map fun hal =>
    { hal := hal, pcms := d.hal.pcmsAfter view d.pcms e.2 e.1 }

end Model

def noPcms : VoicePcms := { voiceRx := false, voiceTx := false, scoRx := false, scoTx := false }

/-- The device after `adev_open`. -/
def voiceStart (fx : Bool) (session : VoiceSession) : VoiceDevice where
  hal := start fx session
  pcms := noPcms

-- ── The property ──────────────────────────────────────────────────────────

/-- The active voice call usecases. -/
def voiceCalls (r : Routing) : Nat :=
  r.usecases.countP fun uc => uc.id = .voiceCall

/-- **THE VOICE SESSION** between two operations. -/
structure VoiceSessionOk (d : VoiceDevice) : Prop where
  call : d.hal.routing.inCall = true ↔ voiceCalls d.hal.routing = 1
  mode : d.hal.routing.inCall = true → d.hal.mode ≠ .normal
  pcms : d.pcms.voiceOpen = true → d.hal.routing.inCall = true ∨ d.hal.btScoActive = true

/-- A link that opened the PCMs ends in mode IN_CALL only where a call goes on or
    this call of `out_set_parameters` starts one. -/
def VoiceDevice.keepsSession (d : VoiceDevice) (e : Act × PcmOpens) : Prop :=
  ∀ n val alloc, e.1 = .outSetParameters n val alloc → val ≠ 0 →
    hasDevice val Devices.outAllSco = false → d.hal.btScoActive = true → d.hal.mode = .inCall →
    d.hal.routing.inCall = false → d.pcms.voiceOpen = true →
    d.hal.primaryOutput = some n ∧ alloc = true

-- ── What has nothing to do with the call ──────────────────────────────────

/-- The call and the link are in `s'` what they were in `s`. -/
structure Aside (s s' : Adev) : Prop where
  mode : s'.mode = s.mode
  sco : s'.btScoActive = s.btScoActive
  inCall : s'.routing.inCall = s.routing.inCall
  calls : DistinctPtrs s.routing →
    DistinctPtrs s'.routing ∧ voiceCalls s'.routing = voiceCalls s.routing

section Aside

variable {view : StreamOut → InputView} {s s₁ s₂ : Adev} {n : Nat}

theorem aside_refl (s : Adev) : Aside s s := ⟨rfl, rfl, rfl, fun h => ⟨h, rfl⟩⟩

theorem Aside.trans (h₁ : Aside s s₁) (h₂ : Aside s₁ s₂) : Aside s s₂ where
  mode := h₂.mode.trans h₁.mode
  sco := h₂.sco.trans h₁.sco
  inCall := h₂.inCall.trans h₁.inCall
  calls := by
    intro h
    obtain ⟨hptrs, hcalls⟩ := h₁.calls h
    obtain ⟨hptrs', hcalls'⟩ := h₂.calls hptrs
    exact ⟨hptrs', hcalls'.trans hcalls⟩

/-- A change outside of the routing. -/
theorem aside_of_routing (hmode : s₁.mode = s.mode) (hsco : s₁.btScoActive = s.btScoActive)
    (hrouting : s₁.routing = s.routing) : Aside s s₁ := by
  refine ⟨hmode, hsco, by rw [hrouting], fun h => ?_⟩
  rw [hrouting]
  exact ⟨h, rfl⟩

theorem aside_setOut (s : Adev) (n : Nat) (f : StreamOut → StreamOut) : Aside s (s.setOut n f) :=
  aside_of_routing rfl rfl rfl

theorem aside_setIn (s : Adev) (n : Nat) (f : StreamIn → StreamIn) : Aside s (s.setIn n f) :=
  aside_of_routing rfl rfl rfl

/-- The calls are counted on the identities. -/
theorem voiceCalls_eq (r : Routing) :
    voiceCalls r = (r.usecases.map Usecase.identity).countP fun e => e.id = .voiceCall := by
  rw [List.countP_map]
  rfl

/-- A change of the sound devices. -/
theorem aside_of_skeleton (hmode : s₁.mode = s.mode) (hsco : s₁.btScoActive = s.btScoActive)
    (hskeleton : s₁.routing.skeleton = s.routing.skeleton) : Aside s s₁ := by
  have hentries : s₁.routing.usecases.map Usecase.identity
      = s.routing.usecases.map Usecase.identity := congrArg Prod.fst hskeleton
  refine ⟨hmode, hsco, congrArg (fun k => k.2.1) hskeleton, fun h => ?_⟩
  refine ⟨distinctPtrs_of_skeleton h hskeleton, ?_⟩
  rw [voiceCalls_eq, voiceCalls_eq, hentries]

theorem aside_selectDevices (s : Adev) (id : UsecaseId) : Aside s (s.selectDevices view id) := by
  have hrest := @selectDevices_rest view s id
  exact aside_of_skeleton (congrArg (fun k => k.mode) hrest) (congrArg (fun k => k.btScoActive) hrest)
    (selectDevices_skeleton s id)

theorem aside_addUsecase (s : Adev) {id : UsecaseId} (hid : id ≠ .voiceCall) (stream : Stream)
    (mixers : List Nat) : Aside s (s.onRouting fun r => r.addUsecase id stream mixers) := by
  refine ⟨rfl, rfl, rfl, fun h => ⟨distinctPtrs_add h _ _ _, ?_⟩⟩
  simp [voiceCalls, Routing.addUsecase, hid]

/-- Stopping the usecase that is found under another id. -/
theorem aside_removeUsecase {id : UsecaseId} {uc : Usecase} {r : Routing} (hid : id ≠ .voiceCall)
    (huc : s.routing.getUsecaseFromId id = some uc) (hframe : r.frame = s.routing.frame) :
    Aside s { s with routing := r.removeUsecase uc.ptr } := by
  have hledger := ledger_removeUsecase s huc hframe
  have hcall := congrArg Ledger.inCall hledger
  rw [Ledger.drop_inCall] at hcall
  refine ⟨rfl, rfl, hcall, fun h => ⟨?_, ?_⟩⟩
  · exact distinctPtrs_remove (distinctPtrs_of_skeleton h (skeleton_of_frame hframe)) _
  · have hptrs : Distinct s.ledger.entries s.ledger.nextPtr := h
    have hcount := congrArg (fun l => l.count .voiceCall) hledger
    simp only [Ledger.count_drop hptrs, hid, if_false] at hcount
    rw [voiceCalls_eq, voiceCalls_eq]
    exact hcount

theorem aside_enableOutputPath (s : Adev) (n : Nat) (alloc : Bool) :
    Aside s (s.enableOutputPath view n alloc).1 := by
  have hid : UsecaseId.playback (s.outs n).usecase ≠ .voiceCall := fun h => nomatch h
  rw [Adev.enableOutputPath]
  split
  · exact aside_refl s
  · have hadd := fun s₁ => aside_addUsecase s₁ hid (.output n)
      (mixerCards (outputProfiles (s.outs n).devices))
    exact ((aside_setOut s n _).trans (hadd _)).trans (aside_selectDevices _ _)

theorem aside_disableOutputPath (s : Adev) (n : Nat) : Aside s (s.disableOutputPath n) := by
  have hid : UsecaseId.playback (s.outs n).usecase ≠ .voiceCall := fun h => nomatch h
  rw [Adev.disableOutputPath]
  split
  · exact aside_refl s
  · rename_i uc huc
    have hremove := aside_removeUsecase hid huc
      (disableSndDevice_frame s.routing uc uc.outSndDevice)
    exact hremove.trans (aside_of_routing rfl rfl rfl)

theorem aside_stopOutputStream (s : Adev) (n : Nat) : Aside s (s.stopOutputStream n) := by
  rw [Adev.stopOutputStream]
  split
  · simp only
    split
    · exact aside_setOut s n _
    · exact (aside_setOut s n _).trans (aside_disableOutputPath _ n)
  · exact aside_disableOutputPath s n

theorem aside_doOutStandby (s : Adev) (n : Nat) : Aside s (s.doOutStandby n) := by
  simp only [Adev.doOutStandby]
  refine Aside.trans ?_ (aside_stopOutputStream _ n)
  split
  · exact (aside_setOut s n _).trans (aside_setOut _ n _)
  · exact aside_setOut s n _

theorem aside_outStandby (s : Adev) (n : Nat) : Aside s (s.outStandby n) := by
  rw [Adev.outStandby]
  split
  · exact aside_refl s
  · exact aside_doOutStandby s n

theorem aside_startOutputStream (s : Adev) (n : Nat) (w : WriteResult) :
    Aside s (s.startOutputStream view n w).1 := by
  have hpath := @aside_enableOutputPath view s n w.alloc
  rcases startOutputStream_cases view s n w with heq | ⟨c, heq | heq⟩
  · rw [heq]
    exact hpath
  · rw [heq]
    exact hpath.trans (aside_setOut _ n _)
  · rw [heq]
    exact (hpath.trans (aside_setOut _ n _)).trans (aside_stopOutputStream _ n)

theorem aside_stopInputStream (s : Adev) (n : Nat) : Aside s (s.stopInputStream n) := by
  simp only [Adev.stopInputStream]
  split
  · exact aside_of_routing rfl rfl rfl
  · rename_i uc huc
    have hid : UsecaseId.capture ≠ .voiceCall := fun h => by cases h
    have hremove := aside_removeUsecase hid huc
      (disableSndDevice_frame s.routing uc uc.inSndDevice)
    exact hremove.trans (aside_of_routing rfl rfl rfl)

theorem aside_doInStandby (s : Adev) (n : Nat) : Aside s (s.doInStandby n) := by
  rw [Adev.doInStandby]
  split
  · exact aside_refl s
  · exact (aside_stopInputStream s n).trans (aside_setIn _ n _)

theorem aside_forceInStandby (s : Adev) (i : Option Nat) : Aside s (s.forceInStandby i) := by
  cases i with
  | none => exact aside_refl s
  | some n => exact aside_doInStandby s n

theorem aside_writeOffload (s : Adev) (n : Nat) (w : WriteResult) :
    Aside s (s.writeOffload view n w) := by
  have hstart : ∀ s₁ : Adev, Aside s₁ (if (s₁.outs n).offloadState = .playing then s₁
      else s₁.setOut n fun o =>
        { o with compr := o.compr.map fun _ => true, offloadState := .playing }) := by
    intro s₁
    split
    · exact aside_refl s₁
    · exact aside_setOut s₁ n _
  have hpath := @aside_enableOutputPath view s n w.allocFlushed
  rw [Adev.writeOffload]
  split
  · generalize s.enableOutputPath view n w.allocFlushed = r at hpath ⊢
    obtain ⟨s₁, ok⟩ := r
    cases ok with
    | false => exact hpath.trans (aside_setOut s₁ n _)
    | true => exact hpath.trans (hstart s₁)
  · exact hstart s

theorem aside_writePcm (s : Adev) (n : Nat) (w : WriteResult) : Aside s (s.writePcm n w) := by
  rw [Adev.writePcm]
  split
  · exact aside_refl s
  · exact aside_outStandby s n

theorem aside_outWrite {w : WriteResult} {s' : Adev} (hw : s.outWrite view n w = some s') :
    Aside s s' := by
  have hstart := @aside_startOutputStream view s n w
  refine outWrite_rule (motive := Aside s) hw (fun _ => aside_refl s) (fun _ _ => hstart)
    (fun _ _ => hstart.trans (aside_setOut _ n _)) ?_ ?_ ?_ ?_
  · exact fun s₁ hs₁ => hs₁.trans (aside_writeOffload s₁ n w)
  · exact fun s₁ locked hs₁ => hs₁.trans (aside_of_routing rfl rfl rfl)
  · exact fun s₁ hs₁ => hs₁.trans (aside_writePcm s₁ n w)
  · exact fun s₁ input hs₁ => hs₁.trans (aside_forceInStandby s₁ input)

theorem aside_rerouteOutput (s : Adev) (n : Nat) (val : Devices) :
    Aside s (s.rerouteOutput view n val) := by
  rw [Adev.rerouteOutput]
  simp only
  split
  · exact aside_selectDevices s _
  · rename_i uc _
    split
    · exact aside_doOutStandby s n
    · refine Aside.trans ?_ (aside_selectDevices _ _)
      split
      · exact aside_of_skeleton rfl rfl (setOffloadParameters_skeleton s.routing uc)
      · exact aside_refl s

theorem aside_rerouted (s : Adev) (n : Nat) (val : Devices) :
    Aside s (s.rerouted view n val) := by
  rw [Adev.rerouted]
  split
  · exact aside_setOut s n _
  · exact (aside_setOut s n _).trans (aside_rerouteOutput _ n val)

theorem aside_outPause (s : Adev) (n : Nat) : Aside s (s.outPause n) := by
  rw [Adev.outPause]
  split
  · exact (aside_setOut s n _).trans (aside_disableOutputPath _ n)
  · exact aside_refl s

theorem aside_outResume (s : Adev) (n : Nat) (alloc : Bool) :
    Aside s (s.outResume view n alloc) := by
  rw [Adev.outResume]
  split
  · exact (aside_enableOutputPath s n alloc).trans (aside_setOut _ n _)
  · exact aside_refl s

theorem aside_outFlush (s : Adev) (n : Nat) : Aside s (s.outFlush n) := by
  rw [Adev.outFlush]
  split
  · exact aside_setOut s n _
  · exact aside_refl s

theorem aside_openOutputStream (s : Adev) (n : Nat) (a : OpenOutput) :
    Aside s (s.openOutputStream n a) := by
  have hpublish : Aside s (s.publish n a) := aside_of_routing rfl rfl rfl
  have hopened := opened_openOutputStream s n a
  generalize s.openOutputStream n a = s' at hopened ⊢
  cases hopened with
  | noMemory => exact aside_refl s
  | refused => exact aside_setOut s n _
  | active | standby => exact hpublish.trans (aside_setOut _ n _)

theorem aside_openInputStream (s : Adev) (n : Nat) (a : OpenInput) :
    Aside s (s.openInputStream n a) := by
  rw [Adev.openInputStream]
  split
  · exact aside_refl s
  · split
    · exact aside_setIn s n _
    · exact aside_refl s

theorem aside_startInputStream (s : Adev) (n : Nat) (w : ReadResult) :
    Aside s (s.startInputStream view n w).1 := by
  have hid : UsecaseId.capture ≠ .voiceCall := fun h => nomatch h
  have hactive : ∀ (s : Adev) (i : Option Nat), Aside s { s with activeInput := i } :=
    fun _ _ => aside_of_routing rfl rfl rfl
  simp only [Adev.startInputStream]
  split
  · exact hactive s none
  · rename_i p _
    split
    · exact hactive s none
    · have hadd := ((hactive s (some n)).trans (aside_setIn _ n fun i =>
        { i with pcmDevList := [p] })).trans (aside_addUsecase _ hid (.input n) [p.card])
      have hselect := hadd.trans (@aside_selectDevices view _ .capture)
      split
      · exact hselect
      · exact (hselect.trans (aside_stopInputStream _ n)).trans (hactive _ none)

theorem aside_inRead {w : ReadResult} {s' : Adev} (hr : s.inRead view n w = some s') :
    Aside s s' := by
  have hstart := @aside_startInputStream view s n w
  refine inRead_rule (motive := Aside s) hr (fun _ => aside_refl s) (fun _ _ => hstart)
    (fun _ _ => hstart.trans (aside_setIn _ n _)) ?_
  exact fun s₁ hs₁ => hs₁.trans (aside_doInStandby s₁ n)

theorem aside_rerouteInput (s : Adev) (n : Nat) (val : Devices) :
    Aside s (s.rerouteInput view n val) := by
  rw [Adev.rerouteInput]
  split
  · split
    · exact aside_selectDevices s _
    · exact aside_doInStandby s n
  · exact aside_selectDevices s _

theorem aside_inSetParameters (s : Adev) (n : Nat) (source : Option Source)
    (routing : Option Devices) : Aside s (s.inSetParameters view n source routing) :=
  inSetParameters_rule n source routing (aside_refl s) (fun _ => aside_setIn s n _)
    (fun s₁ _ hs₁ => hs₁.trans (aside_setIn s₁ n _))
    fun s₁ val hs₁ => hs₁.trans (aside_rerouteInput s₁ n val)

theorem aside_addRemoveAudioEffect (s : Adev) (n : Nat) (auxChanged : Bool) (aec : Option Bool) :
    Aside s (s.addRemoveAudioEffect view n auxChanged aec) := by
  have haux : Aside s (if auxChanged then s.doInStandby n else s) := by
    split
    · exact aside_doInStandby s n
    · exact aside_refl s
  simp only [Adev.addRemoveAudioEffect]
  generalize (if auxChanged then s.doInStandby n else s) = s₁ at haux ⊢
  split
  · exact haux
  · have hset := fun f => haux.trans (aside_setIn s₁ n f)
    split
    · exact hset _
    · exact ((hset _).trans (aside_selectDevices _ _)).trans (aside_doInStandby _ n)

/-- **ONLY ROUTING, MODE AND THE WIDE BAND REPORT** touch the call. -/
theorem aside_step {a : Act} {s' : Adev} (hstep : step view s a = some s')
    (hroute : ∀ n val alloc, a ≠ .outSetParameters n val alloc) (hmode : ∀ mode, a ≠ .setMode mode)
    (hreport : ∀ type alloc, a ≠ .wbAmr type alloc) : Aside s s' := by
  cases a with
  | openOutput n a =>
      rw [step] at hstep
      split at hstep
      · cases hstep
      · exact Option.some.inj hstep ▸ aside_openOutputStream s n a
  | closeOutput n =>
      rw [step] at hstep
      exact Option.some.inj (onOut_eq_some hstep).2 ▸ (aside_outStandby s n).trans (aside_setOut _ n _)
  | write n w =>
      rw [step] at hstep
      exact aside_outWrite (onOut_eq_some hstep).2
  | outStandby n =>
      rw [step] at hstep
      exact Option.some.inj (onOut_eq_some hstep).2 ▸ aside_outStandby s n
  | outSetParameters n val alloc => exact absurd rfl (hroute n val alloc)
  | pause n =>
      rw [step] at hstep
      obtain ⟨-, ⟨-, rfl⟩ | ⟨-, rfl⟩⟩ := onOffload_eq_some hstep
      · exact aside_outPause s n
      · exact aside_refl _
  | resume n alloc =>
      rw [step] at hstep
      obtain ⟨-, ⟨-, rfl⟩ | ⟨-, rfl⟩⟩ := onOffload_eq_some hstep
      · exact aside_outResume s n alloc
      · exact aside_refl _
  | flush n =>
      rw [step] at hstep
      obtain ⟨-, ⟨-, rfl⟩ | ⟨-, rfl⟩⟩ := onOffload_eq_some hstep
      · exact aside_outFlush s n
      · exact aside_refl _
  | drain n =>
      rw [step] at hstep
      obtain ⟨-, ⟨-, rfl⟩ | ⟨-, rfl⟩⟩ := onOffload_eq_some hstep
      · exact aside_refl _
      · exact aside_refl _
  | openInput n a =>
      rw [step] at hstep
      split at hstep
      · cases hstep
      · exact Option.some.inj hstep ▸ aside_openInputStream s n a
  | closeInput n =>
      rw [step] at hstep
      obtain ⟨-, rfl⟩ := onIn_eq_some hstep
      exact (aside_doInStandby s n).trans (aside_setIn _ n _)
  | read n w =>
      rw [step] at hstep
      split at hstep
      · exact aside_inRead hstep
      · cases hstep
  | inStandby n =>
      rw [step] at hstep
      obtain ⟨-, rfl⟩ := onIn_eq_some hstep
      exact aside_doInStandby s n
  | inSetParameters n source routing =>
      rw [step] at hstep
      obtain ⟨-, rfl⟩ := onIn_eq_some hstep
      exact aside_inSetParameters s n source routing
  | effect n auxChanged aec =>
      rw [step] at hstep
      obtain ⟨-, rfl⟩ := onIn_eq_some hstep
      exact aside_addRemoveAudioEffect s n auxChanged aec
  | setMode mode => exact absurd rfl (hmode mode)
  | wbAmr type alloc => exact absurd rfl (hreport type alloc)
  | bluetoothWb on =>
      rw [step] at hstep
      obtain rfl := Option.some.inj hstep
      exact aside_of_routing rfl rfl rfl

end Aside

-- ── The devices of an output ──────────────────────────────────────────────

section Devices

variable {view : StreamOut → InputView} (s : Adev) (n : Nat)

def Adev.devicesOf (s : Adev) (n : Nat) : Devices := (s.outs n).devices

theorem devicesOf_setOut {f : StreamOut → StreamOut} (hf : ∀ o, (f o).devices = o.devices) :
    (s.setOut n f).devicesOf = s.devicesOf := by
  funext m
  show (Function.update s.outs n (f (s.outs n)) m).devices = (s.outs m).devices
  by_cases hm : m = n
  · rw [hm, Function.update_self, hf]
  · rw [Function.update_of_ne hm]

theorem devicesOf_selectDevices (id : UsecaseId) :
    (s.selectDevices view id).devicesOf = s.devicesOf := by
  have hrest := congrArg Adev.devicesOf (@selectDevices_rest view s id)
  exact hrest

theorem devicesOf_disableOutputPath : (s.disableOutputPath n).devicesOf = s.devicesOf := by
  rw [Adev.disableOutputPath]
  split
  · rfl
  · rename_i uc _
    have hf : ∀ o : StreamOut, ({ o with pcmDevList := [] } : StreamOut).devices = o.devices :=
      fun _ => rfl
    exact devicesOf_setOut (s.onRouting fun r => r.disableSndDevice uc uc.outSndDevice)
      (streamIndex uc.stream) hf

theorem devicesOf_stopOutputStream : (s.stopOutputStream n).devicesOf = s.devicesOf := by
  have hset : (s.setOut n fun o => { o with offloadState := .idle }).devicesOf = s.devicesOf :=
    devicesOf_setOut s n fun _ => rfl
  rw [Adev.stopOutputStream]
  split
  · simp only
    split
    · exact hset
    · rw [devicesOf_disableOutputPath, hset]
  · rw [devicesOf_disableOutputPath]

theorem devicesOf_doOutStandby : (s.doOutStandby n).devicesOf = s.devicesOf := by
  have hset : ∀ s₁ : Adev, (s₁.setOut n fun o => { o with standby := true }).devicesOf
      = s₁.devicesOf := fun s₁ => devicesOf_setOut s₁ n fun _ => rfl
  have hcompr : ∀ s₁ : Adev, (s₁.setOut n fun o => { o with compr := none }).devicesOf
      = s₁.devicesOf := fun s₁ => devicesOf_setOut s₁ n fun _ => rfl
  rw [Adev.doOutStandby, devicesOf_stopOutputStream]
  split
  · rw [hcompr, hset]
  · rw [hset]

theorem devicesOf_rerouteOutput (val : Devices) :
    (s.rerouteOutput view n val).devicesOf = s.devicesOf := by
  rw [Adev.rerouteOutput]
  simp only
  split
  · exact devicesOf_selectDevices s _
  · split
    · exact devicesOf_doOutStandby s n
    · rw [devicesOf_selectDevices]
      split <;> rfl

/-- The Bluetooth part of `out_set_parameters` sees the new devices. -/
theorem rerouted_devices (val : Devices) : ((s.rerouted view n val).outs n).devices = val := by
  have hset : (s.setOut n fun o => { o with devices := val }).devicesOf n = val := by
    simp [Adev.devicesOf, Adev.setOut]
  rw [Adev.rerouted]
  split
  · exact hset
  · have hsame := congrFun (@devicesOf_rerouteOutput view
      (s.setOut n fun o => { o with devices := val }) n val) n
    exact hsame.trans hset

theorem rerouted_primaryOutput (val : Devices) :
    (s.rerouted view n val).primaryOutput = s.primaryOutput := by
  rw [Adev.rerouted]
  split
  · rfl
  · have hsame := registry_of_handles (@handles_rerouteOutput view
      (s.setOut n fun o => { o with devices := val }) n val)
    exact congrArg Prod.fst hsame

end Devices

-- ── The call ──────────────────────────────────────────────────────────────

/-- One usecase for a call, and none without one. -/
structure CallCounted (s : Adev) : Prop where
  ptrs : DistinctPtrs s.routing
  calls : voiceCalls s.routing = if s.routing.inCall then 1 else 0

section Call

variable {view : StreamOut → InputView} {s s' : Adev}

theorem CallCounted.aside (h : CallCounted s) (haside : Aside s s') : CallCounted s' := by
  obtain ⟨hptrs, hcalls⟩ := haside.calls h.ptrs
  refine ⟨hptrs, ?_⟩
  rw [hcalls, haside.inCall, h.calls]

/-- `stop_voice_call` ends the call and its usecase. -/
theorem counted_stopVoiceCall (h : CallCounted s) :
    CallCounted s.stopVoiceCall ∧ s.stopVoiceCall.routing.inCall = false
      ∧ s.stopVoiceCall.mode = s.mode ∧ s.stopVoiceCall.btScoActive = s.btScoActive := by
  have hledger := ledger_stopVoiceCall s
  have hcall : s.stopVoiceCall.routing.inCall = false := by
    have hdrop := congrArg Ledger.inCall hledger
    rw [Ledger.drop_inCall] at hdrop
    exact hdrop
  have hptrs : DistinctPtrs s.stopVoiceCall.routing :=
    kept_stopVoiceCall (distinctPtrs_kept fun _ => noInput.view) h.ptrs
  have hcount : voiceCalls s.stopVoiceCall.routing = 0 := by
    have hptrs₀ : Distinct (s.ledger.setInCall false).entries (s.ledger.setInCall false).nextPtr :=
      h.ptrs
    have hdrop := congrArg (fun l => l.count .voiceCall) hledger
    simp only [Ledger.count_drop hptrs₀, if_true] at hdrop
    have hbefore : (s.ledger.setInCall false).count .voiceCall = voiceCalls s.routing :=
      (voiceCalls_eq s.routing).symm
    rw [voiceCalls_eq]
    refine hdrop.trans ?_
    rw [hbefore, h.calls]
    split <;> rfl
  refine ⟨⟨hptrs, by rw [hcount, hcall]; rfl⟩, hcall, ?_, ?_⟩
  · simp only [Adev.stopVoiceCall]
    split <;> rfl
  · simp only [Adev.stopVoiceCall]
    split <;> rfl

/-- `start_voice_call` starts a call, if there is memory for its usecase. -/
theorem counted_startVoiceCall (h : CallCounted s) (hidle : s.routing.inCall = false) (n : Nat)
    (alloc : Bool) :
    CallCounted (s.startVoiceCall view n alloc)
      ∧ (s.startVoiceCall view n alloc).routing.inCall = alloc
      ∧ (s.startVoiceCall view n alloc).mode = s.mode
      ∧ (s.startVoiceCall view n alloc).btScoActive = s.btScoActive := by
  cases alloc with
  | false => exact ⟨h, hidle, rfl, rfl⟩
  | true =>
      let s₁ : Adev := s.onRouting fun r =>
        { r with inCall := true }.addUsecase .voiceCall (.output n) [soundCard]
      have hselect : Aside s₁ (s.startVoiceCall view n true) := aside_selectDevices s₁ .voiceCall
      have hcounted : CallCounted s₁ := by
        refine ⟨@distinctPtrs_add { s.routing with inCall := true } h.ptrs _ _ _, ?_⟩
        have hcalls := h.calls
        rw [hidle] at hcalls
        simp only [voiceCalls, Bool.false_eq_true, if_false] at hcalls
        simp [s₁, voiceCalls, Routing.addUsecase, hcalls]
      exact ⟨hcounted.aside hselect, hselect.inCall, hselect.mode, hselect.sco⟩

/-- Modem PCMs are open only for a call or a link. -/
def Adev.Session (s : Adev) (p : VoicePcms) : Prop :=
  p.voiceOpen = true → s.routing.inCall = true ∨ s.btScoActive = true

theorem session_aside {p : VoicePcms} (h : s.Session p) (haside : Aside s s') : s'.Session p := by
  intro hopen
  rw [haside.inCall, haside.sco]
  exact h hopen

theorem session_closed {p : VoicePcms} (hclosed : p.voiceOpen = false) : s.Session p :=
  fun hopen => nomatch hopen.symm.trans hclosed

/-- A call that starts again leaves no PCM open when it fails. -/
theorem counted_restartVoiceCall (h : CallCounted s) (alloc : Bool) (p : VoicePcms) (o : PcmOpens) :
    CallCounted (s.restartVoiceCall view alloc)
      ∧ (s.restartVoiceCall view alloc).Session (s.restartPcms alloc p o)
      ∧ (s.restartVoiceCall view alloc).mode = s.mode
      ∧ (s.restartVoiceCall view alloc).btScoActive = s.btScoActive := by
  obtain ⟨hstopped, hidle, hmode, hsco⟩ := counted_stopVoiceCall h
  rw [Adev.restartVoiceCall, Adev.restartPcms]
  cases s.primaryOutput with
  | none => exact ⟨hstopped, session_closed rfl, hmode, hsco⟩
  | some n =>
      obtain ⟨hstarted, hcall, hmode', hsco'⟩ :=
        @counted_startVoiceCall view _ hstopped hidle n alloc
      refine ⟨hstarted, ?_, hmode'.trans hmode, hsco'.trans hsco⟩
      cases alloc with
      | false => exact session_closed rfl
      | true => exact fun _ => .inl hcall

end Call

-- ── The operations on the call ────────────────────────────────────────────

/-- **THE INVARIANT** of the voice session. -/
structure VoiceInv (s : Adev) (p : VoicePcms) : Prop where
  counted : CallCounted s
  mode : s.routing.inCall = true → s.mode ≠ .normal
  session : s.Session p

section Operations

variable {view : StreamOut → InputView} {s s' : Adev} {p : VoicePcms}

theorem voiceInv_aside (h : VoiceInv s p) (haside : Aside s s') : VoiceInv s' p := by
  refine ⟨h.counted.aside haside, ?_, session_aside h.session haside⟩
  rw [haside.inCall, haside.mode]
  exact h.mode

theorem voiceInv_setMode (h : VoiceInv s p) (mode : Mode) (o : PcmOpens) :
    VoiceInv (s.setMode mode) (s.pcmsAfter view p o (.setMode mode)) := by
  have hset : CallCounted { s with mode := mode } := ⟨h.counted.ptrs, h.counted.calls⟩
  by_cases hmode : s.mode ≠ mode
  · by_cases hends : mode = .normal ∧ s.routing.inCall = true
    · have hhal : s.setMode mode = ({ s with mode := mode } : Adev).stopVoiceCall := by
        rw [Adev.setMode, if_pos hmode]
        exact if_pos hends
      have hpcms : s.pcmsAfter view p o (.setMode mode) = p.stopVoiceSession :=
        if_pos ⟨hmode, hends⟩
      obtain ⟨hstopped, hidle, -, -⟩ := counted_stopVoiceCall hset
      rw [hhal, hpcms]
      exact ⟨hstopped, fun hcall => (by cases hidle.symm.trans hcall), session_closed rfl⟩
    · have hhal : s.setMode mode = { s with mode := mode } := by
        rw [Adev.setMode, if_pos hmode]
        exact if_neg hends
      have hpcms : s.pcmsAfter view p o (.setMode mode) = p := if_neg fun hall => hends hall.2
      rw [hhal, hpcms]
      exact ⟨hset, fun hcall hnormal => hends ⟨hnormal, hcall⟩, h.session⟩
  · have hhal : s.setMode mode = s := by rw [Adev.setMode, if_neg hmode]
    have hpcms : s.pcmsAfter view p o (.setMode mode) = p := if_neg fun hall => hmode hall.1
    rw [hhal, hpcms]
    exact h

theorem voiceInv_wbAmr (h : VoiceInv s p) (type : Int) (alloc : Bool) (o : PcmOpens) :
    VoiceInv (s.wbAmr view type alloc) (s.pcmsAfter view p o (.wbAmr type alloc)) := by
  rw [Adev.wbAmr, Adev.pcmsAfter]
  by_cases htype : s.session.wbAmrType ≠ type
  · rw [if_pos htype]
    simp only
    by_cases hcall : s.routing.inCall = true
    · rw [if_pos hcall, if_pos ⟨htype, hcall⟩]
      have hset : CallCounted { s with session := { s.session with wbAmrType := type } } :=
        ⟨h.counted.ptrs, h.counted.calls⟩
      obtain ⟨hcounted, hsession, hmode, -⟩ :=
        @counted_restartVoiceCall view _ hset alloc p o
      exact ⟨hcounted, fun _ => hmode.trans_ne (h.mode hcall), hsession⟩
    · rw [if_neg hcall, if_neg fun hall => hcall hall.2]
      exact ⟨⟨h.counted.ptrs, h.counted.calls⟩, h.mode, h.session⟩
  · rw [if_neg htype, if_neg fun hall => htype hall.1]
    exact h

/-- The link ends in mode IN_CALL, where `stop_voice_session_bt_sco` leaves the
    modem PCMs alone. -/
def Adev.linkEnds (s : Adev) (n : Nat) : Prop :=
  hasDevice (s.outs n).devices Devices.outAllSco = false ∧ s.btScoActive = true ∧ s.mode = .inCall

theorem session_updateBtSco (h : s.Session p) (n : Nat) (o : PcmOpens) :
    (¬ s.linkEnds n → (s.updateBtSco n).Session (s.btScoPcms n p o))
      ∧ (s.linkEnds n → (s.updateBtSco n).btScoActive = false
        ∧ (s.btScoPcms n p o).voiceOpen = p.voiceOpen) := by
  simp only [Adev.updateBtSco, Adev.btScoPcms]
  split
  · rename_i hstarts
    refine ⟨fun _ _ => .inr rfl, fun hends => ?_⟩
    cases hends.1.symm.trans hstarts.2.1
  · split
    · rename_i hstops
      refine ⟨fun hgoes => session_closed ?_, fun hends => ⟨rfl, ?_⟩⟩
      · rw [VoicePcms.stopVoiceSessionBtSco, if_pos fun hmode => hgoes ⟨hstops.1, hstops.2, hmode⟩]
        rfl
      · rw [VoicePcms.stopVoiceSessionBtSco, if_neg fun hne => hne hends.2.2]
        rfl
    · rename_i hstays
      exact ⟨fun _ => h, fun hends => absurd ⟨hends.1, hends.2.1⟩ hstays⟩

theorem updateBtSco_mode (s : Adev) (n : Nat) :
    (s.updateBtSco n).mode = s.mode ∧ (s.updateBtSco n).primaryOutput = s.primaryOutput := by
  simp only [Adev.updateBtSco]
  split
  · exact ⟨rfl, rfl⟩
  · split
    · exact ⟨rfl, rfl⟩
    · exact ⟨rfl, rfl⟩

/-- The voice call part puts the session in order where it starts a call, or
    starts one again. -/
theorem updateVoiceCall_spec (hcounted : CallCounted s)
    (hnormal : s.routing.inCall = true → s.mode ≠ .normal) (n : Nat) (alloc : Bool)
    (o : PcmOpens) :
    CallCounted (s.updateVoiceCall view n alloc)
      ∧ ((s.updateVoiceCall view n alloc).routing.inCall = true →
        (s.updateVoiceCall view n alloc).mode ≠ .normal)
      ∧ (s.Session p → (s.updateVoiceCall view n alloc).Session (s.voiceCallPcms n alloc p o))
      ∧ (s.mode = .inCall → s.primaryOutput = some n ∧ alloc = true →
        (s.updateVoiceCall view n alloc).Session (s.voiceCallPcms n alloc p o))
      ∧ (s.routing.inCall = false → ¬ (s.primaryOutput = some n ∧ alloc = true) →
        s.updateVoiceCall view n alloc = s ∧ s.voiceCallPcms n alloc p o = p) := by
  rw [Adev.updateVoiceCall, Adev.voiceCallPcms]
  by_cases hours : s.mode = .inCall ∧ s.primaryOutput = some n
  · have hmode : s.mode ≠ .normal := by
      rw [hours.1]
      exact fun h => by cases h
    rw [if_pos hours, if_pos hours]
    by_cases hcall : s.routing.inCall = true
    · obtain ⟨hcounted', hsession, hmode', -⟩ :=
        @counted_restartVoiceCall view _ hcounted alloc p o
      rw [if_pos hcall, if_pos hcall]
      exact ⟨hcounted', fun _ => hmode'.trans_ne hmode, fun _ => hsession, fun _ _ => hsession,
        fun hidle => by cases hcall.symm.trans hidle⟩
    · have hidle := Bool.eq_false_iff.mpr hcall
      obtain ⟨hcounted', hcall', hmode', -⟩ :=
        @counted_startVoiceCall view _ hcounted hidle n alloc
      rw [if_neg hcall, if_neg hcall]
      refine ⟨hcounted', fun _ => hmode'.trans_ne hmode, ?_, ?_, ?_⟩
      · intro hsession
        cases alloc with
        | false => exact hsession
        | true => exact fun _ => .inl hcall'
      · rintro - ⟨-, rfl⟩
        exact fun _ => .inl hcall'
      · intro _ hfails
        cases alloc with
        | false => exact ⟨rfl, rfl⟩
        | true => exact absurd ⟨hours.2, rfl⟩ hfails
  · rw [if_neg hours, if_neg hours]
    exact ⟨hcounted, hnormal, id, fun hmode hprimary => absurd ⟨hmode, hprimary.1⟩ hours,
      fun _ _ => ⟨rfl, rfl⟩⟩

/-- The condition of `VoiceDevice.keepsSession` on one call. -/
def keepsRoute (s : Adev) (p : VoicePcms) (n : Nat) (val : Devices) (alloc : Bool) : Prop :=
  val ≠ 0 → hasDevice val Devices.outAllSco = false → s.btScoActive = true → s.mode = .inCall →
    s.routing.inCall = false → p.voiceOpen = true → s.primaryOutput = some n ∧ alloc = true

/-- **OUT_SET_PARAMETERS** leaves the session in order exactly under its
    condition. -/
theorem outSetParameters_spec (h : VoiceInv s p) (n : Nat) (val : Devices) (alloc : Bool)
    (o : PcmOpens) :
    CallCounted (s.outSetParameters view n val alloc)
      ∧ ((s.outSetParameters view n val alloc).routing.inCall = true →
        (s.outSetParameters view n val alloc).mode ≠ .normal)
      ∧ ((s.outSetParameters view n val alloc).Session
          (s.pcmsAfter view p o (.outSetParameters n val alloc)) ↔ keepsRoute s p n val alloc) := by
  by_cases hval : val ≠ 0
  · -- the states before the Bluetooth part, after it and after the call part
    obtain ⟨i, hhal⟩ : ∃ i, s.outSetParameters view n val alloc
        = (((s.rerouted view n val).updateBtSco n).updateVoiceCall view n alloc).forceInStandby
          i := by
      simp only [Adev.outSetParameters, if_pos hval]
      exact ⟨_, rfl⟩
    have hpcms : s.pcmsAfter view p o (.outSetParameters n val alloc)
        = ((s.rerouted view n val).updateBtSco n).voiceCallPcms n alloc
          ((s.rerouted view n val).btScoPcms n p o) o := if_pos hval
    have haside := @aside_rerouted view s n val
    have hdevices := @rerouted_devices view s n val
    have hprimary := @rerouted_primaryOutput view s n val
    have hinv := voiceInv_aside h haside
    have hmode := haside.mode
    have hsco := haside.sco
    have hcall := haside.inCall
    rw [hhal, hpcms]
    generalize s.rerouted view n val = s₁ at haside hdevices hprimary hinv hmode hsco hcall ⊢
    have hrouting := updateBtSco_routing s₁ n
    obtain ⟨hmode₂, hprimary₂⟩ := updateBtSco_mode s₁ n
    have hbt := session_updateBtSco hinv.session n o
    generalize s₁.btScoPcms n p o = p₁ at hbt ⊢
    generalize s₁.updateBtSco n = s₂ at hrouting hmode₂ hprimary₂ hbt ⊢
    have hcounted₂ : CallCounted s₂ := by
      obtain ⟨hptrs, hcalls⟩ := hinv.counted
      rw [← hrouting] at hptrs hcalls
      exact ⟨hptrs, hcalls⟩
    have hnormal₂ : s₂.routing.inCall = true → s₂.mode ≠ .normal := by
      rw [hrouting, hmode₂]
      exact hinv.mode
    obtain ⟨hcounted₃, hnormal₃, hkept, hstarts, hidle⟩ :=
      @updateVoiceCall_spec view _ p₁ hcounted₂ hnormal₂ n alloc o
    generalize hs₃ : s₂.updateVoiceCall view n alloc = s₃ at hcounted₃ hnormal₃ hkept hstarts hidle ⊢
    have hforce := aside_forceInStandby s₃ i
    refine ⟨hcounted₃.aside hforce, ?_, ?_⟩
    · rw [hforce.inCall, hforce.mode]
      exact hnormal₃
    · have hsession : (s₃.forceInStandby i).Session (s₂.voiceCallPcms n alloc p₁ o)
          ↔ s₃.Session (s₂.voiceCallPcms n alloc p₁ o) := by
        rw [Adev.Session, Adev.Session, hforce.inCall, hforce.sco]
      rw [hsession]
      have hends : s₁.linkEnds n ↔ hasDevice val Devices.outAllSco = false
          ∧ s.btScoActive = true ∧ s.mode = .inCall := by
        rw [Adev.linkEnds, hdevices, hsco, hmode]
      by_cases hlink : s₁.linkEnds n
      · obtain ⟨hended, hleft⟩ := hbt.2 hlink
        have hincall := hlink.2.2
        constructor
        · intro hafter _ _ _ _ hnocall hopen
          by_contra hfails
          -- nothing has started a call, so nothing keeps the PCMs
          have hnocall₂ : s₂.routing.inCall = false := by rw [hrouting, hcall, hnocall]
          have hfails₂ : ¬ (s₂.primaryOutput = some n ∧ alloc = true) := by
            rw [hprimary₂, hprimary]
            exact hfails
          obtain ⟨hsame, hpcms'⟩ := hidle hnocall₂ hfails₂
          rw [hpcms', hsame] at hafter
          obtain hcall' | hlink' := hafter (hleft.trans hopen)
          · cases hnocall₂.symm.trans hcall'
          · cases hended.symm.trans hlink'
        · intro hroute
          obtain ⟨hnosco, hactive, hincall'⟩ := hends.mp hlink
          by_cases hnocall : s.routing.inCall = false
          · by_cases hopen : p.voiceOpen = true
            · refine hstarts (hmode₂.trans hincall) ?_
              rw [hprimary₂, hprimary]
              exact hroute hval hnosco hactive hincall' hnocall hopen
            · exact hkept (session_closed (hleft.trans (Bool.eq_false_iff.mpr hopen)))
          · refine hkept fun _ => .inl ?_
            rw [hrouting, hcall]
            exact (Bool.not_eq_false _).mp hnocall
      · refine ⟨fun _ _ hnosco hactive hincall => ?_, fun _ => hkept (hbt.1 hlink)⟩
        exact absurd (hends.mpr ⟨hnosco, hactive, hincall⟩) hlink
  · obtain ⟨i, hhal⟩ : ∃ i, s.outSetParameters view n val alloc = s.forceInStandby i := by
      simp only [Adev.outSetParameters, if_neg hval]
      exact ⟨_, rfl⟩
    have hpcms : s.pcmsAfter view p o (.outSetParameters n val alloc) = p := if_neg hval
    have hinv := voiceInv_aside h (aside_forceInStandby s i)
    rw [hhal, hpcms]
    exact ⟨hinv.counted, hinv.mode, fun _ hne => absurd hne hval, fun _ => hinv.session⟩

/-- A step keeps the invariant exactly under its condition. -/
theorem voiceInv_step (d : VoiceDevice) (e : Act × PcmOpens) (d' : VoiceDevice)
    (h : VoiceInv d.hal d.pcms) (hstep : voiceStep view d e = some d') :
    CallCounted d'.hal ∧ (d'.hal.routing.inCall = true → d'.hal.mode ≠ .normal)
      ∧ (d'.hal.Session d'.pcms ↔ d.keepsSession e) := by
  obtain ⟨a, o⟩ := e
  obtain ⟨hal, hhal, rfl⟩ := Option.map_eq_some_iff.mp hstep
  have hother : (∀ n val alloc, a ≠ .outSetParameters n val alloc) →
      VoiceInv hal (d.hal.pcmsAfter view d.pcms o a) →
      CallCounted hal ∧ (hal.routing.inCall = true → hal.mode ≠ .normal)
        ∧ (hal.Session (d.hal.pcmsAfter view d.pcms o a) ↔ d.keepsSession (a, o)) := by
    intro hroute hinv
    refine ⟨hinv.counted, hinv.mode, fun _ => ?_, fun _ => hinv.session⟩
    exact fun n val alloc ha => absurd ha (hroute n val alloc)
  cases a with
  | outSetParameters n val alloc =>
      rw [step] at hhal
      obtain ⟨-, hs⟩ := onOut_eq_some hhal
      split at hs
      · cases hs
      · obtain rfl := Option.some.inj hs
        obtain ⟨hcounted, hnormal, hiff⟩ :=
          @outSetParameters_spec view _ _ h n val alloc o
        refine ⟨hcounted, hnormal, hiff.trans ⟨fun hroute => ?_, fun hkeeps => ?_⟩⟩
        · rintro _ _ _ ⟨⟩
          exact hroute
        · exact hkeeps n val alloc rfl
  | setMode mode =>
      rw [step] at hhal
      obtain rfl := Option.some.inj hhal
      exact hother (fun _ _ _ h => by cases h) (voiceInv_setMode h mode o)
  | wbAmr type alloc =>
      rw [step] at hhal
      obtain rfl := Option.some.inj hhal
      exact hother (fun _ _ _ h => by cases h) (voiceInv_wbAmr h type alloc o)
  | _ =>
      refine hother (fun _ _ _ h => by cases h) (voiceInv_aside h ?_)
      exact aside_step hhal (fun _ _ _ h => by cases h) (fun _ h => by cases h) fun _ _ h => by cases h

theorem voiceSessionOk_of_inv {d : VoiceDevice} (h : VoiceInv d.hal d.pcms) :
    VoiceSessionOk d := by
  refine ⟨?_, h.mode, h.session⟩
  rw [h.counted.calls]
  cases d.hal.routing.inCall with
  | true => exact ⟨fun _ => rfl, fun _ => rfl⟩
  | false => exact ⟨fun h => (nomatch h), fun h => (nomatch h)⟩

theorem voiceInv_start (fx : Bool) (session : VoiceSession) :
    VoiceInv (voiceStart fx session).hal (voiceStart fx session).pcms where
  counted := ⟨⟨List.nodup_nil, fun _ h => absurd h List.not_mem_nil⟩, rfl⟩
  mode := fun h => nomatch h
  session := session_closed rfl

end Operations

/-- **VOICE SESSIONS**: in every run of the HAL the call, its usecase and the
    modem PCMs agree in all states exactly if every step meets its condition. -/
theorem voice_sessions (view : StreamOut → InputView) (fx : Bool) (session : VoiceSession)
    (events : List (Act × PcmOpens)) :
    Always (voiceStep view) VoiceSessionOk (voiceStart fx session) events
      ↔ StepsMeet (voiceStep view) VoiceDevice.keepsSession (voiceStart fx session) events := by
  refine @always_iff_stepsMeet _ _ _ (fun d => VoiceInv d.hal d.pcms) _ _
    (fun _ => voiceSessionOk_of_inv) ?_ ?_ events _ (voiceInv_start fx session)
  · intro d e d' h hok hstep
    obtain ⟨hcounted, hnormal, hiff⟩ := voiceInv_step d e d' h hstep
    exact ⟨hcounted, hnormal, hiff.mpr hok⟩
  · intro d e d' h hstep hafter
    exact (voiceInv_step d e d' h hstep).2.2.mp hafter.pcms

-- ── A PCM that stays open ─────────────────────────────────────────────────

def pcmsReady : PcmOpens :=
  { voiceRx := .ready, voiceTx := .ready, scoRx := .ready, scoTx := .ready }

/-- A link of a VoIP call that ends, on a stream that is not the primary output,
    after the mode has gone to IN_CALL. -/
def linkOutlived : List Act := [
  .openOutput 0 deepBufferOutput, .setMode .inCommunication,
  .outSetParameters 0 Devices.outBluetoothScoHeadset true, .setMode .inCall,
  .outSetParameters 0 Devices.outSpeaker true]

theorem voice_pcms_leaked :
    ¬ ∀ (view : StreamOut → InputView) (fx : Bool) (session : VoiceSession)
      (events : List (Act × PcmOpens)),
      Always (voiceStep view) VoiceSessionOk (voiceStart fx session) events := by
  intro hclaim
  have hend : (run (voiceStep plainView) (voiceStart false plainSession)
      (linkOutlived.map fun a => (a, pcmsReady))).map
      (fun d => (d.pcms.voiceOpen, d.hal.routing.inCall, d.hal.btScoActive))
      = some (true, false, false) := by
    decide +kernel
  obtain ⟨d, hrun, hd⟩ := Option.map_eq_some_iff.mp hend
  have hok := hclaim plainView false plainSession (linkOutlived.map fun a => (a, pcmsReady))
    _ [] d (List.append_nil _).symm hrun
  obtain ⟨hopen, hrest⟩ := Prod.mk.inj hd
  obtain ⟨hcall, hlink⟩ := Prod.mk.inj hrest
  obtain hcall' | hlink' := hok.pcms hopen
  · exact nomatch hcall.symm.trans hcall'
  · exact nomatch hlink.symm.trans hlink'

end AudioHal

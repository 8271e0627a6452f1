import Universal7580.AudioHalProofs

/-! # The moves of the routing

    Every operation of the HAL works on the routing by a few kinds of moves:
    `select_devices` for a usecase, a usecase added to the list, and a usecase
    stopped.  `kept_step` is the rule that a property of the routing which each
    kind keeps is kept by every operation.  The one exception is the own part of
    `out_set_parameters`, where `out_set_offload_parameters` changes a usecase
    before its devices are selected: it is left to the user of the rule. -/

namespace AudioHal

open AudioRouting

/-- A property of the routing that every kind of move keeps: selecting the
    devices of a usecase, adding a usecase, and stopping one. -/
structure Kept (view : StreamOut → InputView) (J : Routing → Prop) : Prop where
  select : ∀ (s : Adev) (id : UsecaseId), J s.routing → J (s.selectDevices view id).routing
  addOutput : ∀ (r : Routing) (p : Playback) (n : Nat) (mixers : List Nat),
    J r → J (r.addUsecase (.playback p) (.output n) mixers)
  addInput : ∀ (r : Routing) (n : Nat) (mixers : List Nat),
    J r → J (r.addUsecase .capture (.input n) mixers)
  startCall : ∀ (r : Routing) (n : Nat),
    J r → J ({ r with inCall := true }.addUsecase .voiceCall (.output n) [soundCard])
  stopOutput : ∀ (r : Routing) (p : Playback) (uc : Usecase), J r →
    r.getUsecaseFromId (.playback p) = some uc →
    J ((r.disableSndDevice uc uc.outSndDevice).removeUsecase uc.ptr)
  stopInput : ∀ (r : Routing) (uc : Usecase), J r → r.getUsecaseFromId .capture = some uc →
    J ((r.disableSndDevice uc uc.inSndDevice).removeUsecase uc.ptr)
  stopCall : ∀ (r : Routing) (uc : Usecase), J r → r.getUsecaseFromId .voiceCall = some uc →
    J (((({ r with inCall := false } : Routing).disableSndDevice uc
      uc.outSndDevice).disableSndDevice uc uc.inSndDevice).removeUsecase uc.ptr)
  hangUp : ∀ r : Routing, J r → r.getUsecaseFromId .voiceCall = none →
    J { r with inCall := false }

section Kept

variable {view : StreamOut → InputView} {J : Routing → Prop} {s : Adev}

/-- What `select_devices` comes to: one usecase is moved, or none is found.  A
    usecase that plays while no call has a device is looked up again after the
    call for the active input. -/
inductive Selected (view : StreamOut → InputView) (nested : Adev → UsecaseId → Adev) (s : Adev)
    (id : UsecaseId) : Adev → Prop where
  | missing : s.routing.getUsecaseFromId id = none → Selected view nested s id s
  | call {uc : Usecase} (session : VoiceSession) (out in' : SndDevice) :
      s.routing.getUsecaseFromId id = some uc → uc.type = .voiceCall →
      Selected view nested s id
        ({ s with session := session }.onRouting fun r => r.route uc out in')
  | follow {uc : Usecase} : s.routing.getUsecaseFromId id = some uc →
      uc.type = .pcmPlayback → s.vcOut ≠ .none →
      Selected view nested s id (s.onRouting fun r => r.route uc s.vcOut .none)
  | stopped {s₁ : Adev} {uc : Usecase} : s.routing.getUsecaseFromId id = some uc →
      uc.type = .pcmPlayback → s.vcOut = .none →
      s₁ = (s.inputFollows view (streamIndex uc.stream)).elim s (nested s) →
      Selected view nested s id s₁
  | play {s₁ : Adev} {uc uc' : Usecase} (out : SndDevice) :
      s.routing.getUsecaseFromId id = some uc →
      uc.type = .pcmPlayback → s.vcOut = .none →
      s₁ = (s.inputFollows view (streamIndex uc.stream)).elim s (nested s) →
      s₁.routing.getUsecaseFromId id = some uc' → uc'.type = .pcmPlayback →
      Selected view nested s id (s₁.onRouting fun r => r.route uc' out .none)
  | capture {uc : Usecase} (in' : SndDevice) : s.routing.getUsecaseFromId id = some uc →
      uc.type = .pcmCapture →
      Selected view nested s id (s.onRouting fun r => r.route uc .none in')

theorem type_of_id {r : Routing} {uc : Usecase} {id : UsecaseId}
    (h : r.getUsecaseFromId id = some uc) : uc.type = id.type := by
  rw [Usecase.type, (getUsecaseFromId_eq_some h).2]

theorem selected_selectWith (nested : Adev → UsecaseId → Adev) (s : Adev) (id : UsecaseId) :
    Selected view nested s id (s.selectWith view nested id) := by
  rw [Adev.selectWith]
  split
  · rename_i hnone
    exact .missing hnone
  · rename_i uc huc
    split
    · rename_i htype
      exact .call _ _ _ huc htype
    · rename_i htype
      split
      · rename_i hvc
        exact .follow huc htype hvc
      · rename_i hvc
        have hvc' := Classical.not_not.mp hvc
        simp only
        split
        · exact .stopped huc htype hvc' rfl
        · rename_i uc' huc'
          refine .play _ huc htype hvc' rfl huc' ?_
          rw [type_of_id huc', ← type_of_id huc, htype]
    · rename_i htype
      exact .capture _ huc htype

/-- What the call for the active input keeps, is kept if there is none. -/
theorem kept_follow {K : Adev → Prop} {nested : Adev → UsecaseId → Adev} {n : Nat} (hs : K s)
    (hnested : ∀ id, s.inputFollows view n = some id → K (nested s id)) :
    K ((s.inputFollows view n).elim s (nested s)) := by
  cases hfollows : s.inputFollows view n with
  | none => exact hs
  | some id => exact hnested id hfollows

/-- A usecase that plays may have an output device, and one that captures an
    input device. -/
theorem fits_playback {type : UsecaseType} (h : type = .pcmPlayback) (out : SndDevice) :
    Fits type out .none :=
  ⟨fun _ => rfl, fun hcapture => (nomatch h.symm.trans hcapture)⟩

theorem fits_capture {type : UsecaseType} (h : type = .pcmCapture) (in' : SndDevice) :
    Fits type .none in' :=
  ⟨fun hplayback => (nomatch h.symm.trans hplayback), fun _ => rfl⟩

theorem fits_call {type : UsecaseType} (h : type = .voiceCall) (out in' : SndDevice) :
    Fits type out in' :=
  ⟨fun hplayback => (nomatch h.symm.trans hplayback),
    fun hcapture => (nomatch h.symm.trans hcapture)⟩

/-- What `route` keeps, whatever the devices, `select_devices` keeps. -/
theorem kept_selectWith {nested : Adev → UsecaseId → Adev}
    (hroute : ∀ (r : Routing) (uc : Usecase) (out in' : SndDevice), J r →
      r.getUsecaseFromId uc.id = some uc → Fits uc.type out in' → J (r.route uc out in'))
    (hnested : ∀ (s : Adev) (id : UsecaseId), J s.routing → J (nested s id).routing)
    (s : Adev) (id : UsecaseId) (hs : J s.routing) : J (s.selectWith view nested id).routing := by
  have hfound : ∀ {s : Adev} {uc : Usecase}, s.routing.getUsecaseFromId id = some uc →
      s.routing.getUsecaseFromId uc.id = some uc := by
    intro s uc huc
    rw [(getUsecaseFromId_eq_some huc).2]
    exact huc
  have hsel : Selected view nested s id _ := selected_selectWith nested s id
  generalize s.selectWith view nested id = s' at hsel ⊢
  cases hsel with
  | missing => exact hs
  | call session out in' huc htype =>
      exact hroute _ _ _ _ hs (hfound huc) (fits_call htype out in')
  | follow huc htype => exact hroute _ _ _ _ hs (hfound huc) (fits_playback htype _)
  | stopped huc htype hvc hafter =>
      rw [hafter]
      exact kept_follow (K := fun s => J s.routing) hs fun id' _ => hnested s id' hs
  | play out huc htype hvc hafter huc' htype' =>
      refine hroute _ _ _ _ ?_ (hfound huc') (fits_playback htype' out)
      rw [hafter]
      exact kept_follow (K := fun s => J s.routing) hs fun id' _ => hnested s id' hs
  | capture in' huc htype => exact hroute _ _ _ _ hs (hfound huc) (fits_capture htype in')

theorem kept_selectDevices
    (hroute : ∀ (r : Routing) (uc : Usecase) (out in' : SndDevice), J r →
      r.getUsecaseFromId uc.id = some uc → Fits uc.type out in' → J (r.route uc out in'))
    (s : Adev) (id : UsecaseId) (hs : J s.routing) : J (s.selectDevices view id).routing :=
  kept_selectWith hroute (kept_selectWith hroute fun _ _ h => h) s id hs

/-- `select_devices` changes devices and nothing else of the list. -/
theorem selectDevices_skeleton (s : Adev) (id : UsecaseId) :
    (s.selectDevices view id).routing.skeleton = s.routing.skeleton :=
  @kept_selectDevices view (fun r => r.skeleton = s.routing.skeleton)
    (fun r uc out in' h _ _ => (route_skeleton r uc out in').trans h) s id rfl

theorem kept_enableOutputPath (h : Kept view J) (hs : J s.routing) (n : Nat) (alloc : Bool) :
    J (s.enableOutputPath view n alloc).1.routing := by
  rw [Adev.enableOutputPath]
  split
  · exact hs
  · refine h.select _ _ ?_
    exact h.addOutput _ _ _ _ hs

theorem kept_disableOutputPath (h : Kept view J) (hs : J s.routing) (n : Nat) :
    J (s.disableOutputPath n).routing := by
  rw [Adev.disableOutputPath]
  split
  · exact hs
  · rename_i uc huc
    exact h.stopOutput _ _ _ hs huc

theorem kept_stopOutputStream (h : Kept view J) (hs : J s.routing) (n : Nat) :
    J (s.stopOutputStream n).routing := by
  rw [Adev.stopOutputStream]
  split
  · simp only
    split
    · exact hs
    · exact kept_disableOutputPath h (by exact hs) n
  · exact kept_disableOutputPath h hs n

theorem kept_doOutStandby (h : Kept view J) (hs : J s.routing) (n : Nat) :
    J (s.doOutStandby n).routing := by
  rw [Adev.doOutStandby]
  refine kept_stopOutputStream h ?_ n
  split <;> exact hs

theorem kept_outStandby (h : Kept view J) (hs : J s.routing) (n : Nat) :
    J (s.outStandby n).routing := by
  rw [Adev.outStandby]
  split
  · exact hs
  · exact kept_doOutStandby h hs n

/-- What `start_output_stream` comes to: the path is enabled, the compressed stream is
    noted, and all is stopped again if nothing could be opened. -/
theorem startOutputStream_cases (view : StreamOut → InputView) (s : Adev) (n : Nat)
    (w : WriteResult) :
    (s.startOutputStream view n w).1 = (s.enableOutputPath view n w.alloc).1
      ∨ ∃ c, (s.startOutputStream view n w).1
          = ((s.enableOutputPath view n w.alloc).1.setOut n fun o => { o with compr := c })
        ∨ (s.startOutputStream view n w).1
          = ((s.enableOutputPath view n w.alloc).1.setOut n
              fun o => { o with compr := c }).stopOutputStream n := by
  rw [Adev.startOutputStream]
  generalize s.enableOutputPath view n w.alloc = path
  obtain ⟨s₁, ok⟩ := path
  cases ok with
  | false => exact Or.inl rfl
  | true =>
      simp only
      refine Or.inr ?_
      split
      · split
        · exact ⟨some false, Or.inl rfl⟩
        · exact ⟨none, Or.inr rfl⟩
      · split
        · exact ⟨none, Or.inl rfl⟩
        · exact ⟨none, Or.inr rfl⟩

theorem kept_startOutputStream (h : Kept view J) (hs : J s.routing) (n : Nat) (w : WriteResult) :
    J (s.startOutputStream view n w).1.routing := by
  have hpath := kept_enableOutputPath h hs n w.alloc
  rcases startOutputStream_cases view s n w with heq | ⟨c, heq | heq⟩
  · rw [heq]
    exact hpath
  · rw [heq]
    exact hpath
  · rw [heq]
    exact kept_stopOutputStream h (by exact hpath) n

theorem kept_stopVoiceCall (h : Kept view J) (hs : J s.routing) : J s.stopVoiceCall.routing := by
  simp only [Adev.stopVoiceCall]
  split
  · rename_i hnone
    exact h.hangUp _ hs hnone
  · rename_i uc huc
    exact h.stopCall _ _ hs huc

theorem kept_startVoiceCall (h : Kept view J) (hs : J s.routing) (n : Nat) (alloc : Bool) :
    J (s.startVoiceCall view n alloc).routing := by
  rw [Adev.startVoiceCall]
  split
  · exact hs
  · exact h.select _ _ (h.startCall _ _ hs)

theorem kept_restartVoiceCall (h : Kept view J) (hs : J s.routing) (alloc : Bool) :
    J (s.restartVoiceCall view alloc).routing := by
  rw [Adev.restartVoiceCall]
  split
  · exact kept_stopVoiceCall h hs
  · exact kept_startVoiceCall h (kept_stopVoiceCall h hs) _ _

theorem kept_stopInputStream (h : Kept view J) (hs : J s.routing) (n : Nat) :
    J (s.stopInputStream n).routing := by
  simp only [Adev.stopInputStream]
  split
  · exact hs
  · rename_i uc huc
    exact h.stopInput _ _ hs huc

theorem kept_doInStandby (h : Kept view J) (hs : J s.routing) (n : Nat) :
    J (s.doInStandby n).routing := by
  rw [Adev.doInStandby]
  split
  · exact hs
  · exact kept_stopInputStream h hs n

theorem kept_forceInStandby (h : Kept view J) (hs : J s.routing) (i : Option Nat) :
    J (s.forceInStandby i).routing := by
  cases i with
  | none => exact hs
  | some n => exact kept_doInStandby h hs n

theorem kept_startInputStream (h : Kept view J) (hs : J s.routing) (n : Nat) (w : ReadResult) :
    J (s.startInputStream view n w).1.routing := by
  simp only [Adev.startInputStream]
  split
  · exact hs
  · split
    · exact hs
    · rename_i p _ _
      have hsel := h.select (((({ s with activeInput := some n } : Adev).setIn n fun i =>
        { i with pcmDevList := [p] }).onRouting fun r => r.addUsecase .capture (.input n) [p.card]))
        .capture (h.addInput _ _ _ hs)
      split
      · exact hsel
      · exact kept_stopInputStream h hsel n

theorem kept_writeOffload (h : Kept view J) (hs : J s.routing) (n : Nat) (w : WriteResult) :
    J (s.writeOffload view n w).routing := by
  simp only [Adev.writeOffload]
  split
  · have hpath := kept_enableOutputPath h hs n w.allocFlushed
    generalize s.enableOutputPath view n w.allocFlushed = path at hpath ⊢
    obtain ⟨s₁, ok⟩ := path
    cases ok with
    | false => exact hpath
    | true =>
        simp only
        split <;> exact hpath
  · split <;> exact hs

theorem kept_writePcm (h : Kept view J) (hs : J s.routing) (n : Nat) (w : WriteResult) :
    J (s.writePcm n w).routing := by
  rw [Adev.writePcm]
  split
  · exact hs
  · exact kept_outStandby h hs n

theorem kept_outWrite (h : Kept view J) (hs : J s.routing) {n : Nat} {w : WriteResult} {s' : Adev}
    (hw : s.outWrite view n w = some s') : J s'.routing := by
  have hstart := kept_startOutputStream h hs n w
  refine outWrite_rule (motive := fun s => J s.routing) hw (fun _ => hs) (fun _ _ => hstart)
    (fun _ _ => hstart) ?_ (fun _ _ hs₁ => hs₁) ?_ ?_
  · exact fun s₁ hs₁ => kept_writeOffload h hs₁ n w
  · exact fun s₁ hs₁ => kept_writePcm h hs₁ n w
  · exact fun s₁ input hs₁ => kept_forceInStandby h hs₁ input

theorem kept_updateVoiceCall (h : Kept view J) (hs : J s.routing) (n : Nat) (alloc : Bool) :
    J (s.updateVoiceCall view n alloc).routing := by
  rw [Adev.updateVoiceCall]
  split
  · split
    · exact kept_restartVoiceCall h hs alloc
    · exact kept_startVoiceCall h hs n alloc
  · exact hs

theorem updateBtSco_routing (s : Adev) (n : Nat) : (s.updateBtSco n).routing = s.routing := by
  simp only [Adev.updateBtSco]
  split
  · rfl
  · split <;> rfl

/-- Routing an output keeps what its own part of the routing keeps. -/
theorem kept_outSetParameters (h : Kept view J) (hs : J s.routing) {n : Nat} {val : Devices}
    (hown : (s.outs n).standby = false → val ≠ 0 →
      J ((s.setOut n fun o => { o with devices := val }).rerouteOutput view n val).routing)
    (alloc : Bool) : J (s.outSetParameters view n val alloc).routing := by
  simp only [Adev.outSetParameters]
  refine kept_forceInStandby h ?_ _
  split
  · rename_i hval
    refine kept_updateVoiceCall h ?_ n alloc
    rw [updateBtSco_routing]
    split
    · exact hs
    · rename_i hstandby
      refine hown ?_ hval
      simpa [Adev.setOut] using hstandby
  · exact hs

theorem kept_inRead (h : Kept view J) (hs : J s.routing) {n : Nat} {w : ReadResult} {s' : Adev}
    (hr : s.inRead view n w = some s') : J s'.routing := by
  have hstart := kept_startInputStream h hs n w
  refine inRead_rule (motive := fun s => J s.routing) hr (fun _ => hs) (fun _ _ => hstart)
    (fun _ _ => hstart) ?_
  exact fun s₁ hs₁ => kept_doInStandby h hs₁ n

theorem kept_rerouteInput (h : Kept view J) (hs : J s.routing) (n : Nat) (val : Devices) :
    J (s.rerouteInput view n val).routing := by
  rw [Adev.rerouteInput]
  split
  · split
    · exact h.select _ _ hs
    · exact kept_doInStandby h hs n
  · exact h.select _ _ hs

theorem kept_inSetParameters (h : Kept view J) (hs : J s.routing) (n : Nat)
    (source : Option Source) (routing : Option Devices) :
    J (s.inSetParameters view n source routing).routing :=
  inSetParameters_rule (motive := fun s => J s.routing) n source routing hs (fun _ => hs)
    (fun _ _ hs₁ => hs₁) fun _ val hs₁ => kept_rerouteInput h hs₁ n val

theorem kept_effect (h : Kept view J) (hs : J s.routing) (n : Nat) (auxChanged : Bool)
    (aec : Option Bool) : J (s.addRemoveAudioEffect view n auxChanged aec).routing := by
  have hfirst : J (if auxChanged then s.doInStandby n else s).routing := by
    split
    · exact kept_doInStandby h hs n
    · exact hs
  simp only [Adev.addRemoveAudioEffect]
  generalize (if auxChanged then s.doInStandby n else s) = s₁ at hfirst ⊢
  split
  · exact hfirst
  · split
    · exact hfirst
    · exact kept_doInStandby h (h.select _ _ (by exact hfirst)) n

/-- The HAL with the pointer to the primary output that a new stream leaves, when
    it passes the first checks. -/
def Adev.publish (s : Adev) (n : Nat) (a : OpenOutput) : Adev :=
  { s with primaryOutput := if a.primary then some n else s.primaryOutput }

/-- What `adev_open_output_stream` comes to: nothing without memory, a stream that
    is freed by the checks or because its usecase is active, or one in standby. -/
inductive Opened (s : Adev) (n : Nat) (a : OpenOutput) : Adev → Prop where
  | noMemory : a.alloc = false → Opened s n a s
  | refused : a.alloc = true → s.openPublishes a = false →
      Opened s n a (s.setOut n fun _ => { a.stream with isOpen := false })
  | active : a.alloc = true → s.openPublishes a = true →
      (s.routing.getUsecaseFromId (.playback a.usecase)).isSome →
      Opened s n a ((s.publish n a).setOut n fun _ => { a.stream with isOpen := false })
  | standby : a.alloc = true → s.openPublishes a = true →
      s.routing.getUsecaseFromId (.playback a.usecase) = none →
      Opened s n a ((s.publish n a).setOut n fun _ => { a.stream with standby := true })

theorem setOut_replaced (s : Adev) (n : Nat) (o : StreamOut) (f : StreamOut → StreamOut) :
    (s.setOut n fun _ => o).setOut n f = s.setOut n fun _ => f o := by
  simp [Adev.setOut]

theorem opened_openOutputStream (s : Adev) (n : Nat) (a : OpenOutput) :
    Opened s n a (s.openOutputStream n a) := by
  have hpublish : (if a.primary then { s.setOut n fun _ => a.stream with primaryOutput := some n }
      else s.setOut n fun _ => a.stream) = (s.publish n a).setOut n fun _ => a.stream := by
    rw [Adev.publish]
    split <;> rfl
  rw [Adev.openOutputStream]
  split
  · exact .noMemory ‹_›
  · rename_i halloc
    have halloc : a.alloc = true := Bool.not_eq_false _ ▸ halloc
    simp only [hpublish, setOut_replaced]
    split
    · exact .refused halloc ‹_›
    · rename_i hpublishes
      have hpublishes : s.openPublishes a = true := Bool.not_eq_false _ ▸ hpublishes
      split
      · exact .active halloc hpublishes ‹_›
      · rename_i hactive
        exact .standby halloc hpublishes (Option.not_isSome_iff_eq_none.mp hactive)

theorem openOutputStream_routing (s : Adev) (n : Nat) (a : OpenOutput) :
    (s.openOutputStream n a).routing = s.routing := by
  have hopened := opened_openOutputStream s n a
  generalize s.openOutputStream n a = s' at hopened ⊢
  cases hopened <;> rfl

theorem openInputStream_routing (s : Adev) (n : Nat) (a : OpenInput) :
    (s.openInputStream n a).routing = s.routing := by
  rw [Adev.openInputStream]
  split
  · rfl
  · split <;> rfl

theorem kept_setMode (h : Kept view J) (hs : J s.routing) (mode : Mode) :
    J (s.setMode mode).routing := by
  rw [Adev.setMode]
  split
  · simp only
    split
    · exact kept_stopVoiceCall h hs
    · exact hs
  · exact hs

theorem kept_wbAmr (h : Kept view J) (hs : J s.routing) (type : Int) (alloc : Bool) :
    J (s.wbAmr view type alloc).routing := by
  rw [Adev.wbAmr]
  split
  · simp only
    split
    · exact kept_restartVoiceCall h (by exact hs) alloc
    · exact hs
  · exact hs

/-- **MOVES**: what every kind of move keeps, every operation keeps, if the own
    part of `out_set_parameters` keeps it. -/
theorem kept_step (h : Kept view J) {a : Act} {s' : Adev}
    (hown : ∀ n val alloc, a = .outSetParameters n val alloc → (s.outs n).standby = false →
      val ≠ 0 → J ((s.setOut n fun o => { o with devices := val }).rerouteOutput view n val).routing)
    (hs : J s.routing) (hstep : step view s a = some s') : J s'.routing := by
  cases a with
  | openOutput n a =>
      rw [step] at hstep
      split at hstep
      · exact nomatch hstep
      · obtain rfl := Option.some.inj hstep
        rw [openOutputStream_routing]
        exact hs
  | closeOutput n =>
      rw [step] at hstep
      obtain ⟨-, hstep⟩ := onOut_eq_some hstep
      obtain rfl := Option.some.inj hstep
      exact kept_outStandby h hs n
  | write n w =>
      rw [step] at hstep
      obtain ⟨-, hstep⟩ := onOut_eq_some hstep
      exact kept_outWrite h hs hstep
  | outStandby n =>
      rw [step] at hstep
      obtain ⟨-, hstep⟩ := onOut_eq_some hstep
      obtain rfl := Option.some.inj hstep
      exact kept_outStandby h hs n
  | outSetParameters n val alloc =>
      rw [step] at hstep
      obtain ⟨-, hstep⟩ := onOut_eq_some hstep
      split at hstep
      · exact nomatch hstep
      · obtain rfl := Option.some.inj hstep
        exact kept_outSetParameters h hs (hown n val alloc rfl) alloc
  | pause n =>
      rw [step] at hstep
      obtain ⟨-, ⟨-, rfl⟩ | ⟨-, rfl⟩⟩ := onOffload_eq_some hstep
      · rw [Adev.outPause]
        split
        · exact kept_disableOutputPath h (by exact hs) n
        · exact hs
      · exact hs
  | resume n alloc =>
      rw [step] at hstep
      obtain ⟨-, ⟨-, rfl⟩ | ⟨-, rfl⟩⟩ := onOffload_eq_some hstep
      · rw [Adev.outResume]
        split
        · exact kept_enableOutputPath h hs n alloc
        · exact hs
      · exact hs
  | flush n =>
      rw [step] at hstep
      obtain ⟨-, ⟨-, rfl⟩ | ⟨-, rfl⟩⟩ := onOffload_eq_some hstep
      · rw [Adev.outFlush]
        split <;> exact hs
      · exact hs
  | drain n =>
      rw [step] at hstep
      obtain ⟨-, ⟨-, rfl⟩ | ⟨-, rfl⟩⟩ := onOffload_eq_some hstep <;> exact hs
  | openInput n a =>
      rw [step] at hstep
      split at hstep
      · exact nomatch hstep
      · obtain rfl := Option.some.inj hstep
        rw [openInputStream_routing]
        exact hs
  | closeInput n =>
      rw [step] at hstep
      obtain ⟨-, rfl⟩ := onIn_eq_some hstep
      exact kept_doInStandby h hs n
  | read n w =>
      rw [step] at hstep
      split at hstep
      · exact kept_inRead h hs hstep
      · exact nomatch hstep
  | inStandby n =>
      rw [step] at hstep
      obtain ⟨-, rfl⟩ := onIn_eq_some hstep
      exact kept_doInStandby h hs n
  | inSetParameters n source routing =>
      rw [step] at hstep
      obtain ⟨-, rfl⟩ := onIn_eq_some hstep
      exact kept_inSetParameters h hs n source routing
  | effect n auxChanged aec =>
      rw [step] at hstep
      obtain ⟨-, rfl⟩ := onIn_eq_some hstep
      exact kept_effect h hs n auxChanged aec
  | setMode mode =>
      obtain rfl := Option.some.inj hstep
      exact kept_setMode h hs mode
  | wbAmr type alloc =>
      obtain rfl := Option.some.inj hstep
      exact kept_wbAmr h hs type alloc
  | bluetoothWb on =>
      obtain rfl := Option.some.inj hstep
      exact hs

/-- `rerouteOutput` keeps what every kind of move keeps, if
    `out_set_offload_parameters` keeps it too. -/
theorem kept_rerouteOutput (h : Kept view J)
    (hoffload : ∀ (r : Routing) (p : Playback) (uc : Usecase), J r →
      r.getUsecaseFromId (.playback p) = some uc → J (r.setOffloadParameters uc))
    (hs : J s.routing) (n : Nat) (val : Devices) : J (s.rerouteOutput view n val).routing := by
  rw [Adev.rerouteOutput]
  simp only
  split
  · exact h.select _ _ hs
  · rename_i uc huc
    split
    · exact kept_doOutStandby h hs n
    · refine h.select _ _ ?_
      split
      · exact hoffload s.routing _ uc hs huc
      · exact hs

/-- **EVERY OPERATION** then keeps it. -/
theorem kept_step_offload (h : Kept view J)
    (hoffload : ∀ (r : Routing) (p : Playback) (uc : Usecase), J r →
      r.getUsecaseFromId (.playback p) = some uc → J (r.setOffloadParameters uc))
    (s : Adev) (a : Act) (s' : Adev) (hs : J s.routing) (hstep : step view s a = some s') :
    J s'.routing :=
  kept_step h (fun n val _ _ _ _ => kept_rerouteOutput h hoffload (by exact hs) n val) hs hstep

end Kept

end AudioHal

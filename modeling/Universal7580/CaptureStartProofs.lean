import Universal7580.AudioOffloadProofs
import Universal7580.CaptureStreamProofs

/-! # A capture start that fails

    `start_input_stream` registers the usecase and switches devices before the
    steps that can fail.  It has three ways out: before anything is registered,
    by `stop_input_stream` when the PCM device is not ready, and at its end, with
    the error of a resampler that could not be made.

    `failed_start_undone` says which of them leave everything as it was. -/

namespace CaptureStart

open AudioRouting AudioHal Run

-- ── Starting ─────────────────────────────────────────────────────────────────

/-- What `struct stream_in` has for the resampler. -/
structure Resampling where
  configRate : Nat
  requestedRate : Nat
  auxChannelsChanged : Bool
  resampler : Bool
  deriving DecidableEq, Repr

/-- The audio device with the resamplers of its inputs, and the inputs whose PCM
    device is open. -/
structure Capture where
  adev : Adev
  resampling : Nat → Resampling
  openPcms : List Nat

/-- What the environment does at a start: memory for the usecase and the PCM
    device, the resampler is made, the PCM device is ready. -/
structure StartResult where
  alloc : Bool
  made : Bool
  opened : Bool
  deriving DecidableEq, Repr

def profileRate (p : PcmProfile) : Nat := (CaptureStream.profileConfig p.type).rate

def Resampling.recreates (r : Resampling) (rate : Nat) : Bool :=
  r.configRate != rate || r.auxChannelsChanged || r.requestedRate != rate

/-- The resampler is released and made anew, if it has to be. -/
def Resampling.restart (r : Resampling) (rate : Nat) (made : Bool) : Resampling :=
  { r with
    configRate := rate
    resampler := if r.recreates rate then made else r.resampler }

section Model

variable (view : StreamOut → InputView)

/-- The usecase is registered, and its devices are selected. -/
def register (s : Adev) (n : Nat) (p : PcmProfile) : Adev :=
  let s := s.setIn n fun i => { i with pcmDevList := [p] }
  let s := s.onRouting fun r => r.addUsecase .capture (.input n) [p.card]
  s.selectDevices view .capture

def Capture.setResampling (s : Capture) (n : Nat) (r : Resampling) : Capture :=
  { s with resampling := Function.update s.resampling n r }

/-- The exit `error_config`. -/
def Capture.errorConfig (s : Capture) : Capture × Bool :=
  ({ s with adev := { s.adev with activeInput := none } }, false)

/-- The exit `error_open`. -/
def Capture.errorOpen (s : Capture) (n : Nat) : Capture × Bool :=
  let s := s.setResampling n { s.resampling n with resampler := false }
  { s with adev := s.adev.stopInputStream n }.errorConfig

/-- The profile that `start_input_stream` finds. -/
def Capture.profile (s : Capture) (n : Nat) : Option PcmProfile :=
  getPcmDevice (s.adev.ins n).usecaseType (s.adev.ins n).devices

def Capture.activate (s : Capture) (n : Nat) : Capture :=
  { s with adev := { s.adev with activeInput := some n } }

/-- The state in which the PCM device is opened. -/
def Capture.registered (s : Capture) (n : Nat) (p : PcmProfile) (made : Bool) : Capture :=
  { s with adev := register view s.adev n p }.setResampling n
    ((s.resampling n).restart (profileRate p) made)

/-- `start_input_stream`.  When the resampler cannot be made the function goes
    on, and returns the error at its end. -/
def Capture.startInputStream (s : Capture) (n : Nat) (w : StartResult) : Capture × Bool :=
  match s.profile n with
  | none => (s.activate n).errorConfig
  | some p =>
      if w.alloc then
        let started := (s.activate n).registered view n p w.made
        if w.opened then
          ({ started with openPcms := n :: started.openPcms },
            !(s.resampling n).recreates (profileRate p) || w.made)
        else started.errorOpen n
      else (s.activate n).errorConfig

end Model

/-- What the audio device is told of a start. -/
def Capture.readResult (s : Capture) (n : Nat) (w : StartResult) (didRead : Bool) : ReadResult where
  alloc := w.alloc
  resampler := (s.profile n).elim true fun p =>
    !(s.resampling n).recreates (profileRate p) || w.made
  opened := w.opened
  didRead := didRead

section Levels

variable {view : StreamOut → InputView} {H : Type}

/-- **THE AUDIO DEVICE** goes through the start of its own model. -/
theorem startInputStream_adev (s : Capture) (n : Nat) (w : StartResult) (didRead : Bool) :
    ((s.startInputStream view n w).1.adev, (s.startInputStream view n w).2)
      = s.adev.startInputStream view n (s.readResult n w didRead) := by
  obtain ⟨adev, resampling, openPcms⟩ := s
  obtain ⟨alloc, made, opened⟩ := w
  rw [Capture.startInputStream, Adev.startInputStream]
  simp only [Capture.readResult, Capture.profile]
  cases getPcmDevice (adev.ins n).usecaseType (adev.ins n).devices with
  | none => rfl
  | some p =>
      cases alloc with
      | false => rfl
      | true =>
          cases opened with
          | false => rfl
          | true => rfl

/-- The resampler of a stream. -/
def resamplingOf (i : CaptureStream.StreamIn H) : Resampling where
  configRate := i.config.rate
  requestedRate := i.requestedRate
  auxChannelsChanged := i.auxChannelsChanged
  resampler := i.resampler

theorem startConfig_rate (count : CaptureStream.ChannelMask → Nat) (i : CaptureStream.StreamIn H)
    (p : CaptureStream.PcmConfig) : (i.startConfig count p).rate = p.rate := by
  rw [CaptureStream.StreamIn.startConfig]
  split
  · rfl
  · rfl

/-- **THE STREAM** goes through the start of its own model. -/
theorem startInputStream_stream (count : CaptureStream.ChannelMask → Nat)
    {i : CaptureStream.StreamIn H} {s : Capture} {n : Nat}
    (htype : i.usecaseType = (s.adev.ins n).usecaseType)
    (hdevices : i.devices = (s.adev.ins n).devices) (hresampling : s.resampling n = resamplingOf i)
    (w : StartResult) :
    (resamplingOf (i.startInputStream count ⟨w.alloc, w.made, w.opened⟩).1,
        (i.startInputStream count ⟨w.alloc, w.made, w.opened⟩).2)
      = ((s.startInputStream view n w).1.resampling n, (s.startInputStream view n w).2) := by
  obtain ⟨adev, resampling, openPcms⟩ := s
  obtain ⟨alloc, made, opened⟩ := w
  simp only at htype hdevices hresampling
  rw [Capture.startInputStream, CaptureStream.StreamIn.startInputStream,
    CaptureStream.StreamIn.profile, htype, hdevices]
  simp only [Capture.profile]
  cases getPcmDevice (adev.ins n).usecaseType (adev.ins n).devices with
  | none => exact congrArg (·, false) hresampling.symm
  | some p =>
      cases alloc with
      | false => exact congrArg (·, false) hresampling.symm
      | true =>
          cases opened with
          | false =>
              simp only [Option.map_some, if_true, Bool.false_eq_true, if_false,
                Capture.errorOpen, Capture.errorConfig, Capture.registered, Capture.activate,
                Capture.setResampling, Function.update_self, hresampling]
              refine congrArg (·, false) ?_
              simp only [resamplingOf, startConfig_rate, Resampling.restart]
              rfl
          | true =>
              simp only [Option.map_some, if_true, Capture.registered, Capture.activate,
                Capture.setResampling, Function.update_self, hresampling]
              refine congrArg₂ Prod.mk ?_ rfl
              simp only [resamplingOf, startConfig_rate, Resampling.restart]
              rfl

end Levels

-- ── The device without a number ──────────────────────────────────────────────

/-- "No device" is not counted. -/
def Uncounted (r : Routing) : Prop := r.sndDevRefCnt .none = 0

section Uncounted

variable {r : Routing}

theorem uncounted_enableOne (h : Uncounted r) (uc : Usecase) {d : SndDevice} (hd : d ≠ .none) :
    Uncounted (r.enableOne uc d) :=
  (Function.update_of_ne hd.symm ..).trans h

theorem uncounted_disableOne (h : Uncounted r) (uc : Usecase) (d : SndDevice) :
    Uncounted (r.disableOne uc d) := by
  simp only [Routing.disableOne]
  split
  · exact h
  · rename_i hpos
    have hd : d ≠ .none := fun hd => hpos (hd ▸ h)
    exact (Function.update_of_ne hd.symm ..).trans h

theorem uncounted_enable (h : Uncounted r) (uc : Usecase) {d : SndDevice} (hd : d ≠ .none) :
    Uncounted (r.enableSndDevice uc d) := by
  rw [Routing.enableSndDevice]
  split
  · exact uncounted_enableOne (uncounted_enableOne h uc (by decide)) uc (by decide)
  · exact uncounted_enableOne h uc hd

theorem uncounted_disable (h : Uncounted r) (uc : Usecase) (d : SndDevice) :
    Uncounted (r.disableSndDevice uc d) := by
  rw [Routing.disableSndDevice]
  split
  · exact uncounted_disableOne (uncounted_disableOne h uc _) uc _
  · exact uncounted_disableOne h uc d

theorem uncounted_disableCurrent (h : Uncounted r) (uc : Usecase) (d : SndDevice) :
    Uncounted (r.disableCurrent uc d) := by
  rw [Routing.disableCurrent]
  split
  · exact uncounted_disable h uc d
  · exact h

/-- Induction on the usecases that are moved. -/
theorem uncounted_switchAll {type : UsecaseType} {d : SndDevice} (hd : d ≠ .none)
    (ucs : List Usecase) :
    ∀ {r : Routing}, Uncounted r →
      Uncounted (ucs.foldl (fun r uc => r.switchDevice type d uc) r) := by
  induction ucs with
  | nil => exact fun h => h
  | cons uc ucs ih => exact fun h => ih (uncounted_enable (uncounted_disable h uc _) uc hd)

theorem uncounted_enableNew (h : Uncounted r) (uc : Usecase) (type : UsecaseType) (d : SndDevice) :
    Uncounted (r.enableNew uc type d) := by
  rw [Routing.enableNew]
  split
  · rename_i hd
    exact uncounted_enable (uncounted_switchAll hd _ h) uc hd
  · exact h

theorem uncounted_route (h : Uncounted r) (uc : Usecase) (out in' : SndDevice) :
    Uncounted (r.route uc out in') := by
  rw [Routing.route]
  split
  · exact h
  · have hcurrent := uncounted_disableCurrent (uncounted_disableCurrent h uc uc.outSndDevice) uc
      uc.inSndDevice
    exact uncounted_enableNew (uncounted_enableNew hcurrent uc .pcmPlayback out) uc .pcmCapture in'

theorem uncounted_offload (h : Uncounted r) (uc : Usecase) :
    Uncounted (r.setOffloadParameters uc) := by
  rw [Routing.setOffloadParameters]
  split
  · refine uncounted_disable ?_ _ _
    exact h
  · exact h

theorem uncounted_kept (view : StreamOut → InputView) : Kept view Uncounted where
  select := kept_selectDevices fun _ uc out in' h _ _ => uncounted_route h uc out in'
  addOutput := fun _ _ _ _ h => h
  addInput := fun _ _ _ h => h
  startCall := fun _ _ h => h
  stopOutput := fun _ _ uc h _ => uncounted_disable h uc _
  stopInput := fun _ uc h _ => uncounted_disable h uc _
  stopCall := by
    intro r uc h _
    have hcall : Uncounted { r with inCall := false } := h
    exact uncounted_disable (uncounted_disable hcall uc _) uc _
  hangUp := fun _ h _ => h

theorem uncounted_step {view : StreamOut → InputView} (s : Adev) (a : Act) (s' : Adev)
    (h : Uncounted s.routing) (hstep : step view s a = some s') : Uncounted s'.routing :=
  kept_step_offload (uncounted_kept view) (fun _ _ uc h _ => uncounted_offload h uc) s a s' h hstep

theorem uncounted_run {view : StreamOut → InputView} {fx : Bool} {session : VoiceSession}
    {acts : List Act} {s : Adev} (hrun : run (step view) (start fx session) acts = some s) :
    Uncounted s.routing :=
  run_invariant uncounted_step acts (show Uncounted initial from rfl) hrun

end Uncounted

-- ── Registering and taking back ──────────────────────────────────────────────

/-- `r'` is `r` with a capture usecase at the end of its list, whose device is
    counted. -/
structure Extends (r r' : Routing) (uc : Usecase) : Prop where
  usecases : r'.usecases = r.usecases ++ [uc]
  counts : ∀ x, r'.sndDevRefCnt x = r.sndDevRefCnt x + uses uc.inSndDevice x
  id : uc.id = .capture
  outSndDevice : uc.outSndDevice = .none
  ptr : uc.ptr = r.nextPtr

section Extends

variable {r r' : Routing} {uc : Usecase}

theorem fresh_of_distinct (hd : DistinctPtrs r) {v : Usecase} (hv : v ∈ r.usecases) :
    v.ptr ≠ r.nextPtr :=
  Nat.ne_of_lt (hd.2 v.identity (List.mem_map_of_mem hv))

theorem extends_add (r : Routing) (stream : Stream) (mixers : List Nat) :
    Extends r (r.addUsecase .capture stream mixers)
      { ptr := r.nextPtr
        id := .capture
        outSndDevice := .none
        inSndDevice := .none
        stream := stream
        mixers := mixers } :=
  ⟨rfl, fun x => by rw [uses_none]; rfl, rfl, rfl, rfl⟩

/-- The usecase is found, if there is no other. -/
theorem Extends.find (h : Extends r r' uc) (hnone : r.getUsecaseFromId .capture = none) :
    r'.getUsecaseFromId .capture = some uc := by
  rw [Routing.getUsecaseFromId] at hnone ⊢
  rw [h.usecases, List.find?_append, hnone, Option.none_or]
  exact List.find?_cons_of_pos (decide_eq_true h.id)

/-- Without another capture usecase nothing is moved. -/
theorem checkAndRoute_alone (h : Extends r r' uc)
    (hnone : r.getUsecaseFromId .capture = none) (d : SndDevice) :
    r'.checkAndRouteUsecases uc.ptr .pcmCapture d = r' := by
  have hswitched : (r'.usecases.filter fun v =>
      v.type = .pcmCapture && v.ptr ≠ uc.ptr && v.sndDevice .pcmCapture ≠ d) = [] := by
    refine List.filter_eq_nil_iff.mpr fun v hv hmatch => ?_
    rw [Bool.and_eq_true, Bool.and_eq_true, decide_eq_true_eq, decide_eq_true_eq] at hmatch
    rw [h.usecases] at hv
    obtain hold | hnew := List.mem_append.mp hv
    · have hother := List.find?_eq_none.mp hnone v hold
      have hid : v.id = .capture := by
        cases hid : v.id with
        | capture => rfl
        | playback p =>
            rw [Usecase.type, hid] at hmatch
            cases hmatch.1.1
        | voiceCall =>
            rw [Usecase.type, hid] at hmatch
            cases hmatch.1.1
      exact hother (decide_eq_true hid)
    · exact hmatch.1.2 (congrArg Usecase.ptr (List.mem_singleton.mp hnew))
  rw [Routing.checkAndRouteUsecases]
  simp only [hswitched, List.map_nil, List.not_mem_nil, decide_false, List.filter_false,
    List.foldl_nil]

theorem setUsecase_last (hd : DistinctPtrs r) (husecases : r'.usecases = r.usecases ++ [uc])
    (hptr : uc.ptr = r.nextPtr) (f : Usecase → Usecase) :
    (r'.setUsecase uc.ptr f).usecases = r.usecases ++ [f uc] := by
  have hold : r.usecases.map (fun v => if v.ptr = uc.ptr then f v else v) = r.usecases := by
    refine (List.map_congr_left fun v hv => ?_).trans (List.map_id' r.usecases)
    rw [hptr, if_neg (fresh_of_distinct hd hv)]
  simp only [Routing.setUsecase, husecases, List.map_append, List.map_singleton, hold, if_true]

/-- The usecase goes to a device. -/
theorem Extends.route (h : Extends r r' uc) (hd : DistinctPtrs r) (hin : uc.inSndDevice = .none)
    (hnone : r.getUsecaseFromId .capture = none) (d : SndDevice) :
    Extends r (r'.route uc .none d) { uc with outSndDevice := .none, inSndDevice := d } := by
  rw [Routing.route]
  split
  · rename_i hsame
    have huc : { uc with outSndDevice := .none, inSndDevice := d } = uc := by
      rw [hsame.1, hsame.2]
    rw [huc]
    exact h
  · rename_i hchange
    have hdevice : d ≠ .none := fun hnone => hchange ⟨h.outSndDevice.symm, hnone.trans hin.symm⟩
    have hcurrent : ∀ q : Routing, q.disableCurrent uc .none = q := fun q => by
      rw [Routing.disableCurrent, if_neg (not_not_intro rfl)]
    have hplay : r'.enableNew uc .pcmPlayback .none = r' := by
      rw [Routing.enableNew, if_neg (not_not_intro rfl)]
    have hcapture : r'.enableNew uc .pcmCapture d = r'.enableSndDevice uc d := by
      rw [Routing.enableNew, if_pos hdevice, checkAndRoute_alone h hnone]
    rw [h.outSndDevice, hin, hcurrent, hcurrent, hplay, hcapture]
    refine ⟨?_, ?_, h.id, rfl, h.ptr⟩
    · refine setUsecase_last hd ?_ h.ptr _
      rw [enableSndDevice_usecases, h.usecases]
    · intro x
      refine (enableSndDevice_cnt hdevice).trans ?_
      rw [h.counts, hin, uses_none, Nat.add_zero]

/-- **TAKING BACK** the usecase leaves what there was before it. -/
theorem Extends.stop (h : Extends r r' uc) (hd : DistinctPtrs r) (hzero : Uncounted r) :
    ((r'.disableSndDevice uc uc.inSndDevice).removeUsecase uc.ptr).usecases = r.usecases
      ∧ ((r'.disableSndDevice uc uc.inSndDevice).removeUsecase uc.ptr).sndDevRefCnt
        = r.sndDevRefCnt := by
  constructor
  · have hold : r.usecases.filter (fun v => v.ptr ≠ uc.ptr) = r.usecases := by
      refine List.filter_eq_self.mpr fun v hv => decide_eq_true ?_
      rw [h.ptr]
      exact fresh_of_distinct hd hv
    have hlast : [uc].filter (fun v => v.ptr ≠ uc.ptr) = [] :=
      List.filter_cons_of_neg (by simp)
    rw [Routing.removeUsecase]
    simp only [disableSndDevice_usecases, h.usecases, List.filter_append]
    exact (congrArg₂ (· ++ ·) hold hlast).trans (List.append_nil _)
  · funext x
    have huses : ∀ x, uses uc.inSndDevice x ≤ r'.sndDevRefCnt x := fun x => by
      rw [h.counts]
      exact Nat.le_add_left _ _
    have hnone : r'.sndDevRefCnt .none = 0 := by
      rw [h.counts, uses_at_none, hzero]
    refine (disableSndDevice_cnt huses hnone).trans ?_
    rw [h.counts, Nat.add_sub_cancel]

end Extends

-- ── The ways out ─────────────────────────────────────────────────────────────

/-- Everything a start touches is as it was before the call, and no PCM device is
    open that was not. -/
structure Undone (s s' : Capture) (n : Nat) : Prop where
  usecases : s'.adev.routing.usecases = s.adev.routing.usecases
  counts : s'.adev.routing.sndDevRefCnt = s.adev.routing.sndDevRefCnt
  activeInput : s'.adev.activeInput = s.adev.activeInput
  pcmDevList : (s'.adev.ins n).pcmDevList = (s.adev.ins n).pcmDevList
  resampler : (s'.resampling n).resampler = (s.resampling n).resampler
  openPcms : s'.openPcms = s.openPcms

/-- The condition on the state before: no input is active; and if the start gets
    as far as registering, the PCM device is not ready, no other capture is
    registered, and the stream has no PCM device and no resampler left from an
    earlier start. -/
def Undoable (s : Capture) (n : Nat) (w : StartResult) : Prop :=
  s.adev.activeInput = none
    ∧ ((s.profile n).isSome = true → w.alloc = true →
      w.opened = false ∧ s.adev.routing.getUsecaseFromId .capture = none
        ∧ (s.adev.ins n).pcmDevList = [] ∧ (s.resampling n).resampler = false)

section Exits

variable {view : StreamOut → InputView} {s : Capture} {n : Nat} {w : StartResult}

/-- Nothing is registered: only the active input is lost. -/
theorem errorConfig_undone :
    Undone s (s.activate n).errorConfig.1 n
      ↔ s.adev.activeInput = none :=
  ⟨fun h => h.activeInput.symm, fun h => ⟨rfl, rfl, h.symm, rfl, rfl, rfl⟩⟩

/-- A capture usecase that is found goes to the device for captures. -/
theorem selectDevices_capture {a : Adev} {uc : Usecase}
    (huc : a.routing.getUsecaseFromId .capture = some uc) :
    ∃ d, a.selectDevices view .capture = a.onRouting fun r => r.route uc .none d := by
  have hsel : Selected view (fun s => s.selectWith view fun s _ => s) a .capture _ :=
    selected_selectWith _ a .capture
  rw [Adev.selectDevices]
  generalize a.selectWith view (fun s => s.selectWith view fun s _ => s) .capture = a' at hsel ⊢
  cases hsel with
  | missing hmissing => exact absurd (huc.symm.trans hmissing) (Option.some_ne_none uc)
  | call session out in' hfound htype => cases (type_of_id hfound).symm.trans htype
  | follow hfound htype hvc => cases (type_of_id hfound).symm.trans htype
  | stopped hfound htype hvc hafter => cases (type_of_id hfound).symm.trans htype
  | play out hfound htype hvc hafter hfound' htype' => cases (type_of_id hfound).symm.trans htype
  | capture in' hfound htype =>
      obtain rfl := Option.some.inj (hfound.symm.trans huc)
      exact ⟨in', rfl⟩

/-- Registering, if there is no other capture. -/
theorem register_extends {a : Adev} (hd : DistinctPtrs a.routing)
    (hnone : a.routing.getUsecaseFromId .capture = none) (n : Nat) (p : PcmProfile) :
    ∃ uc, Extends a.routing (register view a n p).routing uc := by
  have hadd := extends_add a.routing (.input n) [p.card]
  obtain ⟨d, hselect⟩ := @selectDevices_capture view
    ((a.setIn n fun i => { i with pcmDevList := [p] }).onRouting fun r =>
      r.addUsecase .capture (.input n) [p.card]) _ (hadd.find hnone)
  have hrouting : (register view a n p).routing = _ := congrArg Adev.routing hselect
  rw [hrouting]
  exact ⟨_, hadd.route hd rfl hnone d⟩

/-- What the exit leaves when the usecase is found. -/
theorem errorOpen_found {uc : Usecase}
    (huc : s.adev.routing.getUsecaseFromId .capture = some uc) :
    (s.errorOpen n).1.adev.routing
        = (s.adev.routing.disableSndDevice uc uc.inSndDevice).removeUsecase uc.ptr
      ∧ ((s.errorOpen n).1.adev.ins n).pcmDevList = [] := by
  rw [Capture.errorOpen, Capture.errorConfig, Adev.stopInputStream]
  simp only [Capture.setResampling, huc]
  refine ⟨rfl, ?_⟩
  simp only [Adev.setIn, Function.update_self]

/-- What it leaves in any case. -/
theorem errorOpen_rest :
    (s.errorOpen n).1.adev.activeInput = none
      ∧ ((s.errorOpen n).1.resampling n).resampler = false
      ∧ (s.errorOpen n).1.openPcms = s.openPcms := by
  refine ⟨rfl, ?_, rfl⟩
  rw [Capture.errorOpen, Capture.errorConfig]
  simp only [Capture.setResampling, Function.update_self]

/-- **ALONE**: the exit takes everything back but what was there before. -/
theorem errorOpen_alone {s₁ : Capture} (hd : DistinctPtrs s.adev.routing)
    (hzero : Uncounted s.adev.routing) (hnone : s.adev.routing.getUsecaseFromId .capture = none)
    (hregistered : ∃ uc, Extends s.adev.routing s₁.adev.routing uc)
    (hpcms : s₁.openPcms = s.openPcms) :
    Undone s (s₁.errorOpen n).1 n
      ↔ s.adev.activeInput = none ∧ (s.adev.ins n).pcmDevList = []
        ∧ (s.resampling n).resampler = false := by
  obtain ⟨uc, huc⟩ := hregistered
  obtain ⟨hrouting, hlist⟩ := @errorOpen_found s₁ n uc (huc.find hnone)
  obtain ⟨hactive, hresampler, hopen⟩ := @errorOpen_rest s₁ n
  obtain ⟨husecases, hcounts⟩ := huc.stop hd hzero
  constructor
  · intro h
    exact ⟨h.activeInput.symm.trans hactive, h.pcmDevList.symm.trans hlist,
      h.resampler.symm.trans hresampler⟩
  · rintro ⟨hinput, hpcmList, hres⟩
    exact
      { usecases := (congrArg Routing.usecases hrouting).trans husecases
        counts := (congrArg Routing.sndDevRefCnt hrouting).trans hcounts
        activeInput := hactive.trans hinput.symm
        pcmDevList := hlist.trans hpcmList.symm
        resampler := hresampler.trans hres.symm
        openPcms := hopen.trans hpcms }

/-- With another capture in front the exit takes that one out, and the new one
    stays. -/
theorem drop_ne {l : Ledger} (hd : Distinct l.entries l.nextPtr) {e : Identity}
    (hfind : l.find .capture = some e) (stream : Stream) :
    ((l.add .capture stream).drop .capture).entries ≠ l.entries := by
  intro h
  have hfound : (l.add .capture stream).find .capture = some e := by
    rw [Ledger.find] at hfind ⊢
    rw [Ledger.add, List.find?_append, hfind, Option.some_or]
  have hptr : e.ptr < l.nextPtr := hd.2 e (List.mem_of_find?_eq_some hfind)
  have hnew : { ptr := l.nextPtr, id := .capture, stream := stream }
      ∈ ((l.add .capture stream).drop .capture).entries := by
    rw [Ledger.drop, hfound]
    refine List.mem_filter.mpr ⟨List.mem_append_right _ List.mem_cons_self, ?_⟩
    exact decide_eq_true (Nat.ne_of_gt hptr)
  rw [h] at hnew
  exact Nat.lt_irrefl _ (hd.2 _ hnew)

theorem ledger_register (a : Adev) (n : Nat) (p : PcmProfile) :
    (register view a n p).ledger = a.ledger.add .capture (.input n) := by
  rw [register, ledger_selectDevices, ledger_addUsecase, ledger_setIn_of_bare]
  exact fun _ => rfl

theorem errorOpen_other {s₁ : Capture} (hd : DistinctPtrs s.adev.routing) {uc : Usecase}
    (huc : s.adev.routing.getUsecaseFromId .capture = some uc)
    (hregistered : s₁.adev.ledger = s.adev.ledger.add .capture (.input n)) :
    ¬ Undone s (s₁.errorOpen n).1 n := by
  intro h
  have hfind : s.adev.ledger.find .capture = some uc.identity := by
    rw [find_ledger, huc]
    rfl
  refine drop_ne (l := s.adev.ledger) hd hfind (.input n) ?_
  have hledger : (s₁.errorOpen n).1.adev.ledger
      = (s.adev.ledger.add .capture (.input n)).drop .capture := by
    rw [← hregistered]
    exact ledger_stopInputStream _ n
  rw [← hledger]
  exact congrArg (List.map Usecase.identity) h.usecases

/-- **EVERY EXIT**: a start is undone exactly if it can be. -/
theorem undone_iff (hd : DistinctPtrs s.adev.routing) (hzero : Uncounted s.adev.routing) :
    Undone s (s.startInputStream view n w).1 n ↔ Undoable s n w := by
  have hconfig := @errorConfig_undone s n
  rw [Undoable, Capture.startInputStream]
  cases hp : s.profile n with
  | none =>
      simp only
      rw [hconfig]
      exact ⟨fun h => ⟨h, fun hsome => by cases hsome⟩, fun h => h.1⟩
  | some p =>
      simp only
      by_cases halloc : w.alloc = true
      · rw [if_pos halloc]
        by_cases hopened : w.opened = true
        · -- the resampler failed, and the PCM device stays open
          rw [if_pos hopened]
          refine iff_of_false (fun h => ?_) fun h => ?_
          · exact List.cons_ne_self _ _ h.openPcms
          · exact Bool.noConfusion (hopened.symm.trans (h.2 rfl halloc).1)
        · rw [if_neg hopened]
          have hclosed : w.opened = false := Bool.eq_false_iff.mpr hopened
          cases hfind : s.adev.routing.getUsecaseFromId .capture with
          | none =>
              have hregistered : ∃ uc, Extends s.adev.routing
                  ((s.activate n).registered view n p w.made).adev.routing uc :=
                @register_extends view (s.activate n).adev hd hfind n p
              rw [errorOpen_alone hd hzero hfind hregistered rfl]
              exact ⟨fun h => ⟨h.1, fun _ _ => ⟨hclosed, rfl, h.2⟩⟩,
                fun h => ⟨h.1, (h.2 rfl halloc).2.2⟩⟩
          | some uc =>
              have hregistered : ((s.activate n).registered view n p w.made).adev.ledger
                  = s.adev.ledger.add .capture (.input n) :=
                ledger_register (s.activate n).adev n p
              refine iff_of_false (errorOpen_other hd hfind hregistered) fun h => ?_
              cases (h.2 rfl halloc).2.1
      · rw [if_neg halloc, hconfig]
        exact ⟨fun h => ⟨h, fun _ hmem => absurd hmem halloc⟩, fun h => h.1⟩

end Exits

-- ── Every device state ───────────────────────────────────────────────────────

/-- **FAILED STARTS**: in every state of the device that is reached, with any
    resamplers and any open PCM devices, a start that fails leaves everything as
    it was exactly if it can be undone. -/
theorem failed_start_undone (view : StreamOut → InputView) {fx : Bool} {session : VoiceSession}
    {acts : List Act} {adev : Adev}
    (hrun : run (step view) (start fx session) acts = some adev) (resampling : Nat → Resampling)
    (openPcms : List Nat) (n : Nat) (w : StartResult) :
    (Capture.startInputStream view ⟨adev, resampling, openPcms⟩ n w).2 = false →
      (Undone ⟨adev, resampling, openPcms⟩
          (Capture.startInputStream view ⟨adev, resampling, openPcms⟩ n w).1 n
        ↔ Undoable ⟨adev, resampling, openPcms⟩ n w) :=
  fun _ => undone_iff (distinctPtrs_run hrun) (uncounted_run hrun)

/-- A capture at 44.1 kHz, which needs a resampler. -/
def resampled : Resampling where
  configRate := 48000
  requestedRate := 44100
  auxChannelsChanged := false
  resampler := false

/-- The PCM device is not ready. -/
def notReady : StartResult := { alloc := true, made := true, opened := false }

/-- The resampler cannot be made. -/
def notMade : StartResult := { alloc := true, made := false, opened := true }

theorem failed_start_undone_camcorder :
    ∃ adev, run (step plainView) (start false plainSession) [.openInput 0 camcorderInput]
        = some adev
      ∧ (Capture.startInputStream plainView ⟨adev, fun _ => resampled, []⟩ 0 notReady).2 = false
      ∧ Undone ⟨adev, fun _ => resampled, []⟩
          (Capture.startInputStream plainView ⟨adev, fun _ => resampled, []⟩ 0 notReady).1 0 := by
  refine ⟨_, rfl, rfl, ?_⟩
  refine (@failed_start_undone plainView false plainSession [.openInput 0 camcorderInput] _ rfl
    (fun _ => resampled) [] 0 notReady rfl).mpr ?_
  exact ⟨rfl, fun _ _ => ⟨rfl, rfl, rfl, rfl⟩⟩

/-- The error is returned with the PCM device open, the usecase registered and the
    input active. -/
theorem resampler_failure_left :
    ∃ adev, run (step plainView) (start false plainSession) [.openInput 0 camcorderInput]
        = some adev
      ∧ (Capture.startInputStream plainView ⟨adev, fun _ => resampled, []⟩ 0 notMade).2 = false
      ∧ (Capture.startInputStream plainView ⟨adev, fun _ => resampled, []⟩ 0 notMade).1.openPcms
        = [0]
      ∧ ¬ Undone ⟨adev, fun _ => resampled, []⟩
          (Capture.startInputStream plainView ⟨adev, fun _ => resampled, []⟩ 0 notMade).1 0 := by
  refine ⟨_, rfl, rfl, rfl, fun h => ?_⟩
  exact List.cons_ne_nil _ _ h.openPcms

end CaptureStart

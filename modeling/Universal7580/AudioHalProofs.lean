import Mathlib
import Universal7580.AudioRoutingProofs
import Universal7580.RunProofs

/-! # The operations of the audio HAL

    The streams of the audio HAL, how `select_devices` finds the devices of a
    usecase, and the operations that start, reroute and stop usecases: opening,
    writing, routing, pausing and closing outputs, opening, reading, routing and
    closing inputs, effects, the audio mode and the reports of the modem.

    An operation is one step of a sequence.  A mutex matters here only where an
    operation returns with it held: `out_write_offload` can leave the stream
    locked and `out_write` can leave `lock_inputs` locked, and what needs the
    mutex afterwards does not return.

    A stream has a number that stands for its address.  `calloc` may return any
    address that is not in use, and a freed stream keeps its content until its
    address is used again.

    The file has the model and, at its end, the lemmas that take an operation
    apart.  What the operations keep is in the files about the routing, the
    usecases, the offload stream and the primary output. -/

namespace AudioHal

open AudioRouting

-- ── Devices as the framework names them ───────────────────────────────────

/-- `audio_devices_t`, a set of devices. -/
abbrev Devices := BitVec 32

namespace Devices

def bitIn : Devices := 0x80000000
def outEarpiece : Devices := 0x1
def outSpeaker : Devices := 0x2
def outWiredHeadset : Devices := 0x4
def outWiredHeadphone : Devices := 0x8
def outBluetoothScoHeadset : Devices := 0x20
def outAllSco : Devices := 0x70
def inCommunication : Devices := 0x1
def inBuiltinMic : Devices := 0x4
def inBluetoothScoHeadset : Devices := 0x8
def inWiredHeadset : Devices := 0x10
def inAuxDigital : Devices := 0x20
def inVoiceCall : Devices := 0x40
def inBackMic : Devices := 0x80

end Devices

/-- `devices & mask`, as a condition. -/
def hasDevice (devices mask : Devices) : Bool := devices &&& mask != 0

/-- `popcount`. -/
def popcount (devices : Devices) : Nat := ((List.range 32).filter devices.getLsbD).length

/-- `audio_mode_t`. -/
inductive Mode where
  | normal
  | ringtone
  | inCall
  | inCommunication
  | other (code : Nat)
  deriving DecidableEq, Repr

/-- `audio_source_t`. -/
inductive Source where
  | default
  | mic
  | camcorder
  | voiceRecognition
  | voiceCommunication
  | other (code : Nat)
  deriving DecidableEq, Repr

-- ── The voice session ─────────────────────────────────────────────────────

/-- What device selection reads of `struct voice_session` and the voice data. -/
structure VoiceSession where
  outDevice : Devices
  twoMicControl : Bool
  twoMicDisabled : Bool
  wbAmrType : Int
  bluetoothWb : Bool
  deriving DecidableEq, Repr

/-- `prepare_voice_session`. -/
def VoiceSession.prepare (session : VoiceSession) (devices : Devices) : VoiceSession :=
  { session with
    outDevice := devices
    twoMicControl := (devices == Devices.outEarpiece || devices == Devices.outSpeaker)
      && !session.twoMicDisabled }

/-- `stop_voice_session`. -/
def VoiceSession.stop (session : VoiceSession) : VoiceSession := { session with outDevice := 0 }

def VoiceSession.usesTwomic (session : VoiceSession) : Bool :=
  !session.twoMicDisabled && session.twoMicControl

def VoiceSession.usesWideband (session : VoiceSession) : Bool :=
  if hasDevice session.outDevice Devices.outAllSco then session.bluetoothWb
  else decide (1 ≤ session.wbAmrType)

-- ── Finding the sound devices ─────────────────────────────────────────────

/-- The order in which `get_output_snd_device` looks for a device of a call. -/
def voiceOutput (devices : Devices) (headphones sco speaker earpiece otherwise : SndDevice) :
    SndDevice :=
  if hasDevice devices Devices.outWiredHeadphone || hasDevice devices Devices.outWiredHeadset then
    headphones
  else if hasDevice devices Devices.outAllSco then sco
  else if hasDevice devices Devices.outSpeaker then speaker
  else if hasDevice devices Devices.outEarpiece then earpiece
  else otherwise

/-- The device of a call: the narrow band one, replaced by the wide band one. -/
def callOutput (session : VoiceSession) (devices : Devices) : SndDevice :=
  let narrow := voiceOutput devices .outVoiceHeadphones .outVoiceBtSco .outVoiceSpeaker
    .outVoiceEarpiece .none
  if session.usesWideband then
    voiceOutput devices .outVoiceHeadphonesWb .outVoiceBtScoWb .outVoiceSpeakerWb
      .outVoiceEarpieceWb narrow
  else narrow

/-- The device outside a call, and in a call that has none of its own. -/
def mediaOutput (devices : Devices) : SndDevice :=
  if popcount devices = 2 then
    if devices = Devices.outWiredHeadphone ||| Devices.outSpeaker
        ∨ devices = Devices.outWiredHeadset ||| Devices.outSpeaker then
      .outSpeakerAndHeadphones
    else .none
  else if popcount devices ≠ 1 then .none
  else if hasDevice devices Devices.outWiredHeadphone
      || hasDevice devices Devices.outWiredHeadset then .outHeadphones
  else if hasDevice devices Devices.outSpeaker then .outSpeaker
  else if hasDevice devices Devices.outAllSco then .outBtSco
  else if hasDevice devices Devices.outEarpiece then .outEarpiece
  else .none

def getOutputSndDevice (mode : Mode) (session : VoiceSession) (devices : Devices) : SndDevice :=
  if devices = 0 ∨ hasDevice devices Devices.bitIn = true then .none
  else
    let call := if mode = .inCall then callOutput session devices else .none
    if call ≠ .none then call else mediaOutput devices

/-- What is read of an active input: its fields, or those an output stream has
    in their place. -/
structure InputView where
  source : Source
  devices : Devices
  enableAec : Bool
  usecase : Option UsecaseId
  deriving DecidableEq, Repr

/-- The microphone of a call. -/
def callInput (session : VoiceSession) (outDevice : Devices) : SndDevice :=
  let earpiece := hasDevice outDevice Devices.outEarpiece
    || hasDevice outDevice Devices.outWiredHeadphone
  let d := if hasDevice outDevice Devices.outWiredHeadset then .inVoiceHeadsetMic else .inVoiceMic
  let d := if session.usesTwomic then
      if earpiece then .inVoiceEarpieceMic
      else if hasDevice outDevice Devices.outSpeaker then .inVoiceSpeakerMic
      else d
    else d
  let d := if session.usesWideband && hasDevice outDevice Devices.outWiredHeadset then
      .inVoiceHeadsetMicWb
    else d
  let d := if session.usesWideband && session.usesTwomic then
      if earpiece then .inVoiceEarpieceMicWb
      else if hasDevice outDevice Devices.outSpeaker then .inVoiceSpeakerMicWb
      else d
    else d
  if hasDevice outDevice Devices.outAllSco then
    if session.usesWideband then .inVoiceBtScoMicWb else .inVoiceBtScoMic
  else d

/-- The microphone for an echo canceller. -/
def aecInput (inDevice outDevice : Devices) : SndDevice :=
  if hasDevice inDevice Devices.inBackMic then .inSpeakerMicAec
  else if hasDevice inDevice Devices.inBuiltinMic then
    if hasDevice outDevice Devices.outWiredHeadphone then .inSpeakerMicAec else .inEarpieceMicAec
  else if hasDevice inDevice Devices.inWiredHeadset then .inHeadsetMicAec
  else .none

/-- The microphone by the input device, or by the output device if there is no
    input device that decides. -/
def plainInput (inDevice outDevice : Devices) : SndDevice :=
  if inDevice ≠ 0 ∧ hasDevice inDevice Devices.inVoiceCall = false
      ∧ hasDevice inDevice Devices.inCommunication = false then
    if hasDevice inDevice Devices.inBuiltinMic then .inEarpieceMic
    else if hasDevice inDevice Devices.inBackMic then .inSpeakerMic
    else if hasDevice inDevice Devices.inWiredHeadset then .inHeadsetMic
    else if hasDevice inDevice Devices.inBluetoothScoHeadset then .inBtScoMic
    else if hasDevice inDevice Devices.inAuxDigital then .inHdmiMic
    else .inEarpieceMic
  else if hasDevice outDevice Devices.outEarpiece then .inEarpieceMic
  else if hasDevice outDevice Devices.outWiredHeadset then .inHeadsetMic
  else if hasDevice outDevice Devices.outSpeaker then .inSpeakerMic
  else if hasDevice outDevice Devices.outWiredHeadphone then .inEarpieceMic
  else if hasDevice outDevice Devices.outBluetoothScoHeadset then .inBtScoMic
  else .inEarpieceMic

def getInputSndDevice (mode : Mode) (session : VoiceSession) (activeInput : Option InputView)
    (outDevice : Devices) : SndDevice :=
  let source := activeInput.elim .default InputView.source
  let inDevice := activeInput.elim 0 fun i => i.devices &&& ~~~Devices.bitIn
  let orPlain (d : SndDevice) (inDevice : Devices) : SndDevice :=
    if d ≠ .none then d else plainInput inDevice outDevice
  if mode = .inCall then
    if outDevice = 0 then .none else callInput session outDevice
  else
    match source with
    | .camcorder =>
        orPlain (if hasDevice inDevice Devices.inBuiltinMic
          || hasDevice inDevice Devices.inBackMic then .inCamcorderMic else .none) inDevice
    | .voiceRecognition =>
        orPlain (if hasDevice inDevice Devices.inBuiltinMic then .inVoiceRecMic
          else if hasDevice inDevice Devices.inWiredHeadset then .inVoiceRecHeadsetMic
          else .none) inDevice
    | .voiceCommunication | .mic =>
        let inDevice := if hasDevice outDevice Devices.outSpeaker then Devices.inBackMic
          else inDevice
        orPlain (if activeInput.any InputView.enableAec then aecInput inDevice outDevice
          else .none) inDevice
    | .default => .none
    | .other _ => plainInput inDevice outDevice

-- ── PCM profiles ──────────────────────────────────────────────────────────

/-- The types `get_pcm_device` tells apart. -/
inductive PcmType where
  | playback
  | capture
  | captureLowLatency
  deriving DecidableEq, Repr

/-- What routing reads of `struct pcm_device_profile`. -/
structure PcmProfile where
  type : PcmType
  card : Nat
  devices : Devices
  deriving DecidableEq, Repr

/-- `SOUND_CARD`. -/
def soundCard : Nat := 0

def captureDevices : Devices :=
  Devices.inBuiltinMic ||| Devices.inWiredHeadset ||| Devices.inBackMic
    ||| Devices.inBluetoothScoHeadset

/-- The table `pcm_devices`. -/
def pcmDevices : List PcmProfile := [
  { type := .playback
    card := soundCard
    devices := Devices.outWiredHeadset ||| Devices.outWiredHeadphone ||| Devices.outSpeaker
      ||| Devices.outEarpiece ||| Devices.outAllSco },
  { type := .capture, card := soundCard, devices := captureDevices },
  { type := .captureLowLatency, card := soundCard, devices := captureDevices }]

def getPcmDevice (type : PcmType) (devices : Devices) : Option PcmProfile :=
  pcmDevices.find? fun p => p.type = type && hasDevice (devices &&& ~~~Devices.bitIn) p.devices

/-- The loop of `uc_select_pcm_devices`: a profile for the devices left over, as
    long as there is one.  A round takes the devices of its profile away, so
    there are no more rounds than profiles. -/
def selectPcmDevices : Nat → Devices → List PcmProfile
  | 0, _ => []
  | rounds + 1, devices =>
      match getPcmDevice .playback devices with
      | none => []
      | some p => p :: selectPcmDevices rounds (devices &&& ~~~p.devices)

/-- The profiles of an output. -/
def outputProfiles (devices : Devices) : List PcmProfile :=
  selectPcmDevices pcmDevices.length devices

/-- The cards of some profiles, each once: the `mixer_list` of an output. -/
def mixerCards (profiles : List PcmProfile) : List Nat :=
  profiles.foldl (fun cards p => if p.card ∈ cards then cards else cards ++ [p.card]) []

-- ── Streams ───────────────────────────────────────────────────────────────

inductive OffloadState where
  | idle
  | playing
  | paused
  | pausedFlushed
  deriving DecidableEq, Repr

/-- `struct stream_out`.  `compr` is the open compress handle, with whether
    `compress_start` was issued on it; `locked` says that an operation returned
    with the mutex of the stream held; `isOpen` that the stream is not freed. -/
structure StreamOut where
  usecase : Playback
  devices : Devices
  standby : Bool
  pcmDevList : List PcmProfile
  offloadState : OffloadState
  compr : Option Bool
  isOpen : Bool
  locked : Bool
  deriving DecidableEq, Repr

/-- `struct stream_in`.  Its usecase is always `USECASE_AUDIO_CAPTURE`. -/
structure StreamIn where
  devices : Devices
  source : Source
  usecaseType : PcmType
  enableAec : Bool
  standby : Bool
  pcmDevList : List PcmProfile
  isOpen : Bool
  deriving DecidableEq, Repr

def StreamIn.view (i : StreamIn) : InputView :=
  { source := i.source, devices := i.devices, enableAec := i.enableAec, usecase := some .capture }

/-- The number of a stream. -/
def streamIndex : Stream → Nat
  | .output n => n
  | .input n => n

/-- `struct audio_device`.  `offloadFx` says whether the offload effect hooks
    were found, `lockInputs` that an operation returned with `lock_inputs`
    held. -/
structure Adev where
  routing : Routing
  mode : Mode
  session : VoiceSession
  btScoActive : Bool
  activeInput : Option Nat
  primaryOutput : Option Nat
  outs : Nat → StreamOut
  ins : Nat → StreamIn
  offloadFx : Bool
  lockInputs : Bool

def Adev.setOut (s : Adev) (n : Nat) (f : StreamOut → StreamOut) : Adev :=
  { s with outs := Function.update s.outs n (f (s.outs n)) }

def Adev.setIn (s : Adev) (n : Nat) (f : StreamIn → StreamIn) : Adev :=
  { s with ins := Function.update s.ins n (f (s.ins n)) }

def Adev.onRouting (s : Adev) (f : Routing → Routing) : Adev := { s with routing := f s.routing }

-- ── Selecting devices ─────────────────────────────────────────────────────

section Model

-- What an output stream reads as where an input stream is expected.
variable (view : StreamOut → InputView)

def Adev.viewOf (s : Adev) : Stream → InputView
  | .output n => view (s.outs n)
  | .input n => (s.ins n).view

/-- The `active_input` of `select_devices`: the stream of the first capture or
    voice call usecase. -/
def Adev.activeView (s : Adev) : Option InputView :=
  (s.routing.getUsecaseFromType [.pcmCapture, .voiceCall]).map fun uc => s.viewOf view uc.stream

/-- The voice call usecase whose devices the other usecases take. -/
def Adev.vcUsecase (s : Adev) : Option Usecase :=
  if s.routing.inCall then s.routing.getUsecaseFromId .voiceCall else none

def Adev.vcOut (s : Adev) : SndDevice := s.vcUsecase.elim .none Usecase.outSndDevice

def Adev.vcIn (s : Adev) : SndDevice := s.vcUsecase.elim .none Usecase.inSndDevice

/-- The output devices a capture usecase looks at. -/
def Adev.outDevicesForInput (s : Adev) : Devices :=
  match s.primaryOutput with
  | none => 0
  | some n =>
      if (s.activeView view).any (fun i => i.source = .voiceCommunication)
          && !(s.outs n).standby then (s.outs n).devices
      else 0

def Adev.voiceCallDevices (s : Adev) (devices : Devices) : SndDevice × SndDevice :=
  (getOutputSndDevice s.mode s.session devices,
    getInputSndDevice s.mode s.session (s.activeView view) devices)

def Adev.captureDevice (s : Adev) : SndDevice :=
  if s.vcIn ≠ .none then s.vcIn
  else getInputSndDevice s.mode s.session (s.activeView view) (s.outDevicesForInput view)

/-- Does a playback usecase select the devices of the active input first? -/
def Adev.inputFollows (s : Adev) (n : Nat) : Option UsecaseId :=
  match s.activeView view with
  | none => none
  | some i =>
      if s.primaryOutput = some n ∧ i.source = .voiceCommunication then i.usecase else none

/-- `select_devices`, with the call it makes for the active input. -/
def Adev.selectWith (nested : Adev → UsecaseId → Adev) (s : Adev) (id : UsecaseId) : Adev :=
  match s.routing.getUsecaseFromId id with
  | none => s
  | some uc =>
      match uc.type with
      | .voiceCall =>
          let devices := (s.outs (streamIndex uc.stream)).devices
          let s := { s with session := s.session.prepare devices }
          let d := s.voiceCallDevices view devices
          s.onRouting fun r => r.route uc d.1 d.2
      | .pcmPlayback =>
          if s.vcOut ≠ .none then s.onRouting fun r => r.route uc s.vcOut .none
          else
            let out := getOutputSndDevice s.mode s.session (s.outs (streamIndex uc.stream)).devices
            let s := (s.inputFollows view (streamIndex uc.stream)).elim s (nested s)
            match s.routing.getUsecaseFromId id with
            | none => s
            | some uc => s.onRouting fun r => r.route uc out .none
      | .pcmCapture =>
          let d := s.captureDevice view
          s.onRouting fun r => r.route uc .none d

/-- `select_devices`.  The call for an active input makes no call of its own:
    it is for a capture usecase.  An output stream that is taken for the active
    input can name a playback usecase; a call for that one which called again
    would call itself for ever. -/
def Adev.selectDevices (s : Adev) (id : UsecaseId) : Adev :=
  s.selectWith view (fun s => s.selectWith view fun s _ => s) id

-- ── Output paths ──────────────────────────────────────────────────────────

/-- `enable_output_path_l`.  `alloc` says whether there is memory for the
    usecase. -/
def Adev.enableOutputPath (s : Adev) (n : Nat) (alloc : Bool) : Adev × Bool :=
  if alloc = false then (s, false)
  else
    let id : UsecaseId := .playback (s.outs n).usecase
    let profiles := outputProfiles (s.outs n).devices
    let s := s.setOut n fun o => { o with pcmDevList := profiles }
    let s := s.onRouting fun r => r.addUsecase id (.output n) (mixerCards profiles)
    (s.selectDevices view id, true)

/-- `disable_output_path_l`: it stops the usecase found under the id of the
    stream. -/
def Adev.disableOutputPath (s : Adev) (n : Nat) : Adev :=
  match s.routing.getUsecaseFromId (.playback (s.outs n).usecase) with
  | none => s
  | some uc =>
      let s := s.onRouting fun r => r.disableSndDevice uc uc.outSndDevice
      let s := s.setOut (streamIndex uc.stream) fun o => { o with pcmDevList := [] }
      s.onRouting fun r => r.removeUsecase uc.ptr

def OffloadState.isPaused (o : OffloadState) : Bool := o == .paused || o == .pausedFlushed

/-- `stop_output_stream`.  With the effect hooks a paused stream has no path to
    disable, and the state is reset. -/
def Adev.stopOutputStream (s : Adev) (n : Nat) : Adev :=
  if s.offloadFx then
    let paused := (s.outs n).offloadState.isPaused
    let s := s.setOut n fun o => { o with offloadState := .idle }
    if paused then s else s.disableOutputPath n
  else s.disableOutputPath n

/-- What the environment does when an output is started and written to: memory
    for the usecase, the PCM or compress device opens, the PCM write succeeds,
    memory for the usecase of a flushed stream. -/
structure WriteResult where
  alloc : Bool
  opened : Bool
  wrote : Bool
  allocFlushed : Bool
  deriving DecidableEq, Repr

/-- `start_output_stream`. -/
def Adev.startOutputStream (s : Adev) (n : Nat) (w : WriteResult) : Adev × Bool :=
  match s.enableOutputPath view n w.alloc with
  | (s, false) => (s, false)
  | (s, true) =>
      if (s.outs n).usecase = .offload then
        if w.opened then (s.setOut n fun o => { o with compr := some false }, true)
        else ((s.setOut n fun o => { o with compr := none }).stopOutputStream n, false)
      else
        let s := s.setOut n fun o => { o with compr := none }
        -- without a profile there is no PCM device that could fail
        if w.opened || (s.outs n).pcmDevList.isEmpty then (s, true)
        else (s.stopOutputStream n, false)

/-- `do_out_standby_l`. -/
def Adev.doOutStandby (s : Adev) (n : Nat) : Adev :=
  let s := s.setOut n fun o => { o with standby := true }
  let s := if (s.outs n).usecase = .offload then s.setOut n fun o => { o with compr := none } else s
  s.stopOutputStream n

/-- `out_standby`. -/
def Adev.outStandby (s : Adev) (n : Nat) : Adev :=
  if (s.outs n).standby then s else s.doOutStandby n

-- ── The voice call ────────────────────────────────────────────────────────

/-- `stop_voice_call`. -/
def Adev.stopVoiceCall (s : Adev) : Adev :=
  let s := s.onRouting fun r => { r with inCall := false }
  let s := { s with session := s.session.stop }
  match s.routing.getUsecaseFromId .voiceCall with
  | none => s
  | some uc => s.onRouting fun r =>
      ((r.disableSndDevice uc uc.outSndDevice).disableSndDevice uc uc.inSndDevice).removeUsecase
        uc.ptr

/-- `start_voice_call`, on the primary output. -/
def Adev.startVoiceCall (s : Adev) (n : Nat) (alloc : Bool) : Adev :=
  if alloc = false then s
  else
    let s := s.onRouting fun r =>
      { r with inCall := true }.addUsecase .voiceCall (.output n) [soundCard]
    s.selectDevices view .voiceCall

/-- `stop_voice_call` and `start_voice_call`.  A call that was started has found
    a primary output, and `primary_output` is never cleared. -/
def Adev.restartVoiceCall (s : Adev) (alloc : Bool) : Adev :=
  match s.primaryOutput with
  | none => s.stopVoiceCall
  | some n => s.stopVoiceCall.startVoiceCall view n alloc

-- ── Inputs ────────────────────────────────────────────────────────────────

/-- `stop_input_stream`. -/
def Adev.stopInputStream (s : Adev) (n : Nat) : Adev :=
  let s := { s with activeInput := none }
  match s.routing.getUsecaseFromId .capture with
  | none => s
  | some uc =>
      let s := s.onRouting fun r =>
        (r.disableSndDevice uc uc.inSndDevice).removeUsecase uc.ptr
      s.setIn n fun i => { i with pcmDevList := [] }

/-- `do_in_standby_l`. -/
def Adev.doInStandby (s : Adev) (n : Nat) : Adev :=
  if (s.ins n).standby then s
  else (s.stopInputStream n).setIn n fun i => { i with standby := true }

/-- What the environment does when an input is started and read: memory for the
    usecase, the resampler is made, the PCM device opens, the read succeeds. -/
structure ReadResult where
  alloc : Bool
  resampler : Bool
  opened : Bool
  didRead : Bool
  deriving DecidableEq, Repr

/-- `start_input_stream`.  When the resampler cannot be made the function goes
    on, and returns the error at its end. -/
def Adev.startInputStream (s : Adev) (n : Nat) (w : ReadResult) : Adev × Bool :=
  let s := { s with activeInput := some n }
  match getPcmDevice (s.ins n).usecaseType (s.ins n).devices with
  | none => ({ s with activeInput := none }, false)
  | some p =>
      if w.alloc = false then ({ s with activeInput := none }, false)
      else
        let s := s.setIn n fun i => { i with pcmDevList := [p] }
        let s := s.onRouting fun r => r.addUsecase .capture (.input n) [p.card]
        let s := s.selectDevices view .capture
        if w.opened then (s, w.resampler)
        else ({ s.stopInputStream n with activeInput := none }, false)

/-- The active input that a change of an output stops. -/
def Adev.forcedInput (s : Adev) : Option Nat :=
  s.activeInput.filter fun n =>
    (s.ins n).source = .voiceCommunication || (s.ins n).source = .mic

def Adev.forceInStandby (s : Adev) (i : Option Nat) : Adev := i.elim s s.doInStandby

-- ── Operations on outputs ─────────────────────────────────────────────────

/-- The arguments of `adev_open_output_stream`, with whether the offload
    information is supported and whether there is memory for the stream and for
    the codec. -/
structure OpenOutput where
  offload : Bool
  deepBuffer : Bool
  primary : Bool
  devices : Devices
  infoOk : Bool
  alloc : Bool
  codecAlloc : Bool
  deriving DecidableEq, Repr

def OpenOutput.usecase (a : OpenOutput) : Playback :=
  if a.offload then .offload else if a.deepBuffer then .deepBuffer else .playback

def OpenOutput.outDevices (a : OpenOutput) : Devices :=
  if a.devices = 0 then Devices.outSpeaker else a.devices

/-- The checks before `primary_output` is looked at. -/
def OpenOutput.accepted (a : OpenOutput) : Bool :=
  (getPcmDevice .playback a.outDevices).isSome && (!a.offload || (a.infoOk && a.codecAlloc))

/-- The stream as it stands when the checks are done. -/
def OpenOutput.stream (a : OpenOutput) : StreamOut where
  usecase := a.usecase
  devices := a.outDevices
  standby := false
  pcmDevList := []
  offloadState := .idle
  compr := none
  isOpen := true
  locked := false

/-- The checks of `adev_open_output_stream` that are passed before the stream is
    published as the primary output. -/
def Adev.openPublishes (s : Adev) (a : OpenOutput) : Bool :=
  a.accepted && (!a.primary || s.primaryOutput.isNone)

/-- `adev_open_output_stream`.  A stream that fails a check is freed. -/
def Adev.openOutputStream (s : Adev) (n : Nat) (a : OpenOutput) : Adev :=
  if a.alloc = false then s
  else
    let s := s.setOut n fun _ => a.stream
    if s.openPublishes a = false then s.setOut n fun o => { o with isOpen := false }
    else
      let s := if a.primary then { s with primaryOutput := some n } else s
      if (s.routing.getUsecaseFromId (.playback a.usecase)).isSome then
        s.setOut n fun o => { o with isOpen := false }
      else s.setOut n fun o => { o with standby := true }

/-- `adev_close_output_stream`. -/
def Adev.closeOutputStream (s : Adev) (n : Nat) : Adev :=
  (s.outStandby n).setOut n fun o => { o with isOpen := false }

/-- `out_write_offload`.  Without memory for the usecase of a flushed stream it
    returns with the stream locked. -/
def Adev.writeOffload (s : Adev) (n : Nat) (w : WriteResult) : Adev :=
  let start (s : Adev) : Adev :=
    if (s.outs n).offloadState = .playing then s
    else s.setOut n fun o => { o with compr := o.compr.map fun _ => true, offloadState := .playing }
  if (s.outs n).offloadState = .pausedFlushed then
    match s.enableOutputPath view n w.allocFlushed with
    | (s, false) => s.setOut n fun o => { o with locked := true }
    | (s, true) => start s
  else start s

/-- The write to the PCM devices, and the standby when it fails. -/
def Adev.writePcm (s : Adev) (n : Nat) (w : WriteResult) : Adev :=
  if w.wrote || (s.outs n).pcmDevList.isEmpty then s else s.outStandby n

/-- `out_write`.  After the start of an offload stream it returns without
    stopping the active input, and without releasing `lock_inputs`. -/
def Adev.outWrite (s : Adev) (n : Nat) (w : WriteResult) : Option Adev :=
  if (s.outs n).standby then
    if s.lockInputs then none
    else
      match s.startOutputStream view n w with
      | (s, false) => some s
      | (s, true) =>
          let s := s.setOut n fun o => { o with standby := false }
          let forced := s.forcedInput
          if (s.outs n).usecase = .offload then
            some { s.writeOffload view n w with lockInputs := forced.isSome }
          else some ((s.writePcm n w).forceInStandby forced)
  else if (s.outs n).usecase = .offload then some (s.writeOffload view n w)
  else some (s.writePcm n w)

/-- The loop of `out_set_parameters` over the PCM devices: does one of them not
    take the new devices, or is one of the new devices left over? -/
def needsStandby : List PcmProfile → Devices → Bool
  | [], val => val != 0
  | p :: rest, val => !hasDevice p.devices val || needsStandby rest (val &&& ~~~p.devices)

/-- The part of `out_set_parameters` for a stream that is not in standby. -/
def Adev.rerouteOutput (s : Adev) (n : Nat) (val : Devices) : Adev :=
  let id : UsecaseId := .playback (s.outs n).usecase
  match s.routing.getUsecaseFromId id with
  | none => s.selectDevices view id
  | some uc =>
      if needsStandby (s.outs n).pcmDevList val then s.doOutStandby n
      else
        let s := if (s.outs n).usecase = .offload then
            s.onRouting fun r => r.setOffloadParameters uc
          else s
        s.selectDevices view id

/-- The Bluetooth part: stopping the link outside a call stops the session. -/
def Adev.updateBtSco (s : Adev) (n : Nat) : Adev :=
  let sco := hasDevice (s.outs n).devices Devices.outAllSco
  if (s.mode = .inCommunication ∨ s.mode = .inCall) ∧ sco = true ∧ s.btScoActive = false then
    { s with btScoActive := true }
  else if sco = false ∧ s.btScoActive = true then
    { s with
      btScoActive := false
      session := if s.mode ≠ .inCall then s.session.stop else s.session }
  else s

/-- The voice call part: routing the primary output starts the call, or starts
    it again. -/
def Adev.updateVoiceCall (s : Adev) (n : Nat) (alloc : Bool) : Adev :=
  if s.mode = .inCall ∧ s.primaryOutput = some n then
    if s.routing.inCall then s.restartVoiceCall view alloc else s.startVoiceCall view n alloc
  else s

/-- `out_set_parameters` with a routing value.  `alloc` is the memory for the
    usecase of a voice call. -/
def Adev.outSetParameters (s : Adev) (n : Nat) (val : Devices) (alloc : Bool) : Adev :=
  let o := s.outs n
  let forced := if o.devices ≠ val ∧ val ≠ 0 ∧ o.standby = false ∧ o.usecase = .playback then
      s.forcedInput
    else none
  let s :=
    if val ≠ 0 then
      let s := s.setOut n fun o => { o with devices := val }
      let s := if (s.outs n).standby then s else s.rerouteOutput view n val
      (s.updateBtSco n).updateVoiceCall view n alloc
    else s
  s.forceInStandby forced

def Adev.outPause (s : Adev) (n : Nat) : Adev :=
  if (s.outs n).compr.isSome ∧ (s.outs n).offloadState = .playing then
    (s.setOut n fun o => { o with offloadState := .paused }).disableOutputPath n
  else s

/-- `out_resume_offload`, which does not look at the result of
    `enable_output_path_l`. -/
def Adev.outResume (s : Adev) (n : Nat) (alloc : Bool) : Adev :=
  if (s.outs n).compr.isSome ∧ (s.outs n).offloadState = .paused then
    (s.enableOutputPath view n alloc).1.setOut n fun o => { o with offloadState := .playing }
  else s

def Adev.outFlush (s : Adev) (n : Nat) : Adev :=
  if (s.outs n).offloadState = .paused then
    s.setOut n fun o => { o with offloadState := .pausedFlushed }
  else s

-- ── Operations on inputs ──────────────────────────────────────────────────

/-- The arguments of `adev_open_input_stream`, with whether rate, format and
    channels are supported and whether there is memory for the stream. -/
structure OpenInput where
  devices : Devices
  source : Source
  fast : Bool
  paramsOk : Bool
  alloc : Bool
  deriving DecidableEq, Repr

/-- The type of an input: the low latency profile if there is one, else the
    regular one. -/
def OpenInput.usecaseType (a : OpenInput) : Option PcmType :=
  if a.fast ∧ (getPcmDevice .captureLowLatency a.devices).isSome then some .captureLowLatency
  else if (getPcmDevice .capture a.devices).isSome then some .capture
  else none

/-- `adev_open_input_stream`. -/
def Adev.openInputStream (s : Adev) (n : Nat) (a : OpenInput) : Adev :=
  match a.usecaseType with
  | none => s
  | some type =>
      if a.paramsOk && a.alloc then
        s.setIn n fun _ =>
          { devices := a.devices
            source := a.source
            usecaseType := type
            enableAec := false
            standby := true
            pcmDevList := []
            isOpen := true }
      else s

/-- `adev_close_input_stream`. -/
def Adev.closeInputStream (s : Adev) (n : Nat) : Adev :=
  (s.doInStandby n).setIn n fun i => { i with isOpen := false }

/-- `in_read`. -/
def Adev.inRead (s : Adev) (n : Nat) (w : ReadResult) : Option Adev :=
  let finish (s : Adev) : Option Adev :=
    if w.didRead && !(s.ins n).pcmDevList.isEmpty then some s
    else if s.lockInputs then none
    else some (s.doInStandby n)
  if (s.ins n).standby then
    if s.lockInputs then none
    else
      match s.startInputStream view n w with
      | (s, false) => some (s.doInStandby n)
      | (s, true) => finish (s.setIn n fun i => { i with standby := false })
  else finish s

/-- The routing part of `in_set_parameters`. -/
def Adev.rerouteInput (s : Adev) (n : Nat) (val : Devices) : Adev :=
  match s.routing.getUsecaseFromId .capture, (s.ins n).pcmDevList with
  | some _, p :: _ =>
      if hasDevice (p.devices &&& val) (~~~Devices.bitIn) then s.selectDevices view .capture
      else s.doInStandby n
  | _, _ => s.selectDevices view .capture

/-- `in_set_parameters` with an input source, a routing value, or both. -/
def Adev.inSetParameters (s : Adev) (n : Nat) (source : Option Source) (routing : Option Devices) :
    Adev :=
  let s := match source with
    | none | some .default => s
    | some source => s.setIn n fun i => { i with source := source }
  match routing with
  | none => s
  | some val =>
      if (s.ins n).devices ≠ val ∧ val ≠ 0 then
        let s := s.setIn n fun i => { i with devices := val }
        if (s.ins n).standby then s else s.rerouteInput view n val
      else s

/-- `add_remove_audio_effect`.  `auxChanged` says that an added effect changes
    the auxiliary channels, `aec` that the effect is an echo canceller that is
    switched on or off. -/
def Adev.addRemoveAudioEffect (s : Adev) (n : Nat) (auxChanged : Bool) (aec : Option Bool) : Adev :=
  let s := if auxChanged then s.doInStandby n else s
  match aec with
  | none => s
  | some enable =>
      let s := s.setIn n fun i => { i with enableAec := enable }
      if (s.ins n).standby then s
      else (s.selectDevices view .capture).doInStandby n

-- ── The device ────────────────────────────────────────────────────────────

/-- `adev_set_mode`. -/
def Adev.setMode (s : Adev) (mode : Mode) : Adev :=
  if s.mode ≠ mode then
    let s := { s with mode := mode }
    if mode = .normal ∧ s.routing.inCall = true then s.stopVoiceCall else s
  else s

/-- `voice_session_wb_amr_callback`. -/
def Adev.wbAmr (s : Adev) (type : Int) (alloc : Bool) : Adev :=
  if s.session.wbAmrType ≠ type then
    let s := { s with session := { s.session with wbAmrType := type } }
    if s.routing.inCall then s.restartVoiceCall view alloc else s
  else s

/-- The operations of the HAL. -/
inductive Act where
  | openOutput (n : Nat) (a : OpenOutput)
  | closeOutput (n : Nat)
  | write (n : Nat) (w : WriteResult)
  | outStandby (n : Nat)
  | outSetParameters (n : Nat) (val : Devices) (alloc : Bool)
  | pause (n : Nat)
  | resume (n : Nat) (alloc : Bool)
  | flush (n : Nat)
  | drain (n : Nat)
  | openInput (n : Nat) (a : OpenInput)
  | closeInput (n : Nat)
  | read (n : Nat) (w : ReadResult)
  | inStandby (n : Nat)
  | inSetParameters (n : Nat) (source : Option Source) (routing : Option Devices)
  | effect (n : Nat) (auxChanged : Bool) (aec : Option Bool)
  | setMode (mode : Mode)
  | wbAmr (type : Int) (alloc : Bool)
  | bluetoothWb (on : Bool)
  deriving DecidableEq, Repr

/-- An operation on an open output whose mutex is free. -/
def Adev.onOut (s : Adev) (n : Nat) (f : Adev → Option Adev) : Option Adev :=
  if (s.outs n).isOpen && !(s.outs n).locked then f s else none

/-- An operation on an open offload output whose mutex is free. -/
def Adev.onOffload (s : Adev) (n : Nat) (f : Adev → Adev) : Option Adev :=
  s.onOut n fun s => some (if (s.outs n).usecase = .offload then f s else s)

/-- An operation on an open input that takes `lock_inputs`. -/
def Adev.onIn (s : Adev) (n : Nat) (f : Adev → Adev) : Option Adev :=
  if (s.ins n).isOpen && !s.lockInputs then some (f s) else none

/-- One operation.  It cannot happen on a stream that is not open, or when it
    waits for a mutex that is never released. -/
def step (s : Adev) : Act → Option Adev
  | .openOutput n a => if (s.outs n).isOpen then none else some (s.openOutputStream n a)
  | .closeOutput n => s.onOut n fun s => some (s.closeOutputStream n)
  | .write n w => s.onOut n fun s => s.outWrite view n w
  | .outStandby n => s.onOut n fun s => some (s.outStandby n)
  | .outSetParameters n val alloc => s.onOut n fun s =>
      if s.lockInputs then none else some (s.outSetParameters view n val alloc)
  | .pause n => s.onOffload n fun s => s.outPause n
  | .resume n alloc => s.onOffload n fun s => s.outResume view n alloc
  | .flush n => s.onOffload n fun s => s.outFlush n
  | .drain n => s.onOffload n id
  | .openInput n a => if (s.ins n).isOpen then none else some (s.openInputStream n a)
  | .closeInput n => s.onIn n fun s => s.closeInputStream n
  | .read n w => if (s.ins n).isOpen then s.inRead view n w else none
  | .inStandby n => s.onIn n fun s => s.doInStandby n
  | .inSetParameters n source routing => s.onIn n fun s => s.inSetParameters view n source routing
  | .effect n auxChanged aec => s.onIn n fun s => s.addRemoveAudioEffect view n auxChanged aec
  | .setMode mode => some (s.setMode mode)
  | .wbAmr type alloc => some (s.wbAmr view type alloc)
  | .bluetoothWb on => some { s with session := { s.session with bluetoothWb := on } }

end Model

/-- A stream that was never opened. -/
def noOutput : StreamOut where
  usecase := .playback
  devices := 0
  standby := false
  pcmDevList := []
  offloadState := .idle
  compr := none
  isOpen := false
  locked := false

def noInput : StreamIn where
  devices := 0
  source := .default
  usecaseType := .capture
  enableAec := false
  standby := false
  pcmDevList := []
  isOpen := false

/-- The device after `adev_open`. -/
def start (fx : Bool) (session : VoiceSession) : Adev where
  routing := initial
  mode := .normal
  session := session
  btScoActive := false
  activeInput := none
  primaryOutput := none
  outs := fun _ => noOutput
  ins := fun _ => noInput
  offloadFx := fx
  lockInputs := false

-- ── Taking operations apart ───────────────────────────────────────────────

@[simp]
theorem setOut_routing (s : Adev) (n : Nat) (f : StreamOut → StreamOut) :
    (s.setOut n f).routing = s.routing := rfl

@[simp]
theorem setIn_routing (s : Adev) (n : Nat) (f : StreamIn → StreamIn) :
    (s.setIn n f).routing = s.routing := rfl

@[simp]
theorem onRouting_routing (s : Adev) (f : Routing → Routing) :
    (s.onRouting f).routing = f s.routing := rfl

section Guards

variable {s : Adev}

/-- A stream that is in standby stays there. -/
theorem doInStandby_of_standby {n : Nat} (h : (s.ins n).standby = true) :
    s.doInStandby n = s := by
  rw [Adev.doInStandby, if_pos h]

theorem onOut_eq_some {n : Nat} {f : Adev → Option Adev} {s' : Adev} (h : s.onOut n f = some s') :
    ((s.outs n).isOpen = true ∧ (s.outs n).locked = false) ∧ f s = some s' := by
  rw [Adev.onOut] at h
  split at h
  · rename_i hopen
    exact ⟨by simpa using hopen, h⟩
  · exact nomatch h

theorem onOffload_eq_some {n : Nat} {f : Adev → Adev} {s' : Adev} (h : s.onOffload n f = some s') :
    ((s.outs n).isOpen = true ∧ (s.outs n).locked = false)
      ∧ ((s.outs n).usecase = .offload ∧ s' = f s ∨ (s.outs n).usecase ≠ .offload ∧ s' = s) := by
  obtain ⟨hopen, h⟩ := onOut_eq_some h
  refine ⟨hopen, ?_⟩
  split at h
  · rename_i husecase
    exact .inl ⟨husecase, (Option.some.inj h).symm⟩
  · rename_i husecase
    exact .inr ⟨husecase, (Option.some.inj h).symm⟩

theorem onIn_eq_some {n : Nat} {f : Adev → Adev} {s' : Adev} (h : s.onIn n f = some s') :
    ((s.ins n).isOpen = true ∧ s.lockInputs = false) ∧ s' = f s := by
  rw [Adev.onIn] at h
  split at h
  · rename_i hopen
    exact ⟨by simpa using hopen, (Option.some.inj h).symm⟩
  · exact nomatch h

/-- **SETTING PARAMETERS** of an input takes note of its source and devices,
    and reroutes it. -/
theorem inSetParameters_rule {view : StreamOut → InputView} {motive : Adev → Prop} (n : Nat)
    (source : Option Source) (routing : Option Devices) (hs : motive s)
    (hsource : ∀ source, motive (s.setIn n fun i => { i with source := source }))
    (hdevices : ∀ s val, motive s → motive (s.setIn n fun i => { i with devices := val }))
    (hreroute : ∀ s val, motive s → motive (s.rerouteInput view n val)) :
    motive (s.inSetParameters view n source routing) := by
  unfold Adev.inSetParameters
  dsimp only
  generalize hnoted : (match source with
    | none | some .default => s
    | some source => s.setIn n fun i => { i with source := source }) = s₁
  have hs₁ : motive s₁ := by
    split at hnoted
    · exact hnoted ▸ hs
    · exact hnoted ▸ hs
    · exact hnoted ▸ hsource _
  cases routing with
  | none => exact hs₁
  | some val =>
      dsimp only
      split
      · split
        · exact hdevices s₁ val hs₁
        · exact hreroute _ val (hdevices s₁ val hs₁)
      · exact hs₁

/-- **WRITING** to a stream in standby starts it first, and the write of a started
    stream forces the active input into standby. -/
theorem outWrite_rule {view : StreamOut → InputView} {motive : Adev → Prop} {n : Nat}
    {w : WriteResult} {s' : Adev} (hw : s.outWrite view n w = some s')
    (hawake : (s.outs n).standby = false → motive s)
    (hfailed : (s.outs n).standby = true → (s.startOutputStream view n w).2 = false →
      motive (s.startOutputStream view n w).1)
    (hstarted : (s.outs n).standby = true → (s.startOutputStream view n w).2 = true →
      motive ((s.startOutputStream view n w).1.setOut n fun o => { o with standby := false }))
    (hoffload : ∀ s, motive s → motive (s.writeOffload view n w))
    (hlock : ∀ s locked, motive s → motive { s with lockInputs := locked })
    (hpcm : ∀ s, motive s → motive (s.writePcm n w))
    (hinput : ∀ s input, motive s → motive (s.forceInStandby input)) : motive s' := by
  rw [Adev.outWrite] at hw
  split at hw
  · rename_i hstandby
    split at hw
    · cases hw
    · generalize s.startOutputStream view n w = r at hw hfailed hstarted
      obtain ⟨s₁, ok⟩ := r
      cases ok with
      | false => exact Option.some.inj hw ▸ hfailed hstandby rfl
      | true =>
          have hs₁ := hstarted hstandby rfl
          dsimp only at hw
          split at hw
          · exact Option.some.inj hw ▸ hlock _ _ (hoffload _ hs₁)
          · exact Option.some.inj hw ▸ hinput _ _ (hpcm _ hs₁)
  · rename_i hstandby
    have hs := hawake (Bool.eq_false_iff.mpr hstandby)
    split at hw
    · exact Option.some.inj hw ▸ hoffload s hs
    · exact Option.some.inj hw ▸ hpcm s hs

/-- **READING** from a stream in standby starts it first, and one that cannot be
    started or read goes into standby. -/
theorem inRead_rule {view : StreamOut → InputView} {motive : Adev → Prop} {n : Nat}
    {w : ReadResult} {s' : Adev} (hr : s.inRead view n w = some s')
    (hawake : (s.ins n).standby = false → motive s)
    (hfailed : (s.ins n).standby = true → (s.startInputStream view n w).2 = false →
      motive (s.startInputStream view n w).1)
    (hstarted : (s.ins n).standby = true → (s.startInputStream view n w).2 = true →
      motive ((s.startInputStream view n w).1.setIn n fun i => { i with standby := false }))
    (hstandby : ∀ s, motive s → motive (s.doInStandby n)) : motive s' := by
  -- what is left when the input is out of standby
  have hfinish : ∀ s₁ : Adev, motive s₁ →
      (if w.didRead && !(s₁.ins n).pcmDevList.isEmpty then some s₁
        else if s₁.lockInputs then none else some (s₁.doInStandby n)) = some s' → motive s' := by
    intro s₁ hs₁ hr
    split at hr
    · exact Option.some.inj hr ▸ hs₁
    · split at hr
      · cases hr
      · exact Option.some.inj hr ▸ hstandby s₁ hs₁
  rw [Adev.inRead] at hr
  split at hr
  · rename_i hin
    split at hr
    · cases hr
    · generalize s.startInputStream view n w = r at hr hfailed hstarted
      obtain ⟨s₁, ok⟩ := r
      cases ok with
      | false => exact Option.some.inj hr ▸ hstandby s₁ (hfailed hin rfl)
      | true => exact hfinish _ (hstarted hin rfl) hr
  · rename_i hin
    exact hfinish s (hawake (Bool.eq_false_iff.mpr hin)) hr

end Guards

end AudioHal

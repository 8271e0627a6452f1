import Universal7580.AudioHalProofs
import Universal7580.PreprocessorProofs

/-! # A capture stream and its effects

    `start_input_stream` opens the PCM device with the configuration of its
    profile.  The configuration of the stream is a copy of it, in which an effect
    that was added since the last removal puts the channels of the main and the
    auxiliary masks.

    The file has the stream with its effects and its processing buffers, and
    `channels_agree`: an active stream has the channels of its PCM device exactly
    if the masks have as many as the profile at each start that counts them. -/

namespace CaptureStream

open Run Preprocessor
open AudioHal (Devices PcmType PcmProfile getPcmDevice hasDevice)

variable {H : Type}

-- ── The stream ───────────────────────────────────────────────────────────────

/-- `audio_channel_mask_t`. -/
abbrev ChannelMask := BitVec 32

def channelInStereo : ChannelMask := 0xC
def channelInRight : ChannelMask := 0x8
def channelInFront : ChannelMask := 0x10
def channelInBack : ChannelMask := 0x20

/-- What is read of `struct pcm_config`. -/
structure PcmConfig where
  channels : Nat
  rate : Nat
  periodSize : Nat
  deriving DecidableEq, Repr

/-- The configurations of the two capture profiles. -/
def profileConfig : PcmType → PcmConfig
  | .captureLowLatency => ⟨2, 48000, 256⟩
  | _ => ⟨2, 48000, 1024⟩

/-- The processing buffers. -/
inductive Buffer where
  | procBufIn
  | procBufOut
  deriving DecidableEq, Repr

/-- Frames written to a processing buffer: the frame behind the last one, the
    size of a frame of the PCM device, and the room of the buffer in bytes. -/
structure Write where
  buffer : Buffer
  upTo : Nat
  frameBytes : Nat
  room : Nat
  deriving DecidableEq, Repr

/-- `struct stream_in`.  `pcm` is the configuration that the open PCM device was
    opened with; `procBufIn` and `procBufOut` are the sizes of the buffers in
    bytes, 0 for none; `writes` is what was written to them.  `overrun` says that
    an effect was written behind the table, where the other fields are. -/
structure StreamIn (H : Type) where
  config : PcmConfig
  pcm : Option PcmConfig
  standby : Bool
  devices : Devices
  usecaseType : PcmType
  mainChannels : ChannelMask
  requestedRate : Nat
  resampler : Bool
  enableAec : Bool
  table : EffectTable H
  auxChannels : ChannelMask
  auxChannelsChanged : Bool
  procBufIn : Nat
  procBufOut : Nat
  procBufSize : Nat
  procBufFrames : Nat
  writes : List Write
  overrun : Bool

/-- The profile that `get_pcm_device` finds. -/
def StreamIn.profile (s : StreamIn H) : Option PcmConfig :=
  (getPcmDevice s.usecaseType s.devices).map fun p => profileConfig p.type

/-- The arguments of `adev_open_input_stream`. -/
structure OpenArgs where
  devices : Devices
  channelMask : ChannelMask
  sampleRate : Nat
  pcm16 : Bool
  fast : Bool
  alloc : Bool
  deriving DecidableEq, Repr

def sampleRates : List Nat := [8000, 11025, 12000, 16000, 22050, 24000, 32000, 44100, 48000]

section Model

-- `audio_channel_count_from_in_mask`.
variable (count : ChannelMask → Nat)

/-- `check_input_parameters`. -/
def checkInputParameters (a : OpenArgs) : Bool :=
  a.pcm16 && decide (1 ≤ count a.channelMask ∧ count a.channelMask ≤ 2)
    && decide (a.sampleRate ∈ sampleRates)

/-- The low latency profile if there is one for the devices, else the regular
    one. -/
def OpenArgs.usecaseType (a : OpenArgs) : PcmType :=
  if a.fast && (getPcmDevice .captureLowLatency a.devices).isSome then .captureLowLatency
  else .capture

/-- `adev_open_input_stream`. -/
def openInputStream (a : OpenArgs) : Option (StreamIn H) :=
  if checkInputParameters count a then
    match getPcmDevice a.usecaseType a.devices with
    | none => none
    | some p =>
        if a.alloc then
          some
            { config := profileConfig p.type
              pcm := none
              standby := true
              devices := a.devices
              usecaseType := a.usecaseType
              mainChannels := a.channelMask
              requestedRate := a.sampleRate
              resampler := false
              enableAec := false
              table := .empty
              auxChannels := 0
              auxChannelsChanged := false
              procBufIn := 0
              procBufOut := 0
              procBufSize := 0
              procBufFrames := 0
              writes := []
              overrun := false }
        else none
  else none

/-- `do_in_standby_l`, with `stop_input_stream`. -/
def StreamIn.doInStandby (s : StreamIn H) : StreamIn H :=
  if s.standby then s else { s with pcm := none, standby := true }

-- ── Starting ─────────────────────────────────────────────────────────────────

/-- What the environment does at a start: memory for the usecase and the device,
    the resampler is made, the PCM device is ready. -/
structure StartEnv where
  alloc : Bool
  made : Bool
  opened : Bool
  deriving DecidableEq, Repr

/-- The configuration a start gives the stream. -/
def StreamIn.startConfig (s : StreamIn H) (p : PcmConfig) : PcmConfig :=
  if s.auxChannelsChanged then { p with channels := count (s.mainChannels ||| s.auxChannels) }
  else p

/-- Is the resampler made anew? -/
def StreamIn.recreates (s : StreamIn H) (p : PcmConfig) : Bool :=
  s.config.rate != p.rate || s.auxChannelsChanged || s.requestedRate != p.rate

/-- `start_input_stream`.  When the resampler cannot be made the function goes
    on, and returns the error at its end. -/
def StreamIn.startInputStream (s : StreamIn H) (env : StartEnv) : StreamIn H × Bool :=
  match s.profile with
  | none => (s, false)
  | some p =>
      if env.alloc then
        let s' := { s with
          config := s.startConfig count p
          resampler := if s.recreates p then env.made else s.resampler }
        if env.opened then
          ({ s' with pcm := some p, procBufFrames := 0, procBufSize := 0 },
            !s.recreates p || env.made)
        else ({ s' with pcm := none, resampler := false }, false)
      else (s, false)

-- ── Effects ──────────────────────────────────────────────────────────────────

/-- `in_aux_cnl_configs`. -/
def inAuxCnlConfigs : List ChannelConfig :=
  [⟨channelInFront, channelInBack⟩, ⟨channelInStereo, channelInRight⟩]

/-- Is a configuration in the list of an effect? -/
def supports (t : EffectTable H) (info : EffectInfo H) (config : ChannelConfig) : Bool :=
  decide (config ∈ (info.channelConfigs.elim [] t.lists).take info.numChannelConfigs)

/-- `in_get_aux_channels`: the configuration with the most auxiliary channels
    that fits the main channels and that every effect supports. -/
def StreamIn.getAuxChannels (s : StreamIn H) : ChannelMask :=
  if s.table.numPreprocessors = 0 then 0
  else if hasDevice s.devices
      (Devices.bitIn ||| Devices.inBuiltinMic ||| Devices.inBackMic) then
    (inAuxCnlConfigs.foldl (fun best config =>
      if config.mainChannels = s.mainChannels
          ∧ (List.range s.table.numPreprocessors).all
            (fun i => supports s.table (s.table.preprocessors i) config) = true
          ∧ count best.auxChannels < count config.auxChannels then config
      else best) ⟨0, 0⟩).auxChannels
  else 0

/-- A call of `add_remove_audio_effect`, with what the effects answer: beside the
    descriptor and the configurations, the results of configuring each. -/
structure EffectCall (H : Type) where
  call : Call H
  aec : Bool
  configureStatus : H → Int

/-- `in_reconfigure_channels`: the last error of the effects that are
    configured. -/
def StreamIn.reconfigureChannels (s : StreamIn H) (c : EffectCall H) (auxChannels : ChannelMask)
    (configChanged : Bool) : Int :=
  if configChanged then
    (List.range s.table.numPreprocessors).foldl (fun status i =>
      let current := (s.table.preprocessors i).effectItfe.elim 0 c.configureStatus
      if current ≠ 0 then current else status) 0
  else if auxChannels ≠ 0 then c.configureStatus c.call.effect
  else 0

/-- The auxiliary channels that all effects can be configured with. -/
def StreamIn.configuredAuxChannels (s : StreamIn H) (c : EffectCall H) : ChannelMask :=
  let auxChannels := s.getAuxChannels count
  if s.reconfigureChannels c auxChannels (auxChannels != s.auxChannels) ≠ 0 then 0
  else auxChannels

/-- `in_update_aux_channels`. -/
def StreamIn.updateAuxChannels (s : StreamIn H) (c : EffectCall H) : StreamIn H :=
  if s.auxChannels ≠ s.configuredAuxChannels count c then
    { s with
      auxChannelsChanged := true
      auxChannels := s.configuredAuxChannels count c }.doInStandby
  else s

/-- The part of `add_remove_audio_effect` for an echo canceller. -/
def StreamIn.updateAec (s : StreamIn H) (c : EffectCall H) : StreamIn H :=
  if c.aec then { s with enableAec := c.call.enable }.doInStandby else s

/-- The part of `add_remove_audio_effect` that adds, with the new table. -/
def StreamIn.addEffect (s : StreamIn H) (c : EffectCall H) (table : EffectTable H) : StreamIn H :=
  let full := s.table.numPreprocessors == maxPreprocessors
  let added := { s with table := table, overrun := s.overrun || full }
  { added.updateAuxChannels count c with auxChannelsChanged := true }

/-- The part of `add_remove_audio_effect` that removes. -/
def StreamIn.removeEffect (s : StreamIn H) (table : EffectTable H) : StreamIn H :=
  { s with table := table, auxChannelsChanged := false }

/-- `add_remove_audio_effect`. -/
def StreamIn.addRemoveAudioEffect [DecidableEq H] (s : StreamIn H) (c : EffectCall H) :
    StreamIn H × Int :=
  if (s.table.addRemoveAudioEffect c.call).2 ≠ 0 then
    (s, (s.table.addRemoveAudioEffect c.call).2)
  else if c.call.enable then
    ((s.addEffect count c (s.table.addRemoveAudioEffect c.call).1).updateAec c, 0)
  else ((s.removeEffect (s.table.addRemoveAudioEffect c.call).1).updateAec c, 0)

-- ── Reading ──────────────────────────────────────────────────────────────────

/-- `pcm_frames_to_bytes` of one frame of 16 bit samples. -/
def StreamIn.frameBytes (s : StreamIn H) : Nat := s.pcm.elim 0 fun p => p.channels * 2

def StreamIn.hasAdditionalChannels (s : StreamIn H) : Bool :=
  count s.mainChannels != s.config.channels

/-- One turn of the processing loop: whether reading fails, and then after how
    many frames, and what the effects make of the frames they are given.  An
    effect consumes and produces no more than that. -/
structure Turn where
  readError : Option Nat
  consumes : (given : Nat) → Fin (given + 1)
  produces : (given : Nat) → Fin (given + 1)

/-- The bytes of a buffer. -/
def StreamIn.room (s : StreamIn H) : Buffer → Nat
  | .procBufIn => s.procBufIn
  | .procBufOut => s.procBufOut

/-- The log of `n` frames written from frame `start` on. -/
def StreamIn.wrote (s : StreamIn H) (buffer : Buffer) (start n : Nat) : List Write :=
  if n = 0 then [] else [⟨buffer, start + n, s.frameBytes, s.room buffer⟩]

def StreamIn.log (s : StreamIn H) (writes : List Write) : StreamIn H :=
  { s with writes := s.writes ++ writes }

/-- The frames that `read_frames` puts into a buffer when `wanted` are asked
    for. -/
def framesRead (readError : Option Nat) (wanted : Nat) : Nat :=
  readError.elim wanted (min wanted)

/-- The reallocation of the loop: one size for both buffers. -/
def StreamIn.grow (s : StreamIn H) (frames : Nat) : StreamIn H :=
  if s.procBufSize < frames then
    { s with
      procBufSize := frames
      procBufIn := frames * s.frameBytes
      procBufOut :=
        if s.hasAdditionalChannels count then frames * s.frameBytes else s.procBufOut }
  else s

/-- The frames that are missing are read to the end of the input buffer. -/
def StreamIn.fill (s : StreamIn H) (frames : Nat) (readError : Option Nat) : StreamIn H :=
  let grown := s.grow count frames
  let missing := frames - s.procBufFrames
  grown.log (grown.wrote .procBufIn s.procBufFrames (framesRead readError missing))

/-- Enough frames are loaded before the effects process them; `false` is an
    error. -/
def StreamIn.reload (s : StreamIn H) (frames : Nat) (readError : Option Nat) : StreamIn H × Bool :=
  if s.procBufFrames < frames then
    if readError.isSome then (s.fill count frames readError, false)
    else ({ s.fill count frames readError with procBufFrames := frames }, true)
  else (s, true)

/-- The effects process the frames of the input buffer, and the rest of them is
    moved to its start.  The frames go to the second buffer if there are
    additional channels. -/
def StreamIn.process (s : StreamIn H) (frames framesWr : Nat) (turn : Turn) : StreamIn H × Nat :=
  let left := s.procBufFrames - turn.consumes s.procBufFrames
  let produced := turn.produces (frames - framesWr)
  let out := if s.hasAdditionalChannels count then s.wrote .procBufOut framesWr produced else []
  ({ s.log (out ++ s.wrote .procBufIn 0 left) with procBufFrames := left }, produced)

/-- The processing loop, for as many turns as it is given; `false` is an error. -/
def StreamIn.processLoop (frames : Nat) : List Turn → Nat → StreamIn H → StreamIn H × Bool
  | [], _, s => (s, true)
  | turn :: rest, framesWr, s =>
      if framesWr < frames then
        let r := s.reload count frames turn.readError
        if r.2 then
          let p := r.1.process count frames framesWr turn
          StreamIn.processLoop frames rest
            (if framesWr + p.2 ≤ frames then framesWr + p.2 else frames) p.1
        else (r.1, false)
      else (s, true)

/-- The part of `read_and_process_frames` without effects. -/
def StreamIn.readDirectly (s : StreamIn H) (frames : Nat) (readError : Option Nat) :
    StreamIn H × Bool :=
  if s.hasAdditionalChannels count then
    let s :=
      if s.procBufSize < frames then
        { s with procBufSize := frames, procBufOut := frames * s.frameBytes }
      else s
    (s.log (s.wrote .procBufOut 0 (framesRead readError frames)), readError.isNone)
  else (s, readError.isNone)

/-- `read_and_process_frames`: what it does to the stream, and whether it
    succeeds. -/
def StreamIn.readAndProcessFrames (s : StreamIn H) (frames : Nat) (turns : List Turn)
    (readError : Option Nat) : StreamIn H × Bool :=
  if s.pcm.isNone then (s, false)
  else if s.table.numPreprocessors ≠ 0 then s.processLoop count frames turns 0
  else s.readDirectly count frames readError

-- ── The operations ───────────────────────────────────────────────────────────

inductive Act (H : Type) where
  | start (env : StartEnv)
  | read (frames : Nat) (turns : List Turn) (readError : Option Nat)
  | standby
  | effect (c : EffectCall H)
  | setDevices (devices : Devices) (restarts : Bool)

/-- One operation.  `in_read` of a stream in standby is a start, and if that
    succeeds a read; a read that fails puts the stream into standby.  New devices
    may stop it. -/
def step [DecidableEq H] (s : StreamIn H) : Act H → Option (StreamIn H)
  | .start env =>
      if s.standby then
        let r := s.startInputStream count env
        some { r.1 with standby := !r.2 }
      else none
  | .read frames turns readError =>
      if s.standby then none
      else
        let r := s.readAndProcessFrames count frames turns readError
        some (if r.2 then r.1 else r.1.doInStandby)
  | .standby => some s.doInStandby
  | .effect c => some (s.addRemoveAudioEffect count c).1
  | .setDevices devices restarts =>
      let s := { s with devices := devices }
      some (if restarts then s.doInStandby else s)

end Model

-- ── What the operations leave ────────────────────────────────────────────────

/-- What every operation but a start leaves: a stream that is active afterwards
    was active before, on the same device. -/
structure Kept (s s' : StreamIn H) : Prop where
  config : s'.config = s.config
  mainChannels : s'.mainChannels = s.mainChannels
  active : s'.standby = false → s.standby = false ∧ s'.pcm = s.pcm

/-- The operations that do not read leave the processing buffers as well. -/
structure Spares (s s' : StreamIn H) : Prop extends Kept s s' where
  procBufIn : s'.procBufIn = s.procBufIn
  procBufOut : s'.procBufOut = s.procBufOut
  procBufSize : s'.procBufSize = s.procBufSize
  procBufFrames : s'.procBufFrames = s.procBufFrames
  writes : s'.writes = s.writes

/-- What reading leaves: everything but the processing buffers. -/
structure Reads (s s' : StreamIn H) : Prop where
  config : s'.config = s.config
  mainChannels : s'.mainChannels = s.mainChannels
  pcm : s'.pcm = s.pcm
  standby : s'.standby = s.standby
  overrun : s'.overrun = s.overrun

section Steps

variable {count : ChannelMask → Nat} {s s' : StreamIn H}

namespace Reads

theorem refl (s : StreamIn H) : Reads s s := ⟨rfl, rfl, rfl, rfl, rfl⟩

theorem trans {s₁ s₂ : StreamIn H} (h₁ : Reads s s₁) (h₂ : Reads s₁ s₂) : Reads s s₂ where
  config := h₂.config.trans h₁.config
  mainChannels := h₂.mainChannels.trans h₁.mainChannels
  pcm := h₂.pcm.trans h₁.pcm
  standby := h₂.standby.trans h₁.standby
  overrun := h₂.overrun.trans h₁.overrun

theorem frameBytes (h : Reads s s') : s'.frameBytes = s.frameBytes := by
  rw [StreamIn.frameBytes, StreamIn.frameBytes, h.pcm]

theorem grow (h : Reads s s') (frames : Nat) : Reads s (s'.grow count frames) := by
  rw [StreamIn.grow]
  split
  · exact h.trans ⟨rfl, rfl, rfl, rfl, rfl⟩
  · exact h

theorem reload (h : Reads s s') (frames : Nat) (readError : Option Nat) :
    Reads s (s'.reload count frames readError).1 := by
  rw [StreamIn.reload]
  split
  · have hfill : Reads s (s'.fill count frames readError) :=
      (@Reads.grow H count s s' h frames).trans ⟨rfl, rfl, rfl, rfl, rfl⟩
    split
    · exact hfill
    · exact hfill.trans ⟨rfl, rfl, rfl, rfl, rfl⟩
  · exact h

theorem process (h : Reads s s') (frames framesWr : Nat) (turn : Turn) :
    Reads s (s'.process count frames framesWr turn).1 :=
  h.trans ⟨rfl, rfl, rfl, rfl, rfl⟩

/-- Induction on the turns. -/
theorem processLoop (frames : Nat) (turns : List Turn) :
    ∀ (framesWr : Nat) {s' : StreamIn H}, Reads s s' →
      Reads s (s'.processLoop count frames turns framesWr).1 := by
  induction turns with
  | nil => exact fun _ _ h => h
  | cons turn rest ih =>
      intro framesWr s' h
      rw [StreamIn.processLoop]
      split
      · simp only
        have hreload := @Reads.reload H count s s' h frames turn.readError
        split
        · exact ih _ (hreload.process frames framesWr turn)
        · exact hreload
      · exact h

theorem readDirectly (h : Reads s s') (frames : Nat) (readError : Option Nat) :
    Reads s (s'.readDirectly count frames readError).1 := by
  rw [StreamIn.readDirectly]
  split
  · simp only
    split
    · exact h.trans ⟨rfl, rfl, rfl, rfl, rfl⟩
    · exact h.trans ⟨rfl, rfl, rfl, rfl, rfl⟩
  · exact h

theorem readAndProcessFrames (h : Reads s s') (frames : Nat) (turns : List Turn)
    (readError : Option Nat) :
    Reads s (s'.readAndProcessFrames count frames turns readError).1 := by
  rw [StreamIn.readAndProcessFrames]
  split
  · exact h
  · split
    · exact processLoop frames turns 0 h
    · exact h.readDirectly frames readError

end Reads

theorem Kept.of_reads (h : Reads s s') : Kept s s' :=
  ⟨h.config, h.mainChannels, fun hactive => ⟨h.standby.symm.trans hactive, h.pcm⟩⟩

theorem Kept.hasAdditionalChannels (h : Kept s s') :
    s'.hasAdditionalChannels count = s.hasAdditionalChannels count := by
  rw [StreamIn.hasAdditionalChannels, StreamIn.hasAdditionalChannels, h.config, h.mainChannels]

namespace Spares

theorem refl (s : StreamIn H) : Spares s s :=
  ⟨⟨rfl, rfl, fun h => ⟨h, rfl⟩⟩, rfl, rfl, rfl, rfl, rfl⟩

theorem doInStandby (h : Spares s s') : Spares s s'.doInStandby := by
  rw [StreamIn.doInStandby]
  split
  · exact h
  · exact { h with active := fun hactive => absurd hactive Bool.noConfusion }

theorem updateAuxChannels (h : Spares s s') (c : EffectCall H) :
    Spares s (s'.updateAuxChannels count c) := by
  rw [StreamIn.updateAuxChannels]
  split
  · exact Spares.doInStandby { h with }
  · exact h

theorem updateAec (h : Spares s s') (c : EffectCall H) : Spares s (s'.updateAec c) := by
  rw [StreamIn.updateAec]
  split
  · exact Spares.doInStandby { h with }
  · exact h

theorem addEffect (h : Spares s s') (c : EffectCall H) (table : EffectTable H) :
    Spares s (s'.addEffect count c table) := by
  have hadded : Spares s { s' with
      table := table
      overrun := s'.overrun || s'.table.numPreprocessors == maxPreprocessors } :=
    { h with }
  exact { @updateAuxChannels H count s _ hadded c with }

theorem addRemoveAudioEffect [DecidableEq H] (h : Spares s s') (c : EffectCall H) :
    Spares s (s'.addRemoveAudioEffect count c).1 := by
  rw [StreamIn.addRemoveAudioEffect]
  split
  · exact h
  · split
    · exact (h.addEffect c _).updateAec c
    · have hremoved : Spares s (s'.removeEffect (s'.table.addRemoveAudioEffect c.call).1) :=
        { h with }
      exact hremoved.updateAec c

theorem setDevices (s : StreamIn H) (devices : Devices) :
    Spares s { s with devices := devices } :=
  { refl s with }

end Spares

-- ── Behind the table ─────────────────────────────────────────────────────────

theorem doInStandby_overrun (s : StreamIn H) : s.doInStandby.overrun = s.overrun := by
  rw [StreamIn.doInStandby]
  split
  · rfl
  · rfl

theorem updateAuxChannels_overrun (s : StreamIn H) (c : EffectCall H) :
    (s.updateAuxChannels count c).overrun = s.overrun := by
  rw [StreamIn.updateAuxChannels]
  split
  · exact doInStandby_overrun _
  · rfl

theorem updateAec_overrun (s : StreamIn H) (c : EffectCall H) :
    (s.updateAec c).overrun = s.overrun := by
  rw [StreamIn.updateAec]
  split
  · exact doInStandby_overrun _
  · rfl

theorem addEffect_overrun (s : StreamIn H) (c : EffectCall H) (table : EffectTable H) :
    (s.addEffect count c table).overrun
      = (s.overrun || s.table.numPreprocessors == maxPreprocessors) :=
  updateAuxChannels_overrun _ c

/-- Only an effect that is added to a full table is written behind it. -/
theorem effect_overrun [DecidableEq H] (s : StreamIn H) (c : EffectCall H) :
    (s.addRemoveAudioEffect count c).1.overrun = true
      ↔ s.overrun = true ∨ s.table.overfills c.call := by
  rw [StreamIn.addRemoveAudioEffect]
  split
  · rename_i hrejected
    refine ⟨Or.inl, fun h => h.elim id fun hover => ?_⟩
    exact absurd (overfills_accepted hover) hrejected
  · rename_i haccepted
    split
    · rename_i henable
      rw [updateAec_overrun, addEffect_overrun, Bool.or_eq_true, beq_iff_eq]
      refine or_congr_right ⟨fun hfull => ⟨?_, henable, hfull⟩, fun hover => hover.2.2⟩
      exact descStatus_of_accepted (not_not.mp haccepted)
    · rename_i hdisable
      rw [updateAec_overrun]
      exact ⟨Or.inl, fun h => h.elim id fun hover => absurd hover.2.1 hdisable⟩

/-- Nothing was written over the fields of the stream, and an effect that fits
    leaves it so. -/
theorem effect_clean [DecidableEq H] (hs : s.overrun = false) (c : EffectCall H) :
    (s.addRemoveAudioEffect count c).1.overrun = false ↔ ¬ s.table.overfills c.call := by
  rw [Bool.eq_false_iff, Ne, effect_overrun, hs, or_iff_right Bool.false_ne_true]

-- ── Starting ─────────────────────────────────────────────────────────────────

/-- A stream that was just opened is in standby, and nothing was written. -/
theorem opened_standby {a : OpenArgs} (hopen : openInputStream count a = some s) :
    s.standby = true ∧ s.overrun = false ∧ s.writes = [] := by
  rw [openInputStream] at hopen
  split at hopen
  · split at hopen
    · cases hopen
    · split at hopen
      · obtain rfl := Option.some.inj hopen
        exact ⟨rfl, rfl, rfl⟩
      · cases hopen
  · cases hopen

/-- A start that succeeds on the profile `p`. -/
structure Starts (s : StreamIn H) (env : StartEnv) (p : PcmConfig) : Prop where
  profile : s.profile = some p
  alloc : env.alloc = true
  opened : env.opened = true
  made : s.recreates p = true → env.made = true

/-- What a start that succeeds leaves. -/
structure Started (count : ChannelMask → Nat) (s s' : StreamIn H) (p : PcmConfig) : Prop where
  config : s'.config = s.startConfig count p
  pcm : s'.pcm = some p
  mainChannels : s'.mainChannels = s.mainChannels
  procBufFrames : s'.procBufFrames = 0
  procBufSize : s'.procBufSize = 0

/-- A start leaves what was written, whether it succeeds or not. -/
theorem start_rest (s : StreamIn H) (env : StartEnv) :
    (s.startInputStream count env).1.overrun = s.overrun
      ∧ (s.startInputStream count env).1.writes = s.writes := by
  rw [StreamIn.startInputStream]
  split
  · exact ⟨rfl, rfl⟩
  · split
    · simp only
      split
      · exact ⟨rfl, rfl⟩
      · exact ⟨rfl, rfl⟩
    · exact ⟨rfl, rfl⟩

theorem start_succeeds {env : StartEnv} {p : PcmConfig} (h : Starts s env p) :
    (s.startInputStream count env).2 = true
      ∧ Started count s (s.startInputStream count env).1 p := by
  have hmade : (!s.recreates p || env.made) = true := by
    cases hrecreates : s.recreates p with
    | false => rfl
    | true => exact h.made hrecreates
  rw [StreamIn.startInputStream, h.profile]
  simp only [h.alloc, h.opened, if_true]
  exact ⟨hmade, rfl, rfl, rfl, rfl, rfl⟩

theorem starts_of_success {env : StartEnv} (h : (s.startInputStream count env).2 = true) :
    ∃ p, Starts s env p := by
  rw [StreamIn.startInputStream] at h
  cases hp : s.profile with
  | none =>
      rw [hp] at h
      exact absurd h Bool.noConfusion
  | some p =>
      simp only [hp] at h
      cases halloc : env.alloc with
      | false =>
          rw [halloc] at h
          exact absurd h Bool.noConfusion
      | true =>
          rw [halloc, if_pos rfl] at h
          cases hopened : env.opened with
          | false =>
              rw [hopened] at h
              exact absurd h Bool.noConfusion
          | true =>
              rw [hopened, if_pos rfl] at h
              refine ⟨p, hp, halloc, hopened, fun hrecreates => ?_⟩
              rw [hrecreates] at h
              exact h

/-- A stream that is active after a start was started. -/
theorem started_of_active {env : StartEnv}
    (h : (!(s.startInputStream count env).2) = false) :
    ∃ p, Starts s env p ∧ Started count s (s.startInputStream count env).1 p := by
  obtain ⟨p, hstarts⟩ := starts_of_success (Bool.not_eq_false' _ ▸ h)
  exact ⟨p, hstarts, (start_succeeds hstarts).2⟩

-- ── Every operation ──────────────────────────────────────────────────────────

/-- What an operation comes to: a start, a read, an effect, or nothing that
    touches the buffers and the table. -/
inductive Stepped [DecidableEq H] (count : ChannelMask → Nat) (s : StreamIn H) :
    Act H → StreamIn H → Prop where
  | start (env : StartEnv) :
      Stepped count s (.start env)
        { (s.startInputStream count env).1 with standby := !(s.startInputStream count env).2 }
  | read {s' : StreamIn H} (frames : Nat) (turns : List Turn) (readError : Option Nat) :
      s.standby = false → Spares (s.readAndProcessFrames count frames turns readError).1 s' →
      s'.overrun = (s.readAndProcessFrames count frames turns readError).1.overrun →
      Stepped count s (.read frames turns readError) s'
  | standby {s' : StreamIn H} : Spares s s' → s'.overrun = s.overrun → Stepped count s .standby s'
  | effect (c : EffectCall H) : Stepped count s (.effect c) (s.addRemoveAudioEffect count c).1
  | setDevices {s' : StreamIn H} (devices : Devices) (restarts : Bool) :
      Spares s s' → s'.overrun = s.overrun → Stepped count s (.setDevices devices restarts) s'

theorem stepped_of_step [DecidableEq H] {a : Act H} (hstep : step count s a = some s') :
    Stepped count s a s' := by
  cases a with
  | start env =>
      rw [step] at hstep
      split at hstep
      · obtain rfl := Option.some.inj hstep
        exact .start env
      · cases hstep
  | read frames turns readError =>
      rw [step] at hstep
      split at hstep
      · cases hstep
      · rename_i hactive
        obtain rfl := Option.some.inj hstep
        refine .read frames turns readError (Bool.eq_false_iff.mpr hactive) ?_ ?_
        · split
          · exact Spares.refl _
          · exact (Spares.refl _).doInStandby
        · split
          · rfl
          · exact doInStandby_overrun _
  | standby =>
      obtain rfl := Option.some.inj hstep
      exact .standby (Spares.refl s).doInStandby (doInStandby_overrun s)
  | effect c =>
      obtain rfl := Option.some.inj hstep
      exact .effect c
  | setDevices devices restarts =>
      obtain rfl := Option.some.inj hstep
      have hset := Spares.setDevices s devices
      refine .setDevices devices restarts ?_ ?_
      · split
        · exact hset.doInStandby
        · exact hset
      · split
        · exact doInStandby_overrun _
        · rfl

-- ── Channels ─────────────────────────────────────────────────────────────────

/-- An active stream has the channels of its PCM device; and nothing was written
    over its fields. -/
def Agrees (s : StreamIn H) : Prop :=
  s.overrun = false
    ∧ (s.standby = false → ∃ p, s.pcm = some p ∧ s.config.channels = p.channels)

/-- The masks have as many channels as the profile if a start counts them. -/
def CountsAgree (count : ChannelMask → Nat) (s : StreamIn H) (env : StartEnv) : Prop :=
  ∀ p, Starts s env p → s.auxChannelsChanged = true →
    count (s.mainChannels ||| s.auxChannels) = p.channels

/-- The condition on an operation. -/
def Fits (count : ChannelMask → Nat) (s : StreamIn H) : Act H → Prop
  | .start env => CountsAgree count s env
  | .effect c => ¬ s.table.overfills c.call
  | _ => True

theorem startConfig_channels (s : StreamIn H) (p : PcmConfig) :
    (s.startConfig count p).channels = p.channels
      ↔ (s.auxChannelsChanged = true →
          count (s.mainChannels ||| s.auxChannels) = p.channels) := by
  rw [StreamIn.startConfig]
  split
  · rename_i hchanged
    exact ⟨fun h _ => h, fun h => h hchanged⟩
  · rename_i hunchanged
    exact ⟨fun _ hchanged => absurd hchanged hunchanged, fun _ => rfl⟩

/-- What is left of an active stream agrees as it did. -/
theorem Kept.agrees (h : Kept s s') (hs : Agrees s) (hover : s'.overrun = false) : Agrees s' := by
  refine ⟨hover, fun hactive => ?_⟩
  obtain ⟨hbefore, hpcm⟩ := h.active hactive
  obtain ⟨p, hp, hchannels⟩ := hs.2 hbefore
  exact ⟨p, hpcm.trans hp, by rw [h.config]; exact hchannels⟩

/-- **A START** agrees exactly if the counts do. -/
theorem start_agrees (hs : Agrees s) (env : StartEnv) :
    Agrees { (s.startInputStream count env).1 with
        standby := !(s.startInputStream count env).2 }
      ↔ CountsAgree count s env := by
  constructor
  · intro h p hstarts
    obtain ⟨hsuccess, hstarted⟩ := @start_succeeds H count s env p hstarts
    obtain ⟨p', hp', hchannels⟩ := h.2 (by rw [hsuccess]; rfl)
    have hp : p' = p := Option.some.inj (hp'.symm.trans hstarted.pcm)
    refine (startConfig_channels s p).mp ?_
    rw [← hstarted.config, hchannels, hp]
  · intro h
    refine ⟨(start_rest s env).1.trans hs.1, fun hactive => ?_⟩
    obtain ⟨p, hstarts, hstarted⟩ := started_of_active hactive
    refine ⟨p, hstarted.pcm, ?_⟩
    show (s.startInputStream count env).1.config.channels = p.channels
    rw [hstarted.config]
    exact (startConfig_channels s p).mpr (h p hstarts)

theorem effect_agrees [DecidableEq H] (hs : Agrees s) (c : EffectCall H) :
    Agrees (s.addRemoveAudioEffect count c).1 ↔ ¬ s.table.overfills c.call := by
  rw [← @effect_clean H count s _ hs.1]
  constructor
  · intro h
    exact h.1
  · intro hclean
    exact ((Spares.refl s).addRemoveAudioEffect c).toKept.agrees hs hclean

/-- **STEP**: an operation keeps the agreement exactly if it meets the
    condition. -/
theorem step_agrees [DecidableEq H] {a : Act H} (hs : Agrees s)
    (hstep : step count s a = some s') : Agrees s' ↔ Fits count s a := by
  cases stepped_of_step hstep with
  | start env => exact start_agrees hs env
  | read frames turns readError _ hspares hover =>
      have hreads : Reads s (s.readAndProcessFrames count frames turns readError).1 :=
        (Reads.refl s).readAndProcessFrames frames turns readError
      have hclean := hreads.overrun.trans hs.1
      have hread := (Kept.of_reads hreads).agrees hs hclean
      exact iff_of_true (hspares.toKept.agrees hread (hover.trans hclean)) trivial
  | standby hspares hover =>
      exact iff_of_true (hspares.toKept.agrees hs (hover.trans hs.1)) trivial
  | effect c => exact effect_agrees hs c
  | setDevices devices restarts hspares hover =>
      exact iff_of_true (hspares.toKept.agrees hs (hover.trans hs.1)) trivial

theorem open_agrees {a : OpenArgs} (hopen : openInputStream count a = some s) : Agrees s := by
  obtain ⟨hstandby, hclean, -⟩ := opened_standby hopen
  refine ⟨hclean, fun hactive => ?_⟩
  cases hstandby.symm.trans hactive

/-- **CHANNELS**: all along any sequence of operations on an opened stream, an
    active stream has the channels of its PCM device, exactly if the masks have
    as many as the profile at each start that counts them, and no effect is added
    to a full table. -/
theorem channels_agree [DecidableEq H] {a : OpenArgs} (hopen : openInputStream count a = some s)
    (acts : List (Act H)) :
    Always (step count) Agrees s acts ↔ StepsMeet (step count) (Fits count) s acts :=
  always_iff_stepsMeet (fun _ h => h)
    (fun _ _ _ hs hfits hstep => (step_agrees hs hstep).mpr hfits)
    (fun _ _ _ hs hstep h => (step_agrees hs hstep).mp h) acts (open_agrees hopen)

end Steps

/-- `audio_channel_count_from_in_mask` of a positional mask. -/
def channelCountFromInMask (mask : ChannelMask) : Nat :=
  (List.range 32).countP mask.getLsbD

/-- A capture of one channel at 48 kHz from the built-in microphone. -/
def monoArgs : OpenArgs where
  devices := Devices.bitIn ||| Devices.inBuiltinMic
  channelMask := channelInFront
  sampleRate := 48000
  pcm16 := true
  fast := false
  alloc := true

/-- An effect without auxiliary channels is added. -/
def plainEffect : EffectCall Nat where
  call :=
    { effect := 0
      enable := true
      descStatus := 0
      reply := { cmdStatus := -22, status := 0, configs := [] } }
  aec := false
  configureStatus := fun _ => 0

def granted : StartEnv := { alloc := true, made := true, opened := true }

theorem channels_agree_mono :
    ∃ s : StreamIn Nat, openInputStream channelCountFromInMask monoArgs = some s
      ∧ (Always (step channelCountFromInMask) Agrees s [.start granted, .effect plainEffect]
        ↔ StepsMeet (step channelCountFromInMask) (Fits channelCountFromInMask) s
            [.start granted, .effect plainEffect]) :=
  ⟨_, rfl, channels_agree (a := monoArgs) rfl _⟩

/-- The stream counts one channel, and its PCM device has two. -/
theorem mono_start_disagrees :
    ∃ s s' : StreamIn Nat, openInputStream channelCountFromInMask monoArgs = some s
      ∧ run (step channelCountFromInMask) s [.effect plainEffect, .start granted] = some s'
      ∧ s'.overrun = false ∧ s'.standby = false ∧ s'.config.channels = 1
      ∧ s'.pcm.map PcmConfig.channels = some 2 :=
  ⟨_, _, rfl, rfl, rfl, rfl, rfl, rfl⟩

end CaptureStream

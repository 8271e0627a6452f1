import Universal7580.AudioMovesProofs

/-! # The reference counts of the sound devices

    With one active usecase per id, the count of a sound device is the number of
    active usecases on it after every sequence of HAL operations, and every
    enable and disable did to the mixer paths what the counts say.

    The path of an output device is applied at one more place than where its
    count leaves zero: when the last usecase leaves an input device,
    `disable_snd_device` applies the current output path again, "to eliminate
    routing conflicts".  `Call.Faithful` has that case, and
    `rx_path_applied_again` is a run that reaches it. -/

namespace AudioHal

open AudioRouting Run

-- ── The invariant ─────────────────────────────────────────────────────────

/-- As long as no usecase was added under an active id, the counts are right. -/
def GoodOnce (r : Routing) : Prop := r.doubled = false → Good r

section Moves

variable {r : Routing}

theorem good_inCall (h : Good r) (b : Bool) : Good { r with inCall := b } :=
  { ptrs := h.ptrs
    ids := h.ids
    fresh := h.fresh
    fits := h.fits
    balanced := ⟨h.balanced.counts, h.balanced.calls⟩ }

theorem route_doubled (r : Routing) (uc : Usecase) (out in' : SndDevice) :
    (r.route uc out in').doubled = r.doubled :=
  congrArg (fun k => k.2.2.2) (route_skeleton r uc out in')

/-- A usecase that was not added under an active id. -/
theorem goodOnce_add (h : GoodOnce r) (id : UsecaseId) (stream : Stream) (mixers : List Nat) :
    GoodOnce (r.addUsecase id stream mixers) := by
  intro hdoubled
  obtain ⟨hbefore, hnone⟩ := Bool.or_eq_false_iff.mp hdoubled
  exact good_addUsecase (h hbefore) (Option.isNone_iff_eq_none.mp (by simpa using hnone)) stream
    mixers

theorem uses_of_playback {uc : Usecase} (h : Good r) (hmem : uc ∈ r.usecases)
    (htype : uc.type = .pcmPlayback) (x : SndDevice) : uc.uses x = uses uc.outSndDevice x := by
  rw [Usecase.uses, (h.fits uc hmem).1 htype, uses_none, Nat.add_zero]

theorem uses_of_capture {uc : Usecase} (h : Good r) (hmem : uc ∈ r.usecases)
    (htype : uc.type = .pcmCapture) (x : SndDevice) : uc.uses x = uses uc.inSndDevice x := by
  rw [Usecase.uses, (h.fits uc hmem).2 htype, uses_none, Nat.zero_add]

theorem goodOnce_route (r : Routing) (uc : Usecase) (out in' : SndDevice) (h : GoodOnce r)
    (huc : r.getUsecaseFromId uc.id = some uc) (hfits : Fits uc.type out in') :
    GoodOnce (r.route uc out in') := by
  intro hdoubled
  rw [route_doubled] at hdoubled
  exact good_route (h hdoubled) (getUsecaseFromId_eq_some huc).1 hfits

theorem doubled_of_frame {r' : Routing} (h : r'.frame = r.frame) : r'.doubled = r.doubled :=
  congrArg (fun k => k.2.2.2) h

theorem goodOnce_kept (view : StreamOut → InputView) : Kept view GoodOnce where
  select := kept_selectDevices goodOnce_route
  addOutput := fun _ _ _ _ h => goodOnce_add h _ _ _
  addInput := fun _ _ _ h => goodOnce_add h _ _ _
  startCall := fun r _ h =>
    @goodOnce_add { r with inCall := true } (fun hd => good_inCall (h hd) true) _ _ _
  stopOutput := by
    intro r p uc h huc hdoubled
    have hgood := h ((doubled_of_frame (disableSndDevice_frame r uc _)).symm.trans hdoubled)
    have hmem := (getUsecaseFromId_eq_some huc).1
    exact good_stop hgood hmem (uses_of_playback hgood hmem (type_of_id huc))
  stopInput := by
    intro r uc h huc hdoubled
    have hgood := h ((doubled_of_frame (disableSndDevice_frame r uc _)).symm.trans hdoubled)
    have hmem := (getUsecaseFromId_eq_some huc).1
    exact good_stop hgood hmem (uses_of_capture hgood hmem (type_of_id huc))
  stopCall := by
    intro r uc h huc hdoubled
    have hframe : ((({ r with inCall := false } : Routing).disableSndDevice uc
        uc.outSndDevice).disableSndDevice uc uc.inSndDevice).frame
          = ({ r with inCall := false } : Routing).frame := by
      rw [disableSndDevice_frame, disableSndDevice_frame]
    have hgood := h ((doubled_of_frame hframe).symm.trans hdoubled)
    exact good_stopBoth (good_inCall hgood false) (getUsecaseFromId_eq_some huc).1
  hangUp := fun _ h _ hd => good_inCall (h hd) false

end Moves

-- ── Every run ─────────────────────────────────────────────────────────────

section Runs

variable {view : StreamOut → InputView}

theorem goodOnce_offload (r : Routing) (p : Playback) (uc : Usecase) (h : GoodOnce r)
    (huc : r.getUsecaseFromId (.playback p) = some uc) : GoodOnce (r.setOffloadParameters uc) := by
  intro hdoubled
  have hd : r.doubled = false := by
    rw [← hdoubled]
    exact congrArg (fun k => k.2.2.2) (setOffloadParameters_skeleton r uc).symm
  exact good_setOffloadParameters (h hd) (getUsecaseFromId_eq_some huc).1 (type_of_id huc)

/-- **COUNTS ARE EXACT**: in every run that never adds a usecase under an active
    id, every sound device counts the usecases on it, the combined device as a
    speaker and a headphones, and "no device" not at all; every path was applied
    when a count left zero, or when an input device went and the output path was
    cycled, and reset when a count returned to zero; and only "no device" was
    ever disabled at a count of zero. -/
theorem counts_exact (view : StreamOut → InputView) (fx : Bool) (session : VoiceSession)
    (acts : List Act) (s : Adev) (hrun : run (step view) (start fx session) acts = some s)
    (honce : s.routing.doubled = false) :
    (∀ d, s.routing.sndDevRefCnt d = (s.routing.usecases.map fun uc => uc.uses d).sum)
      ∧ ∀ c ∈ s.routing.calls, c.Faithful := by
  have hgood : GoodOnce s.routing := run_invariant
    (kept_step_offload (goodOnce_kept view) goodOnce_offload) acts (fun _ => good_initial) hrun
  exact ⟨(hgood honce).balanced.counts, (hgood honce).balanced.calls⟩

end Runs

-- ── A run that cycles the output path ─────────────────────────────────────

/-- A layout under which no output stream looks like an active input. -/
def plainView : StreamOut → InputView := fun _ =>
  { source := .default, devices := 0, enableAec := false, usecase := none }

def plainSession : VoiceSession where
  outDevice := 0
  twoMicControl := false
  twoMicDisabled := false
  wbAmrType := 0
  bluetoothWb := false

/-- An ordinary output on the speaker. -/
def speakerOutput : OpenOutput where
  offload := false
  deepBuffer := false
  primary := true
  devices := Devices.outSpeaker
  infoOk := true
  alloc := true
  codecAlloc := true

/-- The camera records from the built-in microphone. -/
def camcorderInput : OpenInput where
  devices := Devices.bitIn ||| Devices.inBuiltinMic
  source := .camcorder
  fast := false
  paramsOk := true
  alloc := true

def writeOk : WriteResult := { alloc := true, opened := true, wrote := true, allocFlushed := true }

def readOk : ReadResult := { alloc := true, resampler := true, opened := true, didRead := true }

/-- Music on the speaker, and a recording that starts and stops. -/
def recordDuringPlayback : List Act := [
  .openOutput 0 speakerOutput, .write 0 writeOk,
  .openInput 0 camcorderInput, .read 0 readOk, .inStandby 0]

theorem counts_exact_recordDuringPlayback :
    ∃ s, run (step plainView) (start false plainSession) recordDuringPlayback = some s
      ∧ s.routing.doubled = false
      ∧ (∀ d, s.routing.sndDevRefCnt d = (s.routing.usecases.map fun uc => uc.uses d).sum)
      ∧ ∀ c ∈ s.routing.calls, c.Faithful := by
  have hsome : (run (step plainView) (start false plainSession) recordDuringPlayback).isSome = true := by
    decide +kernel
  obtain ⟨s, hrun⟩ := Option.isSome_iff_exists.mp hsome
  have honce : (run (step plainView) (start false plainSession) recordDuringPlayback).map
      (fun s => s.routing.doubled) = some false := by
    decide +kernel
  rw [hrun] at honce
  exact ⟨s, hrun, Option.some.inj honce,
    counts_exact plainView false plainSession recordDuringPlayback s hrun (Option.some.inj honce)⟩

/-- The path of the speaker is applied a second time when the recording stops,
    while the music still holds its count at one. -/
theorem rx_path_applied_again :
    ¬ ∀ (view : StreamOut → InputView) (fx : Bool) (session : VoiceSession) (acts : List Act)
        (s : Adev), run (step view) (start fx session) acts = some s →
      s.routing.doubled = false →
      ∀ c ∈ s.routing.calls, ∀ card d, (card, d) ∈ c.applied →
        c.enable = true ∧ c.device = d ∧ c.before = 0 ∧ c.after = 1 := by
  intro hclaim
  have hsome : (run (step plainView) (start false plainSession) recordDuringPlayback).map
      (fun s => (s.routing.doubled, s.routing.sndDevRefCnt .outSpeaker, s.routing.calls.head?))
      = some (false, 1, some
        { enable := false
          device := .inCamcorderMic
          before := 1
          after := 0
          cards := [0]
          rx := some .outSpeaker
          applied := [(0, .outSpeaker)]
          reset := [(0, .inCamcorderMic)] }) := by
    decide +kernel
  obtain ⟨s, hrun, hs⟩ := Option.map_eq_some_iff.mp hsome
  obtain ⟨hdoubled, hrest⟩ := Prod.mk.inj hs
  have hhead := (Prod.mk.inj hrest).2
  have := hclaim plainView false plainSession recordDuringPlayback s hrun hdoubled _
    (List.mem_of_head? hhead) 0 .outSpeaker List.mem_cons_self
  exact nomatch this.1

end AudioHal

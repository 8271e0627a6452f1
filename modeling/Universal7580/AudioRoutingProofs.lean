import Mathlib.Algebra.BigOperators.Group.List.Basic
import Mathlib.Algebra.GroupWithZero.Nat
import Mathlib.Data.List.Nodup
import Mathlib.Logic.Function.Basic

/-! # Sound devices and the usecases on them

    The audio HAL keeps a list of active usecases, each with the sound devices
    it is routed to, and for every sound device a reference count.
    `enable_snd_device` and `disable_snd_device` move the counts and work on the
    mixer paths when a count leaves or returns to zero;
    `check_and_route_usecases` moves the other usecases of a type to a device;
    the second half of `select_devices` (here `route`) moves one usecase.

    The four functions are modelled on the part of `audio_device` they work on.
    A usecase has a number that stands for its address, and each call that
    touches a count leaves a record of what it did to the mixer paths.

    The main results are `good_route`, `good_addUsecase` and `good_stop`: with one
    usecase per id the counts stay the numbers of usecases on each device, also
    while a usecase is half switched. -/

namespace AudioRouting

-- ── Devices and usecases ──────────────────────────────────────────────────

/-- The sound devices, in the order of their numbers. -/
inductive SndDevice where
  | none
  | outEarpiece
  | outSpeaker
  | outHeadphones
  | outSpeakerAndHeadphones
  | outVoiceEarpiece
  | outVoiceEarpieceWb
  | outVoiceSpeaker
  | outVoiceSpeakerWb
  | outVoiceHeadphones
  | outVoiceHeadphonesWb
  | outVoiceBtSco
  | outVoiceBtScoWb
  | outHdmi
  | outSpeakerAndHdmi
  | outBtSco
  | inEarpieceMic
  | inSpeakerMic
  | inHeadsetMic
  | inEarpieceMicAec
  | inSpeakerMicAec
  | inHeadsetMicAec
  | inVoiceMic
  | inVoiceEarpieceMic
  | inVoiceEarpieceMicWb
  | inVoiceSpeakerMic
  | inVoiceSpeakerMicWb
  | inVoiceHeadsetMic
  | inVoiceHeadsetMicWb
  | inVoiceBtScoMic
  | inVoiceBtScoMicWb
  | inHdmiMic
  | inBtScoMic
  | inCamcorderMic
  | inVoiceRecHeadsetMic
  | inVoiceRecMic
  deriving DecidableEq, Repr

/-- `snd_device > SND_DEVICE_IN_BEGIN`: an input device, but not the first. -/
def SndDevice.afterInBegin (d : SndDevice) : Bool :=
  decide (SndDevice.inEarpieceMic.ctorIdx < d.ctorIdx)

/-- The usecases of output streams. -/
inductive Playback where
  | playback
  | multiCh
  | offload
  | deepBuffer
  deriving DecidableEq, Repr

inductive UsecaseId where
  | playback (p : Playback)
  | capture
  | voiceCall
  deriving DecidableEq, Repr

inductive UsecaseType where
  | pcmPlayback
  | pcmCapture
  | voiceCall
  deriving DecidableEq, Repr

/-- The type a usecase with an id is started with. -/
def UsecaseId.type : UsecaseId → UsecaseType
  | .playback _ => .pcmPlayback
  | .capture => .pcmCapture
  | .voiceCall => .voiceCall

/-- The stream of a usecase. -/
inductive Stream where
  | output (n : Nat)
  | input (n : Nat)
  deriving DecidableEq, Repr

/-- `struct audio_usecase`.  `mixers` are the cards in its `mixer_list`. -/
structure Usecase where
  ptr : Nat
  id : UsecaseId
  outSndDevice : SndDevice
  inSndDevice : SndDevice
  stream : Stream
  mixers : List Nat
  deriving DecidableEq, Repr

def Usecase.type (uc : Usecase) : UsecaseType := uc.id.type

/-- The device of a usecase that `check_and_route_usecases` looks at. -/
def Usecase.sndDevice (uc : Usecase) (type : UsecaseType) : SndDevice :=
  if type = .pcmPlayback then uc.outSndDevice else uc.inSndDevice

def Usecase.setSndDevice (uc : Usecase) (type : UsecaseType) (d : SndDevice) : Usecase :=
  if type = .pcmPlayback then { uc with outSndDevice := d } else { uc with inSndDevice := d }

/-- What one `enable_snd_device` or `disable_snd_device` of a single device did:
    the count before and after, the cards of the usecase, the device of the
    first playback usecase, and the paths it applied and reset. -/
structure Call where
  enable : Bool
  device : SndDevice
  before : Nat
  after : Nat
  cards : List Nat
  rx : Option SndDevice
  applied : List (Nat × SndDevice)
  reset : List (Nat × SndDevice)
  deriving DecidableEq, Repr

/-- The routing part of `struct audio_device`, with the calls so far.
    `doubled` says whether a usecase was ever added while one with its id was
    active. -/
structure Routing where
  usecases : List Usecase
  sndDevRefCnt : SndDevice → Nat
  inCall : Bool
  nextPtr : Nat
  calls : List Call
  doubled : Bool

def initial : Routing where
  usecases := []
  sndDevRefCnt := fun _ => 0
  inCall := false
  nextPtr := 0
  calls := []
  doubled := false

-- ── Looking up usecases ───────────────────────────────────────────────────

def Routing.getUsecaseFromId (r : Routing) (id : UsecaseId) : Option Usecase :=
  r.usecases.find? fun uc => uc.id = id

/-- The first usecase of one of the types. -/
def Routing.getUsecaseFromType (r : Routing) (types : List UsecaseType) : Option Usecase :=
  r.usecases.find? fun uc => uc.type ∈ types

-- ── The counts ────────────────────────────────────────────────────────────

/-- `enable_snd_device` of a single device. -/
def Routing.enableOne (r : Routing) (uc : Usecase) (d : SndDevice) : Routing :=
  let before := r.sndDevRefCnt d
  let after := before + 1
  { r with
    sndDevRefCnt := Function.update r.sndDevRefCnt d after
    calls :=
      { enable := true
        device := d
        before := before
        after := after
        cards := uc.mixers
        rx := none
        applied := if after > 1 then [] else uc.mixers.map fun card => (card, d)
        reset := [] } :: r.calls }

def Routing.enableSndDevice (r : Routing) (uc : Usecase) (d : SndDevice) : Routing :=
  if d = .outSpeakerAndHeadphones then
    (r.enableOne uc .outSpeaker).enableOne uc .outHeadphones
  else r.enableOne uc d

/-- `disable_snd_device` of a single device.  When the count of an input device
    returns to zero, the path of the current output device is applied once
    more. -/
def Routing.disableOne (r : Routing) (uc : Usecase) (d : SndDevice) : Routing :=
  let before := r.sndDevRefCnt d
  let rx := (r.getUsecaseFromType [.pcmPlayback]).map Usecase.outSndDevice
  if before = 0 then
    { r with
      calls :=
        { enable := false
          device := d
          before := 0
          after := 0
          cards := uc.mixers
          rx := rx
          applied := []
          reset := [] } :: r.calls }
  else
    let after := before - 1
    { r with
      sndDevRefCnt := Function.update r.sndDevRefCnt d after
      calls :=
        { enable := false
          device := d
          before := before
          after := after
          cards := uc.mixers
          rx := rx
          applied :=
            if after = 0 ∧ d.afterInBegin = true then
              rx.elim [] fun o => uc.mixers.map fun card => (card, o)
            else []
          reset := if after = 0 then uc.mixers.map fun card => (card, d) else [] } :: r.calls }

def Routing.disableSndDevice (r : Routing) (uc : Usecase) (d : SndDevice) : Routing :=
  if d = .outSpeakerAndHeadphones then
    (r.disableOne uc .outSpeaker).disableOne uc .outHeadphones
  else r.disableOne uc d

-- ── Moving usecases ───────────────────────────────────────────────────────

/-- Change the record of one usecase. -/
def Routing.setUsecase (r : Routing) (p : Nat) (f : Usecase → Usecase) : Routing :=
  { r with usecases := r.usecases.map fun uc => if uc.ptr = p then f uc else uc }

/-- One round of the second loop of `check_and_route_usecases`. -/
def Routing.switchDevice (r : Routing) (type : UsecaseType) (d : SndDevice) (uc : Usecase) :
    Routing :=
  ((r.disableSndDevice uc (uc.sndDevice type)).enableSndDevice uc d).setUsecase uc.ptr
    fun uc => uc.setSndDevice type d

/-- `check_and_route_usecases`.  The first loop collects ids, the second one
    takes every usecase with one of them. -/
def Routing.checkAndRouteUsecases (r : Routing) (p : Nat) (type : UsecaseType) (d : SndDevice) :
    Routing :=
  let switched := (r.usecases.filter fun uc =>
    uc.type = type && uc.ptr ≠ p && uc.sndDevice type ≠ d).map Usecase.id
  (r.usecases.filter fun uc => uc.id ∈ switched).foldl (fun r uc => r.switchDevice type d uc) r

def Routing.disableCurrent (r : Routing) (uc : Usecase) (d : SndDevice) : Routing :=
  if d ≠ .none then r.disableSndDevice uc d else r

def Routing.enableNew (r : Routing) (uc : Usecase) (type : UsecaseType) (d : SndDevice) :
    Routing :=
  if d ≠ .none then (r.checkAndRouteUsecases uc.ptr type d).enableSndDevice uc d else r

/-- The second half of `select_devices`: nothing to do, or the old devices are
    disabled, the other usecases moved and the new devices enabled. -/
def Routing.route (r : Routing) (uc : Usecase) (out in' : SndDevice) : Routing :=
  if out = uc.outSndDevice ∧ in' = uc.inSndDevice then r
  else
    ((((r.disableCurrent uc uc.outSndDevice).disableCurrent uc uc.inSndDevice).enableNew
      uc .pcmPlayback out).enableNew uc .pcmCapture in').setUsecase uc.ptr
        fun uc => { uc with outSndDevice := out, inSndDevice := in' }

/-- `out_set_offload_parameters`: a usecase on the combined device goes to the
    headphones. -/
def Routing.setOffloadParameters (r : Routing) (uc : Usecase) : Routing :=
  if uc.outSndDevice = .outSpeakerAndHeadphones then
    (r.setUsecase uc.ptr fun uc => { uc with outSndDevice := .outHeadphones }).disableSndDevice
      { uc with outSndDevice := .outHeadphones } .outSpeaker
  else r

/-- A new usecase at the end of the list, without devices. -/
def Routing.addUsecase (r : Routing) (id : UsecaseId) (stream : Stream) (mixers : List Nat) :
    Routing :=
  { r with
    usecases := r.usecases ++ [
      { ptr := r.nextPtr
        id := id
        outSndDevice := .none
        inSndDevice := .none
        stream := stream
        mixers := mixers }]
    nextPtr := r.nextPtr + 1
    doubled := r.doubled || (r.getUsecaseFromId id).isSome }

def Routing.removeUsecase (r : Routing) (p : Nat) : Routing :=
  { r with usecases := r.usecases.filter fun uc => uc.ptr ≠ p }

-- ── Counting ──────────────────────────────────────────────────────────────

/-- How often a usecase on device `d` counts for device `x`.  The combined
    device is a speaker and a headphones. -/
def uses (d x : SndDevice) : Nat :=
  if d = .none then 0
  else if d = .outSpeakerAndHeadphones then
    (if x = .outSpeaker then 1 else 0) + (if x = .outHeadphones then 1 else 0)
  else if x = d then 1 else 0

def Usecase.uses (uc : Usecase) (x : SndDevice) : Nat :=
  AudioRouting.uses uc.outSndDevice x + AudioRouting.uses uc.inSndDevice x

/-- How many of the usecases are on a device. -/
def total (ucs : List Usecase) (x : SndDevice) : Nat := (ucs.map fun uc => uc.uses x).sum

/-- What a call may do: it disables a device that counts, resets the path of a
    device whose count returns to zero, and applies the path of a device whose
    count leaves zero, or, when an input device goes, the path of the current
    output device again. -/
structure Call.Faithful (c : Call) : Prop where
  counted : c.enable = false → c.before = 0 → c.device = .none
  reset : c.reset = if c.before = 1 ∧ c.after = 0 then c.cards.map fun card => (card, c.device)
    else []
  applied : c.applied = if c.before = 0 ∧ c.after = 1 then c.cards.map fun card => (card, c.device)
    else if c.before = 1 ∧ c.after = 0 ∧ c.device.afterInBegin = true then
      c.rx.elim [] fun o => c.cards.map fun card => (card, o)
    else []

section Counts

variable {r : Routing} {uc : Usecase} {d x : SndDevice}

@[simp]
theorem uses_none : uses .none x = 0 := rfl

theorem uses_at_none : uses d .none = 0 := by
  cases d <;> rfl

theorem uses_self_of_single (h : d ≠ .none) (hc : d ≠ .outSpeakerAndHeadphones) :
    uses d x = if x = d then 1 else 0 := by
  rw [uses, if_neg h, if_neg hc]

theorem uses_combined :
    uses .outSpeakerAndHeadphones x
      = (if x = .outSpeaker then 1 else 0) + (if x = .outHeadphones then 1 else 0) := rfl

theorem enableOne_cnt :
    (r.enableOne uc d).sndDevRefCnt x = r.sndDevRefCnt x + if x = d then 1 else 0 := by
  simp only [Routing.enableOne]
  by_cases hx : x = d
  · rw [hx, Function.update_self, if_pos rfl]
  · rw [Function.update_of_ne hx, if_neg hx, Nat.add_zero]

/-- Enabling a device adds what a usecase on it counts. -/
theorem enableSndDevice_cnt (hd : d ≠ .none) :
    (r.enableSndDevice uc d).sndDevRefCnt x = r.sndDevRefCnt x + uses d x := by
  rw [Routing.enableSndDevice]
  split
  · rename_i hc
    rw [hc, uses_combined, enableOne_cnt, enableOne_cnt, Nat.add_assoc]
  · rename_i hc
    rw [enableOne_cnt, uses_self_of_single hd hc]

theorem disableOne_cnt_zero (h : r.sndDevRefCnt d = 0) :
    (r.disableOne uc d).sndDevRefCnt = r.sndDevRefCnt := by
  simp only [Routing.disableOne, h, if_true]

theorem disableOne_cnt (h : r.sndDevRefCnt d ≠ 0) :
    (r.disableOne uc d).sndDevRefCnt x = r.sndDevRefCnt x - if x = d then 1 else 0 := by
  have hcnt : (r.disableOne uc d).sndDevRefCnt
      = Function.update r.sndDevRefCnt d (r.sndDevRefCnt d - 1) := by
    simp only [Routing.disableOne, h, if_false]
  rw [hcnt]
  by_cases hx : x = d
  · rw [hx, Function.update_self, if_pos rfl]
  · rw [Function.update_of_ne hx, if_neg hx, Nat.sub_zero]

/-- Disabling a device that counts takes away what a usecase on it counts.
    Disabling no device changes nothing. -/
theorem disableSndDevice_cnt (h : ∀ x, uses d x ≤ r.sndDevRefCnt x)
    (hnone : r.sndDevRefCnt .none = 0) :
    (r.disableSndDevice uc d).sndDevRefCnt x = r.sndDevRefCnt x - uses d x := by
  rw [Routing.disableSndDevice]
  split
  · rename_i hc
    subst hc
    have hspeaker : r.sndDevRefCnt .outSpeaker ≠ 0 := Nat.ne_of_gt (h .outSpeaker)
    have hheadphones : (r.disableOne uc .outSpeaker).sndDevRefCnt .outHeadphones ≠ 0 := by
      rw [disableOne_cnt hspeaker]
      exact Nat.ne_of_gt (h .outHeadphones)
    rw [disableOne_cnt hheadphones, disableOne_cnt hspeaker, uses_combined, Nat.sub_sub]
  · rename_i hc
    by_cases hd : d = .none
    · subst hd
      rw [disableOne_cnt_zero hnone, uses_none, Nat.sub_zero]
    · have hpos : r.sndDevRefCnt d ≠ 0 := by
        have hd' := h d
        rw [uses_self_of_single hd hc, if_pos rfl] at hd'
        exact Nat.ne_of_gt hd'
      rw [disableOne_cnt hpos, uses_self_of_single hd hc]

/-- All calls so far did what a call may do. -/
def Routing.CallsFaithful (r : Routing) : Prop := ∀ c ∈ r.calls, c.Faithful

theorem enableOne_faithful (h : r.CallsFaithful) : (r.enableOne uc d).CallsFaithful := by
  intro c hc
  rcases List.mem_cons.mp hc with rfl | hc
  · refine ⟨fun henable => (nomatch henable), ?_, ?_⟩
    · simp
    · by_cases hzero : r.sndDevRefCnt d = 0
      · simp [hzero]
      · simp [hzero, Nat.pos_of_ne_zero hzero]
  · exact h c hc

theorem enableSndDevice_faithful (h : r.CallsFaithful) :
    (r.enableSndDevice uc d).CallsFaithful := by
  rw [Routing.enableSndDevice]
  split
  · exact enableOne_faithful (enableOne_faithful h)
  · exact enableOne_faithful h

theorem disableOne_faithful (h : r.CallsFaithful) (hd : r.sndDevRefCnt d = 0 → d = .none) :
    (r.disableOne uc d).CallsFaithful := by
  rw [Routing.disableOne]
  simp only
  split
  · rename_i hzero
    intro c hc
    rcases List.mem_cons.mp hc with rfl | hc
    · exact ⟨fun _ _ => hd hzero, by simp, by simp⟩
    · exact h c hc
  · rename_i hpos
    intro c hc
    rcases List.mem_cons.mp hc with rfl | hc
    · have hlast : r.sndDevRefCnt d - 1 = 0 ↔ r.sndDevRefCnt d = 1 ∧ r.sndDevRefCnt d - 1 = 0 := by
        omega
      refine ⟨fun _ hzero => absurd hzero hpos, ?_, ?_⟩
      · simp only [← hlast]
      · simp only [hpos, false_and, if_false]
        simp only [← and_assoc, ← hlast]
    · exact h c hc

theorem disableSndDevice_faithful (h : r.CallsFaithful) (huses : ∀ x, uses d x ≤ r.sndDevRefCnt x) :
    (r.disableSndDevice uc d).CallsFaithful := by
  rw [Routing.disableSndDevice]
  split
  · rename_i hc
    subst hc
    have hspeaker : r.sndDevRefCnt .outSpeaker ≠ 0 := Nat.ne_of_gt (huses .outSpeaker)
    refine disableOne_faithful (disableOne_faithful h fun hzero => absurd hzero hspeaker) ?_
    intro hzero
    rw [disableOne_cnt hspeaker] at hzero
    exact absurd hzero (Nat.ne_of_gt (huses .outHeadphones))
  · rename_i hc
    refine disableOne_faithful h ?_
    intro hzero
    by_contra hd
    have hd' := huses d
    rw [uses_self_of_single hd hc, if_pos rfl, hzero] at hd'
    exact absurd hd' (by decide)

end Counts

-- ── What enabling and disabling leave alone ───────────────────────────────

section Frames

variable (r : Routing) (uc : Usecase) (d : SndDevice)

/-- The usecases, the call flag and the bookkeeping of a routing. -/
def Routing.frame (r : Routing) : List Usecase × Bool × Nat × Bool :=
  (r.usecases, r.inCall, r.nextPtr, r.doubled)

@[simp]
theorem enableSndDevice_frame : (r.enableSndDevice uc d).frame = r.frame := by
  rw [Routing.enableSndDevice]
  split <;> rfl

theorem disableOne_frame : (r.disableOne uc d).frame = r.frame := by
  simp only [Routing.disableOne]
  split <;> rfl

@[simp]
theorem disableSndDevice_frame : (r.disableSndDevice uc d).frame = r.frame := by
  rw [Routing.disableSndDevice]
  split
  · rw [disableOne_frame, disableOne_frame]
  · rw [disableOne_frame]

@[simp]
theorem enableSndDevice_usecases : (r.enableSndDevice uc d).usecases = r.usecases :=
  congrArg Prod.fst (enableSndDevice_frame r uc d)

@[simp]
theorem disableSndDevice_usecases : (r.disableSndDevice uc d).usecases = r.usecases :=
  congrArg Prod.fst (disableSndDevice_frame r uc d)

end Frames

-- ── Sums over the list ────────────────────────────────────────────────────

/-- The usecases other than the one at an address. -/
def others (ucs : List Usecase) (p : Nat) : List Usecase := ucs.filter fun uc => uc.ptr ≠ p

section Sums

variable {ucs : List Usecase} {uc : Usecase} {x : SndDevice}

theorem total_cons (uc : Usecase) (ucs : List Usecase) (x : SndDevice) :
    total (uc :: ucs) x = uc.uses x + total ucs x := rfl

theorem total_append (as bs : List Usecase) (x : SndDevice) :
    total (as ++ bs) x = total as x + total bs x := by
  simp [total]

theorem total_at_none (ucs : List Usecase) : total ucs .none = 0 := by
  induction ucs with
  | nil => rfl
  | cons uc rest ih => rw [total_cons, ih, Usecase.uses, uses_at_none, uses_at_none]

theorem others_eq_self {p : Nat} (h : p ∉ ucs.map Usecase.ptr) : others ucs p = ucs := by
  refine List.filter_eq_self.mpr ?_
  intro v hv
  have hne : v.ptr ≠ p := by
    rintro rfl
    exact h (List.mem_map_of_mem hv)
  simpa using hne

/-- One usecase and the others make up the whole list. -/
theorem total_eq_others (hnd : (ucs.map Usecase.ptr).Nodup) (hmem : uc ∈ ucs) :
    total ucs x = total (others ucs uc.ptr) x + uc.uses x := by
  induction ucs with
  | nil => exact absurd hmem List.not_mem_nil
  | cons v rest ih =>
      rw [List.map_cons, List.nodup_cons] at hnd
      rcases List.mem_cons.mp hmem with rfl | hrest
      · have hskip : others (uc :: rest) uc.ptr = rest := by
          rw [others, List.filter_cons_of_neg (by simp)]
          exact others_eq_self hnd.1
        rw [hskip, total_cons, Nat.add_comm]
      · have hne : v.ptr ≠ uc.ptr := by
          intro heq
          exact hnd.1 (heq ▸ List.mem_map_of_mem hrest)
        have hkeep : others (v :: rest) uc.ptr = v :: others rest uc.ptr := by
          rw [others, List.filter_cons_of_pos (by simpa using hne)]
          rfl
        rw [hkeep, total_cons, total_cons, ih hnd.2 hrest, Nat.add_assoc]

end Sums

-- ── Changing records ──────────────────────────────────────────────────────

/-- Change the record at an address. -/
def changeAt (p : Nat) (f : Usecase → Usecase) (uc : Usecase) : Usecase :=
  if uc.ptr = p then f uc else uc

/-- A change of a record keeps its address, id, stream and mixers. -/
def KeepsIdentity (f : Usecase → Usecase) : Prop :=
  ∀ uc, (f uc).ptr = uc.ptr ∧ (f uc).id = uc.id ∧ (f uc).stream = uc.stream
    ∧ (f uc).mixers = uc.mixers

section Changes

variable {ucs : List Usecase} {f : Usecase → Usecase} {p : Nat}

theorem keepsIdentity_changeAt (hf : KeepsIdentity f) : KeepsIdentity (changeAt p f) := by
  intro uc
  rw [changeAt]
  split
  · exact hf uc
  · exact ⟨rfl, rfl, rfl, rfl⟩

theorem keepsIdentity_setSndDevice (type : UsecaseType) (d : SndDevice) :
    KeepsIdentity fun uc => uc.setSndDevice type d := by
  intro uc
  simp only [Usecase.setSndDevice]
  split <;> exact ⟨rfl, rfl, rfl, rfl⟩

theorem map_ptr_of_keepsIdentity (hf : KeepsIdentity f) :
    (ucs.map f).map Usecase.ptr = ucs.map Usecase.ptr := by
  rw [List.map_map]
  exact List.map_congr_left fun uc _ => (hf uc).1

theorem map_id_of_keepsIdentity (hf : KeepsIdentity f) :
    (ucs.map f).map Usecase.id = ucs.map Usecase.id := by
  rw [List.map_map]
  exact List.map_congr_left fun uc _ => (hf uc).2.1

/-- A change at an address leaves the others alone. -/
theorem others_map_changeAt (hf : KeepsIdentity f) :
    others (ucs.map (changeAt p f)) p = others ucs p := by
  induction ucs with
  | nil => rfl
  | cons v rest ih =>
      rw [List.map_cons, others, others]
      by_cases hv : v.ptr = p
      · have hv' : (changeAt p f v).ptr = p := ((keepsIdentity_changeAt hf) v).1.trans hv
        rw [List.filter_cons_of_neg (by simpa using hv'), List.filter_cons_of_neg (by simpa using hv)]
        exact ih
      · have hsame : changeAt p f v = v := if_neg hv
        rw [hsame, List.filter_cons_of_pos (by simpa using hv),
          List.filter_cons_of_pos (by simpa using hv)]
        exact congrArg (v :: ·) ih

theorem others_map (hf : KeepsIdentity f) : others (ucs.map f) p = (others ucs p).map f := by
  rw [others, others, List.filter_map]
  refine congrArg (List.map f) (List.filter_congr ?_)
  intro uc _
  simp only [Function.comp_apply, (hf uc).1]

/-- Changing one record changes the sum by what that record counts. -/
theorem total_changeAt {uc : Usecase} {x : SndDevice} (hf : KeepsIdentity f)
    (hnd : (ucs.map Usecase.ptr).Nodup) (hmem : uc ∈ ucs) :
    total (ucs.map (changeAt uc.ptr f)) x + uc.uses x = total ucs x + (f uc).uses x := by
  have hnew : f uc ∈ ucs.map (changeAt uc.ptr f) := by
    have hch : changeAt uc.ptr f uc = f uc := if_pos rfl
    exact hch ▸ List.mem_map_of_mem hmem
  have hnd' : ((ucs.map (changeAt uc.ptr f)).map Usecase.ptr).Nodup := by
    rw [map_ptr_of_keepsIdentity (keepsIdentity_changeAt hf)]
    exact hnd
  have hsum := @total_eq_others _ _ x hnd' hnew
  rw [(hf uc).1, others_map_changeAt hf] at hsum
  have hsum' := @total_eq_others _ _ x hnd hmem
  omega

end Changes

-- ── The invariant ─────────────────────────────────────────────────────────

/-- A usecase of a type may have these devices. -/
def Fits (type : UsecaseType) (out in' : SndDevice) : Prop :=
  (type = .pcmPlayback → in' = .none) ∧ (type = .pcmCapture → out = .none)

/-- The list of usecases is in order: one per address, one per id, and each
    with devices of its kind. -/
structure Tidy (r : Routing) : Prop where
  ptrs : (r.usecases.map Usecase.ptr).Nodup
  ids : (r.usecases.map Usecase.id).Nodup
  fresh : ∀ uc ∈ r.usecases, uc.ptr < r.nextPtr
  fits : ∀ uc ∈ r.usecases, Fits uc.type uc.outSndDevice uc.inSndDevice

/-- The counts are these, and every call was faithful. -/
structure Balanced (r : Routing) (count : SndDevice → Nat) : Prop where
  counts : ∀ x, r.sndDevRefCnt x = count x
  calls : r.CallsFaithful

/-- The list is in order and the counts are the numbers of usecases. -/
structure Good (r : Routing) : Prop extends Tidy r where
  balanced : Balanced r (total r.usecases)

theorem good_initial : Good initial where
  ptrs := List.nodup_nil
  ids := List.nodup_nil
  fresh := fun _ h => absurd h List.not_mem_nil
  fits := fun _ h => absurd h List.not_mem_nil
  balanced := ⟨fun _ => rfl, fun _ h => absurd h List.not_mem_nil⟩

section Steps

variable {r : Routing} {uc : Usecase} {d : SndDevice} {count : SndDevice → Nat}

theorem balanced_congr {count' : SndDevice → Nat} (h : Balanced r count)
    (heq : ∀ x, count x = count' x) : Balanced r count' where
  counts := fun x => (h.counts x).trans (heq x)
  calls := h.calls

theorem balanced_enable (h : Balanced r count) (hd : d ≠ .none) :
    Balanced (r.enableSndDevice uc d) fun x => count x + uses d x where
  counts := fun x => by rw [enableSndDevice_cnt hd, h.counts]
  calls := enableSndDevice_faithful h.calls

theorem balanced_disable (h : Balanced r count) (huses : ∀ x, uses d x ≤ count x)
    (hnone : count .none = 0) :
    Balanced (r.disableSndDevice uc d) fun x => count x - uses d x := by
  have huses' : ∀ x, uses d x ≤ r.sndDevRefCnt x := fun x => by
    rw [h.counts]
    exact huses x
  exact
    { counts := fun x => by rw [disableSndDevice_cnt huses' (by rw [h.counts, hnone]), h.counts]
      calls := disableSndDevice_faithful h.calls huses' }

/-- Only the list, the call flag and the bookkeeping decide whether the list is
    in order. -/
theorem tidy_of_frame {r' : Routing} (h : Tidy r) (hframe : r'.frame = r.frame) : Tidy r' := by
  obtain ⟨hucs, hrest⟩ := Prod.mk.inj hframe
  obtain ⟨-, hrest⟩ := Prod.mk.inj hrest
  obtain ⟨hptr, -⟩ := Prod.mk.inj hrest
  exact
    { ptrs := by rw [hucs]; exact h.ptrs
      ids := by rw [hucs]; exact h.ids
      fresh := by rw [hucs, hptr]; exact h.fresh
      fits := by rw [hucs]; exact h.fits }

/-- Changing devices keeps the list in order if they fit. -/
theorem tidy_map {f : Usecase → Usecase} (h : Tidy r) (hf : KeepsIdentity f)
    (hfits : ∀ uc ∈ r.usecases, Fits uc.type (f uc).outSndDevice (f uc).inSndDevice) :
    Tidy { r with usecases := r.usecases.map f } where
  ptrs := by
    rw [map_ptr_of_keepsIdentity hf]
    exact h.ptrs
  ids := by
    rw [map_id_of_keepsIdentity hf]
    exact h.ids
  fresh := by
    intro v hv
    obtain ⟨w, hw, rfl⟩ := List.mem_map.mp hv
    rw [(hf w).1]
    exact h.fresh w hw
  fits := by
    intro v hv
    obtain ⟨w, hw, rfl⟩ := List.mem_map.mp hv
    have htype : (f w).type = w.type := congrArg UsecaseId.type (hf w).2.1
    rw [htype]
    exact hfits w hw

/-- Two usecases with one id are one usecase. -/
theorem eq_of_id_eq (h : Tidy r) {v w : Usecase} (hv : v ∈ r.usecases) (hw : w ∈ r.usecases)
    (hid : v.id = w.id) : v = w :=
  List.inj_on_of_nodup_map h.ids hv hw hid

theorem eq_of_ptr_eq (h : Tidy r) {v w : Usecase} (hv : v ∈ r.usecases) (hw : w ∈ r.usecases)
    (hptr : v.ptr = w.ptr) : v = w :=
  List.inj_on_of_nodup_map h.ptrs hv hw hptr

end Steps

-- ── Moving the other usecases ─────────────────────────────────────────────

/-- The counts are those of all usecases but one, and what was enabled for that
    one already. -/
def BalancedBut (r : Routing) (p : Nat) (extra : SndDevice → Nat) : Prop :=
  Balanced r fun x => total (others r.usecases p) x + extra x

/-- What moving usecases to a device did: the records have changed this way, the
    list is in order, and the counts have followed. -/
structure Moved (r r' : Routing) (p : Nat) (extra : SndDevice → Nat) (f : Usecase → Usecase) :
    Prop where
  usecases : r'.usecases = r.usecases.map f
  rest : r'.frame.2 = r.frame.2
  tidy : Tidy r'
  balanced : BalancedBut r' p extra

section Switching

variable {r : Routing} {p : Nat} {type : UsecaseType} {d : SndDevice} {extra : SndDevice → Nat}

theorem fits_setSndDevice {uc : Usecase} (h : Fits uc.type uc.outSndDevice uc.inSndDevice)
    (htype : uc.type = type) (hvoice : type ≠ .voiceCall) :
    Fits uc.type (uc.setSndDevice type d).outSndDevice (uc.setSndDevice type d).inSndDevice := by
  rw [htype] at h ⊢
  cases type with
  | pcmPlayback => exact ⟨h.1, fun h => (nomatch h)⟩
  | pcmCapture => exact ⟨fun h => (nomatch h), h.2⟩
  | voiceCall => exact absurd rfl hvoice

/-- Setting the device that `check_and_route_usecases` looks at exchanges what
    it counts. -/
theorem uses_setSndDevice (uc : Usecase) (type : UsecaseType) (d x : SndDevice) :
    (uc.setSndDevice type d).uses x + uses (uc.sndDevice type) x = uc.uses x + uses d x := by
  simp only [Usecase.setSndDevice, Usecase.sndDevice, Usecase.uses]
  split
  · simp only
    omega
  · simp only
    omega

theorem moved_switchDevice {uc : Usecase} (htidy : Tidy r) (hbal : BalancedBut r p extra)
    (hextra : extra .none = 0) (hmem : uc ∈ r.usecases) (hp : uc.ptr ≠ p)
    (htype : uc.type = type) (hvoice : type ≠ .voiceCall) (hd : d ≠ .none) :
    Moved r (r.switchDevice type d uc) p extra
      (changeAt uc.ptr fun v => v.setSndDevice type d) := by
  have hf := keepsIdentity_setSndDevice type d
  have hmem' : uc ∈ others r.usecases p := List.mem_filter.mpr ⟨hmem, by simpa using hp⟩
  have hnd : ((others r.usecases p).map Usecase.ptr).Nodup :=
    htidy.ptrs.sublist (List.filter_sublist.map _)
  have huc : ∀ x, uses (uc.sndDevice type) x ≤ uc.uses x := by
    intro x
    simp only [Usecase.uses, Usecase.sndDevice]
    split <;> omega
  have hsum : ∀ x, uc.uses x ≤ total (others r.usecases p) x := by
    intro x
    rw [total_eq_others hnd hmem']
    omega
  have hle : ∀ x, uses (uc.sndDevice type) x ≤ total (others r.usecases p) x + extra x := by
    intro x
    have h1 := huc x
    have h2 := hsum x
    omega
  have hzero : total (others r.usecases p) .none + extra .none = 0 := by
    rw [total_at_none, hextra]
  have hbal' := @balanced_enable _ uc _ _ (@balanced_disable _ uc _ _ hbal hle hzero) hd
  have husecases : (r.switchDevice type d uc).usecases
      = r.usecases.map (changeAt uc.ptr fun v => v.setSndDevice type d) := by
    simp only [Routing.switchDevice, Routing.setUsecase, enableSndDevice_usecases,
      disableSndDevice_usecases]
    rfl
  have hframe : ((r.disableSndDevice uc (uc.sndDevice type)).enableSndDevice uc d).frame
      = r.frame := by
    rw [enableSndDevice_frame, disableSndDevice_frame]
  refine ⟨husecases, ?_, ?_, ?_⟩
  · exact congrArg (fun frame => frame.2) hframe
  · refine tidy_map (tidy_of_frame htidy hframe) (keepsIdentity_changeAt hf) ?_
    intro v hv
    rw [enableSndDevice_usecases, disableSndDevice_usecases] at hv
    split
    · rename_i hptr
      rw [eq_of_ptr_eq htidy hv hmem hptr]
      exact fits_setSndDevice (htidy.fits uc hmem) htype hvoice
    · exact htidy.fits v hv
  · refine ⟨fun x => ?_, hbal'.calls⟩
    refine (hbal'.counts x).trans ?_
    rw [husecases, others_map (keepsIdentity_changeAt hf)]
    have hchange := @total_changeAt _ _ _ x hf hnd hmem'
    have hset := uses_setSndDevice uc type d x
    have h1 := huc x
    have h2 := hsum x
    omega

/-- The second loop of `check_and_route_usecases`. -/
theorem moved_switchAll (hextra : extra .none = 0) (hvoice : type ≠ .voiceCall)
    (hd : d ≠ .none) :
    ∀ (switched : List Usecase) {r : Routing}, Tidy r → BalancedBut r p extra →
      (switched.map Usecase.ptr).Nodup →
      (∀ uc ∈ switched, uc ∈ r.usecases ∧ uc.ptr ≠ p ∧ uc.type = type) →
      Moved r (switched.foldl (fun r uc => r.switchDevice type d uc) r) p extra fun v =>
        if v.ptr ∈ switched.map Usecase.ptr then v.setSndDevice type d else v := by
  intro switched
  induction switched with
  | nil =>
      intro r htidy hbal _ _
      refine ⟨?_, rfl, htidy, hbal⟩
      simp
  | cons uc rest ih =>
      intro r htidy hbal hnd hin
      obtain ⟨hmem, hp, htype⟩ := hin uc List.mem_cons_self
      rw [List.map_cons, List.nodup_cons] at hnd
      have hone := moved_switchDevice htidy hbal hextra hmem hp htype hvoice hd
      have hin' : ∀ v ∈ rest, v ∈ (r.switchDevice type d uc).usecases ∧ v.ptr ≠ p
          ∧ v.type = type := by
        intro v hv
        obtain ⟨hv', hvp, hvt⟩ := hin v (List.mem_cons_of_mem uc hv)
        refine ⟨?_, hvp, hvt⟩
        have hne : v.ptr ≠ uc.ptr := by
          intro heq
          exact hnd.1 (heq ▸ List.mem_map_of_mem hv)
        have hsame : changeAt uc.ptr (fun v => v.setSndDevice type d) v = v := if_neg hne
        rw [hone.usecases]
        exact hsame ▸ List.mem_map_of_mem hv'
      have hrest := ih hone.tidy hone.balanced hnd.2 hin'
      refine ⟨?_, hrest.rest.trans hone.rest, hrest.tidy, hrest.balanced⟩
      rw [List.foldl_cons, hrest.usecases, hone.usecases, List.map_map]
      refine List.map_congr_left ?_
      intro v _
      simp only [Function.comp_apply, changeAt, List.map_cons, List.mem_cons]
      by_cases hv : v.ptr = uc.ptr
      · have hptr : (v.setSndDevice type d).ptr = uc.ptr :=
          ((keepsIdentity_setSndDevice type d) v).1.trans hv
        rw [if_pos hv, hptr, if_neg hnd.1, if_pos (Or.inl hv)]
      · rw [if_neg hv]
        simp only [hv, false_or]

theorem setSndDevice_self {uc : Usecase} (h : uc.sndDevice type = d) :
    uc.setSndDevice type d = uc := by
  simp only [Usecase.sndDevice] at h
  simp only [Usecase.setSndDevice]
  split
  · rename_i htype
    rw [if_pos htype] at h
    rw [← h]
  · rename_i htype
    rw [if_neg htype] at h
    rw [← h]

/-- **ONE BACKEND**: `check_and_route_usecases` puts every other usecase of the
    type on the device. -/
theorem moved_checkAndRoute (htidy : Tidy r) (hbal : BalancedBut r p extra)
    (hextra : extra .none = 0) (hvoice : type ≠ .voiceCall) (hd : d ≠ .none) :
    Moved r (r.checkAndRouteUsecases p type d) p extra fun v =>
      if v.type = type ∧ v.ptr ≠ p then v.setSndDevice type d else v := by
  -- an id that is to be switched belongs to one usecase, so the ids pick out the usecases
  have hpick : (r.usecases.filter fun uc => uc.id ∈ (r.usecases.filter fun uc =>
        uc.type = type && uc.ptr ≠ p && uc.sndDevice type ≠ d).map Usecase.id)
      = r.usecases.filter fun uc => uc.type = type && uc.ptr ≠ p && uc.sndDevice type ≠ d := by
    refine List.filter_congr ?_
    intro v hv
    rw [Bool.eq_iff_iff, decide_eq_true_iff]
    constructor
    · intro hid
      obtain ⟨w, hw, hwid⟩ := List.mem_map.mp hid
      obtain ⟨hw, hcond⟩ := List.mem_filter.mp hw
      exact eq_of_id_eq htidy hw hv hwid ▸ hcond
    · intro hcond
      exact List.mem_map_of_mem (List.mem_filter.mpr ⟨hv, hcond⟩)
  simp only [Routing.checkAndRouteUsecases]
  rw [hpick]
  have hall := @moved_switchAll p type d extra hextra hvoice hd
    (r.usecases.filter fun uc => uc.type = type && uc.ptr ≠ p && uc.sndDevice type ≠ d) r htidy hbal
    (htidy.ptrs.sublist (List.filter_sublist.map _)) (by
      intro uc huc
      obtain ⟨hmem, hcond⟩ := List.mem_filter.mp huc
      simp only [Bool.and_eq_true, decide_eq_true_eq] at hcond
      exact ⟨hmem, hcond.1.2, hcond.1.1⟩)
  refine ⟨hall.usecases.trans (List.map_congr_left ?_), hall.rest, hall.tidy, hall.balanced⟩
  intro v hv
  by_cases hcond : v.type = type ∧ v.ptr ≠ p
  · rw [if_pos hcond]
    by_cases hdev : v.sndDevice type = d
    · rw [setSndDevice_self hdev]
      split <;> rfl
    · refine if_pos (List.mem_map_of_mem (List.mem_filter.mpr ⟨hv, ?_⟩))
      simp [hcond, hdev]
  · rw [if_neg hcond]
    refine if_neg ?_
    intro hin
    obtain ⟨w, hw, hptr⟩ := List.mem_map.mp hin
    obtain ⟨hw, hwcond⟩ := List.mem_filter.mp hw
    rw [eq_of_ptr_eq htidy hw hv hptr] at hwcond
    simp only [Bool.and_eq_true, decide_eq_true_eq] at hwcond
    exact hcond hwcond.1

end Switching

-- ── Moving one usecase ────────────────────────────────────────────────────

/-- What `route` makes of a record: the usecase gets its devices, and the other
    usecases of a type follow it to a device. -/
def routed (p : Nat) (out in' : SndDevice) (uc : Usecase) : Usecase :=
  if uc.ptr = p then { uc with outSndDevice := out, inSndDevice := in' }
  else if out ≠ .none ∧ uc.type = .pcmPlayback then { uc with outSndDevice := out }
  else if in' ≠ .none ∧ uc.type = .pcmCapture then { uc with inSndDevice := in' }
  else uc

section Route

variable {r : Routing} {uc : Usecase} {out in' : SndDevice}

@[simp]
theorem disableCurrent_frame (r : Routing) (uc : Usecase) (d : SndDevice) :
    (r.disableCurrent uc d).frame = r.frame := by
  rw [Routing.disableCurrent]
  split
  · exact disableSndDevice_frame r uc d
  · rfl

theorem balanced_disableCurrent {d : SndDevice} {count : SndDevice → Nat} (h : Balanced r count)
    (huses : ∀ x, uses d x ≤ count x) (hnone : count .none = 0) :
    Balanced (r.disableCurrent uc d) fun x => count x - uses d x := by
  rw [Routing.disableCurrent]
  split
  · exact balanced_disable h huses hnone
  · rename_i hd
    rw [not_not] at hd
    exact balanced_congr h fun x => by rw [hd, uses_none, Nat.sub_zero]

/-- Disabling the devices of a usecase leaves the counts of the others. -/
theorem balancedBut_disable (h : Good r) (hmem : uc ∈ r.usecases) :
    BalancedBut ((r.disableCurrent uc uc.outSndDevice).disableCurrent uc uc.inSndDevice) uc.ptr
      fun _ => 0 := by
  have hsum : ∀ x, total r.usecases x = total (others r.usecases uc.ptr) x
      + (uses uc.outSndDevice x + uses uc.inSndDevice x) :=
    fun x => total_eq_others h.ptrs hmem
  have hout := @balanced_disableCurrent _ uc _ _ h.balanced
    (fun x => show uses uc.outSndDevice x ≤ _ by rw [hsum x]; omega) (total_at_none _)
  have hin := @balanced_disableCurrent _ uc _ _ hout
    (fun x => show uses uc.inSndDevice x ≤ _ by rw [hsum x]; omega)
    (by rw [total_at_none, Nat.zero_sub])
  have husecases : ((r.disableCurrent uc uc.outSndDevice).disableCurrent uc uc.inSndDevice).usecases
      = r.usecases := by
    refine congrArg Prod.fst (show Routing.frame _ = r.frame from ?_)
    rw [disableCurrent_frame, disableCurrent_frame]
  rw [BalancedBut, husecases]
  refine balanced_congr hin fun x => ?_
  rw [hsum x]
  omega

/-- A new device for a usecase: the others of the type follow. -/
theorem moved_enableNew {type : UsecaseType} {d : SndDevice} {extra : SndDevice → Nat}
    (htidy : Tidy r) (hbal : BalancedBut r uc.ptr extra) (hextra : extra .none = 0)
    (hvoice : type ≠ .voiceCall) :
    Moved r (r.enableNew uc type d) uc.ptr (fun x => extra x + uses d x) fun v =>
      if d ≠ .none ∧ v.type = type ∧ v.ptr ≠ uc.ptr then v.setSndDevice type d else v := by
  rw [Routing.enableNew]
  split
  · rename_i hd
    have hmoved := moved_checkAndRoute htidy hbal hextra hvoice hd
    have hframe := enableSndDevice_frame (r.checkAndRouteUsecases uc.ptr type d) uc d
    refine ⟨?_, ?_, tidy_of_frame hmoved.tidy hframe, ?_⟩
    · rw [enableSndDevice_usecases, hmoved.usecases]
      simp only [hd, ne_eq, not_false_iff, true_and]
    · rw [hframe]
      exact hmoved.rest
    · rw [BalancedBut, enableSndDevice_usecases]
      exact balanced_congr (balanced_enable hmoved.balanced hd) fun x => Nat.add_assoc _ _ _
  · rename_i hd
    rw [not_not] at hd
    refine ⟨?_, rfl, htidy, ?_⟩
    · simp [hd]
    · refine balanced_congr hbal fun x => ?_
      simp only [hd, uses_none, Nat.add_zero]

theorem keepsIdentity_devices (out in' : SndDevice) :
    KeepsIdentity fun uc => { uc with outSndDevice := out, inSndDevice := in' } :=
  fun _ => ⟨rfl, rfl, rfl, rfl⟩

/-- The three changes of a record that make up `route`. -/
theorem routed_eq (p : Nat) (out in' : SndDevice) (v : Usecase) :
    changeAt p (fun uc => { uc with outSndDevice := out, inSndDevice := in' })
      ((fun v => if in' ≠ .none ∧ v.type = .pcmCapture ∧ v.ptr ≠ p
          then v.setSndDevice .pcmCapture in' else v)
        ((fun v => if out ≠ .none ∧ v.type = .pcmPlayback ∧ v.ptr ≠ p
          then v.setSndDevice .pcmPlayback out else v) v))
      = routed p out in' v := by
  simp only [routed, changeAt]
  by_cases hp : v.ptr = p
  · simp [hp]
  · cases htype : v.type with
    | voiceCall => simp [hp, htype]
    | pcmCapture =>
        by_cases hin : in' = .none
        · simp [hp, htype, hin]
        · simp [hp, htype, hin, Usecase.setSndDevice]
    | pcmPlayback =>
        by_cases hout : out = .none
        · simp [hp, htype, hout]
        · have htype' : ({ v with outSndDevice := out } : Usecase).type = .pcmPlayback := htype
          simp [hp, hout, Usecase.setSndDevice, htype']

theorem mem_of_map_keeps {ucs : List Usecase} {f : Usecase → Usecase} (hmem : uc ∈ ucs)
    (hf : f uc = uc) : uc ∈ ucs.map f :=
  hf ▸ List.mem_map_of_mem hmem

/-- `route` gives the usecase its devices and keeps the counts exact. -/
theorem good_route_of_ne (h : Good r) (hmem : uc ∈ r.usecases) (hfits : Fits uc.type out in')
    (hne : ¬ (out = uc.outSndDevice ∧ in' = uc.inSndDevice)) :
    Good (r.route uc out in') ∧ (r.route uc out in').usecases = r.usecases.map (routed uc.ptr out in')
      ∧ (r.route uc out in').frame.2 = r.frame.2 := by
  rw [Routing.route, if_neg hne]
  have hframe : ((r.disableCurrent uc uc.outSndDevice).disableCurrent uc uc.inSndDevice).frame
      = r.frame := by
    rw [disableCurrent_frame, disableCurrent_frame]
  have hucs : ((r.disableCurrent uc uc.outSndDevice).disableCurrent uc uc.inSndDevice).usecases
      = r.usecases := congrArg Prod.fst hframe
  have hout := @moved_enableNew _ uc .pcmPlayback out _ (tidy_of_frame h.toTidy hframe)
    (balancedBut_disable h hmem) rfl (fun h => nomatch h)
  have hin := @moved_enableNew _ uc .pcmCapture in' _ hout.tidy hout.balanced
    (by rw [uses_at_none]) (fun h => nomatch h)
  generalize ((r.disableCurrent uc uc.outSndDevice).disableCurrent uc uc.inSndDevice).enableNew
    uc .pcmPlayback out = r₁ at hout hin ⊢
  generalize r₁.enableNew uc .pcmCapture in' = r₂ at hin ⊢
  have hucs₁ := hout.usecases
  rw [hucs] at hucs₁
  have hmem₁ : uc ∈ r₁.usecases := by
    rw [hucs₁]
    exact mem_of_map_keeps hmem (if_neg fun h => h.2.2 rfl)
  have hmem₂ : uc ∈ r₂.usecases := by
    rw [hin.usecases]
    exact mem_of_map_keeps hmem₁ (if_neg fun h => h.2.2 rfl)
  have hf := keepsIdentity_devices out in'
  have hucs₂ : r₂.usecases.map
        (changeAt uc.ptr fun uc => { uc with outSndDevice := out, inSndDevice := in' })
      = r.usecases.map (routed uc.ptr out in') := by
    rw [hin.usecases, hucs₁, List.map_map, List.map_map]
    exact List.map_congr_left fun v _ => routed_eq uc.ptr out in' v
  refine ⟨?_, hucs₂, (hin.rest.trans hout.rest).trans (congrArg Prod.snd hframe)⟩
  refine ⟨tidy_map hin.tidy (keepsIdentity_changeAt hf) ?_, ?_⟩
  · intro v hv
    split
    · rename_i hptr
      rw [eq_of_ptr_eq hin.tidy hv hmem₂ hptr]
      exact hfits
    · exact hin.tidy.fits v hv
  · refine ⟨fun x => (hin.balanced.counts x).trans ?_, hin.balanced.calls⟩
    have hchange := @total_changeAt _ _ _ x hf hin.tidy.ptrs hmem₂
    have hsum := @total_eq_others _ _ x hin.tidy.ptrs hmem₂
    have huses : ({ uc with outSndDevice := out, inSndDevice := in' } : Usecase).uses x
        = uses out x + uses in' x := rfl
    rw [huses] at hchange
    show _ + (0 + uses out x + uses in' x) = total (r₂.usecases.map (changeAt uc.ptr _)) x
    omega

theorem good_route (h : Good r) (hmem : uc ∈ r.usecases) (hfits : Fits uc.type out in') :
    Good (r.route uc out in') := by
  by_cases hsame : out = uc.outSndDevice ∧ in' = uc.inSndDevice
  · rw [Routing.route, if_pos hsame]
    exact h
  · exact (good_route_of_ne h hmem hfits hsame).1

end Route

-- ── Starting and stopping usecases ────────────────────────────────────────

section StartStop

variable {r : Routing} {uc : Usecase}

theorem getUsecaseFromId_eq_some {id : UsecaseId} (h : r.getUsecaseFromId id = some uc) :
    uc ∈ r.usecases ∧ uc.id = id :=
  ⟨List.mem_of_find?_eq_some h, by simpa using List.find?_some h⟩

theorem not_mem_ids_of_none {id : UsecaseId} (h : r.getUsecaseFromId id = none) :
    id ∉ r.usecases.map Usecase.id := by
  intro hmem
  obtain ⟨v, hv, hid⟩ := List.mem_map.mp hmem
  have := List.find?_eq_none.mp h v hv
  simp [hid] at this

/-- A usecase is added under an id that is not active. -/
theorem good_addUsecase (h : Good r) {id : UsecaseId} (hnew : r.getUsecaseFromId id = none)
    (stream : Stream) (mixers : List Nat) : Good (r.addUsecase id stream mixers) where
  ptrs := by
    simp only [Routing.addUsecase, List.map_append, List.map_cons, List.map_nil]
    refine List.nodup_append'.mpr ⟨h.ptrs, List.nodup_singleton _, ?_⟩
    rw [List.disjoint_singleton]
    intro hmem
    obtain ⟨v, hv, hptr⟩ := List.mem_map.mp hmem
    exact Nat.lt_irrefl _ (hptr ▸ h.fresh v hv)
  ids := by
    simp only [Routing.addUsecase, List.map_append, List.map_cons, List.map_nil]
    refine List.nodup_append'.mpr ⟨h.ids, List.nodup_singleton _, ?_⟩
    rw [List.disjoint_singleton]
    exact not_mem_ids_of_none hnew
  fresh := by
    intro v hv
    rcases List.mem_append.mp hv with hv | hv
    · exact Nat.lt_succ_of_lt (h.fresh v hv)
    · rw [List.mem_singleton.mp hv]
      exact Nat.lt_succ_self _
  fits := by
    intro v hv
    rcases List.mem_append.mp hv with hv | hv
    · exact h.fits v hv
    · rw [List.mem_singleton.mp hv]
      exact ⟨fun _ => rfl, fun _ => rfl⟩
  balanced := by
    refine ⟨fun x => (h.balanced.counts x).trans ?_, h.balanced.calls⟩
    simp only [Routing.addUsecase, total_append]
    rfl

/-- A usecase leaves the list when its devices are disabled. -/
theorem good_remove {r' : Routing} (h : Good r) (hmem : uc ∈ r.usecases)
    (hframe : r'.frame = r.frame)
    (hbal : Balanced r' fun x => total r.usecases x - uc.uses x) :
    Good (r'.removeUsecase uc.ptr) := by
  have hucs : r'.usecases = r.usecases := congrArg Prod.fst hframe
  have hsub : (r'.removeUsecase uc.ptr).usecases.Sublist r.usecases := by
    rw [← hucs]
    exact List.filter_sublist
  have htidy := tidy_of_frame h.toTidy hframe
  exact
    { ptrs := h.ptrs.sublist (hsub.map _)
      ids := h.ids.sublist (hsub.map _)
      fresh := fun v hv => htidy.fresh v (hucs ▸ hsub.subset hv)
      fits := fun v hv => h.fits v (hsub.subset hv)
      balanced := by
        refine ⟨fun x => (hbal.counts x).trans ?_, hbal.calls⟩
        show _ = total (others r'.usecases uc.ptr) x
        rw [hucs, total_eq_others h.ptrs hmem]
        omega }

/-- `disable_output_path_l` and `stop_input_stream` disable the one device a
    usecase of their kind has. -/
theorem good_stop {d : SndDevice} (h : Good r) (hmem : uc ∈ r.usecases)
    (hd : ∀ x, uc.uses x = uses d x) :
    Good ((r.disableSndDevice uc d).removeUsecase uc.ptr) := by
  refine good_remove h hmem (disableSndDevice_frame r uc d) ?_
  have hle : ∀ x, uses d x ≤ total r.usecases x := by
    intro x
    rw [total_eq_others h.ptrs hmem, hd]
    omega
  exact balanced_congr (balanced_disable h.balanced hle (total_at_none _))
    fun x => by rw [hd]

/-- `stop_voice_call` disables both devices. -/
theorem good_stopBoth (h : Good r) (hmem : uc ∈ r.usecases) :
    Good (((r.disableSndDevice uc uc.outSndDevice).disableSndDevice uc
      uc.inSndDevice).removeUsecase uc.ptr) := by
  have hsum : ∀ x, total r.usecases x = total (others r.usecases uc.ptr) x
      + (uses uc.outSndDevice x + uses uc.inSndDevice x) :=
    fun x => total_eq_others h.ptrs hmem
  have hout := @balanced_disable _ uc _ _ h.balanced
    (fun x => show uses uc.outSndDevice x ≤ _ by rw [hsum x]; omega) (total_at_none _)
  have hin := @balanced_disable _ uc _ _ hout
    (fun x => show uses uc.inSndDevice x ≤ _ by rw [hsum x]; omega)
    (by rw [total_at_none, Nat.zero_sub])
  refine good_remove h hmem ?_ (balanced_congr hin fun x => ?_)
  · rw [disableSndDevice_frame, disableSndDevice_frame]
  · rw [Usecase.uses, Nat.sub_sub]

/-- `out_set_offload_parameters` takes the speaker out of the count. -/
theorem good_setOffloadParameters (h : Good r) (hmem : uc ∈ r.usecases)
    (htype : uc.type = .pcmPlayback) : Good (r.setOffloadParameters uc) := by
  rw [Routing.setOffloadParameters]
  split
  · rename_i hcombined
    have hf : KeepsIdentity fun uc => { uc with outSndDevice := .outHeadphones } :=
      fun _ => ⟨rfl, rfl, rfl, rfl⟩
    have htidy : Tidy (r.setUsecase uc.ptr fun uc => { uc with outSndDevice := .outHeadphones }) := by
      refine tidy_map h.toTidy (keepsIdentity_changeAt hf) ?_
      intro v hv
      split
      · rename_i hptr
        obtain rfl := eq_of_ptr_eq h.toTidy hv hmem hptr
        refine ⟨(h.fits v hv).1, fun hcap => ?_⟩
        rw [htype] at hcap
        exact nomatch hcap
      · exact h.fits v hv
    have hchange : ∀ x, total (r.usecases.map
          (changeAt uc.ptr fun uc => { uc with outSndDevice := .outHeadphones })) x
        = total r.usecases x - uses .outSpeaker x ∧ uses .outSpeaker x ≤ total r.usecases x := by
      intro x
      have hsum := @total_changeAt _ _ _ x hf h.ptrs hmem
      have hin := @total_eq_others _ _ x h.ptrs hmem
      have huses : uc.uses x = uses .outSpeaker x
          + ({ uc with outSndDevice := .outHeadphones } : Usecase).uses x := by
        have hsplit : uses .outSpeakerAndHeadphones x
            = uses .outSpeaker x + uses .outHeadphones x := rfl
        rw [Usecase.uses, hcombined, hsplit, Nat.add_assoc]
        rfl
      omega
    have hbal : Balanced (r.setUsecase uc.ptr fun uc => { uc with outSndDevice := .outHeadphones })
        (total r.usecases) := ⟨h.balanced.counts, h.balanced.calls⟩
    refine ⟨tidy_of_frame htidy (disableSndDevice_frame _ _ _), ?_⟩
    rw [disableSndDevice_usecases]
    refine balanced_congr (balanced_disable hbal (fun x => (hchange x).2) (total_at_none _)) ?_
    exact fun x => (hchange x).1.symm
  · exact h

end StartStop

-- ── What routing never changes ────────────────────────────────────────────

/-- Who a usecase is, whatever device it is on. -/
structure Identity where
  ptr : Nat
  id : UsecaseId
  stream : Stream
  deriving DecidableEq, Repr

def Usecase.identity (uc : Usecase) : Identity :=
  { ptr := uc.ptr, id := uc.id, stream := uc.stream }

/-- The usecases without their devices, the call flag and the bookkeeping. -/
def Routing.skeleton (r : Routing) : List Identity × Bool × Nat × Bool :=
  (r.usecases.map Usecase.identity, r.frame.2)

section Skeleton

theorem skeleton_of_frame {r r' : Routing} (h : r'.frame = r.frame) : r'.skeleton = r.skeleton := by
  rw [Routing.skeleton, Routing.skeleton, h]
  exact congrArg (fun ucs => (ucs.map Usecase.identity, r.frame.2)) (congrArg Prod.fst h)

theorem setUsecase_skeleton {f : Usecase → Usecase} (hf : KeepsIdentity f) (r : Routing) (p : Nat) :
    (r.setUsecase p f).skeleton = r.skeleton := by
  refine Prod.ext ?_ rfl
  show ((r.usecases.map (changeAt p f)).map Usecase.identity) = r.usecases.map Usecase.identity
  rw [List.map_map]
  refine List.map_congr_left ?_
  intro uc _
  obtain ⟨hptr, hid, hstream, -⟩ := keepsIdentity_changeAt (p := p) hf uc
  simp only [Function.comp_apply, Usecase.identity, hptr, hid, hstream]

theorem switchDevice_skeleton (r : Routing) (type : UsecaseType) (d : SndDevice) (uc : Usecase) :
    (r.switchDevice type d uc).skeleton = r.skeleton := by
  rw [Routing.switchDevice, setUsecase_skeleton (keepsIdentity_setSndDevice type d)]
  refine skeleton_of_frame ?_
  rw [enableSndDevice_frame, disableSndDevice_frame]

theorem checkAndRoute_skeleton (r : Routing) (p : Nat) (type : UsecaseType) (d : SndDevice) :
    (r.checkAndRouteUsecases p type d).skeleton = r.skeleton := by
  simp only [Routing.checkAndRouteUsecases]
  generalize r.usecases.filter _ = switched
  induction switched generalizing r with
  | nil => rfl
  | cons uc rest ih => rw [List.foldl_cons, ih, switchDevice_skeleton]

theorem enableNew_skeleton (r : Routing) (uc : Usecase) (type : UsecaseType) (d : SndDevice) :
    (r.enableNew uc type d).skeleton = r.skeleton := by
  rw [Routing.enableNew]
  split
  · rw [skeleton_of_frame (enableSndDevice_frame _ uc d), checkAndRoute_skeleton]
  · rfl

/-- **ROUTING MOVES NOTHING BUT DEVICES.** -/
theorem route_skeleton (r : Routing) (uc : Usecase) (out in' : SndDevice) :
    (r.route uc out in').skeleton = r.skeleton := by
  rw [Routing.route]
  split
  · rfl
  · rw [setUsecase_skeleton (keepsIdentity_devices out in'), enableNew_skeleton, enableNew_skeleton]
    refine skeleton_of_frame ?_
    rw [disableCurrent_frame, disableCurrent_frame]

theorem setOffloadParameters_skeleton (r : Routing) (uc : Usecase) :
    (r.setOffloadParameters uc).skeleton = r.skeleton := by
  rw [Routing.setOffloadParameters]
  split
  · have hf : KeepsIdentity fun uc => { uc with outSndDevice := .outHeadphones } :=
      fun _ => ⟨rfl, rfl, rfl, rfl⟩
    rw [skeleton_of_frame (disableSndDevice_frame _ _ _)]
    exact setUsecase_skeleton hf r uc.ptr
  · rfl

end Skeleton

end AudioRouting

import Mathlib.Data.List.TakeWhile
import Universal7580.AidlModuleProofs
import Universal7580.AudioHalProofs

/-! # Patches of the AIDL module and streams of the audio HAL

    A patch connects the config of a mix port to configs of device ports.  The
    stream of the HAL that is opened for the mix gets the devices of the patches
    known by then; for a stream that is open, `setAudioPatch` sends a routing
    parameter to the device.  `adev_set_parameters` knows no such parameter: it
    is one of the streams, in `out_set_parameters`.

    `patches_reach_streams`: a patch reaches the open stream exactly if the
    stream had the devices of the patch before. -/

namespace AidlRouting

open AidlModule AudioHal KeyedList Run

-- ── Devices of port configs ───────────────────────────────────────────────

def aidlDeviceToLegacy : AudioDeviceType → Devices
  | .outSpeaker => Devices.outSpeaker
  | .outSpeakerEarpiece => Devices.outEarpiece
  | .outHeadset => Devices.outWiredHeadset
  | .outHeadphone => Devices.outWiredHeadphone
  | .outDevice => 0x40000000
  | .outBroadcast => Devices.outSpeaker
  | .inMicrophone => Devices.bitIn ||| Devices.inBuiltinMic
  | .inMicrophoneBack => Devices.bitIn ||| Devices.inBackMic
  | .inHeadset => Devices.bitIn ||| Devices.inWiredHeadset
  | .other _ => 0

/-- The device of a port config, if its port is a device port. -/
def devicePort (configs : List AudioPortConfig) (ports : List AudioPort) (portConfigId : Int32) :
    Option AudioPortDeviceExt :=
  (findPortConfigById configs portConfigId).bind fun cfg =>
    (findPortById ports cfg.portId).bind fun port =>
      match port.ext with
      | .device ext => some ext
      | _ => none

def portConfigToLegacyDevice (configs : List AudioPortConfig) (ports : List AudioPort)
    (portConfigId : Int32) : Devices :=
  (devicePort configs ports portConfigId).elim 0 fun ext => aidlDeviceToLegacy ext.type

/-- The loops that unite the devices of port configs. -/
def legacyDevices (configs : List AudioPortConfig) (ports : List AudioPort) (ids : List Int32) :
    Devices :=
  ids.foldl (fun devices id => devices ||| portConfigToLegacyDevice configs ports id) 0

def resolveOutputDevicesForPortConfig (configs : List AudioPortConfig) (ports : List AudioPort)
    (mixPortConfigId : Int32) : List AudioPatch → Devices
  | [] => 0
  | patch :: patches =>
      let devices := legacyDevices configs ports patch.sinkPortConfigIds
      if mixPortConfigId ∈ patch.sourcePortConfigIds ∧ devices ≠ 0 then devices
      else resolveOutputDevicesForPortConfig configs ports mixPortConfigId patches

-- ── Parameters ────────────────────────────────────────────────────────────

/-- `str_parms_create_str`: keys and values, as in `key=value;key=value`. -/
def strParmsCreateStr (kvpairs : List Char) : List (List Char × List Char) :=
  (kvpairs.splitOn ';').filterMap fun kvpair =>
    let key := kvpair.takeWhile fun c => c ≠ '='
    if key = [] then none else some (key, (kvpair.dropWhile fun c => c ≠ '=').drop 1)

/-- `str_parms_get_str`; of several values of a key the last one counts. -/
def strParmsGetStr (parms : List (List Char × List Char)) (key : String) : Option (List Char) :=
  (parms.reverse.find? fun kv => kv.1 = key.toList).map Prod.snd

/-- The legacy device, with what its parameters set. -/
structure Legacy where
  hal : Adev
  bluetoothNrec : Bool
  screenOff : Bool

/-- `adev_set_parameters`. -/
def Legacy.adevSetParameters (d : Legacy) (kvpairs : List Char) : Legacy :=
  let parms := strParmsCreateStr kvpairs
  let d := (strParmsGetStr parms "bt_headset_nrec").elim d fun value =>
    { d with bluetoothNrec := value = "on".toList }
  let d := (strParmsGetStr parms "bt_wbs").elim d fun value =>
    { d with hal := { d.hal with
        session := { d.hal.session with bluetoothWb := value = "on".toList } } }
  (strParmsGetStr parms "screen_state").elim d fun value =>
    { d with screenOff := value ≠ "on".toList }

/-- The parameter that `setAudioPatch` sends: the devices of the sinks, or of the
    sources if the sinks have none. -/
def patchParameter (m : Module) (requested : AudioPatch) : Option (List Char) :=
  let devices := legacyDevices m.topologyPortConfigs m.topologyPorts
  let sinks := devices requested.sinkPortConfigIds
  let legacyDevice := if sinks = 0 then devices requested.sourcePortConfigIds else sinks
  if legacyDevice = 0 then none
  else some ("routing=".toList ++ Nat.toDigits 10 legacyDevice.toNat)

-- ── The module and its device ─────────────────────────────────────────────

/-- The module, the legacy device, and the streams that were opened, each with
    its port config. -/
structure System where
  module : Module
  legacy : Legacy
  opened : List (Int32 × Nat)

/-- The arguments of `openOutputStream`, with the address of the new stream,
    whether there is memory for it, and whether its queues can be made. -/
structure OpenStream where
  portConfigId : Int32
  stream : Nat
  alloc : Bool
  queues : Bool
  deriving DecidableEq, Repr

/-- The flags that the HAL looks at, of the config or else the default ones. -/
def outputFlags (m : Module) (portConfigId : Int32) : Int32 :=
  match (findPortConfigById m.topologyPortConfigs portConfigId).bind AudioPortConfig.flags with
  | some (.output flags) => flags
  | _ => primaryOutputFlags

/-- The arguments of `open_output_stream`.  An offload stream is asked for with
    the format of PCM or with none, and neither is supported. -/
def openOutput (m : Module) (a : OpenStream) : OpenOutput :=
  let flags := outputFlags m a.portConfigId
  let devices := resolveOutputDevicesForPortConfig m.topologyPortConfigs m.topologyPorts
    a.portConfigId m.audioPatches
  { offload := flags &&& 0x10 ≠ 0
    deepBuffer := flags &&& 0x8 ≠ 0
    primary := flags &&& 0x2 ≠ 0
    devices := if devices = 0 then Devices.outSpeaker else devices
    infoOk := false
    alloc := a.alloc
    codecAlloc := a.alloc }

/-- `openOutputStream`, and whether it succeeds. -/
def System.openOutputStream (s : System) (a : OpenStream) : System × Bool :=
  let hal := s.legacy.hal.openOutputStream a.stream (openOutput s.module a)
  if (hal.outs a.stream).isOpen = false then ({ s with legacy := { s.legacy with hal } }, false)
  else if a.queues = false then
    ({ s with legacy := { s.legacy with hal := hal.closeOutputStream a.stream } }, false)
  else
    ({ s with
        legacy := { s.legacy with hal }
        opened := (a.portConfigId, a.stream) :: s.opened },
      true)

/-- A call of the topology.  `setAudioPatch` sends its parameter first. -/
def System.topologyCall (s : System) (c : Call) : System :=
  let legacy := match c with
    | .setAudioPatch requested =>
        (patchParameter s.module requested).elim s.legacy s.legacy.adevSetParameters
    | _ => s.legacy
  { s with module := (s.module.call c).1, legacy }

inductive Act where
  | topology (c : Call)
  | openOutputStream (a : OpenStream)
  deriving DecidableEq, Repr

/-- One call.  `calloc` gives no address that is in use. -/
def step (s : System) : Act → Option System
  | .topology c => some (s.topologyCall c)
  | .openOutputStream a =>
      if (s.legacy.hal.outs a.stream).isOpen then none else some (s.openOutputStream a).1

/-- The module after `initTopology`, over a device after `adev_open`. -/
def opened (fx : Bool) (session : VoiceSession) : System where
  module := initTopology
  legacy := { hal := AudioHal.start fx session, bluetoothNrec := true, screenOff := false }
  opened := []

-- ── Devices ───────────────────────────────────────────────────────────────

section Devices

variable {configs : List AudioPortConfig} {ports : List AudioPort}

/-- A union is empty if all its parts are. -/
theorem foldl_or_eq_zero {α : Type} (f : α → Devices) (l : List α) :
    ∀ a : Devices, l.foldl (fun devices x => devices ||| f x) a = 0
      ↔ a = 0 ∧ ∀ x ∈ l, f x = 0 := by
  induction l with
  | nil => simp
  | cons x l ih =>
      intro a
      rw [List.foldl_cons, ih, List.forall_mem_cons]
      constructor
      · rintro ⟨hor, hrest⟩
        obtain ⟨ha, hx⟩ := BitVec.or_eq_zero_iff.mp hor
        exact ⟨ha, hx, hrest⟩
      · rintro ⟨ha, hx, hrest⟩
        exact ⟨BitVec.or_eq_zero_iff.mpr ⟨ha, hx⟩, hrest⟩

/-- Every device port has a device. -/
theorem devicePort_device {id : Int32} {ext : AudioPortDeviceExt}
    (h : devicePort configs topologyPorts id = some ext) : aidlDeviceToLegacy ext.type ≠ 0 := by
  have hports : ∀ port ∈ topologyPorts, (match port.ext with
      | .device ext => aidlDeviceToLegacy ext.type != 0
      | _ => true) = true := by
    decide
  obtain ⟨cfg, -, hport⟩ := Option.bind_eq_some_iff.mp h
  obtain ⟨port, hport, hext⟩ := Option.bind_eq_some_iff.mp hport
  have hdevice := hports port (List.mem_of_find?_eq_some hport)
  split at hext
  · rename_i ext' heq
    obtain rfl := Option.some.inj hext
    rw [heq] at hdevice
    exact bne_iff_ne.mp hdevice
  · exact nomatch hext

/-- Sinks that are device port configs have devices. -/
theorem legacyDevices_ne_zero {ids : List Int32} (hids : ids ≠ [])
    (hdevices : ∀ id ∈ ids, (devicePort configs topologyPorts id).isSome) :
    legacyDevices configs topologyPorts ids ≠ 0 := by
  intro hzero
  obtain ⟨id, rest, rfl⟩ := List.exists_cons_of_ne_nil hids
  obtain ⟨ext, hext⟩ := Option.isSome_iff_exists.mp (hdevices id List.mem_cons_self)
  have hnone := ((foldl_or_eq_zero _ _ _).mp hzero).2 id List.mem_cons_self
  rw [portConfigToLegacyDevice, hext] at hnone
  exact devicePort_device hext hnone

/-- The patches that stand first decide, if they have devices for the config. -/
theorem resolve_append (id : Int32) (l r : List AudioPatch) :
    resolveOutputDevicesForPortConfig configs ports id (l ++ r)
      = if resolveOutputDevicesForPortConfig configs ports id l ≠ 0 then
          resolveOutputDevicesForPortConfig configs ports id l
        else resolveOutputDevicesForPortConfig configs ports id r := by
  induction l with
  | nil => exact (if_neg fun h => h rfl).symm
  | cons patch l ih =>
      simp only [List.cons_append, resolveOutputDevicesForPortConfig]
      split
      · rename_i hpatch
        exact (if_pos hpatch.2).symm
      · exact ih

end Devices

-- ── The routing parameter ─────────────────────────────────────────────────

/-- A routing parameter has one key, which is `routing`. -/
theorem strParms_routing (devices : Nat) :
    strParmsCreateStr ("routing=".toList ++ Nat.toDigits 10 devices)
      = [("routing".toList, Nat.toDigits 10 devices)] := by
  have hdigits : ';' ∉ "routing=".toList ++ Nat.toDigits 10 devices := by
    intro hmem
    rcases List.mem_append.mp hmem with htext | hdigit
    · exact absurd htext (by decide)
    · exact absurd (Nat.isDigit_of_mem_toDigits (by omega) (by omega) hdigit) (by decide)
  rw [strParmsCreateStr, List.splitOn_eq_singleton hdigits]
  rfl

/-- **THE ROUTING PARAMETER IS NOT KNOWN** to the device. -/
theorem adevSetParameters_routing (d : Legacy) (devices : Nat) :
    d.adevSetParameters ("routing=".toList ++ Nat.toDigits 10 devices) = d := by
  have hnone : ∀ key : String, key ≠ "routing" →
      strParmsGetStr [("routing".toList, Nat.toDigits 10 devices)] key = none := by
    intro key hkey
    have hother : "routing".toList ≠ key.toList := fun h => hkey (String.toList_inj.mp h).symm
    simpa [strParmsGetStr] using hother
  simp only [Legacy.adevSetParameters, strParms_routing, hnone _ (by decide : "bt_headset_nrec" ≠ _),
    hnone _ (by decide : "bt_wbs" ≠ _), hnone _ (by decide : "screen_state" ≠ _), Option.elim]

-- ── What a patch changes ──────────────────────────────────────────────────

theorem call_topologyPorts (m : Module) (c : Call) :
    (m.call c).1.topologyPorts = m.topologyPorts := by
  cases c with
  | setAudioPortConfig requested =>
      simp only [Module.call, Module.setAudioPortConfig]
      split
      · rfl
      · split <;> rfl
  | resetAudioPortConfig id =>
      simp only [Module.call, Module.resetAudioPortConfig]
      split <;> rfl
  | setAudioPatch requested =>
      simp only [Module.call, Module.setAudioPatch]
      split <;> rfl
  | resetAudioPatch id =>
      simp only [Module.call, Module.resetAudioPatch]
      split <;> rfl

/-- The patches that stand before the one a request is for: all of them, if it is
    a new one. -/
def patchesBefore (m : Module) (requested : AudioPatch) : List AudioPatch :=
  if requested.id = 0 then m.audioPatches
  else m.audioPatches.takeWhile fun patch => patch.id ≠ requested.id

/-- `setAudioPatch` puts the patch after those, and changes no config. -/
theorem setAudioPatch_split (m : Module) (requested : AudioPatch) :
    ∃ patch rest, (m.setAudioPatch requested).1.audioPatches
        = patchesBefore m requested ++ patch :: rest
      ∧ patch.sourcePortConfigIds = requested.sourcePortConfigIds
      ∧ patch.sinkPortConfigIds = requested.sinkPortConfigIds
      ∧ (m.setAudioPatch requested).1.topologyPortConfigs = m.topologyPortConfigs := by
  simp only [Module.setAudioPatch]
  cases hfound : (if requested.id = 0 then none else
      spliceAt AudioPatch.id requested.id (fun _ => some (m.appliedPatch requested))
        m.audioPatches) with
  | none =>
      have hbefore : patchesBefore m requested = m.audioPatches := by
        rw [patchesBefore]
        split
        · rfl
        · rename_i hid
          rw [if_neg hid] at hfound
          refine List.takeWhile_eq_self_iff.mpr fun patch hpatch => decide_eq_true fun heq => ?_
          exact not_mem_of_spliceAt_none hfound (heq ▸ List.mem_map_of_mem hpatch)
      rw [hbefore]
      exact ⟨_, [], rfl, rfl, rfl, rfl⟩
  | some found =>
      obtain ⟨old, patches⟩ := found
      have hid : requested.id ≠ 0 := by
        intro hid
        rw [if_pos hid] at hfound
        cases hfound
      rw [if_neg hid] at hfound
      obtain ⟨rest, hsplit⟩ := spliceAt_eq_split hfound
      rw [patchesBefore, if_neg hid]
      exact ⟨_, rest, hsplit, rfl, rfl, rfl⟩

/-- The calls of the topology leave the device as it is. -/
theorem topologyCall_legacy (s : System) (c : Call) : (s.topologyCall c).legacy = s.legacy := by
  cases c with
  | setAudioPatch requested =>
      show (patchParameter s.module requested).elim s.legacy s.legacy.adevSetParameters = s.legacy
      simp only [patchParameter]
      generalize (if legacyDevices s.module.topologyPortConfigs s.module.topologyPorts
          requested.sinkPortConfigIds = 0 then
        legacyDevices s.module.topologyPortConfigs s.module.topologyPorts
          requested.sourcePortConfigIds
        else legacyDevices s.module.topologyPortConfigs s.module.topologyPorts
          requested.sinkPortConfigIds) = devices
      split
      · rfl
      · exact adevSetParameters_routing s.legacy devices.toNat
  | setAudioPortConfig | resetAudioPortConfig | resetAudioPatch => rfl

/-- A stream that was opened has the devices it was opened with. -/
theorem openOutputStream_devices (hal : Adev) (n : Nat) {a : OpenOutput} (h : a.alloc = true) :
    ((hal.openOutputStream n a).outs n).devices = a.outDevices := by
  rw [Adev.openOutputStream, if_neg (by rw [h]; exact nofun)]
  dsimp only
  split
  · simp [Adev.setOut, OpenOutput.stream]
  · have hstream : ∀ s₁ : Adev, (s₁.outs n).devices = a.outDevices →
        ((if (s₁.routing.getUsecaseFromId (.playback a.usecase)).isSome then
            s₁.setOut n fun o => { o with isOpen := false }
          else s₁.setOut n fun o => { o with standby := true }).outs n).devices = a.outDevices := by
      intro s₁ hs₁
      split <;> simp [Adev.setOut, hs₁]
    refine hstream _ ?_
    split <;> simp [Adev.setOut, OpenOutput.stream]

-- ── Reaching the stream ───────────────────────────────────────────────────

/-- The devices of the sinks of a patch. -/
def System.sinkDevices (s : System) (patch : AudioPatch) : Devices :=
  legacyDevices s.module.topologyPortConfigs s.module.topologyPorts patch.sinkPortConfigIds

/-- The devices that a stream for a port config would be opened with. -/
def System.resolved (s : System) (id : Int32) : Devices :=
  resolveOutputDevicesForPortConfig s.module.topologyPortConfigs s.module.topologyPorts id
    s.module.audioPatches

/-- The patch connects the mix port config of an open stream to device port
    configs. -/
structure Connects (s : System) (patch : AudioPatch) (id : Int32) (n : Nat) : Prop where
  source : id ∈ patch.sourcePortConfigIds
  stream : (id, n) ∈ s.opened
  mix : ∃ cfg ext, findPortConfigById s.module.topologyPortConfigs id = some cfg ∧ cfg.ext = .mix ext
  sinks : patch.sinkPortConfigIds ≠ []
  devices : ∀ sink ∈ patch.sinkPortConfigIds,
    (devicePort s.module.topologyPortConfigs s.module.topologyPorts sink).isSome

/-- The open stream has the devices, and so has any stream that is opened for the
    config from now on. -/
def Reached (s : System) (devices : Devices) (id : Int32) (n : Nat) : Prop :=
  (s.legacy.hal.outs n).devices = devices ∧ s.resolved id = devices
    ∧ ∀ a, a.portConfigId = id → (s.legacy.hal.outs a.stream).isOpen = false →
      (s.openOutputStream a).2 = true →
        ((s.openOutputStream a).1.legacy.hal.outs a.stream).devices = devices

/-- The condition: the open stream has the devices of the patch already, and no
    patch that stands before it has other devices for the config. -/
def keepsRoute (s : System) : Act → Prop
  | .topology (.setAudioPatch patch) => ∀ id n, Connects s patch id n →
      (s.legacy.hal.outs n).devices = s.sinkDevices patch
        ∧ (resolveOutputDevicesForPortConfig s.module.topologyPortConfigs s.module.topologyPorts id
              (patchesBefore s.module patch) = 0
          ∨ resolveOutputDevicesForPortConfig s.module.topologyPortConfigs s.module.topologyPorts id
              (patchesBefore s.module patch) = s.sinkDevices patch)
  | _ => True

section Patches

variable {s : System} {patch : AudioPatch} {id : Int32} {n : Nat}

/-- A stream that is opened gets the devices that are resolved for it, if there
    are some. -/
theorem opened_devices {a : OpenStream} (hfree : (s.legacy.hal.outs a.stream).isOpen = false)
    (hdevices : s.resolved a.portConfigId ≠ 0) (hok : (s.openOutputStream a).2 = true) :
    ((s.openOutputStream a).1.legacy.hal.outs a.stream).devices = s.resolved a.portConfigId := by
  have halloc : a.alloc = true := by
    by_contra hnone
    have hkeep : s.legacy.hal.openOutputStream a.stream (openOutput s.module a) = s.legacy.hal :=
      if_pos (Bool.eq_false_iff.mpr hnone)
    simp only [System.openOutputStream, hkeep, hfree, if_true] at hok
    exact nomatch hok
  have hasked : (openOutput s.module a).outDevices = s.resolved a.portConfigId := by
    have hdev : (openOutput s.module a).devices = s.resolved a.portConfigId := if_neg hdevices
    rw [OpenOutput.outDevices, hdev, if_neg hdevices]
  rw [← hasked]
  simp only [System.openOutputStream] at hok ⊢
  split
  · rename_i hclosed
    rw [if_pos hclosed] at hok
    exact nomatch hok
  · rename_i hopen
    rw [if_neg hopen] at hok
    split
    · rename_i hqueues
      rw [if_pos hqueues] at hok
      exact nomatch hok
    · exact openOutputStream_devices s.legacy.hal a.stream halloc

/-- The devices that are resolved once a patch is set. -/
theorem resolved_setAudioPatch (h : Connects s patch id n)
    (hports : s.module.topologyPorts = topologyPorts) :
    (s.topologyCall (.setAudioPatch patch)).resolved id
      = if resolveOutputDevicesForPortConfig s.module.topologyPortConfigs s.module.topologyPorts id
          (patchesBefore s.module patch) ≠ 0 then
          resolveOutputDevicesForPortConfig s.module.topologyPortConfigs s.module.topologyPorts id
            (patchesBefore s.module patch)
        else s.sinkDevices patch := by
  obtain ⟨applied, rest, hpatches, hsources, hsinks, hconfigs⟩ :=
    setAudioPatch_split s.module patch
  have hne : legacyDevices s.module.topologyPortConfigs s.module.topologyPorts
      applied.sinkPortConfigIds ≠ 0 := by
    have hdevices := h.devices
    rw [hports] at hdevices
    rw [hsinks, hports]
    exact legacyDevices_ne_zero h.sinks hdevices
  have hports' : (s.module.setAudioPatch patch).1.topologyPorts = s.module.topologyPorts :=
    call_topologyPorts s.module (.setAudioPatch patch)
  show resolveOutputDevicesForPortConfig (s.module.setAudioPatch patch).1.topologyPortConfigs
    (s.module.setAudioPatch patch).1.topologyPorts id
    (s.module.setAudioPatch patch).1.audioPatches = _
  rw [hpatches, hconfigs, hports', resolve_append]
  congr 1
  rw [resolveOutputDevicesForPortConfig, if_pos ⟨hsources ▸ h.source, hne⟩, hsinks]
  rfl

/-- **A PATCH REACHES ITS STREAMS** exactly if they meet the condition. -/
theorem reached_iff (hports : s.module.topologyPorts = topologyPorts) (patch : AudioPatch) :
    (∀ id n, Connects s patch id n →
        Reached (s.topologyCall (.setAudioPatch patch)) (s.sinkDevices patch) id n)
      ↔ keepsRoute s (.topology (.setAudioPatch patch)) := by
  refine forall_congr' fun id => forall_congr' fun n => forall_congr' fun h => ?_
  have hlegacy := topologyCall_legacy s (.setAudioPatch patch)
  have hresolved := resolved_setAudioPatch h hports
  have hne : s.sinkDevices patch ≠ 0 := by
    have hdevices := h.devices
    rw [hports] at hdevices
    rw [System.sinkDevices, hports]
    exact legacyDevices_ne_zero h.sinks hdevices
  generalize resolveOutputDevicesForPortConfig s.module.topologyPortConfigs s.module.topologyPorts
    id (patchesBefore s.module patch) = before at hresolved ⊢
  rw [Reached, hlegacy, hresolved]
  constructor
  · rintro ⟨hstream, hroute, -⟩
    refine ⟨hstream, ?_⟩
    by_cases hbefore : before = 0
    · exact .inl hbefore
    · rw [if_pos hbefore] at hroute
      exact .inr hroute
  · rintro ⟨hstream, hbefore⟩
    have hroute : (if before ≠ 0 then before else s.sinkDevices patch) = s.sinkDevices patch := by
      rcases hbefore with hzero | hsame
      · rw [if_neg fun hne => hne hzero]
      · rw [hsame, ite_self]
    refine ⟨hstream, hroute, ?_⟩
    rintro a rfl hfree hok
    rw [hroute] at hresolved
    rw [← hresolved] at hne ⊢
    exact opened_devices (by rw [hlegacy]; exact hfree) hne hok

end Patches

theorem topologyPorts_step (s : System) (a : Act) (s' : System)
    (hs : s.module.topologyPorts = topologyPorts) (hstep : step s a = some s') :
    s'.module.topologyPorts = topologyPorts := by
  cases a with
  | topology c =>
      obtain rfl := Option.some.inj hstep
      exact (call_topologyPorts s.module c).trans hs
  | openOutputStream a =>
      rw [step] at hstep
      split at hstep
      · exact nomatch hstep
      · obtain rfl := Option.some.inj hstep
        rw [System.openOutputStream]
        dsimp only
        split
        · exact hs
        · split <;> exact hs

theorem topologyPorts_run {fx : Bool} {session : VoiceSession} {acts : List Act} {s : System}
    (hrun : run step (opened fx session) acts = some s) :
    s.module.topologyPorts = topologyPorts :=
  run_invariant topologyPorts_step acts (rfl : (opened fx session).module.topologyPorts = _) hrun

/-- No call is going on. -/
def quietSession : VoiceSession where
  outDevice := 0
  twoMicControl := false
  twoMicDisabled := false
  wbAmrType := 0
  bluetoothWb := false

/-- A stream of the primary output, and a config for the wired headset. -/
def playing : List Act :=
  [.topology (.setAudioPortConfig (plainRequest 0 8)),
    .openOutputStream { portConfigId := 60, stream := 0, alloc := true, queues := true },
    .topology (.setAudioPortConfig (plainRequest 0 5))]

/-- A patch from the stream to the headset. -/
def toHeadset : AudioPatch where
  id := 0
  sourcePortConfigIds := [60]
  sinkPortConfigIds := [61]
  minimumStreamBufferSizeFrames := 0
  latenciesMs := []

end AidlRouting

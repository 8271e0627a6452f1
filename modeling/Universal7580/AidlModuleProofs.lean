import Mathlib.Data.BitVec
import Universal7580.RegistryProofs

/-! # The topology of the AIDL audio module

    The port configs and patches that `IModule` keeps: `initTopology` makes the
    ports and the configs of the attached devices, and `setAudioPortConfig`,
    `resetAudioPortConfig`, `setAudioPatch` and `resetAudioPatch` create, update
    and remove configs and patches by their ids.

    Both containers are registries.  `topology_bookkeeping`: whatever the calls,
    ids are distinct and never issued twice, the initial configs stay, a call
    changes only what it names, and a successful one returns what is stored. -/

namespace AidlModule

open KeyedList Registry

-- ── The data ──────────────────────────────────────────────────────────────

/-- `AudioFormatType`; `default` is the value of `AudioFormatType{}`. -/
inductive AudioFormatType where
  | default
  | pcm
  | sysReservedInvalid
  deriving DecidableEq, Repr

inductive PcmType where
  | uint8Bit
  | int16Bit
  | int32Bit
  | fixedQ824
  | float32Bit
  | int24Bit
  deriving DecidableEq, Repr

structure AudioFormatDescription where
  type : AudioFormatType
  pcm : PcmType
  encoding : String
  deriving DecidableEq, Repr

inductive AudioChannelLayout where
  | none
  | invalid
  | indexMask (mask : Int32)
  | layoutMask (mask : Int32)
  | voiceMask (mask : Int32)
  deriving DecidableEq, Repr

def layoutMono : Int32 := 1
def layoutStereo : Int32 := 3

inductive AudioIoFlags where
  | input (flags : Int32)
  | output (flags : Int32)
  deriving DecidableEq, Repr

/-- `AudioDeviceType`, with the types that are told apart. -/
inductive AudioDeviceType where
  | inMicrophone
  | inMicrophoneBack
  | inHeadset
  | outDevice
  | outSpeaker
  | outSpeakerEarpiece
  | outHeadset
  | outHeadphone
  | outBroadcast
  | other (code : Int32)
  deriving DecidableEq, Repr

structure AudioPortDeviceExt where
  type : AudioDeviceType
  connection : String
  flags : Int32
  deriving DecidableEq, Repr

inductive AudioPortMixExtUseCase where
  | unspecified
  | stream (type : Int32)
  | source (type : Int32)
  deriving DecidableEq, Repr

structure AudioPortMixExt where
  handle : Int32
  usecase : AudioPortMixExtUseCase
  maxOpenStreamCount : Int32
  maxActiveStreamCount : Int32
  deriving DecidableEq, Repr

inductive AudioPortExt where
  | unspecified
  | device (ext : AudioPortDeviceExt)
  | mix (ext : AudioPortMixExt)
  | session (id : Int32)
  deriving DecidableEq, Repr

structure AudioProfile where
  format : AudioFormatDescription
  channelMasks : List AudioChannelLayout
  sampleRates : List Int32
  deriving DecidableEq, Repr

structure AudioPort where
  id : Int32
  name : String
  profiles : List AudioProfile
  flags : AudioIoFlags
  ext : AudioPortExt
  deriving DecidableEq, Repr

structure AudioPortConfig where
  id : Int32
  portId : Int32
  sampleRate : Option Int32
  channelMask : Option AudioChannelLayout
  format : Option AudioFormatDescription
  flags : Option AudioIoFlags
  ext : AudioPortExt
  deriving DecidableEq, Repr

structure AudioPatch where
  id : Int32
  sourcePortConfigIds : List Int32
  sinkPortConfigIds : List Int32
  minimumStreamBufferSizeFrames : Int32
  latenciesMs : List Int32
  deriving DecidableEq, Repr

/-- The fields of `Module` that hold the topology. -/
structure Module where
  topologyPorts : List AudioPort
  topologyPortConfigs : List AudioPortConfig
  initialPortConfigs : List AudioPortConfig
  nextPortConfigId : Int32
  audioPatches : List AudioPatch
  nextPatchId : Int32
  deriving DecidableEq, Repr

def findPortConfigById (configs : List AudioPortConfig) (id : Int32) : Option AudioPortConfig :=
  configs.find? fun cfg => cfg.id = id

def findPortById (ports : List AudioPort) (id : Int32) : Option AudioPort :=
  ports.find? fun port => port.id = id

-- ── The topology at the start ─────────────────────────────────────────────

def pcm16 : AudioFormatDescription := { type := .pcm, pcm := .int16Bit, encoding := "" }

def sampleRates : List Int32 := [8000, 11025, 16000, 32000, 44100, 48000]

def outputPcm16 : AudioProfile where
  format := pcm16
  channelMasks := [.layoutMask layoutStereo]
  sampleRates := sampleRates

def inputPcm16 : AudioProfile where
  format := pcm16
  channelMasks := [.layoutMask layoutMono, .layoutMask layoutStereo]
  sampleRates := sampleRates

/-- The lambda `makeDevPort` of `initTopology`. -/
def makeDevPort (id : Int32) (name : String) (type : AudioDeviceType) (isInput isDefault : Bool)
    (connection : String) : AudioPort where
  id := id
  name := name
  profiles := []
  flags := if isInput then .input 0 else .output 0
  ext := .device { type, connection, flags := if isDefault then 1 else 0 }

/-- `CONNECTION_ANALOG`. -/
def connectionAnalog : String := "analog"

def speakerPort : AudioPort := makeDevPort 1 "Speaker" .outSpeaker false true ""
def earpiecePort : AudioPort := makeDevPort 2 "Earpiece" .outSpeakerEarpiece false false ""
def builtinMicPort : AudioPort := makeDevPort 3 "Built-In Mic" .inMicrophone true true ""
def backMicPort : AudioPort := makeDevPort 4 "Built-In Back Mic" .inMicrophoneBack true false ""
def wiredHsOutPort : AudioPort :=
  makeDevPort 5 "Wired Headset" .outHeadset false false connectionAnalog
def wiredHpOutPort : AudioPort :=
  makeDevPort 6 "Wired Headphone" .outHeadphone false false connectionAnalog
def wiredHsMicPort : AudioPort :=
  makeDevPort 7 "Wired Headset Mic" .inHeadset true false connectionAnalog

/-- `PRIMARY | DEEP_BUFFER`. -/
def primaryOutputFlags : Int32 := 0xA

def mixExt (streams : Int32) : AudioPortExt :=
  .mix { handle := 0, usecase := .unspecified, maxOpenStreamCount := streams,
         maxActiveStreamCount := streams }

def primaryOutMix : AudioPort where
  id := 8
  name := "primary output"
  profiles := [outputPcm16]
  flags := .output primaryOutputFlags
  ext := mixExt 8

def primaryInMix : AudioPort where
  id := 9
  name := "primary input"
  profiles := [inputPcm16]
  flags := .input 0
  ext := mixExt 4

def topologyPorts : List AudioPort :=
  [speakerPort, earpiecePort, builtinMicPort, backMicPort, wiredHsOutPort, wiredHpOutPort,
    wiredHsMicPort, primaryOutMix, primaryInMix]

/-- The lambda `makeDynDevConfig`. -/
def makeDynDevConfig (port : AudioPort) : AudioPortConfig where
  id := port.id
  portId := port.id
  sampleRate := none
  channelMask := none
  format := none
  flags := some port.flags
  ext := port.ext

/-- The configs of the attached devices. -/
def attachedConfigs : List AudioPortConfig :=
  [speakerPort, earpiecePort, builtinMicPort, backMicPort].map makeDynDevConfig

/-- `initTopology`: the ids of configs start above those of the ports. -/
def initTopology : Module where
  topologyPorts := topologyPorts
  topologyPortConfigs := attachedConfigs
  initialPortConfigs := attachedConfigs
  nextPortConfigId := 60
  audioPatches := []
  nextPatchId := 1

-- ── The calls ─────────────────────────────────────────────────────────────

/-- The fields that are taken from a request: those it has, and of an `ext` only
    the handle and the usecase of a mix. -/
def AudioPortConfig.merge (cfg requested : AudioPortConfig) : AudioPortConfig where
  id := cfg.id
  portId := cfg.portId
  format := requested.format.or cfg.format
  channelMask := requested.channelMask.or cfg.channelMask
  sampleRate := requested.sampleRate.or cfg.sampleRate
  flags := requested.flags.or cfg.flags
  ext :=
    match requested.ext, cfg.ext with
    | .mix src, .mix dst => .mix { dst with handle := src.handle, usecase := src.usecase }
    | _, ext => ext

/-- A config with the defaults of a port, from its first profile. -/
def AudioPort.defaultConfig (port : AudioPort) (id : Int32) : AudioPortConfig where
  id := id
  portId := port.id
  flags := some port.flags
  ext := port.ext
  format := port.profiles.head?.bind fun prof =>
    if prof.format.type ≠ .default then some prof.format else none
  channelMask := port.profiles.head?.bind fun prof => prof.channelMasks.head?
  sampleRate := port.profiles.head?.bind fun prof => prof.sampleRates.head?

/-- What a call returns. -/
inductive Reply where
  | ok
  | config (suggested : AudioPortConfig)
  | patch (applied : AudioPatch)
  | illegalArgument
  deriving DecidableEq, Repr

/-- `setAudioPortConfig`.  A request with an id that no config has creates one. -/
def Module.setAudioPortConfig (m : Module) (requested : AudioPortConfig) : Module × Reply :=
  match findPortById m.topologyPorts requested.portId with
  | none => (m, .illegalArgument)
  | some matchedPort =>
      let found :=
        if requested.id ≠ 0 then
          spliceAt AudioPortConfig.id requested.id (fun cfg => some (cfg.merge requested))
            m.topologyPortConfigs
        else none
      match found with
      | some (cfg, configs) =>
          ({ m with topologyPortConfigs := configs }, .config (cfg.merge requested))
      | none =>
          let newCfg := (matchedPort.defaultConfig m.nextPortConfigId).merge requested
          ({ m with
              topologyPortConfigs := m.topologyPortConfigs ++ [newCfg]
              nextPortConfigId := m.nextPortConfigId + 1 },
            .config newCfg)

/-- `resetAudioPortConfig`: an initial config is restored, another one is
    erased, and an unknown one is no error. -/
def Module.resetAudioPortConfig (m : Module) (portConfigId : Int32) : Module × Reply :=
  match spliceAt AudioPortConfig.id portConfigId
      (fun _ => findPortConfigById m.initialPortConfigs portConfigId) m.topologyPortConfigs with
  | some (_, configs) => ({ m with topologyPortConfigs := configs }, .ok)
  | none => (m, .ok)

/-- The sample rate that a config counts with in a patch, if it is of a mix. -/
def Module.mixSampleRate (m : Module) (configId : Int32) : Option Int32 :=
  (findPortConfigById m.topologyPortConfigs configId).bind fun cfg =>
    match cfg.ext with
    | .mix _ => cfg.sampleRate
    | _ => none

/-- The patch that a request makes, before it has its id: 20 ms of frames at the
    highest rate, and 20 ms of latency for every sink. -/
def Module.appliedPatch (m : Module) (requested : AudioPatch) : AudioPatch :=
  let rates := (requested.sourcePortConfigIds ++ requested.sinkPortConfigIds).filterMap
    m.mixSampleRate
  let maxSampleRate := rates.foldl max 0
  let maxSampleRate := if maxSampleRate ≤ 0 then 48000 else maxSampleRate
  { requested with
    minimumStreamBufferSizeFrames := maxSampleRate * 20 / 1000
    latenciesMs := List.replicate (max requested.sinkPortConfigIds.length 1) 20 }

/-- `setAudioPatch`, without the parameter it sends to the legacy device.  A
    request with an id that no patch has creates one. -/
def Module.setAudioPatch (m : Module) (requested : AudioPatch) : Module × Reply :=
  let appliedPatch := m.appliedPatch requested
  let found :=
    if requested.id = 0 then none
    else spliceAt AudioPatch.id requested.id (fun _ => some appliedPatch) m.audioPatches
  match found with
  | some (_, patches) => ({ m with audioPatches := patches }, .patch appliedPatch)
  | none =>
      let appliedPatch := { appliedPatch with id := m.nextPatchId }
      ({ m with
          audioPatches := m.audioPatches ++ [appliedPatch]
          nextPatchId := m.nextPatchId + 1 },
        .patch appliedPatch)

/-- `resetAudioPatch`. -/
def Module.resetAudioPatch (m : Module) (patchId : Int32) : Module × Reply :=
  match spliceAt AudioPatch.id patchId (fun _ => none) m.audioPatches with
  | some (_, patches) => ({ m with audioPatches := patches }, .ok)
  | none => (m, .illegalArgument)

/-- The calls that change the topology. -/
inductive Call where
  | setAudioPortConfig (requested : AudioPortConfig)
  | resetAudioPortConfig (portConfigId : Int32)
  | setAudioPatch (requested : AudioPatch)
  | resetAudioPatch (patchId : Int32)
  deriving DecidableEq, Repr

def Module.call (m : Module) : Call → Module × Reply
  | .setAudioPortConfig requested => m.setAudioPortConfig requested
  | .resetAudioPortConfig portConfigId => m.resetAudioPortConfig portConfigId
  | .setAudioPatch requested => m.setAudioPatch requested
  | .resetAudioPatch patchId => m.resetAudioPatch patchId

/-- The module after some calls. -/
def Module.calls (m : Module) : List Call → Module
  | [] => m
  | c :: rest => Module.calls (m.call c).1 rest

/-- Does a call create a config? -/
def Module.createsConfig (m : Module) : Call → Bool
  | .setAudioPortConfig requested =>
      (findPortById m.topologyPorts requested.portId).isSome
        && (requested.id == 0 || (findPortConfigById m.topologyPortConfigs requested.id).isNone)
  | _ => false

/-- Does a call create a patch? -/
def Module.createsPatch (m : Module) : Call → Bool
  | .setAudioPatch requested =>
      requested.id == 0 || !(m.audioPatches.any fun patch => patch.id = requested.id)
  | _ => false

/-- How many of some calls create what `creates` says. -/
def Module.created (creates : Module → Call → Bool) (m : Module) : List Call → Nat
  | [] => 0
  | c :: rest => (if creates m c then 1 else 0) + Module.created creates (m.call c).1 rest

-- ── Ids ───────────────────────────────────────────────────────────────────

/-- The ids that new configs get; as `int32_t` they wrap. -/
def configId (n : Nat) : Int32 := Int32.ofNat (60 + n)

/-- The ids that new patches get. -/
def patchId (n : Nat) : Int32 := Int32.ofNat (1 + n)

/-- The ids of the configs of `initTopology`. -/
def attachedIds : List Int32 := attachedConfigs.map AudioPortConfig.id

theorem ofNat_injective {a b : Nat} (ha : a < 2 ^ 32) (hb : b < 2 ^ 32)
    (h : Int32.ofNat a = Int32.ofNat b) : a = b := by
  have hbits := congrArg Int32.toBitVec h
  rw [Int32.toBitVec_ofNat', Int32.toBitVec_ofNat'] at hbits
  have hnat := congrArg BitVec.toNat hbits
  rwa [BitVec.toNat_ofNat, BitVec.toNat_ofNat, Nat.mod_eq_of_lt ha, Nat.mod_eq_of_lt hb] at hnat

theorem configId_supply : Supply attachedIds configId (2 ^ 31) where
  distinct := fun j k hjk hk h => by
    have := ofNat_injective (by omega) (by omega) h
    omega
  apart := fun k hk hmem => by
    have hid : ∃ n, n < 5 ∧ Int32.ofNat n = configId k := by
      simp only [attachedIds, attachedConfigs, List.map_cons, List.map_nil, List.mem_cons,
        List.not_mem_nil, or_false] at hmem
      rcases hmem with h | h | h | h
      · exact ⟨1, by omega, h.symm⟩
      · exact ⟨2, by omega, h.symm⟩
      · exact ⟨3, by omega, h.symm⟩
      · exact ⟨4, by omega, h.symm⟩
    obtain ⟨n, hn, hid⟩ := hid
    have := ofNat_injective (by omega) (by omega) hid
    omega

theorem patchId_supply : Supply [] patchId (2 ^ 31) where
  distinct := fun j k hjk hk h => by
    have := ofNat_injective (by omega) (by omega) h
    omega
  apart := fun _ _ => List.not_mem_nil

theorem configId_succ (n : Nat) : configId n + 1 = configId (n + 1) :=
  (Int32.ofNat_add (60 + n) 1).symm

theorem patchId_succ (n : Nat) : patchId n + 1 = patchId (n + 1) :=
  (Int32.ofNat_add (1 + n) 1).symm

-- ── What the calls keep ───────────────────────────────────────────────────

/-- **THE INVARIANT**, after `n` configs and `p` patches were created. -/
structure Kept (m : Module) (n p : Nat) : Prop where
  ports : m.topologyPorts = topologyPorts
  initial : m.initialPortConfigs = attachedConfigs
  nextConfig : m.nextPortConfigId = configId n
  nextPatch : m.nextPatchId = patchId p
  configs : Issued AudioPortConfig.id attachedIds configId n m.topologyPortConfigs
  patches : Issued AudioPatch.id [] patchId p m.audioPatches
  portIds : ∀ c ∈ m.topologyPortConfigs, ∃ port ∈ topologyPorts, port.id = c.portId
  attached : ∀ c₀ ∈ attachedConfigs, ∃ c ∈ m.topologyPortConfigs, c.id = c₀.id
  attachedPort : ∀ c ∈ m.topologyPortConfigs, ∀ c₀ ∈ attachedConfigs, c.id = c₀.id →
    c.portId = c₀.portId

/-- What a call does to a module: what it returns is what is stored under the id
    it names, everything else is as before, and a refused call does nothing. -/
def Described (m m' : Module) : Call → Reply → Prop
  | .setAudioPortConfig requested, .config s =>
      atKey AudioPortConfig.id s.id m'.topologyPortConfigs = [s]
        ∧ offKey AudioPortConfig.id s.id m'.topologyPortConfigs
          = offKey AudioPortConfig.id s.id m.topologyPortConfigs
        ∧ m'.audioPatches = m.audioPatches
        ∧ (requested.id ∈ m.topologyPortConfigs.map AudioPortConfig.id → s.id = requested.id)
  | .resetAudioPortConfig id, .ok =>
      atKey AudioPortConfig.id id m'.topologyPortConfigs
          = atKey AudioPortConfig.id id attachedConfigs
        ∧ offKey AudioPortConfig.id id m'.topologyPortConfigs
          = offKey AudioPortConfig.id id m.topologyPortConfigs
        ∧ m'.audioPatches = m.audioPatches
  | .setAudioPatch requested, .patch a =>
      atKey AudioPatch.id a.id m'.audioPatches = [a]
        ∧ offKey AudioPatch.id a.id m'.audioPatches = offKey AudioPatch.id a.id m.audioPatches
        ∧ m'.topologyPortConfigs = m.topologyPortConfigs
        ∧ (requested.id ∈ m.audioPatches.map AudioPatch.id → a.id = requested.id)
  | .resetAudioPatch id, .ok =>
      atKey AudioPatch.id id m'.audioPatches = []
        ∧ offKey AudioPatch.id id m'.audioPatches = offKey AudioPatch.id id m.audioPatches
        ∧ m'.topologyPortConfigs = m.topologyPortConfigs
  | .setAudioPortConfig _, .illegalArgument => m' = m
  | .resetAudioPatch _, .illegalArgument => m' = m
  | _, _ => False

section Calls

variable {m : Module} {n p : Nat}

theorem kept_initTopology : Kept initTopology 0 0 where
  ports := rfl
  initial := rfl
  nextConfig := rfl
  nextPatch := rfl
  configs := { nodup := by decide, known := fun x hx => .inl (List.mem_map_of_mem hx) }
  patches := { nodup := List.nodup_nil, known := fun _ hx => nomatch hx }
  portIds := by decide
  attached := fun c hc => ⟨c, hc, rfl⟩
  attachedPort := by decide

/-- No config has the id 0, with which a request asks for a new one. -/
theorem configId_ne_zero (h : Kept m n p) (hn : n ≤ 2 ^ 31) :
    (0 : Int32) ∉ m.topologyPortConfigs.map AudioPortConfig.id := by
  intro hmem
  obtain ⟨c, hc, hid⟩ := List.mem_map.mp hmem
  rcases h.configs.known c hc with hbase | ⟨k, hk, hfresh⟩
  · rw [hid] at hbase
    exact absurd hbase (by decide)
  · have hzero : Int32.ofNat (60 + k) = Int32.ofNat 0 := hfresh.trans hid
    have := ofNat_injective (by omega) (by omega) hzero
    omega

theorem patchId_ne_zero (h : Kept m n p) (hp : p ≤ 2 ^ 31) :
    (0 : Int32) ∉ m.audioPatches.map AudioPatch.id := by
  intro hmem
  obtain ⟨a, ha, hid⟩ := List.mem_map.mp hmem
  rcases h.patches.known a ha with hbase | ⟨k, hk, hfresh⟩
  · exact nomatch hbase
  · have hzero : Int32.ofNat (1 + k) = Int32.ofNat 0 := hfresh.trans hid
    have := ofNat_injective (by omega) (by omega) hzero
    omega

theorem atKey_eq_nil {α : Type} {key : α → Int32} {id : Int32} {l : List α}
    (h : ∀ x ∈ l, key x ≠ id) : atKey key id l = [] :=
  List.filter_eq_nil_iff.mpr fun x hx heq => h x hx (of_decide_eq_true heq)

/-- The entry that is added is the one entry of the next key. -/
theorem atKey_append_next {α : Type} {key : α → Int32} {l : List α} {x : α}
    (h : ∀ y ∈ l, key y ≠ key x) :
    atKey key (key x) (l ++ [x]) = [x] ∧ offKey key (key x) (l ++ [x]) = offKey key (key x) l := by
  refine ⟨?_, ?_⟩
  · rw [atKey_append, atKey_eq_nil h]
    exact atKey_cons_self rfl []
  · rw [offKey, List.filter_append]
    exact (congrArg _ (offKey_cons_self rfl [])).trans (List.append_nil _)

/-- Searching by id, and finding nothing. -/
theorem find_eq_none_iff {α : Type} {key : α → Int32} {id : Int32} {l : List α} :
    (l.find? fun x => key x = id) = none ↔ id ∉ l.map key := by
  rw [List.find?_eq_none, List.mem_map]
  constructor
  · rintro h ⟨x, hx, hkey⟩
    exact h x hx (decide_eq_true hkey)
  · intro h x hx hkey
    exact h ⟨x, hx, of_decide_eq_true hkey⟩

theorem not_mem_of_spliceAt_none {α : Type} {key : α → Int32} {id : Int32} {l : List α}
    {f : α → Option α} (h : spliceAt key id f l = none) : id ∉ l.map key := by
  intro hmem
  obtain ⟨x, hx, hkey⟩ := List.mem_map.mp hmem
  have hat : x ∈ atKey key id l := mem_atKey.mpr ⟨hx, hkey⟩
  rw [atKey_of_spliceAt_none h] at hat
  exact nomatch hat

/-- A new config. -/
theorem newConfig_spec (h : Kept m n p) (hn : n < 2 ^ 31) {port : AudioPort}
    (hport : port ∈ topologyPorts) (requested : AudioPortConfig)
    (hunknown : requested.id ∉ m.topologyPortConfigs.map AudioPortConfig.id) :
    let newCfg := (port.defaultConfig m.nextPortConfigId).merge requested
    let m' := { m with
      topologyPortConfigs := m.topologyPortConfigs ++ [newCfg]
      nextPortConfigId := m.nextPortConfigId + 1 }
    Kept m' (n + 1) p
      ∧ Follows AudioPortConfig.id AudioPortConfig.portId configId n (n + 1)
        m.topologyPortConfigs m'.topologyPortConfigs
      ∧ Described m m' (.setAudioPortConfig requested) (.config newCfg) := by
  intro newCfg m'
  have hid : newCfg.id = configId n := h.nextConfig
  have hfresh : ∀ c ∈ m.topologyPortConfigs, c.id ≠ newCfg.id := by
    rw [hid]
    exact next_not_issued configId_supply h.configs (Nat.le_refl n) hn
  refine ⟨⟨h.ports, h.initial, ?_, h.nextPatch, ?_, h.patches, ?_, ?_, ?_⟩, follows_append hid, ?_⟩
  · show m.nextPortConfigId + 1 = configId (n + 1)
    rw [h.nextConfig, configId_succ]
  · exact issued_append configId_supply h.configs hn hid
  · intro c hc
    rcases List.mem_append.mp hc with hold | hnew
    · exact h.portIds c hold
    · rw [List.mem_singleton.mp hnew]
      exact ⟨port, hport, rfl⟩
  · intro c₀ hc₀
    obtain ⟨c, hc, heq⟩ := h.attached c₀ hc₀
    exact ⟨c, List.mem_append_left _ hc, heq⟩
  · intro c hc c₀ hc₀ heq
    rcases List.mem_append.mp hc with hold | hnew
    · exact h.attachedPort c hold c₀ hc₀ heq
    · rw [List.mem_singleton.mp hnew, hid] at heq
      exact absurd (heq ▸ List.mem_map_of_mem hc₀) (configId_supply.apart n hn)
  · obtain ⟨hat, hoff⟩ := atKey_append_next hfresh
    exact ⟨hat, hoff, rfl, fun hmem => absurd hmem hunknown⟩

/-- A config in the place of another with its id and its port. -/
theorem replacedConfig_spec (h : Kept m n p) {id : Int32} {cfg cfg' : AudioPortConfig}
    {f : AudioPortConfig → Option AudioPortConfig} {configs : List AudioPortConfig}
    (hf : ∀ c, c.id = id → ∃ c', f c = some c' ∧ c'.id = id)
    (hsplice : spliceAt AudioPortConfig.id id f m.topologyPortConfigs = some (cfg, configs))
    (hnew : f cfg = some cfg') (hport : cfg'.portId = cfg.portId) :
    Kept { m with topologyPortConfigs := configs } n p
      ∧ Follows AudioPortConfig.id AudioPortConfig.portId configId n n m.topologyPortConfigs
        configs
      ∧ atKey AudioPortConfig.id id configs = [cfg']
      ∧ offKey AudioPortConfig.id id configs = offKey AudioPortConfig.id id m.topologyPortConfigs
      := by
  obtain ⟨hcfg, hmem⟩ := mem_spliceAt hsplice
  have hid : cfg.id = id := key_of_spliceAt hsplice
  have hid' : cfg'.id = id := by
    obtain ⟨c', hc', hkey⟩ := hf cfg hid
    rw [hnew] at hc'
    rwa [Option.some.inj hc']
  have hfollows : Follows AudioPortConfig.id AudioPortConfig.portId configId n n
      m.topologyPortConfigs configs :=
    follows_replace hsplice fun c hc => by
      obtain rfl := Option.some.inj (hnew.symm.trans hc)
      exact ⟨hid'.trans hid.symm, hport⟩
  -- every config has the port of an earlier one with its id
  have hold : ∀ c ∈ configs, ∃ c' ∈ m.topologyPortConfigs, c'.id = c.id ∧ c'.portId = c.portId :=
    fun c hc => (hfollows c hc).resolve_right fun ⟨k, hk, hk', _⟩ => absurd hk' (by omega)
  obtain ⟨hat, hoff⟩ := spliceAt_spec h.configs.nodup (fun c hc => by
    obtain rfl := Option.some.inj (hnew.symm.trans hc)
    exact hid') hsplice
  rw [hnew] at hat
  refine ⟨⟨h.ports, h.initial, h.nextConfig, h.nextPatch, issued_replace h.configs hf hsplice,
    h.patches, ?_, ?_, ?_⟩, hfollows, hat, hoff⟩
  · intro c hc
    obtain ⟨c', hc', -, heq⟩ := hold c hc
    exact heq ▸ h.portIds c' hc'
  · intro c₀ hc₀
    obtain ⟨c, hc, heq⟩ := h.attached c₀ hc₀
    have hids : c₀.id ∈ configs.map AudioPortConfig.id := by
      rw [map_key_spliceAt_same hf hsplice, ← heq]
      exact List.mem_map_of_mem hc
    exact List.mem_map.mp hids
  · intro c hc c₀ hc₀ heq
    obtain ⟨c', hc', hkey, hsame⟩ := hold c hc
    exact hsame ▸ h.attachedPort c' hc' c₀ hc₀ (hkey.trans heq)

/-- **SETAUDIOPORTCONFIG**. -/
theorem setAudioPortConfig_spec (h : Kept m n p) (requested : AudioPortConfig) {n' : Nat}
    (hn' : n' = n + if m.createsConfig (.setAudioPortConfig requested) then 1 else 0)
    (hn : n' ≤ 2 ^ 31) :
    let r := m.setAudioPortConfig requested
    Kept r.1 n' p
      ∧ Follows AudioPortConfig.id AudioPortConfig.portId configId n n' m.topologyPortConfigs
        r.1.topologyPortConfigs
      ∧ Described m r.1 (.setAudioPortConfig requested) r.2 := by
  have hzero := configId_ne_zero h (by omega : n ≤ 2 ^ 31)
  simp only [Module.createsConfig] at hn'
  simp only [Module.setAudioPortConfig]
  cases hport : findPortById m.topologyPorts requested.portId with
  | none =>
      simp only [hport] at hn'
      obtain rfl : n' = n := hn'
      exact ⟨h, follows_refl _, rfl⟩
  | some port =>
      have hmem : port ∈ topologyPorts := h.ports ▸ List.mem_of_find?_eq_some hport
      simp only [hport, Option.isSome_some, Bool.true_and] at hn'
      cases hfound : (if requested.id ≠ 0 then
          spliceAt AudioPortConfig.id requested.id (fun cfg => some (cfg.merge requested))
            m.topologyPortConfigs else none) with
      | none =>
          have hunknown : requested.id ∉ m.topologyPortConfigs.map AudioPortConfig.id := by
            by_cases hid : requested.id = 0
            · rw [hid]
              exact hzero
            · rw [if_pos hid] at hfound
              exact not_mem_of_spliceAt_none hfound
          have hnone : findPortConfigById m.topologyPortConfigs requested.id = none :=
            find_eq_none_iff.mpr hunknown
          simp only [hnone, Option.isNone_none, Bool.or_true, if_true] at hn'
          subst hn'
          exact newConfig_spec h hn hmem requested hunknown
      | some found =>
          obtain ⟨cfg, configs⟩ := found
          have hid : requested.id ≠ 0 := by
            intro hid
            rw [if_neg fun hne => hne hid] at hfound
            cases hfound
          rw [if_pos hid] at hfound
          have hsome : (findPortConfigById m.topologyPortConfigs requested.id).isNone = false := by
            rw [Option.isNone_eq_false_iff, Option.isSome_iff_ne_none]
            intro hnone
            refine find_eq_none_iff.mp hnone ?_
            rw [← key_of_spliceAt hfound]
            exact List.mem_map_of_mem (mem_spliceAt hfound).1
          simp only [hsome, Bool.or_false, beq_eq_false_iff_ne.mpr hid] at hn'
          obtain rfl : n' = n := hn'
          have hmerge : ∀ c : AudioPortConfig, c.id = requested.id →
              ∃ c', some (c.merge requested) = some c' ∧ c'.id = requested.id :=
            fun c hc => ⟨_, rfl, hc⟩
          obtain ⟨hkept, hfollows, hat, hoff⟩ := replacedConfig_spec h hmerge hfound rfl rfl
          have hsame : cfg.id = requested.id := key_of_spliceAt hfound
          rw [← hsame] at hat hoff
          exact ⟨hkept, hfollows, hat, hoff, rfl, fun _ => hsame⟩

/-- The configs that are left when one that is not initial is erased. -/
theorem erasedConfig_spec (h : Kept m n p) {id : Int32} {cfg : AudioPortConfig}
    {f : AudioPortConfig → Option AudioPortConfig} {configs : List AudioPortConfig}
    (hf : ∀ c, f c = none) (hinitial : id ∉ attachedIds)
    (hsplice : spliceAt AudioPortConfig.id id f m.topologyPortConfigs = some (cfg, configs)) :
    Kept { m with topologyPortConfigs := configs } n p
      ∧ Follows AudioPortConfig.id AudioPortConfig.portId configId n n m.topologyPortConfigs
        configs
      ∧ atKey AudioPortConfig.id id configs = []
      ∧ offKey AudioPortConfig.id id configs = offKey AudioPortConfig.id id m.topologyPortConfigs
      := by
  have hsub : configs.Sublist m.topologyPortConfigs := sublist_spliceAt hf hsplice
  obtain ⟨hat, hoff⟩ := spliceAt_spec h.configs.nodup
    (fun c hc => nomatch (hf cfg).symm.trans hc) hsplice
  rw [hf cfg] at hat
  refine ⟨⟨h.ports, h.initial, h.nextConfig, h.nextPatch, issued_sublist h.configs hsub, h.patches,
    fun c hc => h.portIds c (hsub.subset hc), ?_,
    fun c hc => h.attachedPort c (hsub.subset hc)⟩, follows_sublist hsub, hat, hoff⟩
  intro c₀ hc₀
  obtain ⟨c, hc, heq⟩ := h.attached c₀ hc₀
  have hother : c.id ≠ id := by
    rintro rfl
    exact hinitial (heq ▸ List.mem_map_of_mem hc₀)
  have hin : c ∈ offKey AudioPortConfig.id id configs := by
    rw [hoff]
    exact List.mem_filter.mpr ⟨hc, decide_eq_true hother⟩
  exact ⟨c, (List.mem_filter.mp hin).1, heq⟩

/-- **RESETAUDIOPORTCONFIG**. -/
theorem resetAudioPortConfig_spec (h : Kept m n p) (id : Int32) :
    let r := m.resetAudioPortConfig id
    Kept r.1 n p
      ∧ Follows AudioPortConfig.id AudioPortConfig.portId configId n n m.topologyPortConfigs
        r.1.topologyPortConfigs
      ∧ Described m r.1 (.resetAudioPortConfig id) r.2 := by
  simp only [Module.resetAudioPortConfig]
  have hnodup : attachedIds.Nodup := by decide
  have hsearch : findPortConfigById m.initialPortConfigs id
      = attachedConfigs.find? fun cfg => cfg.id = id := by
    rw [h.initial]
    rfl
  cases hsplice : spliceAt AudioPortConfig.id id
      (fun _ => findPortConfigById m.initialPortConfigs id) m.topologyPortConfigs with
  | none =>
      have habsent := atKey_of_spliceAt_none hsplice
      refine ⟨h, follows_refl _, ?_, rfl, rfl⟩
      rw [habsent, atKey, eq_comm, List.filter_eq_nil_iff]
      intro c₀ hc₀ heq
      obtain ⟨c, hc, hid⟩ := h.attached c₀ hc₀
      exact not_mem_of_spliceAt_none hsplice
        (of_decide_eq_true heq ▸ hid ▸ List.mem_map_of_mem hc)
  | some found =>
      obtain ⟨cfg, configs⟩ := found
      rw [hsearch] at hsplice
      cases hinitial : attachedConfigs.find? fun cfg => cfg.id = id with
      | none =>
          have hother : id ∉ attachedIds := find_eq_none_iff.mp hinitial
          simp only [hinitial] at hsplice
          obtain ⟨hkept, hfollows, hat, hoff⟩ := erasedConfig_spec h (fun _ => rfl) hother hsplice
          refine ⟨hkept, hfollows, ?_, hoff, rfl⟩
          rw [hat, atKey, eq_comm, List.filter_eq_nil_iff]
          intro c₀ hc₀ heq
          exact hother (of_decide_eq_true heq ▸ List.mem_map_of_mem hc₀)
      | some c₀ =>
          have hmem : c₀ ∈ attachedConfigs := List.mem_of_find?_eq_some hinitial
          have hfits := List.find?_some hinitial
          have hid : c₀.id = id := of_decide_eq_true hfits
          simp only [hinitial] at hsplice
          have hport : c₀.portId = cfg.portId :=
            (h.attachedPort cfg (mem_spliceAt hsplice).1 c₀ hmem
              ((key_of_spliceAt hsplice).trans hid.symm)).symm
          obtain ⟨hkept, hfollows, hat, hoff⟩ := replacedConfig_spec h
            (fun _ _ => ⟨c₀, rfl, hid⟩) hsplice rfl hport
          refine ⟨hkept, hfollows, ?_, hoff, rfl⟩
          rw [hat, ← hid]
          exact (atKey_eq_single hnodup hmem).symm

-- ── Patches ───────────────────────────────────────────────────────────────

/-- **SETAUDIOPATCH**. -/
theorem setAudioPatch_spec (h : Kept m n p) (requested : AudioPatch) {p' : Nat}
    (hp' : p' = p + if m.createsPatch (.setAudioPatch requested) then 1 else 0)
    (hp : p' ≤ 2 ^ 31) :
    let r := m.setAudioPatch requested
    Kept r.1 n p'
      ∧ r.1.topologyPortConfigs = m.topologyPortConfigs
      ∧ Described m r.1 (.setAudioPatch requested) r.2 := by
  have hzero := patchId_ne_zero h (by omega : p ≤ 2 ^ 31)
  simp only [Module.createsPatch] at hp'
  simp only [Module.setAudioPatch]
  cases hfound : (if requested.id = 0 then none else
      spliceAt AudioPatch.id requested.id (fun _ => some (m.appliedPatch requested))
        m.audioPatches) with
  | none =>
      have hunknown : requested.id ∉ m.audioPatches.map AudioPatch.id := by
        by_cases hid : requested.id = 0
        · rw [hid]
          exact hzero
        · rw [if_neg hid] at hfound
          exact not_mem_of_spliceAt_none hfound
      have hnone : (m.audioPatches.any fun patch => patch.id = requested.id) = false :=
        List.any_eq_false.mpr fun a ha heq =>
          hunknown (of_decide_eq_true heq ▸ List.mem_map_of_mem ha)
      simp only [hnone, Bool.not_false, Bool.or_true, if_true] at hp'
      subst hp'
      have hfresh : ∀ a ∈ m.audioPatches, a.id ≠ m.nextPatchId := by
        rw [h.nextPatch]
        exact next_not_issued patchId_supply h.patches (Nat.le_refl p) hp
      obtain ⟨hat, hoff⟩ := atKey_append_next
        (x := { m.appliedPatch requested with id := m.nextPatchId }) hfresh
      refine ⟨⟨h.ports, h.initial, h.nextConfig, ?_, h.configs, ?_, h.portIds, h.attached,
        h.attachedPort⟩, rfl, hat, hoff, rfl, fun hmem => absurd hmem hunknown⟩
      · show m.nextPatchId + 1 = patchId (p + 1)
        rw [h.nextPatch, patchId_succ]
      · exact issued_append patchId_supply h.patches hp h.nextPatch
  | some found =>
      obtain ⟨patch, patches⟩ := found
      have hid : requested.id ≠ 0 := by
        intro hid
        rw [if_pos hid] at hfound
        cases hfound
      rw [if_neg hid] at hfound
      have hsome : (m.audioPatches.any fun patch => patch.id = requested.id) = true :=
        List.any_eq_true.mpr ⟨patch, (mem_spliceAt hfound).1,
          decide_eq_true (key_of_spliceAt hfound)⟩
      simp only [hsome, Bool.not_true, Bool.or_false, beq_eq_false_iff_ne.mpr hid] at hp'
      obtain rfl : p' = p := hp'
      obtain ⟨hat, hoff⟩ := spliceAt_spec h.patches.nodup (fun a ha => by
        obtain rfl := Option.some.inj ha
        rfl) hfound
      have hissued : Issued AudioPatch.id [] patchId _ patches :=
        issued_replace h.patches (fun _ _ => ⟨m.appliedPatch requested, rfl, rfl⟩) hfound
      exact ⟨⟨h.ports, h.initial, h.nextConfig, h.nextPatch, h.configs, hissued, h.portIds,
        h.attached, h.attachedPort⟩, rfl, hat, hoff, rfl, fun _ => rfl⟩

/-- **RESETAUDIOPATCH**. -/
theorem resetAudioPatch_spec (h : Kept m n p) (id : Int32) :
    let r := m.resetAudioPatch id
    Kept r.1 n p
      ∧ r.1.topologyPortConfigs = m.topologyPortConfigs
      ∧ Described m r.1 (.resetAudioPatch id) r.2 := by
  simp only [Module.resetAudioPatch]
  cases hsplice : spliceAt AudioPatch.id id (fun _ => none) m.audioPatches with
  | none => exact ⟨h, rfl, rfl⟩
  | some found =>
      obtain ⟨patch, patches⟩ := found
      obtain ⟨hat, hoff⟩ := spliceAt_spec h.patches.nodup
        (fun a (ha : none = some a) => by cases ha) hsplice
      exact ⟨⟨h.ports, h.initial, h.nextConfig, h.nextPatch, h.configs,
        issued_sublist h.patches (sublist_spliceAt (fun _ => rfl) hsplice), h.portIds, h.attached,
        h.attachedPort⟩, rfl, hat, hoff, rfl⟩

/-- A patch that is not an update has the next id. -/
theorem newPatch_id {requested a : AudioPatch}
    (hunknown : requested.id ∉ m.audioPatches.map AudioPatch.id)
    (hreply : (m.setAudioPatch requested).2 = .patch a) : a.id = m.nextPatchId := by
  have hnone : (if requested.id = 0 then none else
      spliceAt AudioPatch.id requested.id (fun _ => some (m.appliedPatch requested))
        m.audioPatches) = none := by
    split
    · rfl
    · refine spliceAt_eq_none (atKey_eq_nil fun x hx hkey => hunknown ?_)
      exact hkey ▸ List.mem_map_of_mem hx
  simp only [Module.setAudioPatch, hnone, Reply.patch.injEq] at hreply
  rw [← hreply]

-- ── Runs ──────────────────────────────────────────────────────────────────

/-- **A CALL** keeps the invariant and does what it is described to do. -/
theorem call_spec (h : Kept m n p) (c : Call) {n' p' : Nat}
    (hn' : n' = n + if m.createsConfig c then 1 else 0) (hn : n' ≤ 2 ^ 31)
    (hp' : p' = p + if m.createsPatch c then 1 else 0) (hp : p' ≤ 2 ^ 31) :
    Kept (m.call c).1 n' p'
      ∧ Follows AudioPortConfig.id AudioPortConfig.portId configId n n' m.topologyPortConfigs
        (m.call c).1.topologyPortConfigs
      ∧ Described m (m.call c).1 c (m.call c).2 := by
  cases c with
  | setAudioPortConfig requested =>
      obtain rfl : p' = p := hp'
      exact setAudioPortConfig_spec h requested hn' hn
  | resetAudioPortConfig id =>
      obtain rfl : n' = n := hn'
      obtain rfl : p' = p := hp'
      exact resetAudioPortConfig_spec h id
  | setAudioPatch requested =>
      obtain rfl : n' = n := hn'
      obtain ⟨hkept, hconfigs, hdescribed⟩ := setAudioPatch_spec h requested hp' hp
      exact ⟨hkept, hconfigs ▸ follows_refl _, hdescribed⟩
  | resetAudioPatch id =>
      obtain rfl : n' = n := hn'
      obtain rfl : p' = p := hp'
      obtain ⟨hkept, hconfigs, hdescribed⟩ := resetAudioPatch_spec h id
      exact ⟨hkept, hconfigs ▸ follows_refl _, hdescribed⟩

/-- **SOME CALLS** keep the invariant, and every config its port. -/
theorem calls_spec (calls : List Call) :
    ∀ {m : Module} {n p : Nat}, Kept m n p →
      n + m.created Module.createsConfig calls ≤ 2 ^ 31 →
      p + m.created Module.createsPatch calls ≤ 2 ^ 31 →
      Kept (m.calls calls) (n + m.created Module.createsConfig calls)
          (p + m.created Module.createsPatch calls)
        ∧ Follows AudioPortConfig.id AudioPortConfig.portId configId n
          (n + m.created Module.createsConfig calls) m.topologyPortConfigs
          (m.calls calls).topologyPortConfigs := by
  induction calls with
  | nil => exact fun h _ _ => ⟨h, follows_refl _⟩
  | cons c rest ih =>
      intro m n p h hn hp
      simp only [Module.created] at hn hp ⊢
      obtain ⟨hkept, hfollows, -⟩ := call_spec h c rfl (by omega) rfl (by omega)
      obtain ⟨hkept', hfollows'⟩ := ih hkept (by omega) (by omega)
      rw [← Nat.add_assoc, ← Nat.add_assoc]
      exact ⟨hkept', follows_trans (Nat.le_add_right _ _) (Nat.le_add_right _ _) hfollows hfollows'⟩

end Calls

theorem calls_append (m : Module) (done rest : List Call) :
    m.calls (done ++ rest) = (m.calls done).calls rest := by
  induction done generalizing m with
  | nil => rfl
  | cons c done ih => exact ih (m.call c).1

theorem created_append (creates : Module → Call → Bool) (m : Module) (done rest : List Call) :
    m.created creates (done ++ rest)
      = m.created creates done + (m.calls done).created creates rest := by
  induction done generalizing m with
  | nil => exact (Nat.zero_add _).symm
  | cons c done ih =>
      rw [List.cons_append, Module.created, ih, Module.created, Nat.add_assoc]
      rfl

/-- What holds of the topology at any time. -/
structure Consistent (m : Module) : Prop where
  configIds : (m.topologyPortConfigs.map AudioPortConfig.id).Nodup
  patchIds : (m.audioPatches.map AudioPatch.id).Nodup
  portIds : ∀ c ∈ m.topologyPortConfigs, ∃ port ∈ m.topologyPorts, port.id = c.portId
  initial : ∀ c₀ ∈ attachedConfigs, ∃ c ∈ m.topologyPortConfigs, c.id = c₀.id

theorem consistent_of_kept {m : Module} {n p : Nat} (h : Kept m n p) : Consistent m where
  configIds := h.configs.nodup
  patchIds := h.patches.nodup
  portIds := h.ports.symm ▸ h.portIds
  initial := h.attached

/-- **THE BOOKKEEPING OF THE TOPOLOGY**, in any run that creates fewer than 2^31
    configs and patches: it is consistent at any time, a config keeps its port, a
    new patch has an id that no patch had, and every call does what it is
    described to do. -/
theorem topology_bookkeeping (calls : List Call)
    (hconfigs : initTopology.created Module.createsConfig calls < 2 ^ 31)
    (hpatches : initTopology.created Module.createsPatch calls < 2 ^ 31) :
    (∀ done rest, calls = done ++ rest → Consistent (initTopology.calls done))
      ∧ (∀ done mid rest, calls = done ++ (mid ++ rest) →
          ∀ c ∈ (initTopology.calls done).topologyPortConfigs,
          ∀ c' ∈ (initTopology.calls (done ++ mid)).topologyPortConfigs,
            c.id = c'.id → c.portId = c'.portId)
      ∧ (∀ done mid requested rest a, calls = done ++ (mid ++ .setAudioPatch requested :: rest) →
          let m := initTopology.calls (done ++ mid)
          requested.id ∉ m.audioPatches.map AudioPatch.id →
          (m.call (.setAudioPatch requested)).2 = .patch a →
            a.id ∉ (initTopology.calls done).audioPatches.map AudioPatch.id)
      ∧ ∀ done c rest, calls = done ++ c :: rest →
          let m := initTopology.calls done
          Described m (m.call c).1 c (m.call c).2 := by
  have hpart : ∀ done rest, calls = done ++ rest →
      Kept (initTopology.calls done) (initTopology.created Module.createsConfig done)
          (initTopology.created Module.createsPatch done)
        ∧ initTopology.created Module.createsConfig done
            + (initTopology.calls done).created Module.createsConfig rest < 2 ^ 31
        ∧ initTopology.created Module.createsPatch done
            + (initTopology.calls done).created Module.createsPatch rest < 2 ^ 31 := by
    rintro done rest rfl
    rw [created_append] at hconfigs hpatches
    have hkept := (calls_spec done kept_initTopology (by omega) (by omega)).1
    rw [Nat.zero_add, Nat.zero_add] at hkept
    exact ⟨hkept, hconfigs, hpatches⟩
  refine ⟨fun done rest hcat => consistent_of_kept (hpart done rest hcat).1, ?_, ?_, ?_⟩
  · intro done mid rest hcat c hc c' hc' hid
    obtain ⟨hkept, hn, hp⟩ := hpart done (mid ++ rest) hcat
    rw [created_append] at hn hp
    obtain ⟨-, hfollows⟩ := calls_spec mid hkept (by omega) (by omega)
    rw [calls_append] at hc'
    exact tag_of_follows configId_supply hkept.configs (by omega) hfollows hc hc' hid
  · intro done mid requested rest a hcat m hunknown hreply hmem
    obtain ⟨hkept, -, -⟩ := hpart done _ hcat
    obtain ⟨hkept', -, hp⟩ := hpart (done ++ mid) (.setAudioPatch requested :: rest)
      (by rw [hcat, List.append_assoc])
    simp only [Module.created] at hp
    obtain ⟨b, hb, hid⟩ := List.mem_map.mp hmem
    have hnext : a.id = patchId (initTopology.created Module.createsPatch (done ++ mid)) :=
      (newPatch_id hunknown hreply).trans hkept'.nextPatch
    refine next_not_issued patchId_supply hkept.patches ?_ (by omega) b hb (hid.trans hnext)
    rw [created_append]
    exact Nat.le_add_right _ _
  · intro done c rest hcat
    obtain ⟨hkept, hn, hp⟩ := hpart done (c :: rest) hcat
    simp only [Module.created] at hn hp
    exact (call_spec hkept c rfl (by omega) rfl (by omega)).2.2

/-- A request for a config of a port, with no field of its own. -/
def plainRequest (id portId : Int32) : AudioPortConfig where
  id := id
  portId := portId
  sampleRate := none
  channelMask := none
  format := none
  flags := none
  ext := .unspecified

/-- A config for the primary output, and a patch from it to the speaker. -/
def routeToSpeaker : List Call :=
  [.setAudioPortConfig (plainRequest 0 8),
    .setAudioPatch { id := 0, sourcePortConfigIds := [60], sinkPortConfigIds := [1],
                     minimumStreamBufferSizeFrames := 0, latenciesMs := [] }]

theorem topology_bookkeeping_routeToSpeaker :
    (initTopology.calls routeToSpeaker).audioPatches.map AudioPatch.id = [1]
      ∧ Consistent (initTopology.calls routeToSpeaker) := by
  refine ⟨by decide +kernel, ?_⟩
  have hspec := topology_bookkeeping routeToSpeaker (by decide +kernel) (by decide +kernel)
  exact hspec.1 routeToSpeaker [] (List.append_nil _).symm

end AidlModule

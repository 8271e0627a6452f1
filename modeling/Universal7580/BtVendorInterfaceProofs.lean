import Mathlib.Data.List.Basic

/-! # The Bluetooth vendor interface (`vendor_interface.cc`)

    One `VendorInterface` object at a time stands between the service and the
    vendor library: it opens the library and the controller's sockets, passes
    the stack's packets on, gives the library's own commands their answers, and
    wakes the controller before every packet.  Beside the object there are
    globals that outlive it: the slot for the library's command, the low power
    flags and the pointer to the object itself.

    `Hal` is all of this, with a record of what was done to the world outside.
    A function that follows a pointer returns `none` where the pointer is null. -/

namespace BtVendor

/-- The data of a `hidl_vec<uint8_t>`. -/
abbrev Packet := List UInt8

/-- A client of the service, by its callback object. -/
abbrev Client := Nat

-- ── Constants ────────────────────────────────────────────────────────────────

def HCI_PACKET_TYPE_COMMAND : UInt8 := 1
def HCI_COMMAND_COMPLETE_EVENT : UInt8 := 0x0E
def HCI_EVENT_PREAMBLE_SIZE : Nat := 2
def INVALID_FD : Int := -1

-- ── Data ─────────────────────────────────────────────────────────────────────

/-- What the vendor library is asked to do, with the argument it is given. -/
inductive LibOp where
  | powerCtrl (on : Bool)
  | userialOpen
  | userialClose
  | fwCfg
  | getLpmIdleTimeout
  | lpmSetMode (enable : Bool)
  | lpmWakeSetState (assert : Bool)
  deriving DecidableEq

/-- What the interface does to the world outside of it. -/
inductive Effect where
  /-- `lib_interface_->op`. -/
  | op (o : LibOp)
  /-- `fd_watcher_.ConfigureTimeout`, in milliseconds. -/
  | configureTimeout (ms : UInt32)
  /-- The armed timeout calls `OnTimeout`. -/
  | onTimeout
  /-- `hci_->Send`. -/
  | hciSend (type : UInt8) (data : Packet)
  /-- The callback of a vendor command. -/
  | saved_cb (cb : Nat) (packet : Packet)
  | event_cb (packet : Packet)
  /-- The client is told how its `initialize` ended. -/
  | initializationComplete (client : Client) (success : Bool)
  deriving DecidableEq

/-- The protocol object behind `hci_`. -/
inductive Hci where
  | h4 (fd : Int)
  | mct (fds : List Int)
  deriving DecidableEq

/-- The slot `internal_command`; `cb` is a function pointer. -/
structure InternalCommand where
  cb : Option Nat
  opcode : UInt16
  deriving DecidableEq

/-- The fields of a `VendorInterface`.  Of `fd_watcher_` this is its one
    timeout, 0 when none is armed; a pointer is whether it is set. -/
structure VendorInterface where
  lib_handle : Bool
  lib_interface : Bool
  timeout : UInt32
  initialize_complete_cb : Option Client
  hci : Option Hci
  event_cb : Option Client
  firmware_startup_timer : Bool
  deriving DecidableEq

/-- The globals of the file, and what was done so far. -/
structure Hal where
  internal_command : InternalCommand
  lpm_wake_deasserted : Bool
  lpm_timeout_ms : UInt32
  recent_activity_flag : Bool
  g_vendor_interface : Option VendorInterface
  out : List Effect
  deriving DecidableEq

/-- The globals as the library is loaded with them. -/
def halInit : Hal :=
  { internal_command := { cb := none, opcode := 0 }
    lpm_wake_deasserted := false
    lpm_timeout_ms := 0
    recent_activity_flag := false
    g_vendor_interface := none
    out := [] }

namespace Hal

def emit (s : Hal) (effects : List Effect) : Hal :=
  { s with out := s.out ++ effects }

def setVendor (s : Hal) (v : VendorInterface) : Hal :=
  { s with g_vendor_interface := some v }

end Hal

-- ── Open ─────────────────────────────────────────────────────────────────────

/-- What the steps of `Open` meet: the library, its symbol, the address, the
    library's `init`, and the descriptors that `BT_VND_OP_USERIAL_OPEN` gives.
    `ch_max` is the `CH_MAX` of the library's header. -/
structure OpenEnv where
  dlopen : Bool
  dlsym : Bool
  local_address : Bool
  init_status : Int
  ch_max : Int
  fd_count : Int
  fd_list : List Int

/-- A call that returns, or one that `LOG_ALWAYS_FATAL` ends. -/
inductive Outcome (α : Type) where
  | returned (value : α)
  | aborted
  deriving DecidableEq

/-- Some descriptor among the first `fd_count` is `INVALID_FD`. -/
def invalidFd (env : OpenEnv) : Prop :=
  INVALID_FD ∈ env.fd_list.take env.fd_count.toNat

instance (env : OpenEnv) : Decidable (invalidFd env) :=
  inferInstanceAs (Decidable (_ ∈ _))

/-- `new VendorInterface()`: all fields are zero. -/
def newVendorInterface : VendorInterface :=
  { lib_handle := false
    lib_interface := false
    timeout := 0
    initialize_complete_cb := none
    hci := none
    event_cb := none
    firmware_startup_timer := false }

/-- `hci_` on the descriptors: one is H4, more are MCT. -/
def newHci (env : OpenEnv) : Hci :=
  if env.fd_count = 1 then .h4 (env.fd_list.getD 0 0) else .mct env.fd_list

/-- `Open` from the sockets on, with the library loaded. -/
def openSockets (s : Hal) (v : VendorInterface) (env : OpenEnv) (client : Client) :
    Bool × Hal :=
  let s' := s.emit [.op (.powerCtrl true), .op .userialOpen]
  if env.fd_count < 1 ∨ env.fd_count > env.ch_max - 1 then (false, s'.setVendor v)
  else if invalidFd env then (false, s'.setVendor v)
  else
    -- Initially, the power management is off.
    (true, { s' with lpm_wake_deasserted := true }.setVendor
      { v with event_cb := some client
               hci := some (newHci env)
               firmware_startup_timer := true } |>.emit [.op .fwCfg])

/-- `VendorInterface::Open` on the object `v`. -/
def vendorOpen (s : Hal) (v : VendorInterface) (env : OpenEnv) (client : Client) :
    Outcome (Bool × Hal) :=
  let v₁ := { v with initialize_complete_cb := some client }
  if env.dlopen = false then .returned (false, s.setVendor v₁)
  else
    let v₂ := { v₁ with lib_handle := true }
    if env.dlsym = false then .returned (false, s.setVendor v₂)
    else
      let v₃ := { v₂ with lib_interface := true }
      if env.local_address = false then .aborted
      else if env.init_status ≠ 0 then .returned (false, s.setVendor v₃)
      else .returned (openSockets s v₃ env client)

/-- `VendorInterface::Initialize`. -/
def vendorInitialize (s : Hal) (env : OpenEnv) (client : Client) : Outcome (Bool × Hal) :=
  match s.g_vendor_interface with
  | some _ => .returned (false, s)
  | none => vendorOpen s newVendorInterface env client

-- ── Close ────────────────────────────────────────────────────────────────────

/-- `VendorInterface::Close`, up to the library's last operation: what is null
    is left out. -/
def vendorClose (s : Hal) (v : VendorInterface) : Hal :=
  if v.lib_interface = true then
    s.emit [.op (.lpmSetMode false), .op .userialClose, .op (.powerCtrl false)]
  else s

/-- `VendorInterface::Shutdown`. -/
def vendorShutdown (s : Hal) : Outcome Hal :=
  match s.g_vendor_interface with
  | none => .aborted
  | some v => .returned { vendorClose s v with g_vendor_interface := none }

-- ── Send ─────────────────────────────────────────────────────────────────────

/-- The middle of `Send`: wake is asserted unless it is already. -/
def assertWake (s : Hal) (v : VendorInterface) : Option Hal :=
  if s.lpm_wake_deasserted = true then
    if v.lib_interface = true then
      -- Restart the timer, then assert wake.
      some ({ s with lpm_wake_deasserted := false }.setVendor
        { v with timeout := s.lpm_timeout_ms } |>.emit
          [.configureTimeout s.lpm_timeout_ms, .op (.lpmWakeSetState true)])
    else none
  else some s

/-- `VendorInterface::get()->Send(type, data, length)`. -/
def send (s : Hal) (type : UInt8) (data : Packet) : Option Hal :=
  match s.g_vendor_interface with
  | none => none
  | some v =>
      match assertWake { s with recent_activity_flag := true } v with
      | none => none
      | some s' => if v.hci.isSome then some (s'.emit [.hciSend type data]) else none

/-- `transmit_cb`: the library sends a command of its own. -/
def transmit_cb (s : Hal) (opcode : UInt16) (data : Packet) (callback : Option Nat) :
    Option Hal :=
  send { s with internal_command := { cb := callback, opcode := opcode } }
    HCI_PACKET_TYPE_COMMAND data

-- ── Events ───────────────────────────────────────────────────────────────────

/-- `packet[i] | (packet[i + 1] << 8)`. -/
def opcodeAt (packet : Packet) (i : Nat) : UInt16 :=
  (packet.getD i 0).toUInt16 ||| ((packet.getD (i + 1) 0).toUInt16 <<< 8)

/-- `internal_command_event_match`. -/
def internal_command_event_match (c : InternalCommand) (packet : Packet) : Bool :=
  if packet.getD 0 0 ≠ HCI_COMMAND_COMPLETE_EVENT then false
  else
    -- Skip num packets.
    opcodeAt packet (HCI_EVENT_PREAMBLE_SIZE + 1) == c.opcode

/-- `VendorInterface::HandleIncomingEvent`. -/
def handleIncomingEvent (s : Hal) (packet : Packet) : Hal :=
  match s.internal_command.cb with
  | some saved_cb =>
      if internal_command_event_match s.internal_command packet = true then
        -- The callbacks can send new commands, so don't zero after calling.
        { s with internal_command := { s.internal_command with cb := none } }.emit
          [.saved_cb saved_cb packet]
      else s.emit [.event_cb packet]
  | none => s.emit [.event_cb packet]

-- ── Firmware and low power ───────────────────────────────────────────────────

/-- `OnFirmwareConfigured`, to the idle timeout `ms` that the library tells. -/
def configureIdleTimeout (s : Hal) (v : VendorInterface) (ms : UInt32) : Option Hal :=
  if v.lib_interface = true then
    some ({ s with lpm_timeout_ms := ms }.setVendor { v with firmware_startup_timer := false }
      |>.emit [.op .getLpmIdleTimeout])
  else none

/-- Enable LPM; the library may send through `transmit_cb` here. -/
def enableLpm (s : Hal) (v : VendorInterface) : Option Hal :=
  if v.lib_interface = true then some (s.emit [.op (.lpmSetMode true)]) else none

/-- `StartLowPowerWatchdog`. -/
def startLowPowerWatchdog (s : Hal) (v : VendorInterface) : Hal :=
  s.setVendor { v with timeout := s.lpm_timeout_ms }
    |>.emit [.configureTimeout s.lpm_timeout_ms]

/-- `OnFirmwareConfigured`, to its end: the client that waits is notified. -/
def notifyInitialized (s : Hal) (v : VendorInterface) (result : UInt8) : Hal :=
  match v.initialize_complete_cb with
  | none => s
  | some client =>
      s.setVendor { v with initialize_complete_cb := none }
        |>.emit [.initializationComplete client (result == 0)]

/-- `VendorInterface::OnTimeout`. -/
def onTimeout (s : Hal) (v : VendorInterface) : Option Hal :=
  if s.recent_activity_flag = false then
    if v.lib_interface = true then
      some ({ s with lpm_wake_deasserted := true, recent_activity_flag := false }.setVendor
        { v with timeout := 0 } |>.emit
          [.onTimeout, .op (.lpmWakeSetState false), .configureTimeout 0])
    else none
  else some ({ s with recent_activity_flag := false }.emit [.onTimeout])

-- ── Send ─────────────────────────────────────────────────────────────────────

/-- The interface as a successful `Open` leaves it: there is an object, with a
    library and a protocol. -/
def Opened (s : Hal) : Prop :=
  ∃ v, s.g_vendor_interface = some v ∧ v.lib_interface = true ∧ v.hci.isSome = true

/-- `Send` while wake is asserted. -/
def sentAwake (s : Hal) (type : UInt8) (data : Packet) : Hal :=
  { s with recent_activity_flag := true }.emit [.hciSend type data]

/-- `Send` that first asserts wake. -/
def sentAsleep (s : Hal) (v : VendorInterface) (type : UInt8) (data : Packet) : Hal :=
  { s with recent_activity_flag := true, lpm_wake_deasserted := false }.setVendor
      { v with timeout := s.lpm_timeout_ms } |>.emit
    [.configureTimeout s.lpm_timeout_ms, .op (.lpmWakeSetState true), .hciSend type data]

theorem send_none {s : Hal} (h : s.g_vendor_interface = none) (type : UInt8) (data : Packet) :
    send s type data = none := by
  rw [send, h]

theorem send_awake {s : Hal} {v : VendorInterface} (hv : s.g_vendor_interface = some v)
    (hhci : v.hci.isSome = true) (hwake : s.lpm_wake_deasserted = false)
    (type : UInt8) (data : Packet) :
    send s type data = some (sentAwake s type data) := by
  simp [send, hv, assertWake, hwake, hhci, sentAwake]

theorem send_asleep {s : Hal} {v : VendorInterface} (hv : s.g_vendor_interface = some v)
    (hlib : v.lib_interface = true) (hhci : v.hci.isSome = true)
    (hwake : s.lpm_wake_deasserted = true) (type : UInt8) (data : Packet) :
    send s type data = some (sentAsleep s v type data) := by
  simp [send, hv, assertWake, hwake, hlib, hhci, sentAsleep, Hal.emit, Hal.setVendor]

/-- What an opened interface does with a packet. -/
theorem send_cases {s s' : Hal} (hs : Opened s) {type : UInt8} {data : Packet}
    (h : send s type data = some s') :
    (s.lpm_wake_deasserted = false ∧ s' = sentAwake s type data)
      ∨ (s.lpm_wake_deasserted = true
        ∧ ∃ v, s.g_vendor_interface = some v ∧ v.lib_interface = true ∧ v.hci.isSome = true
          ∧ s' = sentAsleep s v type data) := by
  obtain ⟨v, hv, hlib, hhci⟩ := hs
  cases hwake : s.lpm_wake_deasserted with
  | false =>
      rw [send_awake hv hhci hwake] at h
      exact Or.inl ⟨rfl, (Option.some.inj h).symm⟩
  | true =>
      rw [send_asleep hv hlib hhci hwake] at h
      exact Or.inr ⟨rfl, v, hv, hlib, hhci, (Option.some.inj h).symm⟩

/-- An opened interface takes every packet. -/
theorem send_opened {s : Hal} (hs : Opened s) (type : UInt8) (data : Packet) :
    ∃ s', send s type data = some s' := by
  obtain ⟨v, hv, hlib, hhci⟩ := hs
  cases hwake : s.lpm_wake_deasserted with
  | false => exact ⟨_, send_awake hv hhci hwake type data⟩
  | true => exact ⟨_, send_asleep hv hlib hhci hwake type data⟩

/-- An interface without a protocol object takes none. -/
theorem send_no_hci {s : Hal} {v : VendorInterface} (hv : s.g_vendor_interface = some v)
    (hhci : v.hci = none) (type : UInt8) (data : Packet) : send s type data = none := by
  simp only [send, hv]
  split
  · rfl
  · simp [hhci]

theorem opened_send {s s' : Hal} (hs : Opened s) {type : UInt8} {data : Packet}
    (h : send s type data = some s') : Opened s' := by
  rcases send_cases hs h with ⟨-, rfl⟩ | ⟨-, v, -, hlib, hhci, rfl⟩
  · exact hs
  · exact ⟨{ v with timeout := s.lpm_timeout_ms }, rfl, hlib, hhci⟩

/-- `Send` leaves the slot of the library's command alone. -/
theorem internal_command_send {s s' : Hal} (hs : Opened s) {type : UInt8} {data : Packet}
    (h : send s type data = some s') : s'.internal_command = s.internal_command := by
  rcases send_cases hs h with ⟨-, rfl⟩ | ⟨-, v, -, -, -, rfl⟩ <;> rfl

-- ── Open ─────────────────────────────────────────────────────────────────────

/-- No step of `Open` fails. -/
structure OpenEnv.Opens (env : OpenEnv) : Prop where
  dlopen : env.dlopen = true
  dlsym : env.dlsym = true
  local_address : env.local_address = true
  init_status : env.init_status = 0
  fd_count : ¬(env.fd_count < 1 ∨ env.fd_count > env.ch_max - 1)
  fd_list : ¬invalidFd env

instance (env : OpenEnv) : Decidable env.Opens :=
  decidable_of_iff (env.dlopen = true ∧ env.dlsym = true ∧ env.local_address = true
      ∧ env.init_status = 0 ∧ ¬(env.fd_count < 1 ∨ env.fd_count > env.ch_max - 1)
      ∧ ¬invalidFd env)
    ⟨fun ⟨h₁, h₂, h₃, h₄, h₅, h₆⟩ => ⟨h₁, h₂, h₃, h₄, h₅, h₆⟩,
      fun ⟨h₁, h₂, h₃, h₄, h₅, h₆⟩ => ⟨h₁, h₂, h₃, h₄, h₅, h₆⟩⟩

/-- The object that a successful `Open` leaves. -/
def openedInterface (env : OpenEnv) (client : Client) : VendorInterface :=
  { lib_handle := true
    lib_interface := true
    timeout := 0
    initialize_complete_cb := some client
    hci := some (newHci env)
    event_cb := some client
    firmware_startup_timer := true }

/-- The interface right after a successful `Open`. -/
def openedHal (s : Hal) (env : OpenEnv) (client : Client) : Hal :=
  { s with lpm_wake_deasserted := true }.setVendor (openedInterface env client)
    |>.emit [.op (.powerCtrl true), .op .userialOpen, .op .fwCfg]

/-- `Open` with no failing step. -/
theorem vendorInitialize_opens {s : Hal} {env : OpenEnv} (henv : env.Opens)
    (hs : s.g_vendor_interface = none) (client : Client) :
    vendorInitialize s env client = .returned (true, openedHal s env client) := by
  have hopen : ¬env.dlopen = false := by simp [henv.dlopen]
  have hsym : ¬env.dlsym = false := by simp [henv.dlsym]
  have haddr : ¬env.local_address = false := by simp [henv.local_address]
  have hinit : ¬env.init_status ≠ 0 := not_not_intro henv.init_status
  rw [vendorInitialize, hs]
  dsimp only
  rw [vendorOpen, if_neg hopen]
  dsimp only
  rw [if_neg hsym, if_neg haddr, if_neg hinit, openSockets]
  dsimp only
  rw [if_neg henv.fd_count, if_neg henv.fd_list]
  simp [openedHal, openedInterface, newVendorInterface, Hal.emit, Hal.setVendor]

/-- A second `Initialize` is refused. -/
theorem vendorInitialize_refused {s : Hal} {v : VendorInterface}
    (hs : s.g_vendor_interface = some v) (env : OpenEnv) (client : Client) :
    vendorInitialize s env client = .returned (false, s) := by
  rw [vendorInitialize, hs]

/-- `Open` with a failing step ends the process, or leaves an object without a
    protocol behind. -/
theorem vendorInitialize_fails {s : Hal} {env : OpenEnv} (henv : ¬env.Opens)
    (hs : s.g_vendor_interface = none) (client : Client) :
    vendorInitialize s env client = .aborted
      ∨ ∃ s' v ops, vendorInitialize s env client = .returned (false, s')
        ∧ s'.g_vendor_interface = some v ∧ v.hci = none
        ∧ s'.out = s.out ++ ops ∧ ∀ e ∈ ops, ∃ o, e = Effect.op o := by
  rw [vendorInitialize, hs]
  dsimp only
  rw [vendorOpen]
  by_cases hopen : env.dlopen = false
  · rw [if_pos hopen]
    exact Or.inr ⟨_, _, [], rfl, rfl, rfl, (List.append_nil _).symm, by simp⟩
  rw [if_neg hopen]
  dsimp only
  by_cases hsym : env.dlsym = false
  · rw [if_pos hsym]
    exact Or.inr ⟨_, _, [], rfl, rfl, rfl, (List.append_nil _).symm, by simp⟩
  rw [if_neg hsym]
  by_cases haddr : env.local_address = false
  · rw [if_pos haddr]
    exact Or.inl rfl
  rw [if_neg haddr]
  by_cases hinit : env.init_status ≠ 0
  · rw [if_pos hinit]
    exact Or.inr ⟨_, _, [], rfl, rfl, rfl, (List.append_nil _).symm, by simp⟩
  rw [if_neg hinit, openSockets]
  refine Or.inr ?_
  by_cases hcount : env.fd_count < 1 ∨ env.fd_count > env.ch_max - 1
  · rw [if_pos hcount]
    exact ⟨_, _, [.op (.powerCtrl true), .op .userialOpen], rfl, rfl, rfl, rfl, by simp⟩
  rw [if_neg hcount]
  by_cases hfd : invalidFd env
  · rw [if_pos hfd]
    exact ⟨_, _, [.op (.powerCtrl true), .op .userialOpen], rfl, rfl, rfl, rfl, by simp⟩
  -- no step is left that could fail
  exact absurd ⟨by simpa using hopen, by simpa using hsym, by simpa using haddr,
    by simpa using hinit, hcount, hfd⟩ henv

/-- A library with a single socket. -/
def h4Env : OpenEnv :=
  { dlopen := true
    dlsym := true
    local_address := true
    init_status := 0
    ch_max := 4
    fd_count := 1
    fd_list := [3] }

theorem opens_h4Env : h4Env.Opens :=
  ⟨rfl, rfl, rfl, rfl, by decide, by decide⟩

theorem opened_openedHal (s : Hal) (env : OpenEnv) (client : Client) :
    Opened (openedHal s env client) :=
  ⟨openedInterface env client, rfl, rfl, rfl⟩

end BtVendor

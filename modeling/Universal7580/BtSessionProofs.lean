import Universal7580.RunProofs
import Universal7580.BtVendorInterfaceProofs

/-! # Sessions of the Bluetooth service (`bluetooth_hci.cc`)

    A client opens the controller with `initialize`, sends, and closes it with
    `close`, or dies, which the service learns from a death recipient and takes
    for a `close`.  The service does not ask who calls.  What it knows of the
    session is whether there is a `VendorInterface`; and it has one closure,
    `unlink_cb_`, that unlinks the client of the last `initialize` from the
    death recipient.

    `Session` is the service with what the calls so far mean for its clients:
    whose session is active, who was refused because of another's, and who was
    told of a failure.

    * `session_lifecycle`: the service keeps its promises in a run exactly if
      every `Open` of the run succeeds, packets are sent only while a session
      is active, and no client that was refused closes or dies while another's
      session is active. -/

namespace BtSession

open BtVendor Run

-- ── The service ──────────────────────────────────────────────────────────────

def HCI_DATA_TYPE_COMMAND : UInt8 := 1
def HCI_DATA_TYPE_ACL : UInt8 := 2
def HCI_DATA_TYPE_SCO : UInt8 := 3

/-- How the service's process ends. -/
inductive Crash where
  /-- A null pointer was followed. -/
  | dereferenced
  /-- `LOG_ALWAYS_FATAL`, or a call of an empty function object. -/
  | aborted
  deriving DecidableEq

/-- `BluetoothHci` with its death recipient; `links` are the clients that the
    death recipient is linked to. -/
structure Service where
  hal : Hal
  has_died : Bool
  unlink_cb : Option Client
  links : List Client
  crash : Option Crash
  deriving DecidableEq

/-- `BluetoothHci::initialize` with a callback object. -/
def hciInitialize (s : Service) (env : OpenEnv) (client : Client) : Service :=
  let linked := { s with has_died := false, links := s.links ++ [client] }
  match vendorInitialize s.hal env client with
  | .aborted => { linked with crash := some .aborted }
  | .returned (rc, hal) =>
      { linked with
        hal := if rc = true then hal else hal.emit [.initializationComplete client false]
        unlink_cb := some client }

/-- `BluetoothHci::close`. -/
def hciClose (s : Service) : Service :=
  match s.unlink_cb with
  | none => { s with crash := some .aborted }
  | some cb =>
      let unlinked := if s.has_died = true then s else { s with links := s.links.erase cb }
      match vendorShutdown s.hal with
      | .aborted => { unlinked with crash := some .aborted }
      | .returned hal => { unlinked with hal := hal }

/-- `BluetoothDeathRecipient::serviceDied`, for one link to a client. -/
def serviceDied (s : Service) (client : Client) : Service :=
  hciClose { s with has_died := true, links := s.links.erase client }

/-- `BluetoothHci::sendDataToController`. -/
def sendDataToController (s : Service) (type : UInt8) (data : Packet) : Service :=
  match send s.hal type data with
  | none => { s with crash := some .dereferenced }
  | some hal => { s with hal := hal }

def sendHciCommand (s : Service) (command : Packet) : Service :=
  sendDataToController s HCI_DATA_TYPE_COMMAND command

def sendAclData (s : Service) (data : Packet) : Service :=
  sendDataToController s HCI_DATA_TYPE_ACL data

def sendScoData (s : Service) (data : Packet) : Service :=
  sendDataToController s HCI_DATA_TYPE_SCO data

-- ── The service and its clients ──────────────────────────────────────────────

/-- What the calls so far mean: `owner` is whose session is active, `refused`
    who was refused because of another's session and not accepted since,
    `called` who called `initialize`, and `failed` who was to be told of a
    failure, once for each. -/
structure Session where
  service : Service
  owner : Option Client
  refused : List Client
  called : List Client
  failed : List Client

inductive Act where
  | initializeBy (client : Client) (env : OpenEnv)
  /-- `initialize` without a callback object does nothing. -/
  | initializeNull (client : Client)
  | sendHciCommand (data : Packet)
  | sendAclData (data : Packet)
  | sendScoData (data : Packet)
  | close (client : Client)
  | serviceDied (client : Client)

/-- An `initialize` opens a session if none is active and `Open` succeeds. -/
def Session.opening (s : Session) (env : OpenEnv) (client : Client) : Session :=
  match s.owner with
  | none =>
      if env.Opens then
        { s with owner := some client, refused := s.refused.filter (· ≠ client) }
      else { s with failed := s.failed ++ [client] }
  | some owner =>
      { s with failed := s.failed ++ [client]
               refused := if owner = client then s.refused else client :: s.refused }

/-- A client that was refused because of another's session. -/
def Session.Intrudes (s : Session) (client : Client) : Prop :=
  client ∈ s.refused ∧ s.owner ≠ some client

instance (s : Session) (client : Client) : Decidable (s.Intrudes client) :=
  inferInstanceAs (Decidable (_ ∧ _))

/-- A client that leaves ends the session, unless it was refused because of
    another's: then it has none to end. -/
def Session.leaving (s : Session) (client : Client) : Session :=
  if s.Intrudes client then s else { s with owner := none }

def step (s : Session) (a : Act) : Option Session :=
  if s.service.crash ≠ none then none
  else
    match a with
    | .initializeBy client env =>
        some { s.opening env client with
          service := hciInitialize s.service env client
          called := client :: s.called }
    | .initializeNull client => some { s with called := client :: s.called }
    | .sendHciCommand data => some { s with service := sendHciCommand s.service data }
    | .sendAclData data => some { s with service := sendAclData s.service data }
    | .sendScoData data => some { s with service := sendScoData s.service data }
    | .close client =>
        if client ∈ s.called then
          some { s.leaving client with service := hciClose s.service }
        else none
    | .serviceDied client =>
        if client ∈ s.service.links then
          some { s.leaving client with service := serviceDied s.service client }
        else none

def serviceInit : Service :=
  { hal := halInit
    has_died := false
    unlink_cb := none
    links := []
    crash := none }

def sessionInit : Session :=
  { service := serviceInit, owner := none, refused := [], called := [], failed := [] }

-- ── What the service promises ────────────────────────────────────────────────

/-- A client is told that its `initialize` failed. -/
def errorTo : Effect → Option Client
  | .initializationComplete client false => some client
  | _ => none

/-- The interface is open, and its events go to `client`. -/
def ServedBy (s : Hal) (client : Client) : Prop :=
  ∃ v, s.g_vendor_interface = some v ∧ v.lib_interface = true ∧ v.hci.isSome = true
    ∧ v.event_cb = some client

/-- No null pointer was followed; every failed `initialize` was reported, once;
    while no session is active, an `initialize` whose `Open` succeeds opens one;
    and an active session has its interface, and its client is linked. -/
structure Sound (s : Session) : Prop where
  noDereference : s.service.crash ≠ some .dereferenced
  reported : s.service.hal.out.filterMap errorTo = s.failed
  accepts : s.service.crash = none → s.owner = none → ∀ env client, env.Opens →
    ∃ hal, vendorInitialize s.service.hal env client = .returned (true, hal)
  active : s.service.crash = none → ∀ client, s.owner = some client →
    ServedBy s.service.hal client ∧ client ∈ s.service.links

/-- `Open` succeeds, packets have a session, and whoever was refused stays away
    while another's session is active. -/
def KeepsTo (s : Session) : Act → Prop
  | .initializeBy _ env => s.owner = none → env.Opens
  | .initializeNull _ => True
  | .sendHciCommand _ | .sendAclData _ | .sendScoData _ => s.owner ≠ none
  | .close client | .serviceDied client => s.Intrudes client → s.owner = none

-- ── The calls, one by one ────────────────────────────────────────────────────

theorem servedBy_openedHal (s : Hal) (env : OpenEnv) (client : Client) :
    ServedBy (openedHal s env client) client :=
  ⟨openedInterface env client, rfl, rfl, rfl, rfl⟩

theorem opened_of_servedBy {s : Hal} {client : Client} (h : ServedBy s client) : Opened s := by
  obtain ⟨v, hv, hlib, hhci, -⟩ := h
  exact ⟨v, hv, hlib, hhci⟩

/-- Operations of the library report nothing. -/
theorem errors_append_ops {out ops : List Effect} (h : ∀ e ∈ ops, ∃ o, e = Effect.op o) :
    (out ++ ops).filterMap errorTo = out.filterMap errorTo := by
  have hops : ops.filterMap errorTo = [] := by
    refine List.filterMap_eq_nil_iff.mpr ?_
    intro e he
    obtain ⟨o, rfl⟩ := h e he
    rfl
  rw [List.filterMap_append, hops, List.append_nil]

theorem hciInitialize_opens {s : Service} {env : OpenEnv} (henv : env.Opens)
    (hs : s.hal.g_vendor_interface = none) (client : Client) :
    hciInitialize s env client
      = { s with hal := openedHal s.hal env client
                 has_died := false
                 unlink_cb := some client
                 links := s.links ++ [client] } := by
  rw [hciInitialize, vendorInitialize_opens henv hs client]
  rfl

theorem hciInitialize_refused {s : Service} {v : VendorInterface}
    (hs : s.hal.g_vendor_interface = some v) (env : OpenEnv) (client : Client) :
    hciInitialize s env client
      = { s with hal := s.hal.emit [.initializationComplete client false]
                 has_died := false
                 unlink_cb := some client
                 links := s.links ++ [client] } := by
  rw [hciInitialize, vendorInitialize_refused hs env client]
  rfl

/-- A failing `Open` ends the process without a report, or leaves an interface
    behind. -/
theorem hciInitialize_fails {s : Service} {env : OpenEnv} (henv : ¬env.Opens)
    (hs : s.hal.g_vendor_interface = none) (client : Client) :
    (hciInitialize s env client).hal = s.hal
      ∨ ((hciInitialize s env client).crash = s.crash
        ∧ (hciInitialize s env client).hal.g_vendor_interface ≠ none) := by
  rw [hciInitialize]
  rcases vendorInitialize_fails henv hs client with h | ⟨s', v, ops, h, hv, -⟩
  · rw [h]
    exact Or.inl rfl
  · rw [h]
    refine Or.inr ⟨rfl, ?_⟩
    show s'.g_vendor_interface ≠ none
    rw [hv]
    exact Option.some_ne_none v

theorem sendDataToController_served {s : Service} {client : Client}
    (hs : ServedBy s.hal client) (type : UInt8) (data : Packet) :
    ∃ hal, sendDataToController s type data = { s with hal := hal } ∧ ServedBy hal client
      ∧ hal.out.filterMap errorTo = s.hal.out.filterMap errorTo := by
  obtain ⟨hal, hsend⟩ := send_opened (opened_of_servedBy hs) type data
  refine ⟨hal, by rw [sendDataToController, hsend], ?_⟩
  rcases send_cases (opened_of_servedBy hs) hsend with ⟨-, rfl⟩ | ⟨-, v, hv, hlib, hhci, rfl⟩
  · exact ⟨hs, (List.filterMap_append ..).trans (List.append_nil _)⟩
  · obtain ⟨v', hv', -, -, hevent⟩ := hs
    obtain rfl := Option.some.inj (hv.symm.trans hv')
    exact ⟨⟨_, rfl, hlib, hhci, hevent⟩,
      (List.filterMap_append ..).trans (List.append_nil _)⟩

theorem sendDataToController_none {s : Service} (hs : s.hal.g_vendor_interface = none)
    (type : UInt8) (data : Packet) :
    (sendDataToController s type data).crash = some .dereferenced := by
  rw [sendDataToController, send_none hs]

/-- `close` ends the process, or the session there is, whoever calls it. -/
theorem hciClose_cases (s : Service) :
    ((hciClose s).crash = some .aborted ∧ (hciClose s).hal = s.hal)
      ∨ ((hciClose s).crash = s.crash ∧ (hciClose s).hal.g_vendor_interface = none
        ∧ (hciClose s).hal.out.filterMap errorTo = s.hal.out.filterMap errorTo) := by
  cases hcb : s.unlink_cb with
  | none =>
      rw [hciClose, hcb]
      exact Or.inl ⟨rfl, rfl⟩
  | some cb =>
      cases hv : s.hal.g_vendor_interface with
      | none =>
          simp only [hciClose, hcb, vendorShutdown, hv]
          refine Or.inl ⟨trivial, ?_⟩
          split <;> rfl
      | some v =>
          simp only [hciClose, hcb, vendorShutdown, hv]
          refine Or.inr ⟨by split <;> rfl, trivial, ?_⟩
          show (vendorClose s.hal v).out.filterMap errorTo = _
          rw [vendorClose]
          split
          · exact errors_append_ops (by simp)
          · rfl

/-- With a session and a closure `close` ends the session. -/
theorem hciClose_ends {s : Service} {v : VendorInterface} (hcb : s.unlink_cb ≠ none)
    (hv : s.hal.g_vendor_interface = some v) :
    (hciClose s).crash = s.crash ∧ (hciClose s).hal.g_vendor_interface = none := by
  obtain ⟨cb, hcb⟩ := Option.ne_none_iff_exists'.mp hcb
  simp only [hciClose, hcb, vendorShutdown, hv]
  exact ⟨by split <;> rfl, trivial⟩

-- ── The invariant ────────────────────────────────────────────────────────────

/-- The interface is there exactly while a session is active. -/
structure Inv (s : Session) : Prop where
  noDereference : s.service.crash ≠ some .dereferenced
  reported : s.service.hal.out.filterMap errorTo = s.failed
  closed : s.service.crash = none → s.owner = none →
    s.service.hal.g_vendor_interface = none
  active : s.service.crash = none → ∀ client, s.owner = some client →
    ServedBy s.service.hal client ∧ client ∈ s.service.links
  unlink : s.owner ≠ none → s.service.unlink_cb ≠ none

theorem inv_init : Inv sessionInit where
  noDereference := fun h => (nomatch h)
  reported := rfl
  closed := fun _ _ => rfl
  active := fun _ _ h => (nomatch h)
  unlink := fun h => absurd rfl h

theorem sound_of_inv (s : Session) (hs : Inv s) : Sound s where
  noDereference := hs.noDereference
  reported := hs.reported
  accepts := fun hcrash howner _ client henv =>
    ⟨_, vendorInitialize_opens henv (hs.closed hcrash howner) client⟩
  active := hs.active

/-- A service that accepts an `initialize` has no interface. -/
theorem closed_of_accepts {s : Hal} (h : ∀ env client, env.Opens →
    ∃ hal, vendorInitialize s env client = .returned (true, hal)) :
    s.g_vendor_interface = none := by
  cases hv : s.g_vendor_interface with
  | none => rfl
  | some v =>
      obtain ⟨hal, hopens⟩ := h h4Env 0 opens_h4Env
      rw [vendorInitialize_refused hv] at hopens
      exact nomatch hopens

/-- Packets have a session. -/
theorem inv_sendDataToController {s : Session} (hs : Inv s) (hcrash : s.service.crash = none)
    (howner : s.owner ≠ none) (type : UInt8) (data : Packet) :
    Inv { s with service := sendDataToController s.service type data } := by
  obtain ⟨client, hclient⟩ := Option.ne_none_iff_exists'.mp howner
  obtain ⟨hserved, hlinked⟩ := hs.active hcrash client hclient
  obtain ⟨hal, hsend, hserved', herrors⟩ := sendDataToController_served hserved type data
  rw [hsend]
  refine ⟨hs.noDereference, ?_, fun _ h => absurd h howner, ?_, hs.unlink⟩
  · show hal.out.filterMap errorTo = _
    rw [herrors]
    exact hs.reported
  · intro _ client' hclient'
    obtain rfl := Option.some.inj (hclient.symm.trans hclient')
    exact ⟨hserved', hlinked⟩

/-- Whoever leaves: with no session left for anyone, or the process ended. -/
theorem inv_leaving {s : Session} (hs : Inv s) (hcrash : s.service.crash = none)
    {client : Client} (hok : s.Intrudes client → s.owner = none) {left : Service}
    (hhal : left.hal = s.service.hal) (hleft : left.crash = s.service.crash) :
    Inv { s.leaving client with service := hciClose left } := by
  have howner : (s.leaving client).owner = none := by
    rw [Session.leaving]
    split
    · rename_i hintrudes
      exact hok hintrudes
    · rfl
  have hfailed : (s.leaving client).failed = s.failed := by
    rw [Session.leaving]
    split <;> rfl
  rcases hciClose_cases left with ⟨haborted, hkept⟩ | ⟨hsame, hgone, herrors⟩
  · refine ⟨?_, ?_, ?_, ?_, fun h => absurd howner h⟩
    · show (hciClose left).crash ≠ _
      rw [haborted]
      exact fun h => nomatch h
    · show (hciClose left).hal.out.filterMap errorTo = (s.leaving client).failed
      rw [hkept, hhal, hfailed]
      exact hs.reported
    · intro h
      exact nomatch haborted.symm.trans h
    · intro h
      exact nomatch haborted.symm.trans h
  · refine ⟨?_, ?_, fun _ _ => hgone, ?_, fun h => absurd howner h⟩
    · show (hciClose left).crash ≠ _
      rw [hsame, hleft, hcrash]
      exact fun h => nomatch h
    · show (hciClose left).hal.out.filterMap errorTo = (s.leaving client).failed
      rw [herrors, hhal, hfailed]
      exact hs.reported
    · intro _ other hother
      exact nomatch howner.symm.trans hother

/-- An `initialize` opens a session or is refused. -/
theorem inv_initializeBy {s : Session} (hs : Inv s) (hcrash : s.service.crash = none)
    {env : OpenEnv} (client : Client) (hok : s.owner = none → env.Opens) :
    Inv { s.opening env client with
      service := hciInitialize s.service env client
      called := client :: s.called } := by
  cases howner : s.owner with
  | none =>
      have henv := hok howner
      rw [Session.opening, howner, hciInitialize_opens henv (hs.closed hcrash howner)]
      dsimp only
      rw [if_pos henv]
      refine ⟨hs.noDereference, ?_, fun _ h => (nomatch h), ?_, fun _ h => (nomatch h)⟩
      · show (s.service.hal.out ++ _).filterMap errorTo = s.failed
        rw [errors_append_ops (by simp)]
        exact hs.reported
      · intro _ other hother
        obtain rfl : client = other := Option.some.inj hother
        exact ⟨servedBy_openedHal s.service.hal env client, by simp⟩
  | some owner =>
      obtain ⟨hserved, hlinked⟩ := hs.active hcrash owner howner
      obtain ⟨v, hv, -⟩ := hserved
      rw [Session.opening, howner, hciInitialize_refused hv]
      refine ⟨hs.noDereference, ?_, ?_, ?_, fun _ h => (nomatch h)⟩
      · show (s.service.hal.out ++ _).filterMap errorTo = s.failed ++ [client]
        rw [List.filterMap_append, hs.reported]
        rfl
      · intro _ h
        have hnone : some owner = none := h
        exact nomatch hnone
      · intro _ other hother
        obtain rfl : owner = other := Option.some.inj hother
        exact ⟨(hs.active hcrash owner howner).1, List.mem_append_left _ hlinked⟩

theorem crash_of_step {s s' : Session} {a : Act} (h : step s a = some s') :
    s.service.crash = none := by
  by_contra hcrash
  rw [step.eq_def, if_pos hcrash] at h
  exact nomatch h

/-- **STEP**: a call that keeps to the condition keeps the invariant. -/
theorem inv_step (s : Session) (a : Act) (s' : Session) (hs : Inv s) (hok : KeepsTo s a)
    (h : step s a = some s') : Inv s' := by
  have hcrash := crash_of_step h
  rw [step.eq_def, if_neg (not_not_intro hcrash)] at h
  cases a with
  | initializeBy client env =>
      obtain rfl := Option.some.inj h
      exact inv_initializeBy hs hcrash client hok
  | initializeNull client =>
      obtain rfl := Option.some.inj h
      exact ⟨hs.noDereference, hs.reported, hs.closed, hs.active, hs.unlink⟩
  | sendHciCommand data =>
      obtain rfl := Option.some.inj h
      exact inv_sendDataToController hs hcrash hok _ data
  | sendAclData data =>
      obtain rfl := Option.some.inj h
      exact inv_sendDataToController hs hcrash hok _ data
  | sendScoData data =>
      obtain rfl := Option.some.inj h
      exact inv_sendDataToController hs hcrash hok _ data
  | close client =>
      dsimp only at h
      split at h
      · obtain rfl := Option.some.inj h
        exact inv_leaving hs hcrash hok rfl rfl
      · exact nomatch h
  | serviceDied client =>
      dsimp only at h
      split at h
      · obtain rfl := Option.some.inj h
        exact inv_leaving hs hcrash hok rfl rfl
      · exact nomatch h

-- ── The condition is exact ───────────────────────────────────────────────────

theorem owner_of_send {s : Session} (hs : Inv s) (hcrash : s.service.crash = none)
    {type : UInt8} {data : Packet}
    (hsound : (sendDataToController s.service type data).crash ≠ some .dereferenced) :
    s.owner ≠ none := by
  intro howner
  exact hsound (sendDataToController_none (hs.closed hcrash howner) type data)

/-- Someone who was refused ends another's session by leaving. -/
theorem leaving_of_sound {s : Session} (hs : Inv s) (hcrash : s.service.crash = none)
    {client : Client} {left : Service} (hhal : left.hal = s.service.hal)
    (hleft : left.crash = s.service.crash) (hunlink : left.unlink_cb = s.service.unlink_cb)
    (hsound : Sound { s.leaving client with service := hciClose left }) :
    s.Intrudes client → s.owner = none := by
  intro hintrudes
  by_contra howner
  obtain ⟨owner, howner'⟩ := Option.ne_none_iff_exists'.mp howner
  obtain ⟨v, hv, -⟩ := (hs.active hcrash owner howner').1
  obtain ⟨hrunning, hgone⟩ :=
    hciClose_ends (hunlink ▸ hs.unlink howner) ((congrArg _ hhal).trans hv)
  have hkept : (s.leaving client).owner = some owner := by
    rw [Session.leaving, if_pos hintrudes]
    exact howner'
  obtain ⟨v', hv', -⟩ := (hsound.active (hrunning.trans (hleft.trans hcrash)) owner hkept).1
  exact nomatch hgone.symm.trans hv'

/-- **EXACT STEP**: a call after which the promises hold kept to the condition. -/
theorem keepsTo_of_sound (s : Session) (a : Act) (s' : Session) (hs : Inv s)
    (h : step s a = some s') (hsound : Sound s') : KeepsTo s a := by
  have hcrash := crash_of_step h
  rw [step.eq_def, if_neg (not_not_intro hcrash)] at h
  cases a with
  | initializeBy client env =>
      obtain rfl := Option.some.inj h
      intro howner
      by_contra henv
      have hclosed := hs.closed hcrash howner
      have hopening : s.opening env client = { s with failed := s.failed ++ [client] } := by
        rw [Session.opening, howner]
        exact if_neg henv
      rw [hopening] at hsound
      rcases hciInitialize_fails henv hclosed client with hhal | ⟨hrunning, hleft⟩
      · -- the process ended before the failure was reported
        have hreported := hsound.reported
        dsimp only at hreported
        rw [hhal, hs.reported] at hreported
        exact absurd (congrArg List.length hreported) (by simp)
      · exact hleft (closed_of_accepts (hsound.accepts (hrunning.trans hcrash) howner))
  | initializeNull client => trivial
  | sendHciCommand data =>
      obtain rfl := Option.some.inj h
      exact owner_of_send hs hcrash hsound.noDereference
  | sendAclData data =>
      obtain rfl := Option.some.inj h
      exact owner_of_send hs hcrash hsound.noDereference
  | sendScoData data =>
      obtain rfl := Option.some.inj h
      exact owner_of_send hs hcrash hsound.noDereference
  | close client =>
      dsimp only at h
      split at h
      · obtain rfl := Option.some.inj h
        exact leaving_of_sound hs hcrash rfl rfl rfl hsound
      · exact nomatch h
  | serviceDied client =>
      dsimp only at h
      split at h
      · obtain rfl := Option.some.inj h
        rw [serviceDied] at hsound
        exact leaving_of_sound hs hcrash (by rfl) (by rfl) (by rfl) hsound
      · exact nomatch h

/-- **SESSION LIFECYCLE**: the service keeps its promises in every state of a
    run exactly if every `Open` of the run that finds no active session
    succeeds, packets are sent only while a session is active, and nobody who
    was refused closes or dies while another's session is active. -/
theorem session_lifecycle (acts : List Act) :
    Always step Sound sessionInit acts ↔ StepsMeet step KeepsTo sessionInit acts :=
  always_iff_stepsMeet sound_of_inv inv_step keepsTo_of_sound acts inv_init

/-- The library cannot be opened. -/
def noLibraryEnv : OpenEnv :=
  { h4Env with dlopen := false }

/-- **THREE WAYS TO BREAK IT**: a command before any session; an `Open` that
    fails, after which no `initialize` succeeds; a refused client that closes
    the session of another. -/
theorem promises_broken :
    ¬Always step Sound sessionInit [.sendHciCommand [3, 12, 0]]
      ∧ ¬Always step Sound sessionInit [.initializeBy 0 noLibraryEnv]
      ∧ ¬Always step Sound sessionInit
        [.initializeBy 0 h4Env, .initializeBy 1 h4Env, .close 1] := by
  refine ⟨?_, ?_, ?_⟩
  · intro h
    have hsound := h _ [] _ (List.append_nil _).symm rfl
    exact hsound.noDereference rfl
  · intro h
    have hsound := h _ [] _ (List.append_nil _).symm rfl
    have hclosed := closed_of_accepts (hsound.accepts rfl rfl)
    exact nomatch hclosed
  · intro h
    have hsound := h _ [] _ (List.append_nil _).symm rfl
    obtain ⟨⟨v, hv, -⟩, -⟩ := hsound.active rfl 0 rfl
    exact nomatch hv

end BtSession

import Universal7580.RunProofs
import Universal7580.TraceProofs
import Universal7580.BtVendorInterfaceProofs

/-! # The low power protocol of the Bluetooth controller

    `Send` asserts wake before a packet if wake is not asserted, and arms the
    idle timeout; `OnTimeout` deasserts it when no packet went out since it was
    called before.  The library tells the idle timeout, and has low power
    enabled, in `OnFirmwareConfigured`, which runs in steps that packets and
    timeouts get in between.

    The trace is what the interface does from the end of `Open` on.  What the
    flags and the timeout stand for is said in terms of it:

    * `lpm_wake_deasserted` is false exactly while the last wake operation is an
      assert;
    * `recent_activity_flag` is false only if no packet went out since the last
      timeout;
    * from `StartLowPowerWatchdog` on the timeout is armed while wake is
      asserted.

    `low_power` has from this what the protocol promises in every run. -/

namespace BtLowPower

open BtVendor Run Trace

-- ── The interface and its callers ────────────────────────────────────────────

/-- How far `OnFirmwareConfigured` has come. -/
inductive Phase where
  | configuring
  | timeoutRead
  | lpmEnabled
  | watching
  | configured
  deriving DecidableEq

/-- The watchdog was started. -/
def Phase.watched : Phase → Bool
  | .watching | .configured => true
  | _ => false

structure Lpm where
  hal : Hal
  phase : Phase
  deriving DecidableEq

inductive Act where
  /-- The stack sends. -/
  | send (type : UInt8) (data : Packet)
  /-- The vendor library sends. -/
  | transmit (opcode : UInt16) (data : Packet) (callback : Option Nat)
  /-- The parts of `OnFirmwareConfigured`, with a nonzero idle timeout. -/
  | configureIdleTimeout (ms : UInt32)
  | enableLpm
  | startLowPowerWatchdog
  | notifyInitialized (result : UInt8)
  /-- The armed timeout fires. -/
  | onTimeout

def step (s : Lpm) (a : Act) : Option Lpm :=
  match s.hal.g_vendor_interface with
  | none => none
  | some v =>
      match a with
      | .send type data => (send s.hal type data).map ({ s with hal := · })
      | .transmit opcode data callback =>
          (transmit_cb s.hal opcode data callback).map ({ s with hal := · })
      | .configureIdleTimeout ms =>
          if s.phase = .configuring ∧ ms ≠ 0 then
            (configureIdleTimeout s.hal v ms).map ({ hal := ·, phase := .timeoutRead })
          else none
      | .enableLpm =>
          if s.phase = .timeoutRead then
            (enableLpm s.hal v).map ({ hal := ·, phase := .lpmEnabled })
          else none
      | .startLowPowerWatchdog =>
          if s.phase = .lpmEnabled then
            some { hal := startLowPowerWatchdog s.hal v, phase := .watching }
          else none
      | .notifyInitialized result =>
          if s.phase = .watching then
            some { hal := notifyInitialized s.hal v result, phase := .configured }
          else none
      | .onTimeout =>
          if v.timeout ≠ 0 then (onTimeout s.hal v).map ({ s with hal := · }) else none

/-- The end of a successful `Open`; the other globals are as they were before,
    and the trace starts here. -/
def lpmInit (s : Hal) (env : OpenEnv) (client : Client) : Lpm :=
  { hal := { openedHal s env client with out := [] }, phase := .configuring }

-- ── The trace ────────────────────────────────────────────────────────────────

abbrev assertOp : Effect := .op (.lpmWakeSetState true)
abbrev deassertOp : Effect := .op (.lpmWakeSetState false)

/-- A wake operation, and what it sets. -/
def wakeOp : Effect → Option Bool
  | .op (.lpmWakeSetState assert) => some assert
  | _ => none

def IsPacket (e : Effect) : Prop :=
  ∃ type data, e = .hciSend type data

/-- No packet went out since the last timeout. -/
def Quiet (trace : List Effect) : Prop :=
  Followed IsPacket (· = .onTimeout) trace

/-- What the protocol allows after a trace. -/
def Allowed (trace : List Effect) : Effect → Prop
  | .hciSend _ _ => lastOf wakeOp trace = some true
  | .op (.lpmWakeSetState true) => lastOf wakeOp trace ≠ some true
  | .op (.lpmWakeSetState false) => ∃ earlier, trace = earlier ++ [.onTimeout] ∧ Quiet earlier
  | _ => True

-- ── What the flags stand for ─────────────────────────────────────────────────

/-- The flags, the timeout and the trace. -/
structure Inv (s : Lpm) : Prop where
  opened : Opened s.hal
  allowed : Each Allowed s.hal.out
  wake : s.hal.lpm_wake_deasserted = false ↔ lastOf wakeOp s.hal.out = some true
  activity : s.hal.recent_activity_flag = false → Quiet s.hal.out
  idleTimeout : s.phase ≠ .configuring → s.hal.lpm_timeout_ms ≠ 0
  armed : s.phase.watched = true → s.hal.lpm_wake_deasserted = false →
    ∃ v, s.hal.g_vendor_interface = some v ∧ v.timeout ≠ 0

theorem inv_init (s : Hal) (env : OpenEnv) (client : Client) : Inv (lpmInit s env client) where
  opened := opened_openedHal s env client
  allowed := each_nil
  wake := ⟨fun h => (nomatch h), fun h => (nomatch h)⟩
  activity := fun _ => followed_nil
  idleTimeout := fun h => absurd rfl h
  armed := fun h => nomatch h

/-- A packet, from whoever sends it. -/
theorem inv_send {s : Lpm} (hs : Inv s) {hal : Hal} {type : UInt8} {data : Packet}
    (h : send s.hal type data = some hal) : Inv { s with hal := hal } := by
  have hopened := opened_send hs.opened h
  rcases send_cases hs.opened h with ⟨hwake, rfl⟩ | ⟨hwake, v, -, -, -, rfl⟩
  · have hlast := hs.wake.mp hwake
    refine ⟨hopened, ?_, ?_, fun h => (by cases h), hs.idleTimeout, hs.armed⟩
    · exact each_concat.mpr ⟨hs.allowed, hlast⟩
    · rw [sentAwake]
      show s.hal.lpm_wake_deasserted = false ↔ lastOf wakeOp (s.hal.out ++ [_]) = _
      rw [lastOf_concat_none rfl]
      exact hs.wake
  · have hlast : lastOf wakeOp s.hal.out ≠ some true := by
      intro hlast
      exact absurd (hs.wake.mpr hlast) (by simp [hwake])
    have hasserted : lastOf wakeOp (s.hal.out ++ [.configureTimeout s.hal.lpm_timeout_ms]
        ++ [assertOp]) = some true :=
      lastOf_concat_some rfl
    refine ⟨hopened, ?_, ?_, fun h => (by cases h), hs.idleTimeout, ?_⟩
    · refine each_append.mpr ⟨hs.allowed, trivial, ?_, hasserted, trivial⟩
      show lastOf wakeOp (s.hal.out ++ [_]) ≠ some true
      rw [lastOf_concat_none rfl]
      exact hlast
    · refine ⟨fun _ => ?_, fun _ => rfl⟩
      show lastOf wakeOp (s.hal.out ++ [_, assertOp, _]) = some true
      rw [List.append_cons, List.append_cons, lastOf_concat_none rfl]
      exact hasserted
    · intro hwatched _
      refine ⟨_, rfl, hs.idleTimeout fun hphase => ?_⟩
      have hwatched' : s.phase.watched = true := hwatched
      rw [hphase] at hwatched'
      cases hwatched'

/-- An effect that is neither a packet nor a wake operation. -/
def Silent (e : Effect) : Prop :=
  wakeOp e = none ∧ ¬IsPacket e

theorem allowed_of_silent {e : Effect} (he : Silent e) (trace : List Effect) :
    Allowed trace e := by
  cases e with
  | op o =>
      cases o with
      | lpmWakeSetState assert => exact nomatch he.1
      | _ => trivial
  | hciSend type data => exact absurd ⟨type, data, rfl⟩ he.2
  | _ => trivial

theorem quiet_silent {trace : List Effect} {e : Effect} (he : Silent e) (h : Quiet trace) :
    Quiet (trace ++ [e]) :=
  (followed_concat he.2).mpr (Or.inr h)

/-- A step of `OnFirmwareConfigured`: it leaves the two flags alone. -/
theorem inv_silent {s s' : Lpm} (hs : Inv s) {e : Effect} (he : Silent e)
    (hopened : Opened s'.hal) (hout : s'.hal.out = s.hal.out ++ [e])
    (hwake : s'.hal.lpm_wake_deasserted = s.hal.lpm_wake_deasserted)
    (hactivity : s'.hal.recent_activity_flag = s.hal.recent_activity_flag)
    (hidle : s'.phase ≠ .configuring → s'.hal.lpm_timeout_ms ≠ 0)
    (harmed : s'.phase.watched = true → s.hal.lpm_wake_deasserted = false →
      ∃ v, s'.hal.g_vendor_interface = some v ∧ v.timeout ≠ 0) : Inv s' := by
  refine ⟨hopened, ?_, ?_, ?_, hidle, ?_⟩
  · rw [hout]
    exact each_concat.mpr ⟨hs.allowed, allowed_of_silent he _⟩
  · rw [hout, hwake, lastOf_concat_none he.1]
    exact hs.wake
  · rw [hout, hactivity]
    exact fun h => quiet_silent he (hs.activity h)
  · rw [hwake]
    exact harmed

/-- The armed timeout fires. -/
theorem inv_onTimeout {s : Lpm} (hs : Inv s) {v : VendorInterface} {hal : Hal}
    (hv : s.hal.g_vendor_interface = some v) (hhci : v.hci.isSome = true)
    (h : onTimeout s.hal v = some hal) : Inv { s with hal := hal } := by
  have hfired : ¬IsPacket .onTimeout := by
    rintro ⟨_, _, h⟩
    cases h
  rw [onTimeout] at h
  split at h
  · rename_i hquiet
    split at h
    · -- nothing was sent since the last timeout: wake is deasserted
      rename_i hlib
      obtain rfl := Option.some.inj h
      refine ⟨⟨_, rfl, hlib, hhci⟩, ?_, ?_, fun _ => ?_, hs.idleTimeout,
        fun _ h => by cases h⟩
      · refine each_append.mpr ⟨hs.allowed, trivial, ?_, trivial, trivial⟩
        exact ⟨s.hal.out, rfl, hs.activity hquiet⟩
      · refine ⟨fun h => (by cases h), fun h => ?_⟩
        rw [Hal.emit] at h
        dsimp only at h
        rw [List.append_cons, List.append_cons, lastOf_concat_none rfl,
          lastOf_concat_some (f := wakeOp) (a := false) rfl] at h
        cases h
      · rw [Hal.emit]
        dsimp only
        rw [List.append_cons, List.append_cons]
        refine quiet_silent ⟨rfl, ?_⟩ ((followed_concat ?_).mpr (Or.inr ?_))
        · rintro ⟨_, _, h⟩
          cases h
        · rintro ⟨_, _, h⟩
          cases h
        · exact (followed_concat hfired).mpr (Or.inl rfl)
    · cases h
  · -- the count starts again
    obtain rfl := Option.some.inj h
    refine ⟨⟨v, hv, ?_, hhci⟩, ?_, ?_, fun _ => ?_, hs.idleTimeout, hs.armed⟩
    · obtain ⟨v', hv', hlib, -⟩ := hs.opened
      exact Option.some.inj (hv.symm.trans hv') ▸ hlib
    · exact each_concat.mpr ⟨hs.allowed, trivial⟩
    · show s.hal.lpm_wake_deasserted = false ↔ lastOf wakeOp (s.hal.out ++ [_]) = _
      rw [lastOf_concat_none rfl]
      exact hs.wake
    · exact (followed_concat hfired).mpr (Or.inl rfl)

/-- **STEP**: whoever gets in between, the flags stand for what they did. -/
theorem inv_step (s : Lpm) (a : Act) (s' : Lpm) (hs : Inv s) (h : step s a = some s') :
    Inv s' := by
  obtain ⟨v, hv, hlib, hhci⟩ := hs.opened
  rw [step, hv] at h
  dsimp only at h
  cases a with
  | send type data =>
      obtain ⟨hal, hsend, rfl⟩ := Option.map_eq_some_iff.mp h
      exact inv_send hs hsend
  | transmit opcode data callback =>
      obtain ⟨hal, hsend, rfl⟩ := Option.map_eq_some_iff.mp h
      -- the slot of the library's command is none of the protocol's flags
      have hs' : Inv { s with hal := { s.hal with
          internal_command := { cb := callback, opcode := opcode } } } :=
        ⟨hs.opened, hs.allowed, hs.wake, hs.activity, hs.idleTimeout, hs.armed⟩
      exact inv_send hs' hsend
  | configureIdleTimeout ms =>
      dsimp only at h
      split at h
      · rename_i hphase
        rw [configureIdleTimeout, if_pos hlib] at h
        obtain rfl := Option.some.inj h
        exact inv_silent hs ⟨rfl, fun ⟨_, _, h⟩ => nomatch h⟩ ⟨_, rfl, hlib, hhci⟩ rfl rfl rfl
          (fun _ => hphase.2) (fun h => (nomatch h))
      · exact nomatch h
  | enableLpm =>
      dsimp only at h
      split at h
      · rename_i hphase
        rw [enableLpm, if_pos hlib] at h
        obtain rfl := Option.some.inj h
        refine inv_silent hs ⟨rfl, fun ⟨_, _, h⟩ => nomatch h⟩ ⟨v, hv, hlib, hhci⟩ rfl rfl rfl
          (fun _ => hs.idleTimeout ?_) (fun h => (nomatch h))
        rw [hphase]
        exact fun h => nomatch h
      · exact nomatch h
  | startLowPowerWatchdog =>
      dsimp only at h
      split at h
      · rename_i hphase
        obtain rfl := Option.some.inj h
        have hidle : s.hal.lpm_timeout_ms ≠ 0 := by
          refine hs.idleTimeout ?_
          rw [hphase]
          exact fun h => nomatch h
        exact inv_silent hs ⟨rfl, fun ⟨_, _, h⟩ => nomatch h⟩ ⟨_, rfl, hlib, hhci⟩ rfl rfl rfl
          (fun _ => hidle) (fun _ _ => ⟨_, rfl, hidle⟩)
      · exact nomatch h
  | notifyInitialized result =>
      dsimp only at h
      split at h
      · rename_i hphase
        obtain rfl := Option.some.inj h
        have hidle : s.hal.lpm_timeout_ms ≠ 0 := by
          refine hs.idleTimeout ?_
          rw [hphase]
          exact fun h => nomatch h
        have hwatched : s.phase.watched = true := by
          rw [hphase]
          rfl
        rw [notifyInitialized]
        cases hcb : v.initialize_complete_cb with
        | none => exact ⟨hs.opened, hs.allowed, hs.wake, hs.activity, fun _ => hidle,
            fun _ => hs.armed hwatched⟩
        | some client =>
            refine inv_silent hs ⟨rfl, fun ⟨_, _, h⟩ => nomatch h⟩ ⟨_, rfl, hlib, hhci⟩ rfl rfl
              rfl (fun _ => hidle) (fun _ hwake => ?_)
            obtain ⟨v', hv', harmed⟩ := hs.armed hwatched hwake
            obtain rfl := Option.some.inj (hv.symm.trans hv')
            exact ⟨_, rfl, harmed⟩
      · exact nomatch h
  | onTimeout =>
      dsimp only at h
      split at h
      · obtain ⟨hal, hfire, rfl⟩ := Option.map_eq_some_iff.mp h
        exact inv_onTimeout hs hv hhci hfire
      · exact nomatch h

-- ── What the protocol promises ───────────────────────────────────────────────

/-- The trace and the timeout, without the flags:

    * a packet goes out with wake asserted;
    * between two asserts there is a deassert;
    * a deassert is `OnTimeout`'s, and no packet went out between the timeout
      before and this one;
    * with the watchdog started, the timeout is armed while wake is asserted. -/
structure LowPower (s : Lpm) : Prop where
  packets : ∀ before type data after, s.hal.out = before ++ .hciSend type data :: after →
    lastOf wakeOp before = some true
  asserts : ∀ before mid after, s.hal.out = before ++ assertOp :: (mid ++ assertOp :: after) →
    deassertOp ∈ mid
  deasserts : ∀ before after, s.hal.out = before ++ deassertOp :: after →
    ∃ earlier, before = earlier ++ [.onTimeout] ∧
      ∀ first type data mid, earlier = first ++ .hciSend type data :: mid → .onTimeout ∈ mid
  armed : s.phase.watched = true → lastOf wakeOp s.hal.out = some true →
    ∃ v, s.hal.g_vendor_interface = some v ∧ v.timeout ≠ 0

/-- Without a deassert after it, an assert stays the last wake operation. -/
theorem lastOf_assert (before : List Effect) {mid : List Effect} (h : deassertOp ∉ mid) :
    lastOf wakeOp (before ++ assertOp :: mid) = some true := by
  refine lastOf_eq_of_forall (f := wakeOp) rfl ?_
  intro e he assert hassert
  cases assert with
  | true => rfl
  | false =>
      refine absurd ?_ h
      cases e with
      | op o =>
          cases o with
          | lpmWakeSetState b =>
              obtain rfl := Option.some.inj hassert
              exact he
          | _ => exact nomatch hassert
      | _ => exact nomatch hassert

theorem lowPower_of_inv (s : Lpm) (hs : Inv s) : LowPower s := by
  refine ⟨?_, ?_, ?_, ?_⟩
  · intro before type data after hcat
    exact hs.allowed before _ after hcat
  · intro before mid after hcat
    by_contra hmid
    have hsecond := hs.allowed (before ++ assertOp :: mid) assertOp after
      (by rw [hcat, List.append_assoc]; rfl)
    exact hsecond (lastOf_assert before hmid)
  · intro before after hcat
    obtain ⟨earlier, hearlier, hquiet⟩ := hs.allowed before deassertOp after hcat
    refine ⟨earlier, hearlier, ?_⟩
    intro first type data mid hfirst
    obtain ⟨e, he, rfl⟩ := hquiet first _ mid hfirst ⟨type, data, rfl⟩
    exact he
  · intro hwatched hlast
    exact hs.armed hwatched (hs.wake.mpr hlast)

/-- No packet is ever held up. -/
theorem send_possible {s : Lpm} (hs : Inv s) (type : UInt8) (data : Packet) :
    ∃ s', step s (.send type data) = some s' := by
  obtain ⟨v, hv, -⟩ := hs.opened
  obtain ⟨hal, hsend⟩ := send_opened hs.opened type data
  refine ⟨{ s with hal := hal }, ?_⟩
  rw [step, hv]
  show (send s.hal type data).map _ = _
  rw [hsend]
  rfl

/-- **LOW POWER PROTOCOL**: in every state of every run after `Open`, with
    packets and timeouts at any point of `OnFirmwareConfigured`, the protocol
    has kept its promises. -/
theorem low_power (s : Hal) (env : OpenEnv) (client : Client) (acts : List Act) :
    Always step LowPower (lpmInit s env client) acts := by
  intro done rest s' _ hrun
  exact lowPower_of_inv s' (run_invariant inv_step done (inv_init s env client) hrun)

end BtLowPower

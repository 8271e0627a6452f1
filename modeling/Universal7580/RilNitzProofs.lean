import Mathlib.Logic.Function.Basic
import Universal7580.RunProofs

/-! # Replaying the network time

    `RIL_onUnsolicitedResponse` hands a `NITZ_TIME_RECEIVED` message to the
    client of its slot.  Without a client it keeps a copy, and the next client
    that connects is sent the copy by `resendLastNITZTimeData`.

    There is ONE copy for all slots, a delivery to a connected client leaves it
    alone, and a client is connected from the assignments of
    `setResponseFunctions` on, before `onNewCommandConnect` replays.  The replay
    is right as long as no message arrives for a connected client while a copy
    is kept (`replays_fresh`). -/

namespace RilNitz

/-- A message of the modem.  `number` counts the messages in the order they
    were received. -/
structure Message where
  number : Nat
  data : List UInt8
  deriving DecidableEq, Repr

/-- A call of a client's `nitzTimeReceived`: the text and the receive time it
    was given, whether it was a replay, and how many messages had been received
    when it was made. -/
structure Delivery where
  slotId : Nat
  number : Nat
  text : List UInt8
  receivedTime : Nat
  replay : Bool
  received : Nat
  isOk : Bool
  deriving DecidableEq, Repr

/-- The indication pointers, the running `setResponseFunctions` calls that have
    not reached `onNewCommandConnect`, the receive times, the saved copy and its
    size, and what was received and delivered so far. -/
structure State where
  connected : Nat → Bool
  connecting : Nat → Nat
  nitzTimeReceived : Nat → Nat
  lastNITZTimeData : Option Message
  received : Nat
  deliveries : List Delivery

def initial : State where
  connected := fun _ => false
  connecting := fun _ => 0
  nitzTimeReceived := fun _ => 0
  lastNITZTimeData := none
  received := 0
  deliveries := []

-- ── The text of a message ─────────────────────────────────────────────────

def comma : UInt8 := 44

/-- `strchr(text + start, ',')`. -/
def strchr (text : List UInt8) (start : Nat) : Option Nat :=
  ((text.drop start).findIdx? fun c => c = comma).map fun i => start + i

/-- The loop for the third comma.  It starts behind the first character. -/
def thirdComma (text : List UInt8) : Option Nat :=
  (strchr text 1).bind fun i => (strchr text (i + 1)).bind fun j => strchr text (j + 1)

/-- What a client is given of a message: the text up to its third comma. -/
def nitzText (data : List UInt8) : List UInt8 :=
  let resp := data.takeWhile fun c => c ≠ 0
  match thirdComma resp with
  | none => resp
  | some i => resp.take i

-- ── The operations ────────────────────────────────────────────────────────

/-- A call to the client that failed: `checkReturnStatus` removes the
    callbacks. -/
def State.checkReturnStatus (s : State) (slotId : Nat) (isOk : Bool) : State :=
  if isOk then s else { s with connected := Function.update s.connected slotId false }

/-- An indication of a slot other than NITZ. -/
def State.indicate (s : State) (slotId : Nat) (isOk : Bool) : State :=
  if s.connected slotId then s.checkReturnStatus slotId isOk else s

/-- `nitzTimeReceivedInd`, with its return value.  It does not report a message
    that is empty or whose delivery failed. -/
def State.nitzTimeReceivedInd (s : State) (slotId : Nat) (m : Message) (replay isOk : Bool) :
    Int × State :=
  if s.connected slotId then
    if m.data = [] then (0, s)
    else
      let d : Delivery :=
        { slotId := slotId
          number := m.number
          text := nitzText m.data
          receivedTime := s.nitzTimeReceived slotId
          replay := replay
          received := s.received
          isOk := isOk }
      (0, { s with deliveries := d :: s.deliveries }.checkReturnStatus slotId isOk)
  else (-1, s)

/-- `RIL_onUnsolicitedResponse(RIL_UNSOL_NITZ_TIME_RECEIVED)`.  `calloc` says
    whether there is memory for the copy. -/
def State.onNitz (s : State) (slotId : Nat) (data : List UInt8) (now : Nat)
    (isOk calloc : Bool) : State :=
  let m : Message := { number := s.received, data := data }
  let noted := { s with
    received := s.received + 1
    nitzTimeReceived := Function.update s.nitzTimeReceived slotId now }
  let (ret, s') := noted.nitzTimeReceivedInd slotId m false isOk
  if ret ≠ 0 then { s' with lastNITZTimeData := if calloc then some m else none } else s'

def State.resendLastNITZTimeData (s : State) (slotId : Nat) (isOk : Bool) : State :=
  match s.lastNITZTimeData with
  | none => s
  | some m =>
      let (ret, s') := s.nitzTimeReceivedInd slotId m true isOk
      if ret = 0 then { s' with lastNITZTimeData := none } else s'

/-- The results of the three indications of `onNewCommandConnect`. -/
structure Results where
  rilConnected : Bool
  radioStateChanged : Bool
  nitzTimeReceived : Bool
  deriving DecidableEq, Repr

def State.onNewCommandConnect (s : State) (slotId : Nat) (ok : Results) : State :=
  ((s.indicate slotId ok.rilConnected).indicate slotId ok.radioStateChanged).resendLastNITZTimeData
    slotId ok.nitzTimeReceived

/-- What can happen.  A connection is two steps: the assignments of
    `setResponseFunctions` under the lock, and `onNewCommandConnect` after it. -/
inductive Action where
  | nitz (slotId : Nat) (data : List UInt8) (now : Nat) (isOk calloc : Bool)
  | setResponseFunctions (slotId : Nat) (indication : Bool)
  | onNewCommandConnect (slotId : Nat) (ok : Results)
  | indicate (slotId : Nat) (isOk : Bool)
  deriving DecidableEq, Repr

def step (s : State) : Action → Option State
  | .nitz slotId data now isOk calloc => some (s.onNitz slotId data now isOk calloc)
  | .setResponseFunctions slotId indication =>
      some { s with
        connected := Function.update s.connected slotId indication
        connecting := Function.update s.connecting slotId (s.connecting slotId + 1) }
  | .onNewCommandConnect slotId ok =>
      if s.connecting slotId = 0 then none
      else some ({ s with
        connecting := Function.update s.connecting slotId (s.connecting slotId - 1)
          }.onNewCommandConnect slotId ok)
  | .indicate slotId isOk => some (s.indicate slotId isOk)

-- ── What the replay promises ──────────────────────────────────────────────

/-- Every replay was of the newest message, and no message as new as that had
    been delivered before. -/
def ReplaysFresh : List Delivery → Prop
  | [] => True
  | d :: earlier =>
      (d.replay = true → d.number + 1 = d.received ∧ ∀ e ∈ earlier, e.number < d.number)
        ∧ ReplaysFresh earlier

def decidableReplaysFresh : (ds : List Delivery) → Decidable (ReplaysFresh ds)
  | [] => isTrue trivial
  | _ :: earlier =>
      haveI := decidableReplaysFresh earlier
      instDecidableAnd

instance (ds : List Delivery) : Decidable (ReplaysFresh ds) := decidableReplaysFresh ds

/-- No message arrives for a connected client while a copy is kept. -/
def NoneKeptFor (s : State) : Action → Prop
  | .nitz slotId _ _ _ _ => s.connected slotId = true → s.lastNITZTimeData = none
  | _ => True

/-- A kept copy is the newest message and has not been delivered. -/
structure Inv (s : State) : Prop where
  past : ∀ d ∈ s.deliveries, d.number < s.received
  newest : ∀ m, s.lastNITZTimeData = some m → m.number + 1 = s.received
  unseen : ∀ m, s.lastNITZTimeData = some m → ∀ d ∈ s.deliveries, d.number < m.number
  fresh : ReplaysFresh s.deliveries

theorem inv_initial : Inv initial where
  past := fun _ h => absurd h List.not_mem_nil
  newest := fun _ h => nomatch h
  unseen := fun _ h => nomatch h
  fresh := trivial

-- ── Clients that come and go ──────────────────────────────────────────────

section Clients

variable {s : State} {slotId : Nat} {isOk : Bool}

/-- A step that only says who is connected keeps the invariant. -/
theorem inv_of_same {s' : State} (hinv : Inv s) (hd : s'.deliveries = s.deliveries)
    (hl : s'.lastNITZTimeData = s.lastNITZTimeData) (hr : s'.received = s.received) :
    Inv s' where
  past := by rw [hd, hr]; exact hinv.past
  newest := by rw [hl, hr]; exact hinv.newest
  unseen := by rw [hl, hd]; exact hinv.unseen
  fresh := by rw [hd]; exact hinv.fresh

@[simp]
theorem checkReturnStatus_deliveries :
    (s.checkReturnStatus slotId isOk).deliveries = s.deliveries := by
  cases isOk <;> rfl

@[simp]
theorem checkReturnStatus_last :
    (s.checkReturnStatus slotId isOk).lastNITZTimeData = s.lastNITZTimeData := by
  cases isOk <;> rfl

@[simp]
theorem checkReturnStatus_received :
    (s.checkReturnStatus slotId isOk).received = s.received := by
  cases isOk <;> rfl

theorem inv_indicate (hinv : Inv s) : Inv (s.indicate slotId isOk) := by
  rw [State.indicate]
  split
  · exact inv_of_same hinv checkReturnStatus_deliveries checkReturnStatus_last
      checkReturnStatus_received
  · exact hinv

end Clients

-- ── Messages ──────────────────────────────────────────────────────────────

section Messages

variable {s : State} {slotId : Nat}

/-- What `nitzTimeReceivedInd` does: it reports a slot without a client, and
    otherwise makes at most one delivery. -/
theorem nitzTimeReceivedInd_spec {s s' : State} {slotId : Nat} {m : Message}
    {replay isOk : Bool} {ret : Int}
    (h : s.nitzTimeReceivedInd slotId m replay isOk = (ret, s')) :
    s'.lastNITZTimeData = s.lastNITZTimeData ∧ s'.received = s.received
      ∧ ((s.connected slotId = false ∧ ret ≠ 0 ∧ s' = s)
        ∨ s.connected slotId = true ∧ ret = 0
          ∧ (s'.deliveries = s.deliveries
            ∨ ∃ d, s'.deliveries = d :: s.deliveries ∧ d.number = m.number
              ∧ d.replay = replay ∧ d.received = s.received)) := by
  rw [State.nitzTimeReceivedInd] at h
  split at h
  · rename_i hconn
    split at h
    · obtain ⟨rfl, rfl⟩ := Prod.mk.inj h
      exact ⟨rfl, rfl, Or.inr ⟨hconn, rfl, Or.inl rfl⟩⟩
    · obtain ⟨rfl, rfl⟩ := Prod.mk.inj h
      refine ⟨checkReturnStatus_last, checkReturnStatus_received,
        Or.inr ⟨hconn, rfl, Or.inr ?_⟩⟩
      exact ⟨_, checkReturnStatus_deliveries, rfl, rfl, rfl⟩
  · rename_i hconn
    obtain ⟨rfl, rfl⟩ := Prod.mk.inj h
    exact ⟨rfl, rfl, Or.inl ⟨Bool.eq_false_iff.mpr hconn, by decide, rfl⟩⟩

/-- A message that nobody could take is kept, and it is the newest one. -/
theorem inv_keep (hinv : Inv s) {last : Option Message} {times : Nat → Nat}
    (hlast : ∀ m, last = some m → m.number = s.received) :
    Inv { s with
      received := s.received + 1, nitzTimeReceived := times, lastNITZTimeData := last } where
  past := fun d hd => Nat.lt_succ_of_lt (hinv.past d hd)
  newest := fun m hm => by rw [hlast m hm]
  unseen := fun m hm d hd => by
    rw [hlast m hm]
    exact hinv.past d hd
  fresh := hinv.fresh

theorem inv_onNitz {data : List UInt8} {now : Nat} {isOk calloc : Bool} (hinv : Inv s)
    (hnone : s.connected slotId = true → s.lastNITZTimeData = none) :
    Inv (s.onNitz slotId data now isOk calloc) := by
  rw [State.onNitz]
  simp only
  generalize hout : State.nitzTimeReceivedInd _ slotId _ false isOk = out
  obtain ⟨ret, s'⟩ := out
  obtain ⟨hlast, hreceived, ⟨-, hret, rfl⟩ | ⟨hconn, hret, hdel⟩⟩ :=
    nitzTimeReceivedInd_spec hout
  · rw [if_pos hret]
    refine inv_keep hinv ?_
    intro m' hm'
    cases calloc with
    | true => exact Option.some.inj hm' ▸ rfl
    | false => exact nomatch hm'
  · rw [if_neg (not_not_intro hret)]
    have hkept : s'.lastNITZTimeData = none := hlast.trans (hnone hconn)
    rcases hdel with hdel | ⟨d, hdel, hnumber, hreplay, -⟩
    · refine ⟨?_, ?_, ?_, ?_⟩
      · rw [hdel, hreceived]
        exact fun d hd => Nat.lt_succ_of_lt (hinv.past d hd)
      · rw [hkept]
        exact fun _ h => nomatch h
      · rw [hkept]
        exact fun _ h => nomatch h
      · rw [hdel]
        exact hinv.fresh
    · refine ⟨?_, ?_, ?_, ?_⟩
      · rw [hdel, hreceived]
        intro e he
        rcases List.mem_cons.mp he with rfl | he
        · rw [hnumber]
          exact Nat.lt_succ_self _
        · exact Nat.lt_succ_of_lt (hinv.past e he)
      · rw [hkept]
        exact fun _ h => nomatch h
      · rw [hkept]
        exact fun _ h => nomatch h
      · rw [hdel]
        refine ⟨fun h => ?_, hinv.fresh⟩
        rw [hreplay] at h
        exact nomatch h

/-- The replay sends the kept copy and drops it. -/
theorem inv_resend {isOk : Bool} (hinv : Inv s) :
    Inv (s.resendLastNITZTimeData slotId isOk) := by
  rw [State.resendLastNITZTimeData]
  cases hkept : s.lastNITZTimeData with
  | none => exact hinv
  | some m =>
      simp only
      generalize hout : s.nitzTimeReceivedInd slotId m true isOk = out
      obtain ⟨ret, s'⟩ := out
      obtain ⟨hlast, hreceived, ⟨-, hret, rfl⟩ | ⟨-, hret, hdel⟩⟩ :=
        nitzTimeReceivedInd_spec hout
      · rw [if_neg hret]
        exact hinv
      · rw [if_pos hret]
        refine ⟨?_, fun _ h => (nomatch h), fun _ h => (nomatch h), ?_⟩
        · simp only [hreceived]
          rcases hdel with hdel | ⟨d, hdel, hnumber, -, -⟩
          · rw [hdel]
            exact hinv.past
          · rw [hdel]
            intro e he
            rcases List.mem_cons.mp he with rfl | he
            · rw [hnumber, ← hinv.newest m hkept]
              exact Nat.lt_succ_self _
            · exact hinv.past e he
        · rcases hdel with hdel | ⟨d, hdel, hnumber, -, hwhen⟩
          · simp only [hdel]
            exact hinv.fresh
          · simp only [hdel]
            refine ⟨fun _ => ⟨?_, ?_⟩, hinv.fresh⟩
            · rw [hnumber, hwhen]
              exact hinv.newest m hkept
            · rw [hnumber]
              exact hinv.unseen m hkept

end Messages

-- ── Whole runs ────────────────────────────────────────────────────────────

theorem inv_step {s s' : State} {a : Action} (hinv : Inv s) (hok : NoneKeptFor s a)
    (h : step s a = some s') : Inv s' := by
  cases a with
  | nitz slotId data now isOk calloc =>
      obtain rfl := Option.some.inj h
      exact inv_onNitz hinv hok
  | setResponseFunctions slotId indication =>
      obtain rfl := Option.some.inj h
      exact inv_of_same hinv rfl rfl rfl
  | onNewCommandConnect slotId ok =>
      simp only [step] at h
      split at h
      · exact nomatch h
      · obtain rfl := Option.some.inj h
        exact inv_resend (inv_indicate (inv_indicate (inv_of_same hinv rfl rfl rfl)))
  | indicate slotId isOk =>
      obtain rfl := Option.some.inj h
      exact inv_indicate hinv

/-- A whole operation on a slot: a message, a connection from the assignments to
    the replay, or another indication. -/
inductive Operation where
  | nitz (data : List UInt8) (now : Nat) (isOk calloc : Bool)
  | connect (indication : Bool) (ok : Results)
  | indicate (isOk : Bool)
  deriving DecidableEq, Repr

def Operation.actions (slotId : Nat) : Operation → List Action
  | .nitz data now isOk calloc => [.nitz slotId data now isOk calloc]
  | .connect indication ok =>
      [.setResponseFunctions slotId indication, .onNewCommandConnect slotId ok]
  | .indicate isOk => [.indicate slotId isOk]

/-- Nothing is kept while the slot has a client. -/
def KeptForNobody (slotId : Nat) (s : State) : Prop :=
  s.connected slotId = true → s.lastNITZTimeData = none

section OneSlot

variable {s : State} {slotId : Nat}

theorem checkReturnStatus_connected {isOk : Bool}
    (h : (s.checkReturnStatus slotId isOk).connected slotId = true) :
    s.connected slotId = true := by
  cases isOk with
  | true => exact h
  | false =>
      simp only [State.checkReturnStatus, Bool.false_eq_true, if_false,
        Function.update_self] at h

theorem keptForNobody_indicate {isOk : Bool} (h : KeptForNobody slotId s) :
    KeptForNobody slotId (s.indicate slotId isOk) := by
  rw [State.indicate]
  split
  · intro hconn
    rw [checkReturnStatus_last]
    exact h (checkReturnStatus_connected hconn)
  · exact h

theorem keptForNobody_onNitz {data : List UInt8} {now : Nat} {isOk calloc : Bool}
    (h : KeptForNobody slotId s) :
    KeptForNobody slotId (s.onNitz slotId data now isOk calloc) := by
  rw [State.onNitz]
  simp only
  generalize hout : State.nitzTimeReceivedInd _ slotId _ false isOk = out
  obtain ⟨ret, s'⟩ := out
  obtain ⟨hlast, -, ⟨hconn, hret, rfl⟩ | ⟨hconn, hret, -⟩⟩ := nitzTimeReceivedInd_spec hout
  · rw [if_pos hret]
    intro hconn'
    rw [show s.connected slotId = true from hconn'] at hconn
    exact nomatch hconn
  · rw [if_neg (not_not_intro hret)]
    intro _
    exact hlast.trans (h hconn)

/-- The replay leaves a copy only where there is no client to take it. -/
theorem keptForNobody_resend {isOk : Bool} :
    KeptForNobody slotId (s.resendLastNITZTimeData slotId isOk) := by
  rw [State.resendLastNITZTimeData]
  cases hkept : s.lastNITZTimeData with
  | none => exact fun _ => hkept
  | some m =>
      simp only
      generalize hout : s.nitzTimeReceivedInd slotId m true isOk = out
      obtain ⟨ret, s'⟩ := out
      obtain ⟨-, -, ⟨hconn, hret, rfl⟩ | ⟨-, hret, -⟩⟩ := nitzTimeReceivedInd_spec hout
      · rw [if_neg hret]
        intro hconn'
        rw [hconn] at hconn'
        exact nomatch hconn'
      · rw [if_pos hret]
        exact fun _ => rfl

/-- Whole operations on one slot never bring a message to a client that has a
    replay coming. -/
theorem operations_keep_none (slotId : Nat) (ops : List Operation) :
    ∀ s, KeptForNobody slotId s →
      Run.StepsMeet step NoneKeptFor s (ops.flatMap (Operation.actions slotId)) := by
  induction ops with
  | nil => exact fun s _ => Run.stepsMeet_of_forall (fun _ h => absurd h List.not_mem_nil) s
  | cons op rest ih =>
      intro s hs
      rw [List.flatMap_cons]
      cases op with
      | nitz data now isOk calloc =>
          refine Run.stepsMeet_cons.mpr fun s' h => ⟨hs, ?_⟩
          obtain rfl := Option.some.inj h
          exact ih _ (keptForNobody_onNitz hs)
      | indicate isOk =>
          refine Run.stepsMeet_cons.mpr fun s' h => ⟨trivial, ?_⟩
          obtain rfl := Option.some.inj h
          exact ih _ (keptForNobody_indicate hs)
      | connect indication ok =>
          refine Run.stepsMeet_cons.mpr fun s₁ h₁ => ⟨trivial, ?_⟩
          refine Run.stepsMeet_cons.mpr fun s₂ h₂ => ⟨trivial, ?_⟩
          simp only [step] at h₂
          split at h₂
          · exact nomatch h₂
          · obtain rfl := Option.some.inj h₂
            exact ih _ keptForNobody_resend

end OneSlot

/-- On one slot, with connections that are not interrupted, every replay is
    fresh. -/
theorem one_slot_replays_fresh (slotId : Nat) (ops : List Operation) :
    Run.Always step (fun s => ReplaysFresh s.deliveries) initial
      (ops.flatMap (Operation.actions slotId)) :=
  Run.always_of_stepsMeet (fun _ (h : Inv _) => h.fresh)
    (fun _ _ _ h hok hstep => inv_step h hok hstep) _ inv_initial
    (operations_keep_none slotId ops initial (fun h => nomatch h))

end RilNitz

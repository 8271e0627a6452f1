import Universal7580.RilClientProofs

/-! # Connecting the RIL client after a failure

    `Connect_RILD`, `Connect_QRILD` and `Connect_RILD_Second` open a socket and
    a pipe and start the reader; where one of the steps fails, they close what
    they opened and return an error.  What they leave in the client is another
    matter: `b_connect` stays set once there was a socket, `sock` keeps the
    number of the closed one, and the last failure zeroes the whole client.

    `failed_connect_reusable`: after a failed connect the client is as it was,
    exactly if the socket could not be opened, or the reader not started for a
    client that had nothing to lose. -/

namespace RilClient

-- ── The client ───────────────────────────────────────────────────────────────

def MULTI_CLIENT_SOCKET_NAME : String := "Multiclient"
def MULTI_CLIENT_SOCKET_NAME_2 : String := "Multiclient2"
def MULTI_CLIENT_Q_SOCKET_NAME : String := "QMulticlient"

/-- A client: `RilClientPrv` with the fields that only callbacks read.
    Pointers are numbers, and `none` is a null `parent`. -/
structure Client where
  parent : Option Nat
  errCbData : Nat
  prv : RilClientPrv

/-- `isConnected_RILD`. -/
def isConnected (client : Client) : Bool := client.prv.bConnect

/-- The connect gets as far as the reader, and fails there: the structure is
    zeroed. -/
def zeroes (o : ConnectOutcome) : Bool :=
  decide (0 ≤ o.sock) && o.nonblock && o.pipe.isSome && o.pipeNonblock && !o.thread

/-- The connect functions; `system` answers for the socket of a name. -/
def connectTo (name : String) (system : String → ConnectOutcome) (client : Client) :
    Client × Err × List Syscall :=
  let r := connectRild client.prv (system name)
  if zeroes (system name) = true then ({ parent := none, errCbData := 0, prv := r.1 }, r.2)
  else ({ client with prv := r.1 }, r.2)

def Connect_RILD := connectTo MULTI_CLIENT_SOCKET_NAME
def Connect_QRILD := connectTo MULTI_CLIENT_Q_SOCKET_NAME
def Connect_RILD_Second := connectTo MULTI_CLIENT_SOCKET_NAME_2

/-- `ril_connect_if_required`, for the client of the handle. -/
def ril_connect_if_required (system : String → ConnectOutcome) :
    Option Client → Option Client × Int
  | none => (none, -1)
  | some client =>
      if isConnected client = true then (some client, 0)
      else
        let r := Connect_RILD system client
        (some r.1, if r.2.1 ≠ .success then -1 else 0)

-- ── What a failed connect leaves ─────────────────────────────────────────────

/-- The descriptors that a connect opens. -/
def opened (o : ConnectOutcome) : List Int :=
  if o.sock < 0 then []
  else
    o.sock :: if o.nonblock = false then [] else
      match o.pipe with
      | none => []
      | some pipefd => [pipefd.1, pipefd.2]

/-- The descriptors that are closed by a list of calls. -/
def closed (calls : List Syscall) : List Int :=
  calls.filterMap fun
    | .close fd => some fd
    | _ => none

/-- The client is disconnected, what was opened is closed once, what was
    registered is still there, and the next attempt connects. -/
structure Reusable (before after : Client) (o : ConnectOutcome) (calls : List Syscall) :
    Prop where
  disconnected : isConnected after = false
  sock : after.prv.sock = -1
  descriptors : (closed calls).Perm (opened o)
  parent : after.parent = before.parent
  reqHandlers : after.prv.reqHandlers = before.prv.reqHandlers
  unsolHandlers : after.prv.unsolHandlers = before.prv.unsolHandlers
  errCb : after.prv.errCb = before.prv.errCb ∧ after.errCbData = before.errCbData
  again : ∀ system, ril_connect_if_required system (some after)
    = (some (Connect_RILD system after).1,
        if (Connect_RILD system after).2.1 ≠ .success then -1 else 0)

/-- A client whose fields are all zero. -/
structure Blank (client : Client) : Prop where
  parent : client.parent = none
  reqHandlers : client.prv.reqHandlers = openClientRild.reqHandlers
  unsolHandlers : client.prv.unsolHandlers = openClientRild.unsolHandlers
  errCb : client.prv.errCb = none ∧ client.errCbData = 0

/-- The ways in which a connect fails: without a socket; with one, that is
    closed again with the pipe if there is one; or with the client zeroed. -/
theorem connect_cases (client : Client) (name : String) (system : String → ConnectOutcome)
    (hfail : (connectTo name system client).2.1 ≠ .success) :
    (closed (connectTo name system client).2.2).Perm (opened (system name))
      ∧ (((system name).sock < 0 ∧ zeroes (system name) = false
          ∧ (connectTo name system client).1
            = { client with prv := { client.prv with sock := (system name).sock } })
        ∨ (0 ≤ (system name).sock ∧ zeroes (system name) = false
          ∧ (connectTo name system client).1.prv.bConnect = true)
        ∨ (0 ≤ (system name).sock ∧ zeroes (system name) = true
          ∧ (connectTo name system client).1
            = { parent := none, errCbData := 0, prv := openClientRild })) := by
  rw [connectTo] at hfail ⊢
  generalize system name = o at hfail ⊢
  cases o with
  | mk sock nonblock stream pipe pipeNonblock thread =>
    by_cases hsock : sock < 0
    · have hzero : zeroes ⟨sock, nonblock, stream, pipe, pipeNonblock, thread⟩ = false := by
        rw [zeroes, decide_eq_false (Int.not_le.mpr hsock)]
        rfl
      rw [hzero, if_neg Bool.noConfusion]
      simp only [connectRild, opened, if_pos hsock]
      exact ⟨List.Perm.refl _, Or.inl ⟨hsock, trivial, trivial⟩⟩
    · have hnonneg : 0 ≤ sock := Int.not_lt.mp hsock
      have hzeroes : zeroes ⟨sock, nonblock, stream, pipe, pipeNonblock, thread⟩
          = (nonblock && pipe.isSome && pipeNonblock && !thread) := by
        rw [zeroes, decide_eq_true hnonneg]
        rfl
      rw [hzeroes] at hfail ⊢
      simp only [connectRild, opened, if_neg hsock] at hfail ⊢
      cases nonblock with
      | false => exact ⟨List.Perm.refl _, Or.inr (Or.inl ⟨hnonneg, rfl, rfl⟩)⟩
      | true =>
        cases pipe with
        | none => exact ⟨List.Perm.refl _, Or.inr (Or.inl ⟨hnonneg, rfl, rfl⟩)⟩
        | some pipefd =>
          cases pipeNonblock with
          | false => exact ⟨List.Perm.refl _, Or.inr (Or.inl ⟨hnonneg, rfl, rfl⟩)⟩
          | true =>
            cases thread with
            | false => exact ⟨List.Perm.refl _, Or.inr (Or.inr ⟨hnonneg, rfl, rfl⟩)⟩
            | true => exact absurd rfl hfail

/-- A disconnected client connects at the next attempt. -/
theorem again_of_disconnected {client : Client} (h : isConnected client = false)
    (system : String → ConnectOutcome) :
    ril_connect_if_required system (some client)
      = (some (Connect_RILD system client).1,
          if (Connect_RILD system client).2.1 ≠ .success then -1 else 0) := by
  rw [ril_connect_if_required, if_neg (Bool.eq_false_iff.mp h)]

/-- **FAILED CONNECT**: a disconnected client is as before, and can connect
    again, after a connect that failed, exactly if there was no socket, or the
    reader could not be started and the client was blank. -/
theorem failed_connect_reusable (client : Client) (name : String)
    (system : String → ConnectOutcome) (hdisconnected : isConnected client = false)
    (hfail : (connectTo name system client).2.1 ≠ .success) :
    Reusable client (connectTo name system client).1 (system name)
        (connectTo name system client).2.2
      ↔ (system name).sock = -1 ∨ (zeroes (system name) = true ∧ Blank client) := by
  obtain ⟨hfds, ⟨hsock, hzero, hafter⟩ | ⟨hsock, hzero, hstill⟩ | ⟨hsock, hzero, hafter⟩⟩ :=
    connect_cases client name system hfail
  · -- no socket
    constructor
    · intro h
      refine Or.inl ?_
      have hminus := h.sock
      rw [hafter] at hminus
      exact hminus
    · rintro (hminus | ⟨hzero', -⟩)
      · have hdisconnected' : isConnected (connectTo name system client).1 = false := by
          rw [hafter]
          exact hdisconnected
        constructor
        case disconnected => exact hdisconnected'
        case sock =>
          rw [hafter]
          exact hminus
        case descriptors => exact hfds
        case again => exact again_of_disconnected hdisconnected'
        all_goals
          rw [hafter]
        exact ⟨rfl, rfl⟩
      · exact nomatch hzero'.symm.trans hzero
  · -- the socket stays in the client
    constructor
    · intro h
      exact nomatch h.disconnected.symm.trans hstill
    · rintro (hminus | ⟨hzero', -⟩)
      · rw [hminus] at hsock
        exact absurd hsock (by decide)
      · exact nomatch hzero'.symm.trans hzero
  · -- the client is zeroed
    constructor
    · intro h
      refine Or.inr ⟨hzero, ?_⟩
      have hparent := h.parent
      have hreq := h.reqHandlers
      have hunsol := h.unsolHandlers
      have herr := h.errCb
      rw [hafter] at hparent hreq hunsol herr
      exact ⟨hparent.symm, hreq.symm, hunsol.symm, herr.1.symm, herr.2.symm⟩
    · rintro (hminus | ⟨-, hblank⟩)
      · rw [hminus] at hsock
        exact absurd hsock (by decide)
      · have hdisconnected' : isConnected (connectTo name system client).1 = false := by
          rw [hafter]
          rfl
        constructor
        case disconnected => exact hdisconnected'
        case sock =>
          rw [hafter]
          rfl
        case descriptors => exact hfds
        case parent => rw [hafter, hblank.parent]
        case reqHandlers => rw [hafter, hblank.reqHandlers]
        case unsolHandlers => rw [hafter, hblank.unsolHandlers]
        case errCb =>
          rw [hafter, hblank.errCb.1, hblank.errCb.2]
          exact ⟨rfl, rfl⟩
        case again => exact again_of_disconnected hdisconnected'

/-- A new client. -/
def newClient : Client :=
  { parent := some 1, errCbData := 0, prv := openClientRild }

theorem failed_connect_reusable_no_server :
    Reusable newClient (Connect_RILD (fun _ => { sock := -1 }) newClient).1 { sock := -1 }
      (Connect_RILD (fun _ => { sock := -1 }) newClient).2.2 :=
  (failed_connect_reusable newClient MULTI_CLIENT_SOCKET_NAME (fun _ => { sock := -1 }) rfl
    (by decide)).mpr (Or.inl rfl)

/-- **HALF CONNECTED**: the socket cannot be made non-blocking and is closed,
    but the client stays connected, so that the next attempt does nothing. -/
theorem half_connected :
    (Connect_RILD (fun _ => { sock := 5, nonblock := false }) newClient).2.1 = .io
      ∧ ¬Reusable newClient (Connect_RILD (fun _ => { sock := 5, nonblock := false }) newClient).1
        { sock := 5, nonblock := false }
        (Connect_RILD (fun _ => { sock := 5, nonblock := false }) newClient).2.2
      ∧ (ril_connect_if_required (fun _ => { sock := 6 })
        (some (Connect_RILD (fun _ => { sock := 5, nonblock := false }) newClient).1)).2 = 0 := by
  refine ⟨rfl, ?_, rfl⟩
  intro h
  exact nomatch h.disconnected

end RilClient

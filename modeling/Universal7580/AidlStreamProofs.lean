import Mathlib.Data.List.Basic
import Universal7580.RunProofs

/-! # The workers of the AIDL streams

    `StreamOut::workerThread` takes bytes from the data queue and writes them to
    the legacy stream, `StreamIn::workerThread` reads from the legacy stream and
    puts bytes into the queue, each as the commands of the client say.  A command
    is one step, and the client fills or empties the queue between commands.

    * `byte_accounting`: what the replies say, what left or entered the queue and
      what the legacy stream took or gave are the same exactly as long as every
      transfer is a whole one and no frame is put together from two of them;
    * `flush_discards`: a flush lets go of what is queued exactly if nothing is. -/

namespace AidlStream

open Run

-- ── Commands and replies ──────────────────────────────────────────────────

/-- `StreamDescriptor::State`. -/
inductive State where
  | standby
  | idle
  | active
  | paused
  | draining
  | drainPaused
  | transferring
  | transferPaused
  | error
  deriving DecidableEq, Repr

/-- `StreamDescriptor::Command`; `other` is a tag that is not known. -/
inductive Command where
  | getStatus
  | start
  | burst (burstBytes : Int)
  | standby
  | pause
  | drain
  | flush
  | other
  deriving DecidableEq, Repr

/-- `STREAM_STATUS_OK`, `STREAM_STATUS_INVALID_OPERATION` and
    `STREAM_STATUS_BAD_VALUE`. -/
inductive Status where
  | ok
  | invalidOperation
  | badValue
  deriving DecidableEq, Repr

/-- `StreamDescriptor::Reply`, with the frames of `observable` and `hardware`. -/
structure Reply where
  status : Status
  state : State
  fmqByteCount : Int
  observableFrames : Nat
  hardwareFrames : Nat
  deriving DecidableEq, Repr

/-- The size of a frame, and of the data queue. -/
structure Config where
  frameSize : Nat
  dataMqSize : Nat
  frameSize_pos : 0 < frameSize

variable {β : Type}

-- ── The output worker ─────────────────────────────────────────────────────

/-- What a command did: the reply, the bytes taken from the queue, those given to
    the legacy write and those it accepted. -/
structure OutEntry (β : Type) where
  inStandby : Bool
  reply : Reply
  taken : List β
  given : List β
  accepted : List β
  deriving DecidableEq, Repr

/-- `StreamOut`, with its history: the bytes the client has sent and the commands
    it has had answered. -/
structure StreamOut (β : Type) where
  state : State
  dataMQ : List β
  framesWritten : Nat
  sent : List β
  log : List (OutEntry β)
  deriving DecidableEq, Repr

/-- The cases of the output worker other than `burst`: the new state, and the
    status of the reply. -/
def outRespond (state : State) : Command → State × Status
  | .getStatus => (state, .ok)
  | .start =>
      if state = .standby then (.idle, .ok)
      else if state = .paused then (.active, .ok)
      else if state = .drainPaused then (.draining, .ok)
      else (state, .invalidOperation)
  | .standby =>
      if state = .idle ∨ state = .paused then (.standby, .ok) else (state, .invalidOperation)
  | .pause =>
      if state = .active then (.paused, .ok)
      else if state = .draining then (.drainPaused, .ok)
      else (state, .invalidOperation)
  | .drain => if state = .active then (.idle, .ok) else (state, .invalidOperation)
  | .flush =>
      if state = .paused ∨ state = .drainPaused then (.idle, .ok) else (state, .invalidOperation)
  | .burst _ | .other => (state, .badValue)

/-- What a burst moves: besides the bytes, the count for the reply and the frames
    that are added to the position. -/
structure OutMove (β : Type) where
  taken : List β
  given : List β
  accepted : List β
  count : Int
  frames : Nat

def OutMove.nothing : OutMove β := { taken := [], given := [], accepted := [], count := 0, frames := 0 }

/-- The case `burst` of the output worker; `written` is what the legacy write
    returns. -/
def StreamOut.burst (cfg : Config) (s : StreamOut β) (burstBytes written : Int) :
    State × Status × OutMove β :=
  match s.state with
  | .standby =>
      -- the data is discarded
      let n := if burstBytes > 0 then min burstBytes.toNat s.dataMQ.length else 0
      (.paused, .ok,
        { taken := s.dataMQ.take n, given := [], accepted := [], count := n, frames := 0 })
  | .idle | .active | .draining =>
      (.active, .ok,
        if burstBytes > 0 ∧ burstBytes.toNat ≤ s.dataMQ.length then
          let buffer := s.dataMQ.take burstBytes.toNat
          { taken := buffer
            given := buffer
            accepted := buffer.take written.toNat
            count := if written > 0 then written else 0
            frames := if written > 0 then written.toNat / cfg.frameSize else 0 }
        else .nothing)
  | .paused | .drainPaused => (.paused, .ok, .nothing)
  | state => (state, .invalidOperation, .nothing)

/-- The cases of the output worker. -/
def StreamOut.outcome (cfg : Config) (s : StreamOut β) (cmd : Command) (written : Int) :
    State × Status × OutMove β :=
  match cmd with
  | .burst burstBytes => s.burst cfg burstBytes written
  | cmd => ((outRespond s.state cmd).1, (outRespond s.state cmd).2, .nothing)

/-- A command: `presentation` is the position of the legacy stream, if it has
    one. -/
def StreamOut.command (cfg : Config) (s : StreamOut β) (cmd : Command) (written : Int)
    (presentation : Option Nat) : StreamOut β :=
  let outcome := s.outcome cfg cmd written
  let state := outcome.1
  let move := outcome.2.2
  let framesWritten := s.framesWritten + move.frames
  let hardware := match cmd with
    | .burst _ => presentation.getD framesWritten
    | _ => framesWritten
  { s with
    state := state
    dataMQ := s.dataMQ.drop move.taken.length
    framesWritten := framesWritten
    log := s.log ++
      [{ inStandby := s.state = .standby
         reply := ⟨outcome.2.1, state, move.count, framesWritten, hardware⟩
         taken := move.taken
         given := move.given
         accepted := move.accepted }] }

inductive OutAct (β : Type) where
  | clientWrite (bytes : List β)
  | command (cmd : Command) (written : Int) (presentation : Option Nat)
  deriving DecidableEq, Repr

/-- The client writes what fits into the queue; a legacy write accepts no more
    than it is given. -/
def outStep (cfg : Config) (s : StreamOut β) : OutAct β → Option (StreamOut β)
  | .clientWrite bytes =>
      if s.dataMQ.length + bytes.length ≤ cfg.dataMqSize then
        some { s with dataMQ := s.dataMQ ++ bytes, sent := s.sent ++ bytes }
      else none
  | .command (.burst burstBytes) written presentation =>
      if written ≤ max burstBytes 0 then some (s.command cfg (.burst burstBytes) written presentation)
      else none
  | .command cmd written presentation => some (s.command cfg cmd written presentation)

/-- The stream after `init`. -/
def outInit : StreamOut β where
  state := .standby
  dataMQ := []
  framesWritten := 0
  sent := []
  log := []

-- ── The input worker ──────────────────────────────────────────────────────

/-- What a command did: the reply, the bytes that the legacy read gave, and those
    put into the queue. -/
structure InEntry (β : Type) where
  reply : Reply
  obtained : List β
  added : List β
  deriving DecidableEq, Repr

/-- `StreamIn`, with its history: the bytes the client has read and the commands
    it has had answered. -/
structure StreamIn (β : Type) where
  state : State
  dataMQ : List β
  framesRead : Nat
  received : List β
  log : List (InEntry β)
  deriving DecidableEq, Repr

/-- The cases of the input worker other than `burst`. -/
def inRespond (state : State) : Command → State × Status
  | .getStatus => (state, .ok)
  | .start =>
      if state = .standby then (.idle, .ok)
      else if state = .paused then (.active, .ok)
      else (state, .invalidOperation)
  | .standby =>
      if state = .idle ∨ state = .active ∨ state = .paused then (.standby, .ok)
      else (state, .invalidOperation)
  | .pause => if state = .active then (.paused, .ok) else (state, .invalidOperation)
  | .flush =>
      if state = .active ∨ state = .paused then (.idle, .ok) else (state, .invalidOperation)
  | .burst _ | .drain | .other => (state, .badValue)

structure InMove (β : Type) where
  obtained : List β
  added : List β
  count : Int
  frames : Nat

def InMove.nothing : InMove β := { obtained := [], added := [], count := 0, frames := 0 }

/-- The case `burst` of the input worker; `read` is what the legacy read gives, or
    `none` for an error.  The queue takes all of the bytes or none. -/
def StreamIn.burst (cfg : Config) (s : StreamIn β) (burstBytes : Int) (read : Option (List β)) :
    State × Status × InMove β :=
  match s.state with
  | .idle | .active =>
      (.active, .ok,
        if burstBytes > 0 then
          match read with
          | some data =>
              if s.dataMQ.length + data.length ≤ cfg.dataMqSize then
                { obtained := data
                  added := data
                  count := data.length
                  frames := data.length / cfg.frameSize }
              else { InMove.nothing with obtained := data }
          | none => .nothing
        else .nothing)
  | .paused => (.paused, .ok, .nothing)
  | state => (state, .invalidOperation, .nothing)

/-- The cases of the input worker. -/
def StreamIn.outcome (cfg : Config) (s : StreamIn β) (cmd : Command) (read : Option (List β)) :
    State × Status × InMove β :=
  match cmd with
  | .burst burstBytes => s.burst cfg burstBytes read
  | cmd => ((inRespond s.state cmd).1, (inRespond s.state cmd).2, .nothing)

/-- A command. -/
def StreamIn.command (cfg : Config) (s : StreamIn β) (cmd : Command) (read : Option (List β)) :
    StreamIn β :=
  let outcome := s.outcome cfg cmd read
  let state := outcome.1
  let move := outcome.2.2
  let framesRead := s.framesRead + move.frames
  { s with
    state := state
    dataMQ := s.dataMQ ++ move.added
    framesRead := framesRead
    log := s.log ++
      [{ reply := ⟨outcome.2.1, state, move.count, framesRead, framesRead⟩
         obtained := move.obtained
         added := move.added }] }

inductive InAct (β : Type) where
  | clientRead (n : Nat)
  | command (cmd : Command) (read : Option (List β))
  deriving DecidableEq, Repr

/-- The client reads what is in the queue; a legacy read gives no more than it is
    asked for. -/
def inStep (cfg : Config) (s : StreamIn β) : InAct β → Option (StreamIn β)
  | .clientRead n =>
      if n ≤ s.dataMQ.length then
        some { s with dataMQ := s.dataMQ.drop n, received := s.received ++ s.dataMQ.take n }
      else none
  | .command (.burst burstBytes) read =>
      if (read.getD []).length ≤ burstBytes.toNat then
        some (s.command cfg (.burst burstBytes) read)
      else none
  | .command cmd read => some (s.command cfg cmd read)

/-- The stream after `init`. -/
def inInit : StreamIn β where
  state := .standby
  dataMQ := []
  framesRead := 0
  received := []
  log := []

-- ── A log with one more entry ─────────────────────────────────────────────

theorem forall_log_iff {ε : Type} {P : ε → Prop} {log : List ε} (hold : ∀ x ∈ log, P x) (e : ε) :
    (∀ x ∈ log ++ [e], P x) ↔ P e := by
  rw [List.forall_mem_append, List.forall_mem_singleton]
  exact and_iff_right hold

theorem last_log {ε : Type} {log : List ε} {e x : ε} (h : (log ++ [e]).getLast? = some x) :
    x = e := by
  rw [List.getLast?_append, List.getLast?_singleton, Option.some_or, Option.some.injEq] at h
  exact h.symm

-- ── The bytes of the output worker ────────────────────────────────────────

section Out

variable {cfg : Config} {s s' : StreamOut β} {cmd : Command} {written burstBytes : Int}

/-- Does a command write to the legacy stream? -/
def StreamOut.delivers (s : StreamOut β) : Command → Bool
  | .burst burstBytes =>
      (s.state = .idle || s.state = .active || s.state = .draining)
        && decide (0 < burstBytes) && decide (burstBytes.toNat ≤ s.dataMQ.length)
  | _ => false

theorem outcome_delivers (h : s.delivers (.burst burstBytes) = true) (cfg : Config)
    (written : Int) :
    0 < burstBytes ∧ burstBytes.toNat ≤ s.dataMQ.length ∧ s.state ≠ .standby
      ∧ s.outcome cfg (.burst burstBytes) written = (.active, .ok,
        { taken := s.dataMQ.take burstBytes.toNat
          given := s.dataMQ.take burstBytes.toNat
          accepted := (s.dataMQ.take burstBytes.toNat).take written.toNat
          count := if written > 0 then written else 0
          frames := if written > 0 then written.toNat / cfg.frameSize else 0 }) := by
  simp only [StreamOut.delivers, Bool.and_eq_true, Bool.or_eq_true, decide_eq_true_eq] at h
  obtain ⟨⟨hstate, hpos⟩, hle⟩ := h
  rcases hstate with (hstate | hstate) | hstate <;>
    exact ⟨hpos, hle, by rw [hstate]; exact nofun, by
      simp only [StreamOut.outcome, StreamOut.burst, hstate, if_pos (And.intro hpos hle)]⟩

/-- Nothing but a burst that writes gives bytes to the legacy stream, and nothing
    else than such a burst and one in standby takes bytes from the queue. -/
structure Quiet (s : StreamOut β) (move : OutMove β) : Prop where
  accepted : move.accepted = []
  given : move.given = []
  frames : move.frames = 0
  count : move.count = move.taken.length
  taken : move.taken = s.dataMQ.take move.taken.length
  standby : s.state ≠ .standby → move.taken = []

theorem quiet_nothing (s : StreamOut β) : Quiet s .nothing := ⟨rfl, rfl, rfl, rfl, rfl, fun _ => rfl⟩

theorem outcome_quiet (h : s.delivers cmd = false) (cfg : Config) (written : Int) :
    Quiet s (s.outcome cfg cmd written).2.2 := by
  cases cmd with
  | burst burstBytes =>
      simp only [StreamOut.outcome, StreamOut.burst]
      cases hstate : s.state with
      | standby =>
          refine ⟨rfl, rfl, rfl, ?_, ?_, fun hne => absurd hstate hne⟩
          · dsimp only
            rw [List.length_take]
            split <;> omega
          · dsimp only
            rw [List.length_take, List.take_eq_take_iff]
            omega
      | idle | active | draining =>
          have hnot : ¬ (burstBytes > 0 ∧ burstBytes.toNat ≤ s.dataMQ.length) := by
            rintro ⟨hpos, hle⟩
            simp [StreamOut.delivers, hstate, hpos, hle] at h
          dsimp only
          rw [if_neg hnot]
          exact quiet_nothing s
      | paused | drainPaused | transferring | transferPaused | error => exact quiet_nothing s
  | getStatus | start | standby | pause | drain | flush | other => exact quiet_nothing s

/-- The bytes that the legacy stream accepted. -/
def StreamOut.transferred (s : StreamOut β) : Nat := (s.log.flatMap OutEntry.accepted).length

/-- **THE BYTES ARE ACCOUNTED FOR**: the client's bytes were taken in order and
    are in the queue or were taken once, those taken outside of standby were given
    to the legacy stream and accepted, every reply counts the bytes its command
    took, and the position is that of the whole frames. -/
structure OutAccounted (cfg : Config) (s : StreamOut β) : Prop where
  fifo : s.sent = s.log.flatMap OutEntry.taken ++ s.dataMQ
  given : ∀ e ∈ s.log, e.given = if e.inStandby then [] else e.taken
  count : ∀ e ∈ s.log, e.reply.fmqByteCount = e.taken.length
  accepted : ∀ e ∈ s.log, e.inStandby = false → e.accepted = e.taken
  frames : s.framesWritten = s.transferred / cfg.frameSize
  reported : ∀ e, s.log.getLast? = some e → e.reply.observableFrames = s.framesWritten

theorem outAccounted_init (cfg : Config) : OutAccounted cfg (outInit : StreamOut β) where
  fifo := rfl
  given := fun _ he => absurd he List.not_mem_nil
  count := fun _ he => absurd he List.not_mem_nil
  accepted := fun _ he => absurd he List.not_mem_nil
  frames := (Nat.zero_div _).symm
  reported := fun _ he => absurd he (by simp [outInit])

/-- The condition: what a burst takes is written as a whole, and its last frame is
    not completed by bytes of earlier ones. -/
def keepsOut (cfg : Config) (s : StreamOut β) : OutAct β → Prop
  | .command (.burst burstBytes) written _ => s.delivers (.burst burstBytes) = true →
      written = burstBytes
        ∧ s.transferred % cfg.frameSize + burstBytes.toNat % cfg.frameSize < cfg.frameSize
  | _ => True

/-- Frames are counted one transfer after the other exactly if none is completed
    by the second. -/
theorem frames_add_iff (cfg : Config) (a b : Nat) :
    a / cfg.frameSize + b / cfg.frameSize = (a + b) / cfg.frameSize
      ↔ a % cfg.frameSize + b % cfg.frameSize < cfg.frameSize := by
  rw [Nat.add_div cfg.frameSize_pos]
  split <;> omega

theorem taken_outcome (s : StreamOut β) (cfg : Config) (cmd : Command) (written : Int) :
    (s.outcome cfg cmd written).2.2.taken
      = s.dataMQ.take (s.outcome cfg cmd written).2.2.taken.length := by
  cases hdelivers : s.delivers cmd with
  | false => exact (outcome_quiet hdelivers cfg written).taken
  | true =>
      cases cmd with
      | burst burstBytes =>
          obtain ⟨-, hle, -, houtcome⟩ := outcome_delivers hdelivers cfg written
          rw [houtcome]
          simp
      | _ => exact nomatch hdelivers

/-- What is taken leaves the queue from its front. -/
theorem taken_append_drop (s : StreamOut β) (cfg : Config) (cmd : Command) (written : Int) :
    (s.outcome cfg cmd written).2.2.taken
      ++ s.dataMQ.drop (s.outcome cfg cmd written).2.2.taken.length = s.dataMQ := by
  generalize hn : (s.outcome cfg cmd written).2.2.taken.length = n
  rw [taken_outcome, hn, List.take_append_drop]

theorem outStep_command {presentation : Option Nat}
    (hstep : outStep cfg s (.command cmd written presentation) = some s') :
    s' = s.command cfg cmd written presentation := by
  cases cmd with
  | burst burstBytes =>
      rw [outStep] at hstep
      split at hstep
      · exact (Option.some.inj hstep).symm
      · exact nomatch hstep
  | getStatus | start | standby | pause | drain | flush | other =>
      exact (Option.some.inj hstep).symm

/-- The entry of a command. -/
theorem command_log (cfg : Config) (s : StreamOut β) (cmd : Command) (written : Int)
    (presentation : Option Nat) :
    ∃ e, (s.command cfg cmd written presentation).log = s.log ++ [e]
      ∧ e.inStandby = decide (s.state = .standby)
      ∧ e.taken = (s.outcome cfg cmd written).2.2.taken
      ∧ e.given = (s.outcome cfg cmd written).2.2.given
      ∧ e.accepted = (s.outcome cfg cmd written).2.2.accepted
      ∧ e.reply.fmqByteCount = (s.outcome cfg cmd written).2.2.count
      ∧ e.reply.observableFrames = (s.command cfg cmd written presentation).framesWritten :=
  ⟨_, rfl, rfl, rfl, rfl, rfl, rfl, rfl⟩

/-- What a command has to do for the bytes to stay accounted for. -/
theorem accounted_command_iff (h : OutAccounted cfg s) {move : OutMove β}
    (hmove : (s.outcome cfg cmd written).2.2 = move) (presentation : Option Nat) :
    OutAccounted cfg (s.command cfg cmd written presentation)
      ↔ (move.given = if s.state = .standby then [] else move.taken)
        ∧ move.count = move.taken.length
        ∧ (s.state ≠ .standby → move.accepted = move.taken)
        ∧ s.framesWritten + move.frames
            = (s.transferred + move.accepted.length) / cfg.frameSize := by
  obtain ⟨e, hlog, hstandby, htaken, hgiven, haccepted, hcount, hframes⟩ :=
    command_log cfg s cmd written presentation
  rw [hmove] at htaken hgiven haccepted hcount
  rw [← htaken, ← hgiven, ← haccepted, ← hcount]
  have htransferred : (s.command cfg cmd written presentation).transferred
      = s.transferred + e.accepted.length := by
    simp [StreamOut.transferred, hlog]
  have hposition : (s.command cfg cmd written presentation).framesWritten
      = s.framesWritten + move.frames := by
    rw [← hmove]
    rfl
  have hgiven' := forall_log_iff h.given e
  have hcount' := forall_log_iff h.count e
  have haccepted' := forall_log_iff h.accepted e
  rw [← hlog] at hgiven' hcount' haccepted'
  simp only [hstandby, decide_eq_true_eq, decide_eq_false_iff_not] at hgiven' haccepted'
  constructor
  · intro h'
    refine ⟨hgiven'.mp h'.given, hcount'.mp h'.count, haccepted'.mp h'.accepted, ?_⟩
    rw [← hposition, ← htransferred]
    exact h'.frames
  · rintro ⟨hg, hc, ha, hf⟩
    refine ⟨?_, hgiven'.mpr hg, hcount'.mpr hc, haccepted'.mpr ha, ?_, ?_⟩
    · show s.sent = _ ++ s.dataMQ.drop (s.outcome cfg cmd written).2.2.taken.length
      rw [hlog, List.flatMap_append, List.flatMap_singleton, List.append_assoc, h.fifo, htaken,
        ← hmove, taken_append_drop]
    · rw [hposition, htransferred]
      exact hf
    · intro x hx
      rw [hlog] at hx
      rw [last_log hx]
      exact hframes

/-- A command that writes nothing keeps the bytes accounted for. -/
theorem accounted_quiet (h : OutAccounted cfg s) (hdelivers : s.delivers cmd = false)
    (written : Int) (presentation : Option Nat) :
    OutAccounted cfg (s.command cfg cmd written presentation) := by
  have hmove := outcome_quiet hdelivers cfg written
  refine (accounted_command_iff h rfl presentation).mpr ⟨?_, hmove.count, ?_, ?_⟩
  · rw [hmove.given]
    split
    · rfl
    · rename_i hstate
      exact (hmove.standby hstate).symm
  · intro hstate
    rw [hmove.accepted, hmove.standby hstate]
  · rw [hmove.frames, hmove.accepted]
    exact h.frames

/-- A burst that writes keeps them accounted for exactly if all of it is accepted
    and no frame of earlier bytes is completed. -/
theorem accounted_burst_iff (h : OutAccounted cfg s)
    (hdelivers : s.delivers (.burst burstBytes) = true) (written : Int)
    (presentation : Option Nat) :
    OutAccounted cfg (s.command cfg (.burst burstBytes) written presentation)
      ↔ written = burstBytes
        ∧ s.transferred % cfg.frameSize + burstBytes.toNat % cfg.frameSize < cfg.frameSize := by
  obtain ⟨hpos, hle, hstate, houtcome⟩ := outcome_delivers hdelivers cfg written
  rw [accounted_command_iff h (congrArg (fun o => o.2.2) houtcome)]
  simp only [if_false, true_and, List.length_take, Nat.min_eq_left hle, ne_eq, hstate,
    not_false_eq_true, forall_const]
  constructor
  · rintro ⟨hcount, -, hframes⟩
    obtain rfl : written = burstBytes := by
      split at hcount <;> omega
    rw [if_pos hpos, h.frames, Nat.min_self] at hframes
    exact ⟨rfl, (frames_add_iff cfg _ _).mp hframes⟩
  · rintro ⟨rfl, hframes⟩
    rw [if_pos hpos, if_pos hpos, Nat.min_self, h.frames]
    refine ⟨(Int.toNat_of_nonneg (Int.le_of_lt hpos)).symm, ?_,
      (frames_add_iff cfg _ _).mpr hframes⟩
    rw [List.take_take, Nat.min_self]

/-- **ONE COMMAND** keeps the bytes accounted for exactly if it meets the
    condition. -/
theorem accounted_step_iff (h : OutAccounted cfg s) (a : OutAct β)
    (hstep : outStep cfg s a = some s') : OutAccounted cfg s' ↔ keepsOut cfg s a := by
  cases a with
  | clientWrite bytes =>
      rw [outStep] at hstep
      split at hstep
      · obtain rfl := Option.some.inj hstep
        refine iff_of_true ⟨?_, h.given, h.count, h.accepted, h.frames, h.reported⟩ trivial
        show s.sent ++ bytes = _ ++ (s.dataMQ ++ bytes)
        rw [h.fifo, List.append_assoc]
      · exact nomatch hstep
  | command cmd written presentation =>
      obtain rfl := outStep_command hstep
      cases cmd with
      | burst burstBytes =>
          cases hdelivers : s.delivers (.burst burstBytes) with
          | false =>
              refine iff_of_true (accounted_quiet h hdelivers _ _) fun htrue => ?_
              exact nomatch hdelivers.symm.trans htrue
          | true =>
              rw [accounted_burst_iff h hdelivers, keepsOut]
              simp only [hdelivers, forall_const]
      | getStatus | start | standby | pause | drain | flush | other =>
          exact iff_of_true (accounted_quiet h rfl _ _) trivial

end Out

-- ── The bytes of the input worker ─────────────────────────────────────────

section In

variable {cfg : Config} {s s' : StreamIn β} {cmd : Command} {read : Option (List β)}
  {burstBytes : Int}

/-- Does a command read from the legacy stream? -/
def StreamIn.captures (s : StreamIn β) : Command → Bool
  | .burst burstBytes => (s.state = .idle || s.state = .active) && decide (0 < burstBytes)
  | _ => false

/-- What a burst that reads does with the bytes it gets. -/
theorem outcome_captures (h : s.captures (.burst burstBytes) = true) (cfg : Config)
    (data : List β) :
    (s.outcome cfg (.burst burstBytes) (some data)).2.2
      = if s.dataMQ.length + data.length ≤ cfg.dataMqSize then
          { obtained := data, added := data, count := data.length,
            frames := data.length / cfg.frameSize }
        else { InMove.nothing with obtained := data } := by
  simp only [StreamIn.captures, Bool.and_eq_true, Bool.or_eq_true, decide_eq_true_eq] at h
  obtain ⟨hstate | hstate, hpos⟩ := h <;>
    simp only [StreamIn.outcome, StreamIn.burst, hstate, if_pos hpos]

/-- Nothing else obtains bytes or adds some to the queue. -/
theorem outcome_nothing (h : s.captures cmd = false ∨ read = none) (cfg : Config) :
    (s.outcome cfg cmd read).2.2 = .nothing := by
  cases cmd with
  | burst burstBytes =>
      simp only [StreamIn.outcome, StreamIn.burst]
      cases hstate : s.state with
      | idle | active =>
          dsimp only
          split
          · rename_i hpos
            rcases h with hcaptures | rfl
            · simp [StreamIn.captures, hstate, hpos] at hcaptures
            · rfl
          · rfl
      | standby | paused | draining | drainPaused | transferring | transferPaused | error => rfl
  | getStatus | start | standby | pause | drain | flush | other => rfl

/-- The bytes that were put into the queue. -/
def StreamIn.transferred (s : StreamIn β) : Nat := (s.log.flatMap InEntry.added).length

/-- **THE BYTES ARE ACCOUNTED FOR**: the bytes that were added are in the queue or
    were read by the client in order, what the legacy stream gave was added, every
    reply counts the bytes its command added, and the position is that of the
    whole frames. -/
structure InAccounted (cfg : Config) (s : StreamIn β) : Prop where
  fifo : s.received ++ s.dataMQ = s.log.flatMap InEntry.added
  added : ∀ e ∈ s.log, e.added = e.obtained
  count : ∀ e ∈ s.log, e.reply.fmqByteCount = e.added.length
  frames : s.framesRead = s.transferred / cfg.frameSize
  reported : ∀ e, s.log.getLast? = some e → e.reply.observableFrames = s.framesRead

theorem inAccounted_init (cfg : Config) : InAccounted cfg (inInit : StreamIn β) where
  fifo := rfl
  added := fun _ he => absurd he List.not_mem_nil
  count := fun _ he => absurd he List.not_mem_nil
  frames := (Nat.zero_div _).symm
  reported := fun _ he => absurd he (by simp [inInit])

/-- The condition: there is room in the queue for what a burst reads, and its last
    frame is not completed by bytes of earlier ones. -/
def keepsIn (cfg : Config) (s : StreamIn β) : InAct β → Prop
  | .command cmd (some data) => s.captures cmd = true → data ≠ [] →
      s.dataMQ.length + data.length ≤ cfg.dataMqSize
        ∧ s.transferred % cfg.frameSize + data.length % cfg.frameSize < cfg.frameSize
  | _ => True

/-- The entry of a command. -/
theorem inCommand_log (cfg : Config) (s : StreamIn β) (cmd : Command) (read : Option (List β)) :
    ∃ e, (s.command cfg cmd read).log = s.log ++ [e]
      ∧ e.obtained = (s.outcome cfg cmd read).2.2.obtained
      ∧ e.added = (s.outcome cfg cmd read).2.2.added
      ∧ e.reply.fmqByteCount = (s.outcome cfg cmd read).2.2.count
      ∧ e.reply.observableFrames = (s.command cfg cmd read).framesRead :=
  ⟨_, rfl, rfl, rfl, rfl, rfl⟩

/-- What a command has to do for the bytes to stay accounted for. -/
theorem inAccounted_command_iff (h : InAccounted cfg s) {move : InMove β}
    (hmove : (s.outcome cfg cmd read).2.2 = move) :
    InAccounted cfg (s.command cfg cmd read)
      ↔ move.added = move.obtained
        ∧ move.count = move.added.length
        ∧ s.framesRead + move.frames = (s.transferred + move.added.length) / cfg.frameSize := by
  obtain ⟨e, hlog, hobtained, hadded, hcount, hframes⟩ := inCommand_log cfg s cmd read
  rw [hmove] at hobtained hadded hcount
  rw [← hobtained, ← hadded, ← hcount]
  have htransferred : (s.command cfg cmd read).transferred = s.transferred + e.added.length := by
    simp [StreamIn.transferred, hlog]
  have hposition : (s.command cfg cmd read).framesRead = s.framesRead + move.frames := by
    rw [← hmove]
    rfl
  have hadded' := forall_log_iff h.added e
  have hcount' := forall_log_iff h.count e
  rw [← hlog] at hadded' hcount'
  constructor
  · intro h'
    refine ⟨hadded'.mp h'.added, hcount'.mp h'.count, ?_⟩
    rw [← hposition, ← htransferred]
    exact h'.frames
  · rintro ⟨ha, hc, hf⟩
    refine ⟨?_, hadded'.mpr ha, hcount'.mpr hc, ?_, ?_⟩
    · show s.received ++ (s.dataMQ ++ (s.outcome cfg cmd read).2.2.added) = _
      rw [hlog, List.flatMap_append, List.flatMap_singleton, ← h.fifo, hadded, hmove,
        List.append_assoc]
    · rw [hposition, htransferred]
      exact hf
    · intro x hx
      rw [hlog] at hx
      rw [last_log hx]
      exact hframes

/-- A command and its condition. -/
theorem inAccounted_command (h : InAccounted cfg s) (cmd : Command) (read : Option (List β)) :
    InAccounted cfg (s.command cfg cmd read) ↔ keepsIn cfg s (.command cmd read) := by
  have hnothing : s.captures cmd = false ∨ read = none →
      InAccounted cfg (s.command cfg cmd read) := fun hquiet =>
    (inAccounted_command_iff h (outcome_nothing hquiet cfg)).mpr ⟨rfl, rfl, h.frames⟩
  cases read with
  | none => exact iff_of_true (hnothing (.inr rfl)) trivial
  | some data =>
      cases hcaptures : s.captures cmd with
      | false =>
          refine iff_of_true (hnothing (.inl hcaptures)) fun htrue => ?_
          exact nomatch hcaptures.symm.trans htrue
      | true =>
          cases cmd with
          | burst burstBytes =>
              have hmove := outcome_captures hcaptures cfg data
              simp only [keepsIn, hcaptures, forall_const]
              by_cases hfits : s.dataMQ.length + data.length ≤ cfg.dataMqSize
              · rw [if_pos hfits] at hmove
                rw [inAccounted_command_iff h hmove, h.frames, frames_add_iff]
                simp only [hfits, true_and]
                refine ⟨fun hframes _ => hframes, fun hframes => ?_⟩
                by_cases hempty : data = []
                · rw [hempty]
                  exact Nat.mod_lt _ cfg.frameSize_pos
                · exact hframes hempty
              · rw [if_neg hfits] at hmove
                rw [inAccounted_command_iff h hmove]
                constructor
                · exact fun hlost hdata => absurd hlost.1.symm hdata
                · intro hkeeps
                  have hempty : data = [] := by
                    by_contra hdata
                    exact hfits (hkeeps hdata).1
                  rw [hempty]
                  exact ⟨rfl, rfl, h.frames⟩
          | getStatus | start | standby | pause | drain | flush | other => exact nomatch hcaptures

theorem inStep_command (hstep : inStep cfg s (.command cmd read) = some s') :
    s' = s.command cfg cmd read := by
  cases cmd with
  | burst burstBytes =>
      rw [inStep] at hstep
      split at hstep
      · exact (Option.some.inj hstep).symm
      · exact nomatch hstep
  | getStatus | start | standby | pause | drain | flush | other =>
      exact (Option.some.inj hstep).symm

/-- **ONE COMMAND** keeps the bytes accounted for exactly if it meets the
    condition. -/
theorem inAccounted_step_iff (h : InAccounted cfg s) (a : InAct β)
    (hstep : inStep cfg s a = some s') : InAccounted cfg s' ↔ keepsIn cfg s a := by
  cases a with
  | clientRead n =>
      rw [inStep] at hstep
      split at hstep
      · obtain rfl := Option.some.inj hstep
        refine iff_of_true ⟨?_, h.added, h.count, h.frames, h.reported⟩ trivial
        show (s.received ++ s.dataMQ.take n) ++ s.dataMQ.drop n = _
        rw [List.append_assoc, List.take_append_drop]
        exact h.fifo
      · exact nomatch hstep
  | command cmd read =>
      rw [inStep_command hstep]
      exact inAccounted_command h cmd read

end In

/-- **BYTE ACCOUNTING**, for both workers: in a run the bytes stay accounted for
    exactly if every command meets the condition. -/
theorem byte_accounting (cfg : Config) :
    (∀ acts : List (OutAct β),
        Always (outStep cfg) (OutAccounted cfg) outInit acts
          ↔ StepsMeet (outStep cfg) (keepsOut cfg) outInit acts)
      ∧ ∀ acts : List (InAct β),
        Always (inStep cfg) (InAccounted cfg) inInit acts
          ↔ StepsMeet (inStep cfg) (keepsIn cfg) inInit acts := by
  constructor
  · intro acts
    refine always_iff_stepsMeet (fun _ h => h) ?_ ?_ acts ?_
    · exact fun s a s' h hok hstep => (accounted_step_iff h a hstep).mpr hok
    · exact fun s a s' h hstep h' => (accounted_step_iff h a hstep).mp h'
    · exact outAccounted_init cfg
  · intro acts
    refine always_iff_stepsMeet (fun _ h => h) ?_ ?_ acts ?_
    · exact fun s a s' h hok hstep => (inAccounted_step_iff h a hstep).mpr hok
    · exact fun s a s' h hstep h' => (inAccounted_step_iff h a hstep).mp h'
    · exact inAccounted_init cfg

/-- Frames of four bytes, and room for four of them. -/
def fourByteFrames : Config where
  frameSize := 4
  dataMqSize := 16
  frameSize_pos := by decide

/-- A burst of eight bytes of which the legacy stream accepts four. -/
theorem short_write_miscounted :
    ¬ ∀ cfg : Config,
      (∀ acts : List (OutAct UInt8), Always (outStep cfg) (OutAccounted cfg) outInit acts)
        ∧ ∀ acts : List (InAct UInt8), Always (inStep cfg) (InAccounted cfg) inInit acts := by
  intro h
  have hrun : (run (outStep fourByteFrames) (outInit : StreamOut UInt8)
      [.clientWrite [1, 2, 3, 4, 5, 6, 7, 8], .command .start 0 none,
        .command (.burst 8) 4 none]).map (fun s =>
          s.log.map fun e => (e.reply.fmqByteCount, (e.taken.length : Int)))
      = some [(0, 0), (4, 8)] := by
    decide
  obtain ⟨s, hrun, hs⟩ := Option.map_eq_some_iff.mp hrun
  have haccounted := (h fourByteFrames).1 _ _ [] s (List.append_nil _).symm hrun
  have hcounts : ∀ c ∈ s.log.map fun e => (e.reply.fmqByteCount, (e.taken.length : Int)),
      c.1 = c.2 := by
    intro c hc
    obtain ⟨e, he, rfl⟩ := List.mem_map.mp hc
    exact haccounted.count e he
  rw [hs] at hcounts
  exact absurd (hcounts (4, 8) (by decide)) (by decide)

-- ── Flushing ──────────────────────────────────────────────────────────────

section Flush

variable {cfg : Config}

/-- How many bytes were taken from the queue: the position of its first one. -/
def StreamOut.position (s : StreamOut β) : Nat := (s.log.flatMap OutEntry.taken).length

/-- The bytes that were given to the legacy stream. -/
def StreamOut.delivered (s : StreamOut β) : List β := s.log.flatMap OutEntry.given

/-- A step gives the client's byte at a position to the legacy stream. -/
def Gives (t t' : StreamOut β) (p : Nat) : Prop :=
  t.position ≤ p ∧ p < t'.position ∧ t'.delivered ≠ t.delivered

/-- No byte that is queued in `s` is given to the legacy stream after `s'`, however
    the run goes on. -/
def OutDiscarded (cfg : Config) (s s' : StreamOut β) : Prop :=
  ∀ more t a t', run (outStep cfg) s' more = some t → outStep cfg t a = some t' →
    ∀ p, Gives t t' p → s.position + s.dataMQ.length ≤ p

/-- The condition: the queue is empty when a flush is answered with `OK`. -/
def flushesNothing (s : StreamOut β) : OutAct β → Prop
  | .command .flush _ _ => (outRespond s.state .flush).2 = .ok → s.dataMQ = []
  | _ => True

theorem position_command (cfg : Config) (s : StreamOut β) (cmd : Command) (written : Int)
    (presentation : Option Nat) :
    (s.command cfg cmd written presentation).position
      = s.position + (s.outcome cfg cmd written).2.2.taken.length := by
  simp [StreamOut.position, StreamOut.command]

theorem position_le {s s' : StreamOut β} {a : OutAct β} (hstep : outStep cfg s a = some s') :
    s.position ≤ s'.position := by
  cases a with
  | clientWrite bytes =>
      rw [outStep] at hstep
      split at hstep
      · obtain rfl := Option.some.inj hstep
        exact Nat.le_refl _
      · exact nomatch hstep
  | command cmd written presentation =>
      rw [outStep_command hstep, position_command]
      exact Nat.le_add_right _ _

theorem position_run {more : List (OutAct β)} {s t : StreamOut β}
    (hrun : run (outStep cfg) s more = some t) : s.position ≤ t.position := by
  have hkeep : ∀ (u : StreamOut β) a u', s.position ≤ u.position → outStep cfg u a = some u' →
      s.position ≤ u'.position := fun u a u' hu hstep => Nat.le_trans hu (position_le hstep)
  exact run_invariant hkeep more (Nat.le_refl _) hrun

/-- A burst that writes gives the first byte of the queue. -/
theorem gives_of_delivers {s : StreamOut β} {burstBytes : Int}
    (h : s.delivers (.burst burstBytes) = true) (cfg : Config) (written : Int)
    (presentation : Option Nat) :
    Gives s (s.command cfg (.burst burstBytes) written presentation) s.position := by
  obtain ⟨hpos, hle, -, houtcome⟩ := outcome_delivers h cfg written
  have hlength : 0 < (s.dataMQ.take burstBytes.toNat).length := by
    rw [List.length_take]
    omega
  refine ⟨Nat.le_refl _, ?_, ?_⟩
  · rw [position_command, houtcome]
    exact Nat.lt_add_of_pos_right hlength
  · have hdelivered : (s.command cfg (.burst burstBytes) written presentation).delivered
        = s.delivered ++ s.dataMQ.take burstBytes.toNat := by
      simp [StreamOut.delivered, StreamOut.command, houtcome]
    rw [hdelivered]
    intro hsame
    rw [List.append_right_eq_self.mp hsame] at hlength
    exact Nat.lt_irrefl 0 hlength

/-- **A FLUSH DISCARDS** what is queued exactly if nothing is. -/
theorem out_flush_iff {s : StreamOut β} (hok : (outRespond s.state .flush).2 = .ok) (written : Int)
    (presentation : Option Nat) :
    OutDiscarded cfg s (s.command cfg .flush written presentation) ↔ s.dataMQ = [] := by
  have hposition : (s.command cfg .flush written presentation).position = s.position :=
    position_command cfg s .flush written presentation
  have hqueue : (s.command cfg .flush written presentation).dataMQ = s.dataMQ := rfl
  constructor
  · intro h
    by_contra hqueued
    have hlength := List.length_pos_iff.mpr hqueued
    -- the client goes on with a burst of one byte
    have hidle : (s.command cfg .flush written presentation).state = .idle := by
      rw [outRespond] at hok
      split at hok
      · rename_i hpaused
        show (outRespond s.state .flush).1 = .idle
        rw [outRespond, if_pos hpaused]
      · exact nomatch hok
    have hdelivers : (s.command cfg .flush written presentation).delivers (.burst 1) = true := by
      simp only [StreamOut.delivers, hidle, hqueue, Bool.and_eq_true, decide_eq_true_eq]
      exact ⟨⟨rfl, Int.one_pos⟩, hlength⟩
    have hle := h [] _ (.command (.burst 1) 1 none) _ rfl rfl _
      (gives_of_delivers hdelivers cfg 1 none)
    rw [hposition] at hle
    omega
  · intro hempty more t a t' hrun hstep p hgives
    have hle := position_run hrun
    rw [hposition] at hle
    rw [hempty]
    exact Nat.le_trans hle hgives.1

/-- No byte that is queued in `s` is left for the client to read after `s'`. -/
def InDiscarded (cfg : Config) (s s' : StreamIn β) : Prop :=
  ∀ more t n t', run (inStep cfg) s' more = some t → inStep cfg t (.clientRead n) = some t' →
    ∀ p, t.received.length ≤ p → p < t'.received.length →
      s.received.length + s.dataMQ.length ≤ p

/-- The condition: the queue is empty when a flush is answered with `OK`. -/
def inFlushesNothing (s : StreamIn β) : InAct β → Prop
  | .command .flush _ => (inRespond s.state .flush).2 = .ok → s.dataMQ = []
  | _ => True

theorem received_le {s s' : StreamIn β} {a : InAct β} (hstep : inStep cfg s a = some s') :
    s.received.length ≤ s'.received.length := by
  cases a with
  | clientRead n =>
      rw [inStep] at hstep
      split at hstep
      · obtain rfl := Option.some.inj hstep
        rw [List.length_append]
        exact Nat.le_add_right _ _
      · exact nomatch hstep
  | command cmd read => rw [inStep_command hstep]; exact Nat.le_refl _

theorem received_run {more : List (InAct β)} {s t : StreamIn β}
    (hrun : run (inStep cfg) s more = some t) : s.received.length ≤ t.received.length := by
  have hkeep : ∀ (u : StreamIn β) a u', s.received.length ≤ u.received.length → inStep cfg u a = some u' →
      s.received.length ≤ u'.received.length :=
    fun u a u' hu hstep => Nat.le_trans hu (received_le hstep)
  exact run_invariant hkeep more (Nat.le_refl _) hrun

/-- **A FLUSH DISCARDS** what is captured exactly if nothing is. -/
theorem in_flush_iff (cfg : Config) (s : StreamIn β) (read : Option (List β)) :
    InDiscarded cfg s (s.command cfg .flush read) ↔ s.dataMQ = [] := by
  have hqueue : (s.command cfg .flush read).dataMQ = s.dataMQ := List.append_nil _
  constructor
  · intro h
    by_contra hqueued
    have hlength := List.length_pos_iff.mpr hqueued
    -- the client goes on with reading one byte
    have hstep : inStep cfg (s.command cfg .flush read) (.clientRead 1)
        = some { s.command cfg .flush read with
            dataMQ := s.dataMQ.drop 1, received := s.received ++ s.dataMQ.take 1 } := by
      rw [inStep, hqueue, if_pos (Nat.succ_le_of_lt hlength)]
      rfl
    have hread : s.received.length < (s.received ++ s.dataMQ.take 1).length := by
      rw [List.length_append, List.length_take]
      omega
    have hle := h [] _ 1 _ rfl hstep s.received.length (Nat.le_refl _) hread
    omega
  · intro hempty more t n t' hrun _ p hp _
    have hle : (s.command cfg .flush read).received.length ≤ t.received.length := received_run hrun
    rw [hempty]
    exact Nat.le_trans hle hp

end Flush

/-- **FLUSH DISCARDS**, for both workers: in a run every flush that is answered
    with `OK` discards what is queued exactly if there is nothing to discard. -/
theorem flush_discards (cfg : Config) :
    (∀ acts : List (OutAct β),
        (∀ done written presentation rest s s',
            acts = done ++ .command .flush written presentation :: rest →
            run (outStep cfg) outInit done = some s →
            outStep cfg s (.command .flush written presentation) = some s' →
            (outRespond s.state .flush).2 = .ok → OutDiscarded cfg s s')
          ↔ StepsMeet (outStep cfg) flushesNothing outInit acts)
      ∧ ∀ acts : List (InAct β),
        (∀ done read rest s s', acts = done ++ .command .flush read :: rest →
            run (inStep cfg) inInit done = some s →
            inStep cfg s (.command .flush read) = some s' →
            (inRespond s.state .flush).2 = .ok → InDiscarded cfg s s')
          ↔ StepsMeet (inStep cfg) inFlushesNothing inInit acts := by
  refine ⟨fun acts => ⟨fun h => ?_, fun h => ?_⟩, fun acts => ⟨fun h => ?_, fun h => ?_⟩⟩
  · intro done a rest s s' hcat hrun hstep
    cases a with
    | clientWrite bytes => trivial
    | command cmd written presentation =>
        cases cmd with
        | flush =>
            intro hok
            exact (out_flush_iff hok written presentation).mp
              (h done written presentation rest s _ hcat hrun rfl hok)
        | getStatus | start | burst | standby | pause | drain | other => trivial
  · intro done written presentation rest s s' hcat hrun hstep hok
    obtain rfl := Option.some.inj hstep
    exact (out_flush_iff hok written presentation).mpr
      (h done _ rest s _ hcat hrun rfl hok)
  · intro done a rest s s' hcat hrun hstep
    cases a with
    | clientRead n => trivial
    | command cmd read =>
        cases cmd with
        | flush =>
            exact fun hok => (in_flush_iff cfg s read).mp (h done read rest s _ hcat hrun rfl hok)
        | getStatus | start | burst | standby | pause | drain | other => trivial
  · intro done read rest s s' hcat hrun hstep hok
    obtain rfl := Option.some.inj hstep
    exact (in_flush_iff cfg s read).mpr (h done _ rest s _ hcat hrun rfl hok)

/-- A byte that is queued while the output is paused is written after the flush. -/
theorem flushed_byte_written :
    ¬ ∀ cfg : Config,
      (∀ (acts : List (OutAct UInt8)) (done : List (OutAct UInt8)) (written : Int)
          (presentation : Option Nat) (rest : List (OutAct UInt8)) (s s' : StreamOut UInt8),
          acts = done ++ .command .flush written presentation :: rest →
          run (outStep cfg) outInit done = some s →
          outStep cfg s (.command .flush written presentation) = some s' →
          (outRespond s.state .flush).2 = .ok → OutDiscarded cfg s s')
        ∧ ∀ (acts : List (InAct UInt8)) (done : List (InAct UInt8)) (read : Option (List UInt8))
          (rest : List (InAct UInt8)) (s s' : StreamIn UInt8),
          acts = done ++ .command .flush read :: rest →
          run (inStep cfg) inInit done = some s →
          inStep cfg s (.command .flush read) = some s' →
          (inRespond s.state .flush).2 = .ok → InDiscarded cfg s s' := by
  intro h
  have hrun : (run (outStep fourByteFrames) (outInit : StreamOut UInt8)
      [.command (.burst 0) 0 none, .clientWrite [7]]).map (fun s => (s.state, s.dataMQ))
      = some (.paused, [7]) := by
    decide
  obtain ⟨s, hrun, hs⟩ := Option.map_eq_some_iff.mp hrun
  obtain ⟨hstate, hqueue⟩ := Prod.mk.inj hs
  have hok : (outRespond s.state .flush).2 = .ok := by
    rw [hstate]
    rfl
  have hdiscarded := (h fourByteFrames).1 _ _ 0 none [] s _ rfl hrun rfl hok
  have hempty := (out_flush_iff hok 0 none).mp hdiscarded
  rw [hqueue] at hempty
  exact nomatch hempty

end AidlStream

import Mathlib.Data.List.Count
import Universal7580.TraceProofs
import Universal7580.VoiceSessionProofs

/-! # Starting the voice PCMs

    `start_voice_session` and `start_voice_session_bt_sco` open a pair of PCMs
    each, and clean up by hand when one of the two cannot be used.  Here the
    handles are kept apart, with every call on them in order; the model of the
    voice session only has whether they are set (`startVoiceSession_pcms`,
    `startVoiceSessionBtSco_pcms`).

    `failed_starts_undone` says for both functions exactly when a failed start
    has taken everything back. -/

namespace AudioHal

open AudioRouting Trace

namespace VoicePcm

-- ── Handles ──────────────────────────────────────────────────────────────────

/-- The PCM devices of `SOUND_CARD` that the voice functions open. -/
inductive Port where
  | playbackVoice
  | captureVoice
  | playbackSco
  | captureSco
  deriving DecidableEq, Repr

inductive Config where
  | voicecall
  | voicecallWideband
  | voiceSco
  | voiceScoWb
  deriving DecidableEq, Repr

/-- What `pcm_open` returns, and what `pcm_is_ready` says of it. -/
structure Answer where
  handle : Option Nat
  ready : Bool
  deriving DecidableEq, Repr

/-- The test after each `pcm_open`: not `NULL`, and not ready. -/
def Answer.broken (a : Answer) : Bool := a.handle.isSome && !a.ready

structure Answers where
  voiceRx : Answer
  voiceTx : Answer
  scoRx : Answer
  scoTx : Answer
  deriving DecidableEq, Repr

/-- A pair of handles; `none` is `NULL`. -/
structure Handles where
  rx : Option Nat
  tx : Option Nat
  deriving DecidableEq, Repr

/-- The calls that the functions make. -/
inductive Call where
  | open (port : Port) (config : Config) (handle : Option Nat)
  | start (handle : Option Nat)
  | stop (handle : Option Nat)
  | close (handle : Option Nat)
  | setTwoMicControl (on : Bool)
  | setCallClockSync
  deriving DecidableEq, Repr

-- ── The functions ────────────────────────────────────────────────────────────

def enomem : Int := 12

/-- What `start_voice_session` leaves: the handles, its return value and its
    calls. -/
structure Started where
  pcms : Handles
  ret : Int
  calls : List Call
  deriving DecidableEq, Repr

/-- `start_voice_session`.  When the first PCM is not ready it is the other
    handle that is closed and cleared, and the other way round. -/
def startVoiceSession (session : VoiceSession) (p : Handles) (a : Answers) : Started :=
  if p.rx.isSome || p.tx.isSome then { pcms := p, ret := 0, calls := [] }
  else
    let config : Config := if session.wbAmrType ≥ 1 then .voicecallWideband else .voicecall
    let p := { p with rx := a.voiceRx.handle }
    let calls : List Call := [.open .playbackVoice config a.voiceRx.handle]
    if a.voiceRx.broken then
      { pcms := { p with tx := none }, ret := -enomem, calls := calls ++ [.close p.tx] }
    else
      let p := { p with tx := a.voiceTx.handle }
      let calls := calls ++ [.open .captureVoice config a.voiceTx.handle]
      if a.voiceTx.broken then
        { pcms := { p with rx := none }, ret := -enomem, calls := calls ++ [.close p.rx] }
      else
        { pcms := p, ret := 0
          calls := calls ++ [.start p.rx, .start p.tx, .setTwoMicControl session.twoMicControl] }

/-- `stop_voice_session`, on the handles. -/
def stopVoiceSession (p : Handles) : Handles × List Call :=
  let rx : List Call := if p.rx.isSome then [.stop p.rx, .close p.rx] else []
  let tx : List Call := if p.tx.isSome then [.stop p.tx, .close p.tx] else []
  ({ rx := none, tx := none }, .setCallClockSync :: rx ++ tx)

/-- What `start_voice_session_bt_sco` leaves; `failed` says that it went to one
    of its error labels. -/
structure ScoStarted where
  sco : Handles
  voice : Handles
  failed : Bool
  calls : List Call
  deriving DecidableEq, Repr

/-- `start_voice_session_bt_sco`. -/
def startVoiceSessionBtSco (session : VoiceSession) (mode : Mode) (sco voice : Handles)
    (a : Answers) : ScoStarted :=
  if sco.rx.isSome || sco.tx.isSome then
    { sco := sco, voice := voice, failed := false, calls := [] }
  else
    let config : Config := if session.bluetoothWb then .voiceScoWb else .voiceSco
    let sco := { sco with rx := a.scoRx.handle }
    let calls : List Call := [.open .playbackSco config a.scoRx.handle]
    if a.scoRx.broken then
      { sco := { sco with rx := none }, voice := voice, failed := true
        calls := calls ++ [.close sco.rx] }
    else
      let sco := { sco with tx := a.scoTx.handle }
      let calls := calls ++ [.open .captureSco config a.scoTx.handle]
      if a.scoTx.broken then
        { sco := { rx := none, tx := none }, voice := voice, failed := true
          calls := calls ++ [.close sco.tx, .close sco.rx] }
      else
        let calls := calls ++ [.start sco.rx, .start sco.tx]
        if mode ≠ .inCall then
          let started := startVoiceSession session voice a
          { sco := sco, voice := started.pcms, failed := false, calls := calls ++ started.calls }
        else { sco := sco, voice := voice, failed := false, calls := calls }

-- ── What a start can do ──────────────────────────────────────────────────────

section Cases

variable {session : VoiceSession} {voice sco : Handles} {a : Answers} {mode : Mode}

theorem handles_unset {p : Handles} (h : ¬ (p.rx.isSome || p.tx.isSome) = true) :
    p = { rx := none, tx := none } := by
  obtain ⟨rx, tx⟩ := p
  cases rx with
  | some h' => exact absurd rfl h
  | none =>
      cases tx with
      | some h' => exact absurd rfl h
      | none => rfl

theorem handles_none {p : Handles} (hrx : p.rx = none) (htx : p.tx = none) :
    p = { rx := none, tx := none } := by
  obtain ⟨rx, tx⟩ := p
  obtain rfl : rx = none := hrx
  obtain rfl : tx = none := htx
  rfl

/-- **START_VOICE_SESSION** finds handles set, fails on the one PCM or on the
    other, or starts both. -/
theorem startVoiceSession_cases (session : VoiceSession) (p : Handles) (a : Answers) :
    ((p.rx.isSome || p.tx.isSome) = true
        ∧ startVoiceSession session p a = { pcms := p, ret := 0, calls := [] })
      ∨ p = { rx := none, tx := none } ∧ ∃ config,
        (a.voiceRx.broken = true
            ∧ startVoiceSession session p a
              = { pcms := { rx := a.voiceRx.handle, tx := none }, ret := -enomem
                  calls := [.open .playbackVoice config a.voiceRx.handle, .close none] })
          ∨ (a.voiceRx.broken = false ∧ a.voiceTx.broken = true
            ∧ startVoiceSession session p a
              = { pcms := { rx := none, tx := a.voiceTx.handle }, ret := -enomem
                  calls := [.open .playbackVoice config a.voiceRx.handle,
                    .open .captureVoice config a.voiceTx.handle, .close a.voiceRx.handle] })
          ∨ (a.voiceRx.broken = false ∧ a.voiceTx.broken = false
            ∧ startVoiceSession session p a
              = { pcms := { rx := a.voiceRx.handle, tx := a.voiceTx.handle }, ret := 0
                  calls := [.open .playbackVoice config a.voiceRx.handle,
                    .open .captureVoice config a.voiceTx.handle, .start a.voiceRx.handle,
                    .start a.voiceTx.handle, .setTwoMicControl session.twoMicControl] }) := by
  by_cases hset : (p.rx.isSome || p.tx.isSome) = true
  · exact Or.inl ⟨hset, by rw [startVoiceSession, if_pos hset]⟩
  · obtain rfl := handles_unset hset
    refine Or.inr ⟨rfl, if session.wbAmrType ≥ 1 then .voicecallWideband else .voicecall, ?_⟩
    cases hrx : a.voiceRx.broken with
    | true => exact Or.inl ⟨rfl, by simp [startVoiceSession, hrx]⟩
    | false =>
        cases htx : a.voiceTx.broken with
        | true => exact Or.inr (Or.inl ⟨rfl, rfl, by simp [startVoiceSession, hrx, htx]⟩)
        | false => exact Or.inr (Or.inr ⟨rfl, rfl, by simp [startVoiceSession, hrx, htx]⟩)

/-- **START_VOICE_SESSION_BT_SCO** closes what it opened, in both failures, and
    goes on to the voice session outside of a call. -/
theorem startVoiceSessionBtSco_cases (session : VoiceSession) (mode : Mode)
    (sco voice : Handles) (a : Answers) :
    ((sco.rx.isSome || sco.tx.isSome) = true
        ∧ startVoiceSessionBtSco session mode sco voice a
          = { sco := sco, voice := voice, failed := false, calls := [] })
      ∨ sco = { rx := none, tx := none } ∧ ∃ config,
        (a.scoRx.broken = true
            ∧ startVoiceSessionBtSco session mode sco voice a
              = { sco := { rx := none, tx := none }, voice := voice, failed := true
                  calls := [.open .playbackSco config a.scoRx.handle, .close a.scoRx.handle] })
          ∨ (a.scoRx.broken = false ∧ a.scoTx.broken = true
            ∧ startVoiceSessionBtSco session mode sco voice a
              = { sco := { rx := none, tx := none }, voice := voice, failed := true
                  calls := [.open .playbackSco config a.scoRx.handle,
                    .open .captureSco config a.scoTx.handle, .close a.scoTx.handle,
                    .close a.scoRx.handle] })
          ∨ (a.scoRx.broken = false ∧ a.scoTx.broken = false
            ∧ (startVoiceSessionBtSco session mode sco voice a).sco
              = { rx := a.scoRx.handle, tx := a.scoTx.handle }
            ∧ (startVoiceSessionBtSco session mode sco voice a).failed = false
            ∧ (startVoiceSessionBtSco session mode sco voice a).voice
              = (if mode ≠ .inCall then (startVoiceSession session voice a).pcms else voice)
            ∧ ∃ more, (startVoiceSessionBtSco session mode sco voice a).calls
              = .open .playbackSco config a.scoRx.handle
                :: .open .captureSco config a.scoTx.handle :: more) := by
  by_cases hset : (sco.rx.isSome || sco.tx.isSome) = true
  · exact Or.inl ⟨hset, by rw [startVoiceSessionBtSco, if_pos hset]⟩
  · obtain rfl := handles_unset hset
    refine Or.inr ⟨rfl, if session.bluetoothWb then .voiceScoWb else .voiceSco, ?_⟩
    cases hrx : a.scoRx.broken with
    | true => exact Or.inl ⟨rfl, by simp [startVoiceSessionBtSco, hrx]⟩
    | false =>
        cases htx : a.scoTx.broken with
        | true => exact Or.inr (Or.inl ⟨rfl, rfl, by simp [startVoiceSessionBtSco, hrx, htx]⟩)
        | false =>
            refine Or.inr (Or.inr ⟨rfl, rfl, ?_⟩)
            by_cases hmode : mode = .inCall
            · simp [startVoiceSessionBtSco, hrx, htx, hmode]
            · simp [startVoiceSessionBtSco, hrx, htx, hmode]

end Cases

-- ── The model of the voice session ───────────────────────────────────────────

def Answer.pcmOpen (a : Answer) : PcmOpen :=
  match a.handle with
  | none => .null
  | some _ => if a.ready then .ready else .notReady

def Answers.pcmOpens (a : Answers) : PcmOpens where
  voiceRx := a.voiceRx.pcmOpen
  voiceTx := a.voiceTx.pcmOpen
  scoRx := a.scoRx.pcmOpen
  scoTx := a.scoTx.pcmOpen

/-- Which pointers of the two pairs are set. -/
def pcms (voice sco : Handles) : VoicePcms where
  voiceRx := voice.rx.isSome
  voiceTx := voice.tx.isSome
  scoRx := sco.rx.isSome
  scoTx := sco.tx.isSome

section Refinement

variable {session : VoiceSession} {voice sco : Handles} {a : Answers} {mode : Mode}

@[simp] theorem pcmOpen_set (a : Answer) : (a.pcmOpen != PcmOpen.null) = a.handle.isSome := by
  obtain ⟨handle, ready⟩ := a
  cases handle <;> cases ready <;> rfl

@[simp] theorem pcmOpen_notReady (a : Answer) : a.pcmOpen = .notReady ↔ a.broken = true := by
  obtain ⟨handle, ready⟩ := a
  cases handle <;> cases ready <;> simp [Answer.pcmOpen, Answer.broken]

/-- **REFINEMENT**: whether the handles are set is as in the model of the voice
    session. -/
theorem startVoiceSession_pcms :
    pcms (startVoiceSession session voice a).pcms sco
      = (pcms voice sco).startVoiceSession a.pcmOpens := by
  obtain ⟨hset, hstart⟩ | ⟨rfl, config, hunset⟩ := startVoiceSession_cases session voice a
  · rw [hstart, VoicePcms.startVoiceSession]
    exact (if_pos hset).symm
  · obtain ⟨hrx, hstart⟩ | ⟨hrx, htx, hstart⟩ | ⟨hrx, htx, hstart⟩ := hunset
    · simp [hstart, hrx, pcms, VoicePcms.startVoiceSession, VoicePcms.voiceOpen, Answers.pcmOpens]
    · simp [hstart, hrx, htx, pcms, VoicePcms.startVoiceSession, VoicePcms.voiceOpen,
        Answers.pcmOpens]
    · simp [hstart, hrx, htx, pcms, VoicePcms.startVoiceSession, VoicePcms.voiceOpen,
        Answers.pcmOpens]

theorem stopVoiceSession_pcms :
    pcms (stopVoiceSession voice).1 sco = (pcms voice sco).stopVoiceSession := rfl

theorem startVoiceSessionBtSco_pcms :
    pcms (startVoiceSessionBtSco session mode sco voice a).voice
        (startVoiceSessionBtSco session mode sco voice a).sco
      = (pcms voice sco).startVoiceSessionBtSco mode a.pcmOpens := by
  obtain ⟨hset, hstart⟩ | ⟨rfl, config, hunset⟩ :=
    startVoiceSessionBtSco_cases session mode sco voice a
  · rw [hstart, VoicePcms.startVoiceSessionBtSco]
    exact (if_pos hset).symm
  · obtain ⟨hrx, hstart⟩ | ⟨hrx, htx, hstart⟩ | ⟨hrx, htx, hsco, -, hvoice, -⟩ := hunset
    · simp [hstart, hrx, pcms, VoicePcms.startVoiceSessionBtSco, Answers.pcmOpens]
    · simp [hstart, hrx, htx, pcms, VoicePcms.startVoiceSessionBtSco, Answers.pcmOpens]
    · rw [hsco, hvoice]
      by_cases hmode : mode = .inCall
      · simp [hrx, htx, hmode, pcms, VoicePcms.startVoiceSessionBtSco, Answers.pcmOpens]
      · rw [if_pos hmode, startVoiceSession_pcms]
        simp [hrx, htx, hmode, pcms, VoicePcms.startVoiceSessionBtSco, Answers.pcmOpens]

end Refinement

-- ── A start that fails ───────────────────────────────────────────────────────

/-- A call that closes a handle closes one that was opened before it. -/
def ClosesOwn (before : List Call) (call : Call) : Prop :=
  ∀ handle, call = .close handle →
    ∃ port config h, handle = some h ∧ .open port config (some h) ∈ before

/-- **UNDONE**: no handle is left, every PCM was closed exactly once, and nothing
    else was closed. -/
structure Undone (p : Handles) (calls : List Call) : Prop where
  rx : p.rx = none
  tx : p.tx = none
  once : ∀ port config h, .open port config (some h) ∈ calls → calls.count (.close (some h)) = 1
  own : Each ClosesOwn calls

/-- Both PCMs of a pair are opened. -/
def OpensBoth (rx tx : Port) (calls : List Call) : Prop :=
  (∃ config handle, .open rx config handle ∈ calls)
    ∧ ∃ config handle, .open tx config handle ∈ calls

section Undone

variable {session : VoiceSession} {voice sco : Handles} {a : Answers} {mode : Mode}

theorem broken_handle {a : Answer} (h : a.broken = true) : ∃ n, a.handle = some n :=
  Option.isSome_iff_exists.mp (Bool.and_eq_true_iff.mp h).1

theorem each_ofList {P : List Call → Call → Prop} {calls : List Call} :
    Each P calls ↔ Fitting P [] calls := by
  have h := @each_append Call P calls []
  rw [List.nil_append] at h
  rw [h]
  exact ⟨fun h => h.2, fun h => ⟨each_nil, h⟩⟩

/-- **NO FAILED START OF THE VOICE SESSION IS UNDONE**: it leaves the handle that
    it should have closed. -/
theorem startVoiceSession_not_undone (h : (startVoiceSession session voice a).ret ≠ 0) :
    ¬ Undone (startVoiceSession session voice a).pcms (startVoiceSession session voice a).calls := by
  intro hundone
  obtain ⟨-, hstart⟩ | ⟨-, config, hunset⟩ := startVoiceSession_cases session voice a
  · exact h (by rw [hstart])
  · obtain ⟨hrx, hstart⟩ | ⟨-, htx, hstart⟩ | ⟨-, -, hstart⟩ := hunset
    · obtain ⟨n, hn⟩ := broken_handle hrx
      have hleft := hundone.rx
      rw [hstart] at hleft
      cases hleft.symm.trans hn
    · obtain ⟨n, hn⟩ := broken_handle htx
      have hleft := hundone.tx
      rw [hstart] at hleft
      cases hleft.symm.trans hn
    · exact h (by rw [hstart])

/-- The SCO PCMs are undone when the first could not be used, and when the
    second could not and there was a first. -/
theorem startVoiceSessionBtSco_undone
    (hnew : ∀ h, a.scoRx.handle = some h → a.scoTx.handle ≠ some h)
    (hfailed : (startVoiceSessionBtSco session mode sco voice a).failed = true)
    (hset : sco.rx ≠ none ∨ sco.tx ≠ none ∨ a.scoRx.handle ≠ none ∨ a.scoTx.broken = false) :
    Undone (startVoiceSessionBtSco session mode sco voice a).sco
      (startVoiceSessionBtSco session mode sco voice a).calls := by
  obtain ⟨-, hstart⟩ | ⟨rfl, config, hunset⟩ :=
    startVoiceSessionBtSco_cases session mode sco voice a
  · rw [hstart] at hfailed
    cases hfailed
  · obtain ⟨hrx, hstart⟩ | ⟨hrx, htx, hstart⟩ | ⟨-, -, -, hok, -⟩ := hunset
    · obtain ⟨n, hn⟩ := broken_handle hrx
      rw [hstart, hn]
      refine ⟨rfl, rfl, ?_, each_ofList.mpr ?_⟩
      · intro port config' h hmem
        obtain ⟨-, -, rfl⟩ : port = .playbackSco ∧ config' = config ∧ h = n := by simpa using hmem
        simp
      · simp [Fitting, ClosesOwn]
    · obtain ⟨m, hm⟩ := broken_handle htx
      obtain ⟨n, hn⟩ : ∃ n, a.scoRx.handle = some n := by
        rcases hset with hset | hset | hset | hset
        · exact absurd rfl hset
        · exact absurd rfl hset
        · exact Option.ne_none_iff_exists'.mp hset
        · rw [htx] at hset
          cases hset
      have hne : n ≠ m := fun heq => hnew n hn (heq ▸ hm)
      rw [hstart, hn, hm]
      refine ⟨rfl, rfl, ?_, each_ofList.mpr ?_⟩
      · intro port config' h hmem
        have hh : h = n ∨ h = m := by
          obtain ⟨-, -, hh⟩ | ⟨-, -, hh⟩ : (port = .playbackSco ∧ config' = config ∧ h = n)
              ∨ port = .captureSco ∧ config' = config ∧ h = m := by simpa using hmem
          · exact Or.inl hh
          · exact Or.inr hh
        rcases hh with rfl | rfl
        · simp [Ne.symm hne]
        · simp [hne]
      · refine ⟨fun _ h => (by cases h), fun _ h => (by cases h), ?_, ?_, trivial⟩
        · intro handle h
          exact ⟨.captureSco, config, m, (Call.close.inj h).symm, by simp⟩
        · intro handle h
          exact ⟨.playbackSco, config, n, (Call.close.inj h).symm, by simp⟩
    · rw [hok] at hfailed
      cases hfailed

/-- Without the first PCM, the failure of the second closes `NULL`. -/
theorem startVoiceSessionBtSco_closes_null (hsco : sco = { rx := none, tx := none })
    (hrx : a.scoRx.handle = none) (htx : a.scoTx.broken = true) :
    (startVoiceSessionBtSco session mode sco voice a).failed = true
      ∧ ¬ Each ClosesOwn (startVoiceSessionBtSco session mode sco voice a).calls := by
  have hok : a.scoRx.broken = false := by rw [Answer.broken, hrx]; rfl
  obtain ⟨hset, -⟩ | ⟨-, config, hunset⟩ := startVoiceSessionBtSco_cases session mode sco voice a
  · rw [hsco] at hset
    cases hset
  · obtain ⟨hbroken, -⟩ | ⟨-, -, hstart⟩ | ⟨-, hok', -⟩ := hunset
    · rw [hok] at hbroken
      cases hbroken
    · rw [hstart, hrx]
      refine ⟨rfl, fun hown => ?_⟩
      obtain ⟨-, -, -, hlast, -⟩ := each_ofList.mp hown
      obtain ⟨port, config', h, hnull, -⟩ := hlast none rfl
      cases hnull
    · rw [htx] at hok'
      cases hok'

theorem opensBoth_cons (rx tx : Port) (config : Config) (handle handle' : Option Nat)
    (more : List Call) :
    OpensBoth rx tx (.open rx config handle :: .open tx config handle' :: more) :=
  ⟨⟨config, handle, List.mem_cons_self⟩,
    ⟨config, handle', List.mem_cons_of_mem _ List.mem_cons_self⟩⟩

theorem startVoiceSessionBtSco_opensBoth (session : VoiceSession) (mode : Mode) (voice : Handles)
    (hrx : a.scoRx.broken = false) :
    OpensBoth .playbackSco .captureSco
      (startVoiceSessionBtSco session mode { rx := none, tx := none } voice a).calls := by
  obtain ⟨hset, -⟩ | ⟨-, config, hunset⟩ :=
    startVoiceSessionBtSco_cases session mode { rx := none, tx := none } voice a
  · cases hset
  · obtain ⟨hbroken, -⟩ | ⟨-, -, hstart⟩ | ⟨-, -, -, -, -, more, hstart⟩ := hunset
    · rw [hrx] at hbroken
      cases hbroken
    · rw [hstart]
      exact opensBoth_cons ..
    · rw [hstart]
      exact opensBoth_cons ..

end Undone

/-- A failed start of the voice session is undone, and the next one opens both
    PCMs. -/
def SessionUndone (r : Started) : Prop :=
  Undone r.pcms r.calls ∧ ∀ (session : VoiceSession) (a : Answers), a.voiceRx.broken = false →
    OpensBoth .playbackVoice .captureVoice (startVoiceSession session r.pcms a).calls

/-- The same for the SCO PCMs. -/
def ScoUndone (r : ScoStarted) : Prop :=
  Undone r.sco r.calls ∧ ∀ (session : VoiceSession) (mode : Mode) (voice : Handles) (a : Answers),
    a.scoRx.broken = false →
    OpensBoth .playbackSco .captureSco (startVoiceSessionBtSco session mode r.sco voice a).calls

/-- **FAILED STARTS**: `start_voice_session` undoes none of its failures;
    `start_voice_session_bt_sco` undoes them all but one, the failure of the
    second PCM when the first was `NULL`.  A new PCM has a handle of its own. -/
theorem failed_starts_undone (session : VoiceSession) (mode : Mode) (voice sco : Handles)
    (a : Answers) (hnew : ∀ h, a.scoRx.handle = some h → a.scoTx.handle ≠ some h) :
    (((startVoiceSession session voice a).ret ≠ 0 →
          SessionUndone (startVoiceSession session voice a))
        ↔ voice.rx ≠ none ∨ voice.tx ≠ none
          ∨ (a.voiceRx.broken = false ∧ a.voiceTx.broken = false))
      ∧ (((startVoiceSessionBtSco session mode sco voice a).failed = true →
          ScoUndone (startVoiceSessionBtSco session mode sco voice a))
        ↔ sco.rx ≠ none ∨ sco.tx ≠ none ∨ a.scoRx.handle ≠ none ∨ a.scoTx.broken = false) := by
  refine ⟨⟨fun h => ?_, fun h hfailed => ?_⟩, ⟨fun h => ?_, fun h hfailed => ?_⟩⟩
  · have hret : (startVoiceSession session voice a).ret = 0 :=
      Decidable.byContradiction fun hne => startVoiceSession_not_undone hne (h hne).1
    obtain ⟨hset, -⟩ | ⟨-, config, hunset⟩ := startVoiceSession_cases session voice a
    · rw [Bool.or_eq_true, Option.isSome_iff_ne_none, Option.isSome_iff_ne_none] at hset
      exact hset.imp_right Or.inl
    · obtain ⟨-, hstart⟩ | ⟨-, -, hstart⟩ | ⟨hrx, htx, -⟩ := hunset
      · rw [hstart] at hret
        cases hret
      · rw [hstart] at hret
        cases hret
      · exact Or.inr (Or.inr ⟨hrx, htx⟩)
  · refine absurd ?_ hfailed
    obtain ⟨-, hstart⟩ | ⟨rfl, config, hunset⟩ := startVoiceSession_cases session voice a
    · rw [hstart]
    · obtain ⟨hrx, -⟩ | ⟨-, htx, -⟩ | ⟨-, -, hstart⟩ := hunset
      · simp [hrx] at h
      · simp [htx] at h
      · rw [hstart]
  · refine Decidable.byContradiction fun hno => ?_
    simp only [not_or, not_not, Bool.not_eq_false] at hno
    obtain ⟨hsrx, hstx, hrx, htx⟩ := hno
    obtain ⟨hfailed, hnull⟩ := @startVoiceSessionBtSco_closes_null session voice _ _ mode
      (handles_none hsrx hstx) hrx htx
    exact hnull (h hfailed).1.own
  · have hundone := startVoiceSessionBtSco_undone hnew hfailed h
    refine ⟨hundone, fun session' mode' voice' a' hrx => ?_⟩
    rw [handles_none hundone.rx hundone.tx]
    exact startVoiceSessionBtSco_opensBoth session' mode' voice' hrx

def noHandles : Handles := { rx := none, tx := none }

/-- The second SCO PCM is not ready. -/
def secondNotReady : Answers where
  voiceRx := { handle := some 1, ready := true }
  voiceTx := { handle := some 2, ready := false }
  scoRx := { handle := some 3, ready := true }
  scoTx := { handle := some 4, ready := false }

theorem failed_starts_undone_secondNotReady :
    ScoUndone (startVoiceSessionBtSco plainSession .inCommunication noHandles noHandles
      secondNotReady) := by
  have hstarts := failed_starts_undone plainSession .inCommunication noHandles noHandles
    secondNotReady (fun h heq => by rw [← heq]; decide)
  exact hstarts.2.mpr (Or.inr (Or.inr (Or.inl (by decide)))) (by decide)

/-- The first voice PCM is not ready: its handle stays, and the next start finds
    the PCMs open. -/
theorem voice_rx_left_behind :
    ¬ ∀ (session : VoiceSession) (voice : Handles) (a : Answers),
      (startVoiceSession session voice a).ret ≠ 0 →
        SessionUndone (startVoiceSession session voice a) := by
  intro hclaim
  have hundone := (hclaim plainSession noHandles
    { secondNotReady with voiceRx := { handle := some 1, ready := false } } (by decide)).1
  have hleft := hundone.rx
  revert hleft
  decide

end VoicePcm

end AudioHal

import Universal7580.AudioPrimaryProofs
import Universal7580.GuardedProofs

/-! # The lock of the inputs

    The functions of the HAL at the granularity of its mutexes.  `out_write` and
    `out_set_parameters` record the active input under the device lock, drop
    that lock and the one of the stream, and come back to put the recorded input
    in standby; both assert then that it is still the active one.

    Every function that starts or stops an input does so while it holds
    `lock_inputs`, so the assertion cannot fail: `active_input_assertion`. -/

namespace AudioHal

open AudioRouting Run Guarded

-- ── Mutexes and local state ───────────────────────────────────────────────

inductive Mutex where
  | lockInputs
  | adevLock
  | outPreLock (n : Nat)
  | outLock (n : Nat)
  | inPreLock (n : Nat)
  | inLock (n : Nat)
  deriving DecidableEq, Repr

/-- The local variables that the functions take decisions on: `in`, the recorded
    input, and whether a start succeeded. -/
structure Locals where
  input : Option Nat
  ok : Bool
  deriving DecidableEq, Repr

def entered : Locals := { input := none, ok := false }

abbrev HalCode := Code Mutex Adev Locals

/-- The recorded input, where there is one. -/
def Locals.recorded (l : Locals) : Nat := l.input.getD 0

-- ── The functions ─────────────────────────────────────────────────────────

section Functions

variable (view : StreamOut → InputView)

/-- `lock_output_stream`. -/
def lockOutputStream (n : Nat) (k : HalCode) : HalCode :=
  .lock (fun _ => .outPreLock n) <| .lock (fun _ => .outLock n) <|
    .unlock (fun _ => .outPreLock n) k

/-- `lock_input_stream`, on the stream that the local variables name. -/
def lockInputStream (n : Locals → Nat) (k : HalCode) : HalCode :=
  .lock (fun l => .inPreLock (n l)) <| .lock (fun l => .inLock (n l)) <|
    .unlock (fun l => .inPreLock (n l)) k

/-- A section under the device lock. -/
def underAdevLock (f : Adev → Locals → Adev × Locals) (k : HalCode) : HalCode :=
  .lock (fun _ => .adevLock) <| .act f <| .unlock (fun _ => .adevLock) k

/-- `out_standby`. -/
def outStandbyCode (n : Nat) (k : HalCode) : HalCode :=
  lockOutputStream n <|
    .branch (fun s _ => (s.outs n).standby)
      (.unlock (fun _ => .outLock n) k)
      (underAdevLock (fun s l => (s.doOutStandby n, l)) <| .unlock (fun _ => .outLock n) k)

/-- The end of `out_write` and `out_set_parameters`: the recorded input goes to
    standby.  The variable `in` is dead afterwards. -/
def forceStandbyCode : HalCode :=
  lockInputStream Locals.recorded <|
    .lock (fun _ => .adevLock) <|
    .fatalIf (fun s l => s.activeInput != l.input) <|
    .act (fun s l => (s.doInStandby l.recorded, l)) <|
    .unlock (fun _ => .adevLock) <|
    .unlock (fun l => .inLock l.recorded) <|
    .act (fun s l => (s, { l with input := none })) <|
    .unlock (fun _ => .lockInputs) .ret

/-- `out_write` from its label `exit`; `failed` is `ret != 0`. -/
def exitWriteCode (n : Nat) (failed : Bool) : HalCode :=
  let finish : HalCode := .branch (fun _ l => l.input.isSome) forceStandbyCode .ret
  .unlock (fun _ => .outLock n) <| if failed then outStandbyCode n finish else finish

/-- `out_write_offload`.  Where it returns without memory for the usecase it
    leaves the stream locked. -/
def writeOffloadCode (n : Nat) (w : WriteResult) : HalCode :=
  let start : HalCode :=
    .act (fun s l =>
      (if (s.outs n).offloadState = .playing then s
        else s.setOut n fun o =>
          { o with compr := o.compr.map fun _ => true, offloadState := .playing }, l)) <|
    .unlock (fun _ => .outLock n) .ret
  .branch (fun s _ => (s.outs n).offloadState = .pausedFlushed)
    (underAdevLock (fun s l =>
      let r := s.enableOutputPath view n w.allocFlushed
      (r.1, { l with ok := r.2 })) <|
      .branch (fun _ l => l.ok) start .ret)
    start

/-- `out_write` from its label `false_alarm`.  `newReference` says that the echo
    reference has changed, for which the device lock is taken.  The function
    returns from an offload stream at once, also with `lock_inputs` held. -/
def writeCode (n : Nat) (w : WriteResult) (newReference : Bool) : HalCode :=
  let pcm : HalCode :=
    .branch (fun s _ => w.wrote || (s.outs n).pcmDevList.isEmpty)
      (exitWriteCode n false) (exitWriteCode n true)
  .branch (fun s _ => (s.outs n).usecase = .offload)
    (writeOffloadCode view n w)
    (if newReference then underAdevLock (fun s l => (s, l)) pcm else pcm)

/-- `out_write`. -/
def outWriteCode (n : Nat) (w : WriteResult) (newReference : Bool) : HalCode :=
  lockOutputStream n <|
    .branch (fun s _ => (s.outs n).standby)
      (.unlock (fun _ => .outLock n) <| .lock (fun _ => .lockInputs) <| lockOutputStream n <|
        .branch (fun s _ => (s.outs n).standby)
          (.lock (fun _ => .adevLock) <|
            .act (fun s l =>
              let r := s.startOutputStream view n w
              (r.1, { l with ok := r.2 })) <|
            .branch (fun _ l => l.ok)
              (.act (fun s l =>
                let s := s.setOut n fun o => { o with standby := false }
                (s, { l with input := s.forcedInput })) <|
                .unlock (fun _ => .adevLock) <|
                -- `lock_inputs` stays locked for the recorded input
                .branch (fun _ l => l.input.isSome)
                  (writeCode view n w newReference)
                  (.unlock (fun _ => .lockInputs) <| writeCode view n w newReference))
              (.unlock (fun _ => .adevLock) <| .unlock (fun _ => .lockInputs) <|
                exitWriteCode n true))
          (.unlock (fun _ => .lockInputs) <| writeCode view n w newReference))
      (writeCode view n w newReference)

/-- The routing part of `out_set_parameters`. -/
def Adev.routeOutput (s : Adev) (n : Nat) (val : Devices) (alloc : Bool) : Adev :=
  if val ≠ 0 then
    let s := s.setOut n fun o => { o with devices := val }
    let s := if (s.outs n).standby then s else s.rerouteOutput view n val
    (s.updateBtSco n).updateVoiceCall view n alloc
  else s

/-- The input that `out_set_parameters` records. -/
def Adev.resetInput (s : Adev) (n : Nat) (val : Devices) : Option Nat :=
  if (s.outs n).devices ≠ val ∧ val ≠ 0 ∧ (s.outs n).standby = false
      ∧ (s.outs n).usecase = .playback then
    s.forcedInput
  else none

/-- `out_set_parameters` with a routing value. -/
def outSetParametersCode (n : Nat) (val : Devices) (alloc : Bool) : HalCode :=
  .lock (fun _ => .lockInputs) <| lockOutputStream n <|
    underAdevLock (fun s l =>
      (s.routeOutput view n val alloc, { l with input := s.resetInput n val })) <|
    .unlock (fun _ => .outLock n) <|
    .branch (fun _ l => l.input.isSome) forceStandbyCode (.unlock (fun _ => .lockInputs) .ret)

/-- `in_standby_l`, with `lock_inputs` held. -/
def inStandbyLCode (n : Nat) (k : HalCode) : HalCode :=
  lockInputStream (fun _ => n) <|
    .branch (fun s _ => (s.ins n).standby)
      (.unlock (fun _ => .inLock n) k)
      (underAdevLock (fun s l => (s.doInStandby n, l)) <| .unlock (fun _ => .inLock n) k)

/-- `in_standby`. -/
def inStandbyCode (n : Nat) : HalCode :=
  .lock (fun _ => .lockInputs) <| inStandbyLCode n <| .unlock (fun _ => .lockInputs) .ret

/-- `in_read`. -/
def inReadCode (n : Nat) (w : ReadResult) : HalCode :=
  let failed : HalCode := .unlock (fun _ => .inLock n) <| inStandbyCode n
  let read : HalCode :=
    .branch (fun s _ => w.didRead && !(s.ins n).pcmDevList.isEmpty)
      (.unlock (fun _ => .inLock n) .ret) failed
  lockInputStream (fun _ => n) <|
    .branch (fun s _ => (s.ins n).standby)
      (.unlock (fun _ => .inLock n) <| .lock (fun _ => .lockInputs) <|
        lockInputStream (fun _ => n) <|
        .branch (fun s _ => (s.ins n).standby)
          (underAdevLock (fun s l =>
            let r := s.startInputStream view n w
            (r.1, { l with ok := r.2 })) <|
            .unlock (fun _ => .lockInputs) <|
            .branch (fun _ l => l.ok)
              (.act (fun s l => (s.setIn n fun i => { i with standby := false }, l)) read)
              failed)
          (.unlock (fun _ => .lockInputs) read))
      read

/-- A function that works on an input under all its locks:
    `in_set_parameters` and `add_remove_audio_effect`. -/
def onInputCode (n : Nat) (f : Adev → Adev) : HalCode :=
  .lock (fun _ => .lockInputs) <| lockInputStream (fun _ => n) <|
    underAdevLock (fun s l => (f s, l)) <|
    .unlock (fun _ => .inLock n) <| .unlock (fun _ => .lockInputs) .ret

/-- `adev_close_output_stream`. -/
def closeOutputCode (n : Nat) : HalCode :=
  outStandbyCode n <| .act (fun s l => (s.setOut n fun o => { o with isOpen := false }, l)) .ret

/-- `adev_close_input_stream`. -/
def closeInputCode (n : Nat) : HalCode :=
  .lock (fun _ => .lockInputs) <| inStandbyLCode n <|
    .act (fun s l => (s.setIn n fun i => { i with isOpen := false }, l)) <|
    .unlock (fun _ => .lockInputs) .ret

/-- The calls of the threads. -/
inductive HalCall where
  | outWrite (n : Nat) (w : WriteResult) (newReference : Bool)
  | outStandby (n : Nat)
  | outSetParameters (n : Nat) (val : Devices) (alloc : Bool)
  | closeOutput (n : Nat)
  | inRead (n : Nat) (w : ReadResult)
  | inStandby (n : Nat)
  | inSetParameters (n : Nat) (source : Option Source) (routing : Option Devices)
  | addRemoveAudioEffect (n : Nat) (auxChanged : Bool) (aec : Option Bool)
  | closeInput (n : Nat)
  deriving DecidableEq, Repr

def halProgram : HalCall → HalCode
  | .outWrite n w newReference => outWriteCode view n w newReference
  | .outStandby n => outStandbyCode n .ret
  | .outSetParameters n val alloc => outSetParametersCode view n val alloc
  | .closeOutput n => closeOutputCode n
  | .inRead n w => inReadCode view n w
  | .inStandby n => inStandbyCode n
  | .inSetParameters n source routing =>
      onInputCode n fun s => s.inSetParameters view n source routing
  | .addRemoveAudioEffect n auxChanged aec =>
      onInputCode n fun s => s.addRemoveAudioEffect view n auxChanged aec
  | .closeInput n => closeInputCode n

end Functions

-- ── The calls as operations of the HAL ────────────────────────────────────

/-- The operation of the HAL that a call is when nothing else runs. -/
def HalCall.act : HalCall → Act
  | .outWrite n w _ => .write n w
  | .outStandby n => .outStandby n
  | .outSetParameters n val alloc => .outSetParameters n val alloc
  | .closeOutput n => .closeOutput n
  | .inRead n w => .read n w
  | .inStandby n => .inStandby n
  | .inSetParameters n source routing => .inSetParameters n source routing
  | .addRemoveAudioEffect n auxChanged aec => .effect n auxChanged aec
  | .closeInput n => .closeInput n

/-- The device without the note which mutexes were left locked. -/
def Adev.unlocked (s : Adev) : Adev :=
  { s with lockInputs := false, outs := fun n => { s.outs n with locked := false } }

section Alone

variable {view : StreamOut → InputView} {s : Adev} {n : Nat}

theorem alone_outStandby (k : HalCode) (l : Locals) :
    (outStandbyCode n k).alone s l = k.alone (s.outStandby n) l := by
  simp only [outStandbyCode, lockOutputStream, underAdevLock, Code.alone]
  rw [Adev.outStandby]
  split <;> rfl

theorem alone_exitWrite (failed : Bool) (l : Locals) :
    ((exitWriteCode n failed).alone s l).1
      = (if failed then s.outStandby n else s).forceInStandby l.input := by
  have hfinish : ∀ s : Adev, ((Code.branch (fun _ l => l.input.isSome) forceStandbyCode
      .ret : HalCode).alone s l).1 = s.forceInStandby l.input := by
    intro s
    obtain ⟨input, ok⟩ := l
    cases input with
    | none => rfl
    | some m => rfl
  cases failed with
  | true =>
      simp only [exitWriteCode, Code.alone, if_true, alone_outStandby]
      exact hfinish _
  | false => exact hfinish s

theorem alone_writePcm (hpcm : (s.outs n).usecase ≠ .offload) (w : WriteResult)
    (newReference : Bool) (l : Locals) :
    ((writeCode view n w newReference).alone s l).1 = (s.writePcm n w).forceInStandby l.input := by
  have hwrite : ((Code.branch (fun s _ => w.wrote || (s.outs n).pcmDevList.isEmpty)
      (exitWriteCode n false) (exitWriteCode n true) : HalCode).alone s l).1
      = (s.writePcm n w).forceInStandby l.input := by
    rw [Code.alone, Adev.writePcm]
    split
    · exact alone_exitWrite false l
    · exact alone_exitWrite true l
  simp only [writeCode, Code.alone, hpcm, decide_false, Bool.false_eq_true, if_false]
  cases newReference with
  | true => exact hwrite
  | false => exact hwrite

theorem unlocked_locked (s : Adev) (n : Nat) :
    (s.setOut n fun o => { o with locked := true }).unlocked = s.unlocked := by
  have houts : (fun m => { (s.setOut n fun o => { o with locked := true }).outs m with
      locked := false }) = fun m => { s.outs m with locked := false } := by
    funext m
    by_cases hm : m = n
    · simp [Adev.setOut, hm]
    · simp [Adev.setOut, hm]
  exact congrArg (fun outs => { s with lockInputs := false, outs := outs }) houts

theorem alone_writeOffload (hoffload : (s.outs n).usecase = .offload) (w : WriteResult)
    (newReference : Bool) (l : Locals) :
    ((writeCode view n w newReference).alone s l).1.unlocked
      = (s.writeOffload view n w).unlocked := by
  simp only [writeCode, Code.alone, hoffload, decide_true, if_true, writeOffloadCode, underAdevLock]
  rw [Adev.writeOffload]
  by_cases hflushed : (s.outs n).offloadState = .pausedFlushed
  · simp only [hflushed, decide_true, if_true]
    obtain ⟨s₁, ok, hpath⟩ : ∃ s₁ ok, s.enableOutputPath view n w.allocFlushed = (s₁, ok) :=
      ⟨_, _, rfl⟩
    simp only [hpath]
    cases ok with
    | true => rfl
    | false => exact (unlocked_locked s₁ n).symm
  · simp only [hflushed, decide_false, Bool.false_eq_true, if_false]

/-- Starting a stream, also in vain, is not what takes it out of standby. -/
theorem startOutputStream_standby (s : Adev) (n : Nat) (w : WriteResult) :
    ((s.startOutputStream view n w).1.outs n).standby = (s.outs n).standby := by
  have hledger : ((s.startOutputStream view n w).1.ledger.outs n).standby = (s.outs n).standby := by
    obtain ⟨-, hstart⟩ | ⟨-, -, -, hledger⟩ | ⟨-, -, hledger⟩ := @ledger_startOutputStream view s n w
    · rw [hstart]
      rfl
    · rw [hledger, Ledger.setOut_outs_self]
      rfl
    · rw [hledger, Ledger.stopOutput_setOut _ n _ rfl rfl]
      split
      · rw [Ledger.setOut_outs_self]
        rfl
      · split
        · rw [Ledger.drop_outs, Ledger.setOut_outs_self]
          rfl
        · rw [Ledger.drop_outs, Ledger.setOut_outs_self]
          rfl
  exact hledger

/-- `out_write` by itself. -/
theorem alone_outWrite {w : WriteResult} {s' : Adev} (hw : s.outWrite view n w = some s')
    (newReference : Bool) :
    ((outWriteCode view n w newReference).alone s entered).1.unlocked = s'.unlocked := by
  have hwrite : ∀ (s₁ : Adev) (l : Locals) (s₂ : Adev),
      (if (s₁.outs n).usecase = .offload then some (s₁.writeOffload view n w)
        else some ((s₁.writePcm n w).forceInStandby l.input)) = some s₂ →
      ((writeCode view n w newReference).alone s₁ l).1.unlocked = s₂.unlocked := by
    intro s₁ l s₂ h
    split at h
    · rename_i hoffload
      rw [alone_writeOffload hoffload, Option.some.inj h]
    · rename_i hpcm
      rw [alone_writePcm hpcm, Option.some.inj h]
  rw [Adev.outWrite] at hw
  by_cases hstandby : (s.outs n).standby = true
  · rw [if_pos hstandby] at hw
    split at hw
    · cases hw
    · have hstays := (@startOutputStream_standby view s n w).trans hstandby
      simp only [outWriteCode, lockOutputStream, Code.alone, hstandby, if_true]
      obtain ⟨s₁, ok, hstart⟩ : ∃ s₁ ok, s.startOutputStream view n w = (s₁, ok) := ⟨_, _, rfl⟩
      simp only [hstart] at hw hstays ⊢
      cases ok with
      | false =>
          obtain rfl := Option.some.inj hw
          simp only [Bool.false_eq_true, if_false, alone_exitWrite, if_true]
          rw [Adev.outStandby, if_pos hstays]
          rfl
      | true =>
          simp only [if_true, ite_self] at hw ⊢
          split at hw
          · rename_i hoffload
            rw [alone_writeOffload hoffload, ← Option.some.inj hw]
            rfl
          · rename_i hpcm
            rw [alone_writePcm hpcm, ← Option.some.inj hw]
  · rw [if_neg hstandby] at hw
    simp only [outWriteCode, lockOutputStream, Code.alone, hstandby, Bool.false_eq_true, if_false]
    exact hwrite s entered s' hw

theorem alone_forceStandby (l : Locals) (k : HalCode)
    (hk : ∀ s, (k.alone s l).1 = s) :
    ((Code.branch (fun _ l => l.input.isSome) forceStandbyCode k : HalCode).alone s l).1
      = s.forceInStandby l.input := by
  obtain ⟨input, ok⟩ := l
  cases input with
  | none => exact hk s
  | some m => rfl

theorem alone_outSetParameters (s : Adev) (n : Nat) (val : Devices) (alloc : Bool) :
    ((outSetParametersCode view n val alloc).alone s entered).1
      = s.outSetParameters view n val alloc :=
  alone_forceStandby _ _ fun _ => rfl

theorem alone_inStandbyL (k : HalCode) (l : Locals) :
    (inStandbyLCode n k).alone s l = k.alone (s.doInStandby n) l := by
  simp only [inStandbyLCode, lockInputStream, underAdevLock, Code.alone]
  split
  · rename_i hstandby
    rw [doInStandby_of_standby hstandby]
  · rfl

theorem alone_inRead {w : ReadResult} {s' : Adev} (hr : s.inRead view n w = some s') :
    ((inReadCode view n w).alone s entered).1 = s' := by
  have hread : ∀ (s₁ : Adev) (l : Locals) (s₂ : Adev),
      (if w.didRead && !(s₁.ins n).pcmDevList.isEmpty then some s₁
        else if s₁.lockInputs then none else some (s₁.doInStandby n)) = some s₂ →
      ((Code.branch (fun s _ => w.didRead && !(s.ins n).pcmDevList.isEmpty)
        (.unlock (fun _ => .inLock n) .ret)
        (.unlock (fun _ => .inLock n) <| inStandbyCode n) : HalCode).alone s₁ l).1 = s₂ := by
    intro s₁ l s₂ h
    rw [Code.alone]
    split at h
    · rename_i hdone
      rw [if_pos hdone]
      exact Option.some.inj h
    · rename_i hfailed
      rw [if_neg hfailed]
      split at h
      · cases h
      · simp only [inStandbyCode, Code.alone, alone_inStandbyL]
        exact Option.some.inj h
  rw [Adev.inRead] at hr
  by_cases hstandby : (s.ins n).standby = true
  · rw [if_pos hstandby] at hr
    split at hr
    · cases hr
    · simp only [inReadCode, lockInputStream, underAdevLock, Code.alone, hstandby, if_true]
      obtain ⟨s₁, ok, hstart⟩ : ∃ s₁ ok, s.startInputStream view n w = (s₁, ok) := ⟨_, _, rfl⟩
      simp only [hstart] at hr ⊢
      cases ok with
      | false =>
          simp only [Bool.false_eq_true, if_false, inStandbyCode, Code.alone, alone_inStandbyL]
          exact Option.some.inj hr
      | true => exact hread _ _ s' hr
  · rw [if_neg hstandby] at hr
    simp only [inReadCode, lockInputStream, Code.alone, hstandby, Bool.false_eq_true, if_false]
    exact hread s entered s' hr

/-- **CALLS ARE OPERATIONS**: a call that runs by itself has the effect of the
    operation, up to the note of the mutexes that are left locked. -/
theorem alone_program {call : HalCall} {s' : Adev} (hstep : step view s call.act = some s') :
    ((halProgram view call).alone s entered).1.unlocked = s'.unlocked := by
  cases call with
  | outWrite n w newReference =>
      rw [HalCall.act, step] at hstep
      exact alone_outWrite (onOut_eq_some hstep).2 newReference
  | outStandby n =>
      rw [HalCall.act, step] at hstep
      obtain rfl := Option.some.inj (onOut_eq_some hstep).2
      rw [halProgram, alone_outStandby]
      rfl
  | outSetParameters n val alloc =>
      rw [HalCall.act, step] at hstep
      obtain ⟨-, hs⟩ := onOut_eq_some hstep
      split at hs
      · cases hs
      · rw [halProgram, alone_outSetParameters, Option.some.inj hs]
  | closeOutput n =>
      rw [HalCall.act, step] at hstep
      obtain rfl := Option.some.inj (onOut_eq_some hstep).2
      rw [halProgram, closeOutputCode, alone_outStandby]
      rfl
  | inRead n w =>
      rw [HalCall.act, step] at hstep
      split at hstep
      · rw [halProgram, alone_inRead hstep]
      · cases hstep
  | inStandby n =>
      rw [HalCall.act, step] at hstep
      obtain ⟨-, rfl⟩ := onIn_eq_some hstep
      simp only [halProgram, inStandbyCode, Code.alone, alone_inStandbyL]
  | inSetParameters n source routing =>
      rw [HalCall.act, step] at hstep
      obtain ⟨-, rfl⟩ := onIn_eq_some hstep
      rfl
  | addRemoveAudioEffect n auxChanged aec =>
      rw [HalCall.act, step] at hstep
      obtain ⟨-, rfl⟩ := onIn_eq_some hstep
      rfl
  | closeInput n =>
      rw [HalCall.act, step] at hstep
      obtain ⟨-, rfl⟩ := onIn_eq_some hstep
      simp only [halProgram, closeInputCode, Code.alone, alone_inStandbyL]
      rfl

/-- **REFINEMENT**: a call that returns before another thread takes a step leaves
    the device of the HAL whose operations are atomic. -/
theorem lone_call {T : Type} [DecidableEq T] {t : T} {call : HalCall} {steps : Nat}
    {c c' : Config T Mutex Adev Locals} {s' : Adev}
    (hrun : run (Guarded.step (halProgram view) entered) c
      (.call t call :: List.replicate steps (.go t)) = some c')
    (hret : c'.code t = .ret) (hstep : step view c.shared call.act = some s') :
    c'.shared.unlocked = s'.unlocked := by
  obtain ⟨c₁, hcall, hrest⟩ := run_cons_eq_some hrun
  have halone := alone_run steps hrest hret
  obtain ⟨hcode, hloc, hshared⟩ :
      c₁.code t = halProgram view call ∧ c₁.loc t = entered ∧ c₁.shared = c.shared := by
    rw [Guarded.step] at hcall
    split at hcall
    · obtain rfl := Option.some.inj hcall
      exact ⟨Function.update_self .., Function.update_self .., rfl⟩
    · cases hcall
  rw [hcode, hloc, hshared] at halone
  rw [← alone_program hstep, halone]

end Alone

-- ── The discipline ────────────────────────────────────────────────────────

/-- A thread that has recorded an input holds `lock_inputs`. -/
def Recorded (held : Option (Option Nat)) (l : Locals) : Prop := l.input.isSome = true → held ≠ none

/-- The recorded input is the active one. -/
def Watched (held : Option (Option Nat)) (l : Locals) : Prop :=
  ∀ n, l.input = some n → held = some (some n)

abbrev InputsSafe (k : HalCode) (held : Option (Option Nat)) (l : Locals) : Prop :=
  Safe Mutex.lockInputs Adev.activeInput Recorded k held l

section Discipline

variable {view : StreamOut → InputView} {held : Option (Option Nat)} {l : Locals} {k : HalCode}
  {n : Nat}

theorem recorded_of_watched (h : Watched held l) : Recorded held l := by
  intro hsome hnone
  obtain ⟨n, hn⟩ := Option.isSome_iff_exists.mp hsome
  exact nomatch hnone.symm.trans (h n hn)

theorem watched_of_none (h : l.input = none) : Watched held l := fun _ hn => nomatch h.symm.trans hn

theorem safe_lockOutputStream (hk : InputsSafe k held l) : InputsSafe (lockOutputStream n k) held l :=
  safe_lock (fun h => nomatch h) <| safe_lock (fun h => nomatch h) <|
    safe_unlock (fun h => nomatch h) hk

theorem safe_lockInputStream {m : Locals → Nat} (hk : InputsSafe k held l) :
    InputsSafe (lockInputStream m k) held l :=
  safe_lock (fun h => nomatch h) <| safe_lock (fun h => nomatch h) <|
    safe_unlock (fun h => nomatch h) hk

/-- A section under the device lock that leaves the active input alone. -/
theorem safe_underAdevLock {f : Adev → Locals → Adev × Locals} (hQ : Recorded held l)
    (hf : ∀ s, (f s l).1.activeInput = s.activeInput)
    (hk : ∀ s, Agrees Adev.activeInput held s → InputsSafe k held (f s l).2) :
    InputsSafe (underAdevLock f k) held l :=
  safe_lock (fun h => nomatch h) <| safe_act hQ hf fun s hs =>
    safe_unlock (fun h => nomatch h) (hk s hs)

theorem safe_outStandby (hk : InputsSafe k held l) : InputsSafe (outStandbyCode n k) held l := by
  refine safe_lockOutputStream (safe_branch (safe_unlock (fun h => nomatch h) hk) ?_)
  refine safe_underAdevLock (safe_here hk) (fun s => ?_) fun _ _ =>
    safe_unlock (fun h => nomatch h) hk
  exact activeInput_of_handles (handles_doOutStandby s n)

/-- **THE ASSERTION**: the recorded input is still the active one. -/
theorem safe_forceStandby {m : Nat} (hinput : l.input = some m) :
    InputsSafe forceStandbyCode (some (some m)) l := by
  have hQ : ∀ v, Recorded (some v) l := fun v _ h => nomatch h
  refine safe_lockInputStream (safe_lock (fun h => nomatch h) ⟨hQ _, fun s hs => ⟨?_, ?_⟩⟩)
  · show (s.activeInput != l.input) = false
    rw [hs _ rfl, hinput]
    simp
  · refine safe_act_held (hQ _) fun _ v => safe_unlock (fun h => nomatch h) ?_
    refine safe_unlock (fun h => nomatch h) (safe_act_held (hQ v) fun _ v' => ?_)
    exact safe_unlock_guard (fun _ h => nomatch h) rfl fun h => nomatch h

theorem safe_ifRecorded {yes no : HalCode} (hwatched : Watched held l)
    (hyes : ∀ m, l.input = some m → InputsSafe yes held l)
    (hno : l.input = none → InputsSafe no held l) :
    InputsSafe (.branch (fun _ l => l.input.isSome) yes no) held l := by
  refine ⟨recorded_of_watched hwatched, fun _ _ => ⟨fun hsome => ?_, fun hnone => ?_⟩⟩
  · obtain ⟨m, hm⟩ := Option.isSome_iff_exists.mp hsome
    exact hyes m hm
  · exact hno (Option.not_isSome_iff_eq_none.mp (Bool.eq_false_iff.mp hnone))

/-- Putting the recorded input in standby, if there is one. -/
theorem safe_forceIfRecorded {other : HalCode} (hwatched : Watched held l)
    (hother : l.input = none → InputsSafe other held l) :
    InputsSafe (.branch (fun _ l => l.input.isSome) forceStandbyCode other) held l := by
  refine safe_ifRecorded hwatched (fun m hm => ?_) hother
  rw [hwatched m hm]
  exact safe_forceStandby hm

theorem safe_exitWrite (hwatched : Watched held l) (failed : Bool) :
    InputsSafe (exitWriteCode n failed) held l := by
  have hfinish : InputsSafe (.branch (fun _ l => l.input.isSome) forceStandbyCode .ret) held l :=
    safe_forceIfRecorded hwatched fun _ => recorded_of_watched hwatched
  refine safe_unlock (fun h => nomatch h) ?_
  cases failed with
  | true => exact safe_outStandby hfinish
  | false => exact hfinish

theorem safe_writeOffload (hwatched : Watched held l) (w : WriteResult) :
    InputsSafe (writeOffloadCode view n w) held l := by
  have hstart : ∀ l : Locals, Watched held l → InputsSafe (.act (fun s l =>
      (if (s.outs n).offloadState = .playing then s
        else s.setOut n fun o =>
          { o with compr := o.compr.map fun _ => true, offloadState := .playing }, l)) <|
      .unlock (fun _ => .outLock n) .ret) held l := by
    intro l hl
    refine safe_act (recorded_of_watched hl) (fun s => ?_) fun _ _ =>
      safe_unlock (fun h => nomatch h) (recorded_of_watched hl)
    simp only
    split <;> rfl
  refine safe_branch (safe_underAdevLock (recorded_of_watched hwatched) (fun s => ?_) fun s _ => ?_)
    (hstart l hwatched)
  · exact activeInput_of_handles (handles_enableOutputPath s n w.allocFlushed)
  · exact safe_branch (hstart _ hwatched) (recorded_of_watched (l := { l with ok := _ }) hwatched)

theorem safe_write (hwatched : Watched held l) (w : WriteResult) (newReference : Bool) :
    InputsSafe (writeCode view n w newReference) held l := by
  have hpcm : InputsSafe (.branch (fun s _ => w.wrote || (s.outs n).pcmDevList.isEmpty)
      (exitWriteCode n false) (exitWriteCode n true)) held l :=
    safe_branch (safe_exitWrite hwatched false) (safe_exitWrite hwatched true)
  refine safe_branch (safe_writeOffload hwatched w) ?_
  split
  · exact safe_underAdevLock (recorded_of_watched hwatched) (fun _ => rfl) fun _ _ => hpcm
  · exact hpcm

theorem forcedInput_active {s : Adev} {m : Nat} (h : s.forcedInput = some m) :
    s.activeInput = some m := (Option.filter_eq_some_iff.mp h).1

/-- What a thread records under `lock_inputs`. -/
theorem watched_forced {s : Adev} {v : Option Nat} (l : Locals) (hs : s.activeInput = v) :
    Watched (some v) { l with input := s.forcedInput } := by
  intro m hm
  rw [← hs]
  exact congrArg some (forcedInput_active hm)

theorem recorded_entered (held : Option (Option Nat)) : Recorded held entered := fun h => nomatch h

/-- **OUT_WRITE** keeps the discipline. -/
theorem safe_outWrite (n : Nat) (w : WriteResult) (newReference : Bool)
    (held : Option (Option Nat)) :
    InputsSafe (outWriteCode view n w newReference) held entered := by
  have hnone : ∀ (held : Option (Option Nat)) (ok : Bool),
      Watched held { entered with ok := ok } := fun _ _ => watched_of_none rfl
  have hplain : ∀ held, InputsSafe (writeCode view n w newReference) held entered :=
    fun held => safe_write (watched_of_none rfl) w newReference
  refine safe_lockOutputStream (safe_branch (safe_unlock (fun h => nomatch h) ?_) (hplain held))
  refine safe_lock_guard (recorded_entered held) rfl fun v => safe_lockOutputStream ?_
  refine safe_branch ?_ (safe_unlock_guard (recorded_entered _) rfl (hplain none))
  refine safe_lock (fun h => nomatch h) (safe_act (recorded_entered _) (fun s => ?_) fun s₀ _ => ?_)
  · exact activeInput_of_handles (handles_startOutputStream s n w)
  · refine safe_branch (safe_act (recorded_of_watched (hnone _ _)) (fun _ => rfl) fun s hs => ?_) ?_
    · have hwatched := watched_forced { entered with ok := (s₀.startOutputStream view n w).2 }
        (s := s.setOut n fun o => { o with standby := false }) (hs v rfl)
      refine safe_unlock (fun h => nomatch h) (safe_ifRecorded hwatched ?_ fun hinput => ?_)
      · exact fun _ _ => safe_write hwatched w newReference
      · exact safe_unlock_guard (recorded_of_watched hwatched) rfl
          (safe_write (watched_of_none hinput) w newReference)
    · refine safe_unlock (fun h => nomatch h) ?_
      exact safe_unlock_guard (recorded_of_watched (hnone _ _)) rfl (safe_exitWrite (hnone _ _) true)

theorem routeOutput_activeInput (s : Adev) (n : Nat) (val : Devices) (alloc : Bool) :
    (s.routeOutput view n val alloc).activeInput = s.activeInput := by
  have hset : (s.setOut n fun o => { o with devices := val }).handles = s.handles :=
    handles_setOut s n fun _ => rfl
  rw [Adev.routeOutput]
  split
  · refine activeInput_of_handles ?_
    rw [handles_updateVoiceCall, handles_updateBtSco]
    split
    · exact hset
    · rw [handles_rerouteOutput, hset]
  · rfl

theorem resetInput_active {s : Adev} {val : Devices} {m : Nat} (h : s.resetInput n val = some m) :
    s.activeInput = some m := by
  rw [Adev.resetInput] at h
  split at h
  · exact forcedInput_active h
  · exact nomatch h

/-- **OUT_SET_PARAMETERS** keeps the discipline. -/
theorem safe_outSetParameters (n : Nat) (val : Devices) (alloc : Bool)
    (held : Option (Option Nat)) :
    InputsSafe (outSetParametersCode view n val alloc) held entered := by
  refine safe_lock_guard (recorded_entered held) rfl fun v => safe_lockOutputStream ?_
  refine safe_underAdevLock (recorded_entered _) (fun s => routeOutput_activeInput s n val alloc)
    fun s hs => ?_
  have hwatched : Watched (some v) { entered with input := s.resetInput n val } := by
    intro m hm
    rw [← hs v rfl]
    exact congrArg some (resetInput_active hm)
  refine safe_unlock (fun h => nomatch h) (safe_forceIfRecorded hwatched fun hinput => ?_)
  exact safe_unlock_guard (recorded_of_watched hwatched) rfl
    (recorded_of_watched (watched_of_none hinput))

/-- Under `lock_inputs` a thread may do anything to the inputs. -/
theorem safe_underAdevLock_held {f : Adev → Locals → Adev × Locals} {v : Option Nat}
    (hQ : ∀ v, Recorded (some v) l) (hk : ∀ s v, InputsSafe k (some v) (f s l).2) :
    InputsSafe (underAdevLock f k) (some v) l :=
  safe_lock (fun h => nomatch h) <| safe_act_held (hQ v) fun s v' =>
    safe_unlock (fun h => nomatch h) (hk s v')

theorem safe_inStandbyL {v : Option Nat} (hk : ∀ v, InputsSafe k (some v) l) :
    InputsSafe (inStandbyLCode n k) (some v) l := by
  refine safe_lockInputStream (safe_branch (safe_unlock (fun h => nomatch h) (hk v)) ?_)
  exact safe_underAdevLock_held (fun _ _ h => nomatch h) fun _ v' =>
    safe_unlock (fun h => nomatch h) (hk v')

/-- **IN_STANDBY**. -/
theorem safe_inStandby (n : Nat) (held : Option (Option Nat)) (hinput : l.input = none) :
    InputsSafe (inStandbyCode n) held l := by
  have hQ : ∀ held, Recorded held l := fun _ => recorded_of_watched (watched_of_none hinput)
  exact safe_lock_guard (hQ held) rfl fun _ => safe_inStandbyL fun v =>
    safe_unlock_guard (hQ (some v)) rfl (hQ none)

/-- **IN_READ** starts the input under `lock_inputs`, and stops it under
    `lock_inputs` when the read fails. -/
theorem safe_inRead (n : Nat) (w : ReadResult) (held : Option (Option Nat)) :
    InputsSafe (inReadCode view n w) held entered := by
  have hfailed : ∀ (held : Option (Option Nat)) (ok : Bool),
      InputsSafe (.unlock (fun _ => .inLock n) <| inStandbyCode n) held { entered with ok := ok } :=
    fun held _ => safe_unlock (fun h => nomatch h) (safe_inStandby n held rfl)
  have hread : ∀ (held : Option (Option Nat)) (ok : Bool),
      InputsSafe (.branch (fun s _ => w.didRead && !(s.ins n).pcmDevList.isEmpty)
        (.unlock (fun _ => .inLock n) .ret) (.unlock (fun _ => .inLock n) <| inStandbyCode n)) held
        { entered with ok := ok } :=
    fun held ok => safe_branch (safe_unlock (fun h => nomatch h) fun h => nomatch h)
      (hfailed held ok)
  refine safe_lockInputStream (safe_branch (safe_unlock (fun h => nomatch h) ?_) (hread held false))
  refine safe_lock_guard (recorded_entered held) rfl fun v => safe_lockInputStream ?_
  refine safe_branch ?_ (safe_unlock_guard (recorded_entered _) rfl (hread none false))
  refine safe_underAdevLock_held (fun _ _ h => nomatch h) fun s v' => ?_
  refine safe_unlock_guard (fun h => nomatch h) rfl (safe_branch ?_ (hfailed none _))
  exact safe_act (fun h => nomatch h) (fun _ => rfl) fun _ _ => hread none _

theorem safe_onInput (n : Nat) (f : Adev → Adev) (held : Option (Option Nat)) :
    InputsSafe (onInputCode n f) held entered := by
  refine safe_lock_guard (recorded_entered held) rfl fun _ => safe_lockInputStream ?_
  refine safe_underAdevLock_held (fun _ _ h => nomatch h) fun _ _ => ?_
  exact safe_unlock (fun h => nomatch h)
    (safe_unlock_guard (recorded_entered _) rfl (recorded_entered none))

theorem safe_closeInput (n : Nat) (held : Option (Option Nat)) :
    InputsSafe (closeInputCode n) held entered := by
  refine safe_lock_guard (recorded_entered held) rfl fun _ => safe_inStandbyL fun v => ?_
  refine safe_act_held (recorded_entered _) fun _ v' => ?_
  exact safe_unlock_guard (recorded_entered _) rfl (recorded_entered none)

theorem safe_closeOutput (n : Nat) (held : Option (Option Nat)) :
    InputsSafe (closeOutputCode n) held entered :=
  safe_outStandby (safe_act (recorded_entered held) (fun _ => rfl) fun _ _ => recorded_entered held)

/-- **EVERY CALL** keeps the discipline, whatever mutex an earlier one left
    locked. -/
theorem safe_program (call : HalCall) (held : Option (Option Nat)) :
    InputsSafe (halProgram view call) held entered := by
  cases call with
  | outWrite n w newReference => exact safe_outWrite n w newReference held
  | outStandby n => exact safe_outStandby (recorded_entered held)
  | outSetParameters n val alloc => exact safe_outSetParameters n val alloc held
  | closeOutput n => exact safe_closeOutput n held
  | inRead n w => exact safe_inRead n w held
  | inStandby n => exact safe_inStandby n held rfl
  | inSetParameters n source routing => exact safe_onInput n _ held
  | addRemoveAudioEffect n auxChanged aec => exact safe_onInput n _ held
  | closeInput n => exact safe_closeInput n held

end Discipline

-- ── Every interleaving ────────────────────────────────────────────────────

/-- Threads that have nothing to do, and mutexes that nobody holds. -/
def idle (T : Type) (s : Adev) : Config T Mutex Adev Locals where
  code := fun _ => .ret
  loc := fun _ => entered
  locks := fun _ => RwLock.free
  shared := s
  failed := false

theorem allSafe_idle (T : Type) (s : Adev) :
    AllSafe Mutex.lockInputs Adev.activeInput Recorded (idle T s) :=
  ⟨rfl, fun _ => ⟨fun _ => recorded_entered _, fun _ => recorded_entered _⟩⟩

/-- **ACTIVE INPUT**: in every interleaving of any number of threads no assertion
    fails, a thread that has recorded an input holds `lock_inputs`, and whoever
    changes the active input holds `lock_inputs`. -/
theorem active_input_assertion (view : StreamOut → InputView) (T : Type) [DecidableEq T] (s : Adev)
    (events : List (Event T HalCall)) :
    Always (Guarded.step (halProgram view) entered)
        (fun c => c.failed = false ∧ ∀ t n, (c.loc t).input = some n →
          (c.locks .lockInputs).HeldBy t .write) (idle T s) events
      ∧ ∀ done e rest c c', events = done ++ e :: rest →
          run (Guarded.step (halProgram view) entered) (idle T s) done = some c →
          Guarded.step (halProgram view) entered c e = some c' →
          c'.shared.activeInput ≠ c.shared.activeInput →
          ∃ t, e = .go t ∧ (c.locks .lockInputs).HeldBy t .write := by
  have hsafe := safe_always (@safe_program view) events (allSafe_idle T s)
  refine ⟨fun done rest c hcat hrun => ?_, ?_⟩
  · obtain ⟨hfailed, hthreads⟩ := hsafe done rest c hcat hrun
    refine ⟨hfailed, fun t n hinput => ?_⟩
    by_contra hfree
    have hrecorded := safe_here ((hthreads t).2 hfree)
    exact hrecorded (by rw [hinput]; rfl) rfl
  · intro done e rest c c' hcat hrun hstep hchange
    exact heldBy_of_change (hsafe done (e :: rest) c hcat hrun) hstep hchange

end AudioHal

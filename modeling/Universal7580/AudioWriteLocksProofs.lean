import Universal7580.AudioLocksProofs
import Universal7580.LockOpsProofs

/-! # The mutexes of out_write

    `out_write` drops the stream lock to take the locks in order, takes it
    again, keeps `lock_inputs` for a recorded input until the end, and leaves
    the unlocking of an offload stream to `out_write_offload`.

    `outWrite_releases_iff` says of the program when it gives its mutexes back,
    `out_write_gives_back` of a thread in any interleaving. -/

namespace AudioHal

open AudioRouting Run Guarded

variable {view : StreamOut → InputView} {n : Nat} {w : WriteResult}

-- ── When they are given back ─────────────────────────────────────────────────

/-- What `out_write` is to leave unlocked. -/
structure WriteReleases (n : Nat) (ops : List (LockOp Mutex)) : Prop where
  outLock : Released (.outLock n) ops
  adevLock : Released .adevLock ops
  lockInputs : Released .lockInputs ops

/-- From `false_alarm` on, with the states that the accesses meet: an offload
    stream has no recorded input, and there is memory for the usecase when it
    was paused and flushed. -/
def WriteKept (n : Nat) (w : WriteResult) (input : Option Nat) (met : Nat → Adev) : Prop :=
  ((met 0).outs n).usecase = .offload →
    input = none ∧ (((met 1).outs n).offloadState = .pausedFlushed → w.allocFlushed = true)

/-- The same for the whole of `out_write`, which looks twice whether the stream
    is in standby, starts it, and records the input.  Without a start there is
    no recorded input. -/
def OutWriteKept (view : StreamOut → InputView) (n : Nat) (w : WriteResult) (met : Nat → Adev) :
    Prop :=
  if ((met 0).outs n).standby = false then WriteKept n w none fun i => met (i + 1)
  else if ((met 1).outs n).standby = false then WriteKept n w none fun i => met (i + 2)
  else ((met 2).startOutputStream view n w).2 = true →
    WriteKept n w (met 4).forcedInput fun i => met (i + 6)

-- ── The program ──────────────────────────────────────────────────────────────

/-- What a program does to the three mutexes, from holding some of them to
    holding some of them. -/
structure Takes (n : Nat) (held held' : Bool × Bool × Bool) (ops : List (LockOp Mutex)) : Prop where
  outLock : holds (.outLock n) held.1 ops = some held'.1
  adevLock : holds .adevLock held.2.1 ops = some held'.2.1
  lockInputs : holds .lockInputs held.2.2 ops = some held'.2.2

theorem Takes.append {held₀ held₁ held₂ : Bool × Bool × Bool} {ops more : List (LockOp Mutex)}
    (h : Takes n held₀ held₁ ops) (hmore : Takes n held₁ held₂ more) :
    Takes n held₀ held₂ (ops ++ more) where
  outLock := by rw [holds_append, h.outLock]; exact hmore.outLock
  adevLock := by rw [holds_append, h.adevLock]; exact hmore.adevLock
  lockInputs := by rw [holds_append, h.lockInputs]; exact hmore.lockInputs

/-- Whoever started with none of them has given back those it does not hold. -/
theorem Takes.releases_iff {held : Bool × Bool × Bool} {ops : List (LockOp Mutex)}
    (h : Takes n (false, false, false) held ops) :
    WriteReleases n ops ↔ held = (false, false, false) := by
  have hout := released_iff_of_holds h.outLock
  have hadev := released_iff_of_holds h.adevLock
  have hinputs := released_iff_of_holds h.lockInputs
  obtain ⟨out, adev, inputs⟩ := held
  constructor
  · rintro ⟨hout', hadev', hinputs'⟩
    rw [show out = false from hout.mp hout', show adev = false from hadev.mp hadev',
      show inputs = false from hinputs.mp hinputs']
  · intro heq
    obtain ⟨rfl, hrest⟩ := Prod.mk.inj heq
    obtain ⟨rfl, rfl⟩ := Prod.mk.inj hrest
    exact ⟨hout.mpr rfl, hadev.mpr rfl, hinputs.mpr rfl⟩

/-- The end of `out_write` gives back the stream lock, and `lock_inputs` with
    the recorded input. -/
theorem takes_exitWrite (failed : Bool) (met : Nat → Adev) (l : Locals) :
    Takes n (true, false, l.input.isSome) (false, false, false)
      ((exitWriteCode n failed).ops met l) := by
  obtain ⟨input, ok⟩ := l
  cases failed with
  | false =>
      cases input <;> constructor <;>
        simp [exitWriteCode, Code.ops, forceStandbyCode, lockInputStream, Locals.recorded, holds]
  | true =>
      cases hstandby : ((met 0).outs n).standby <;> cases input <;> constructor <;>
        simp [exitWriteCode, outStandbyCode, lockOutputStream, underAdevLock, Code.ops, hstandby,
          forceStandbyCode, lockInputStream, Locals.recorded, holds]

/-- From `false_alarm` on: where the claim fails, a mutex is kept. -/
theorem takes_write (newReference : Bool) (met : Nat → Adev) (l : Locals) :
    ∃ held, Takes n (true, false, l.input.isSome) held ((writeCode view n w newReference).ops met l)
      ∧ (held = (false, false, false) ↔ WriteKept n w l.input met) := by
  by_cases hoffload : ((met 0).outs n).usecase = .offload
  · obtain ⟨input, ok⟩ := l
    have hops : (writeCode view n w newReference).ops met ⟨input, ok⟩
        = (writeOffloadCode view n w).ops (fun i => met (i + 1)) ⟨input, ok⟩ := by
      rw [writeCode, Code.ops, if_pos (decide_eq_true hoffload)]
    by_cases hflushed : ((met 1).outs n).offloadState = .pausedFlushed
    · refine ⟨(!w.allocFlushed, false, input.isSome), ?_, ?_⟩
      · rw [hops]
        cases halloc : w.allocFlushed <;> constructor <;>
          simp [writeOffloadCode, underAdevLock, Code.ops, hflushed, halloc, enableOutputPath_ok,
            holds]
      · simp [WriteKept, hoffload, hflushed, and_comm]
    · refine ⟨(false, false, input.isSome), ?_, ?_⟩
      · rw [hops]
        constructor <;> simp [writeOffloadCode, Code.ops, hflushed, holds]
      · simp [WriteKept, hoffload, hflushed]
  · refine ⟨(false, false, false), ?_, ⟨fun _ h => absurd h hoffload, fun _ => rfl⟩⟩
    have hpcm : ∀ met : Nat → Adev, Takes n (true, false, l.input.isSome) (false, false, false)
        ((Code.branch (fun s _ => w.wrote || (s.outs n).pcmDevList.isEmpty)
          (exitWriteCode n false) (exitWriteCode n true) : HalCode).ops met l) := by
      intro met
      rw [Code.ops]
      split
      · exact takes_exitWrite false _ l
      · exact takes_exitWrite true _ l
    rw [writeCode, Code.ops, if_neg (fun h => hoffload (of_decide_eq_true h))]
    cases newReference with
    | false => exact hpcm _
    | true =>
        have hlock : Takes n (true, false, l.input.isSome) (true, false, l.input.isSome)
            [.lock .adevLock, .unlock .adevLock] := by
          constructor <;> simp [holds]
        have hrest := hpcm fun i => met (i + 1 + 1)
        exact hlock.append hrest

/-- Taking the stream lock by way of `pre_lock`. -/
theorem takes_lockOutputStream (adev inputs : Bool) :
    Takes n (false, adev, inputs) (true, adev, inputs)
      [.lock (.outPreLock n), .lock (.outLock n), .unlock (.outPreLock n)] := by
  constructor <;> simp [holds]

@[simp] theorem forcedInput_setOut (s : Adev) (f : StreamOut → StreamOut) :
    (s.setOut n f).forcedInput = s.forcedInput := rfl

/-- From standby: the stream lock is dropped for `lock_inputs`, and taken
    again. -/
def relockOps (n : Nat) : List (LockOp Mutex) :=
  [.lock (.outPreLock n), .lock (.outLock n), .unlock (.outPreLock n), .unlock (.outLock n),
    .lock .lockInputs, .lock (.outPreLock n), .lock (.outLock n), .unlock (.outPreLock n)]

theorem takes_relock : Takes n (false, false, false) (true, false, true) (relockOps n) := by
  constructor <;> simp [relockOps, holds]

/-- **OUT_WRITE** gives back its mutexes exactly when the condition is met by
    what its accesses meet. -/
theorem outWrite_releases_iff (newReference : Bool) (met : Nat → Adev) :
    WriteReleases n ((outWriteCode view n w newReference).ops met entered)
      ↔ OutWriteKept view n w met := by
  have hinputs : Takes n (true, false, true) (true, false, false) [.unlock .lockInputs] := by
    constructor <;> simp [holds]
  have hadev : ∀ inputs, Takes n (true, false, inputs) (true, false, inputs)
      [.lock .adevLock, .unlock .adevLock] := by
    intro inputs
    constructor <;> simp [holds]
  -- what comes before `false_alarm`, and then the write
  have hwrite : ∀ {before : List (LockOp Mutex)} {met' : Nat → Adev} {l : Locals},
      Takes n (false, false, false) (true, false, l.input.isSome) before →
      (outWriteCode view n w newReference).ops met entered
        = before ++ (writeCode view n w newReference).ops met' l →
      (WriteReleases n ((outWriteCode view n w newReference).ops met entered)
        ↔ WriteKept n w l.input met') := by
    intro before met' l hbefore hops
    obtain ⟨held, htakes, hkept⟩ := @takes_write view n w newReference met' l
    rw [hops, (hbefore.append htakes).releases_iff]
    exact hkept
  rw [OutWriteKept]
  split
  · rename_i hfirst
    refine hwrite (l := entered) (takes_lockOutputStream false false) ?_
    simp [outWriteCode, lockOutputStream, Code.ops, hfirst]
  · rename_i hfirst
    have hfirst : ((met 0).outs n).standby = true := Bool.ne_false_iff.mp hfirst
    split
    · rename_i hsecond
      refine hwrite (l := entered) (takes_relock.append hinputs) ?_
      simp [outWriteCode, lockOutputStream, Code.ops, hfirst, hsecond, relockOps]
    · rename_i hsecond
      have hsecond : ((met 1).outs n).standby = true := Bool.ne_false_iff.mp hsecond
      have hstarted := takes_relock.append (hadev true)
      cases hstart : ((met 2).startOutputStream view n w).2 with
      | false =>
          -- the start fails: everything is given back before `exit`
          have hexit := takes_exitWrite (n := n) true (fun i => met (i + 4)) entered
          have hops : (outWriteCode view n w newReference).ops met entered
              = (relockOps n ++ [.lock .adevLock, .unlock .adevLock] ++ [.unlock .lockInputs])
                ++ (exitWriteCode n true).ops (fun i => met (i + 4)) entered := by
            simp [outWriteCode, lockOutputStream, Code.ops, hfirst, hsecond, hstart, relockOps,
              entered]
          rw [hops]
          exact iff_of_true (((hstarted.append hinputs).append hexit).releases_iff.mpr rfl)
            (fun h => by cases h)
      | true =>
          refine Iff.trans ?_ (forall_prop_of_true rfl).symm
          cases hinput : (met 4).forcedInput with
          | none =>
              refine hwrite (l := ⟨none, true⟩) (hstarted.append hinputs) ?_
              simp [outWriteCode, lockOutputStream, Code.ops, hfirst, hsecond, hstart, relockOps,
                hinput]
          | some m =>
              refine hwrite (l := ⟨some m, true⟩) hstarted ?_
              simp [outWriteCode, lockOutputStream, Code.ops, hfirst, hsecond, hstart, relockOps,
                hinput]

-- ── Any interleaving ─────────────────────────────────────────────────────────

/-- **OUT_WRITE GIVES BACK**: whatever the other threads do in between, a thread
    that calls `out_write` and returns has unlocked `out->lock`, `adev->lock` and
    `lock_inputs` as often as it locked them, and last, exactly when what it met
    fulfils the condition. -/
theorem out_write_gives_back (view : StreamOut → InputView) (T : Type) [DecidableEq T] (t : T)
    (n : Nat) (w : WriteResult) (newReference : Bool) (events : List (Event T HalCall))
    (c c' : Config T Mutex Adev Locals) (met : Nat → Adev)
    (hrun : run (Guarded.step (halProgram view) entered) c
      (.call t (.outWrite n w newReference) :: events) = some c')
    (hown : NotCalled t events) (hret : c'.code t = .ret)
    (hmet : ∀ (i : Nat) s, (looks (halProgram view) entered t c
      (.call t (.outWrite n w newReference) :: events))[i]? = some s → met i = s) :
    WriteReleases n (lockOps (halProgram view) entered t c
        (.call t (.outWrite n w newReference) :: events))
      ↔ OutWriteKept view n w met := by
  rw [lockOps_call hrun hown hret hmet]
  exact outWrite_releases_iff newReference met

/-- One thread that writes, on a device where nothing runs. -/
def loneWrite (steps : Nat) : List (Event Unit HalCall) :=
  .call () (.outWrite 0 writeOk false) :: List.replicate steps (.go ())

theorem notCalled_go (steps : Nat) :
    NotCalled (P := HalCall) () (List.replicate steps (.go ())) := by
  intro p hp
  have heq := List.eq_of_mem_replicate hp
  cases heq

/-- The first write to an ordinary output. -/
theorem out_write_gives_back_speaker :
    ∃ s c', run (step plainView) (start false plainSession) [.openOutput 0 speakerOutput] = some s
      ∧ run (Guarded.step (halProgram plainView) entered) (idle Unit s) (loneWrite 21) = some c'
      ∧ (WriteReleases 0
            (lockOps (halProgram plainView) entered () (idle Unit s) (loneWrite 21))
          ↔ OutWriteKept plainView 0 writeOk fun i =>
              ((looks (halProgram plainView) entered () (idle Unit s) (loneWrite 21))[i]?).getD s) := by
  have hend : ((run (step plainView) (start false plainSession) [.openOutput 0 speakerOutput]).bind
      fun s => (run (Guarded.step (halProgram plainView) entered) (idle Unit s) (loneWrite 21)).map
        fun c' => (c'.code ()).returned) = some true := by
    decide +kernel
  obtain ⟨s, hs, hend⟩ := Option.bind_eq_some_iff.mp hend
  obtain ⟨c', hrun, hret⟩ := Option.map_eq_some_iff.mp hend
  refine ⟨s, c', hs, hrun, ?_⟩
  refine out_write_gives_back plainView Unit () 0 writeOk false _ (idle Unit s) c' _ hrun
    (notCalled_go 21) (Code.eq_ret hret) ?_
  intro i s' hi
  exact congrArg (fun found => Option.getD found s) hi

/-- A recording from the microphone, and then the first write to an offload
    stream: the thread comes back with `lock_inputs`. -/
theorem lock_inputs_kept :
    ¬ ∀ (view : StreamOut → InputView) (fx : Bool) (session : VoiceSession) (before : List Act)
        (s : Adev) (n : Nat) (w : WriteResult) (newReference : Bool)
        (events : List (Event Unit HalCall)) (c' : Config Unit Mutex Adev Locals),
      run (step view) (start fx session) before = some s →
      run (Guarded.step (halProgram view) entered) (idle Unit s)
        (.call () (.outWrite n w newReference) :: events) = some c' →
      NotCalled () events → c'.code () = .ret →
      WriteReleases n (lockOps (halProgram view) entered () (idle Unit s)
        (.call () (.outWrite n w newReference) :: events)) := by
  intro hclaim
  let before : List Act :=
    [.openInput 0 { camcorderInput with source := .mic }, .read 0 readOk,
      .openOutput 0 offloadOutput]
  have hend : ((run (step plainView) (start false plainSession) before).bind
      fun s => (run (Guarded.step (halProgram plainView) entered) (idle Unit s) (loneWrite 20)).map
        fun c' => ((c'.code ()).returned, holds .lockInputs false
          (lockOps (halProgram plainView) entered () (idle Unit s) (loneWrite 20))))
      = some (true, some true) := by
    decide +kernel
  obtain ⟨s, hs, hend⟩ := Option.bind_eq_some_iff.mp hend
  obtain ⟨c', hrun, hend⟩ := Option.map_eq_some_iff.mp hend
  obtain ⟨hret, hholds⟩ := Prod.mk.inj hend
  have hreleased := hclaim plainView false plainSession before s 0 writeOk false _ c' hs hrun
    (notCalled_go 20) (Code.eq_ret hret)
  have hfree := (released_iff_of_holds hholds).mp hreleased.lockInputs
  cases hfree

end AudioHal

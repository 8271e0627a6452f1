import Universal7580.OffloadWaitProofs

/-! # A mutex that is not given back

    The calls on an offload stream take the mutex of the stream, and some of them
    then take the mutex of the audio device too.  `do_out_standby_l` takes both in
    the other order, and gives the one of the stream back while it waits for the
    callback thread, with the one of the audio device in hand.

    `mutex_lost_iff`: a call that needs the mutex of the audio device in that time
    never gives the mutex of the stream back, so that the thread, which the
    standby waits for, never gets it; and so does a write to a flushed stream that
    finds no memory for its usecase.  Nothing else loses the mutex. -/

namespace OffloadThread

open Run Trace

-- ── A mutex that is not given back ────────────────────────────────────────

/-- The calls that take the mutex of the audio device while they hold the one of
    the stream. -/
def Call.needsAdev (s : St) : Call → Bool
  | .write _ => s.standby || s.offloadState == .pausedFlushed
  | .pause => s.compr.isSome && s.offloadState == .playing
  | .resume => s.compr.isSome && s.offloadState == .paused
  | .standby => !s.standby
  | .routing _ => true
  | _ => false

/-- A write to a flushed stream that finds no memory for its usecase. -/
def Call.lacksUsecase (s : St) : Call → Bool
  | .write w =>
      (!s.standby || (w.alloc && w.ready)) && s.offloadState == .pausedFlushed && !w.allocFlushed
  | _ => false

/-- A call that gives the mutex of the stream back. -/
def Call.givesBack (s : St) (c : Call) : Prop :=
  (c.needsAdev s = true → s.waiting = none) ∧ c.lacksUsecase s = false

/-- A step after which the mutex can still change hands. -/
def KeepsMutex (s : St) : Act → Prop
  | .call c => c.givesBack s
  | _ => True

section Mutex

variable {fx : Bool} {s s' : St} {pick : Option Nat} {w : WriteIn}

theorem writeMetadata_lock (s : St) : (s.writeMetadata w).lock ≠ .stuck := by
  rw [St.writeMetadata]
  split
  · exact fun h => by cases h
  · exact fun h => by cases h

theorem withAdev_lock {f : St → St} :
    (s.withAdev f).lock = .stuck ↔ s.waiting.isSome = true ∨ (f s).lock = .stuck := by
  rw [St.withAdev]
  split
  · rename_i hw
    exact iff_of_true rfl (.inl hw)
  · rename_i hw
    exact ⟨.inr, fun h => h.resolve_left hw⟩

theorem outWriteOffload_lock (s : St) : (s.outWriteOffload w).lock = .stuck
    ↔ s.offloadState = .pausedFlushed ∧ (s.waiting.isSome = true ∨ w.allocFlushed = false) := by
  rw [St.outWriteOffload]
  split
  · rename_i hflushed
    rw [withAdev_lock]
    refine Iff.trans ?_ (iff_and_self.mpr fun _ => hflushed)
    refine or_congr_right ?_
    cases w.allocFlushed with
    | true => exact iff_of_false (writeMetadata_lock s) Bool.noConfusion
    | false => exact iff_of_true rfl rfl
  · rename_i hflushed
    exact iff_of_false (writeMetadata_lock s) fun h => hflushed h.1

/-- A start that goes through, and one that does not. -/
theorem startOutputStream_spec (s : St) :
    (s.startOutputStream fx w).2 = (w.alloc && w.ready)
      ∧ ((w.alloc && w.ready) = true →
        (s.startOutputStream fx w).1.offloadState = s.offloadState) := by
  rw [St.startOutputStream]
  cases halloc : w.alloc with
  | false => exact ⟨rfl, fun h => by cases h⟩
  | true =>
      cases hready : w.ready with
      | false => exact ⟨rfl, fun h => by cases h⟩
      | true =>
          rw [if_neg Bool.noConfusion, if_neg Bool.noConfusion]
          split <;> exact ⟨rfl, fun _ => rfl⟩

theorem outWrite_lock (hi : Inv s) (hlock : s.lock = .free) (w : WriteIn) :
    (s.outWrite fx w).lock = .stuck ↔ ¬(Call.write w).givesBack s := by
  obtain ⟨hdone, hstate⟩ := @startOutputStream_spec fx w s
  have hsame := @alike_startOutputStream fx w s
  have hstart := @startOutputStream_lock fx w s
  rw [St.outWrite]
  cases hstandby : s.standby with
  | false =>
      have hnone : s.waiting = none := by
        refine Option.not_isSome_iff_eq_none.mp fun hsome => ?_
        cases hstandby.symm.trans (hi.waiting hsome)
      rw [if_neg Bool.noConfusion, outWriteOffload_lock]
      simp [Call.givesBack, Call.needsAdev, Call.lacksUsecase, hstandby, hnone]
  | true =>
      rw [if_pos rfl, withAdev_lock]
      cases hw : s.waiting with
      | some d =>
          refine iff_of_true (.inl rfl) fun hgives => ?_
          cases hw.symm.trans (hgives.1 (by rw [Call.needsAdev, hstandby]; rfl))
      | none =>
          rw [Option.isSome_none, or_iff_right Bool.false_ne_true]
          split
          · rename_i s₁ hgo
            rw [congrArg Prod.snd hgo] at hdone
            rw [congrArg Prod.fst hgo] at hstate hsame
            have hwaiting : s₁.waiting = none := hsame.waiting.trans hw
            have hstate₁ : s₁.offloadState = s.offloadState := hstate hdone.symm
            rw [outWriteOffload_lock]
            simp [Call.givesBack, Call.needsAdev, Call.lacksUsecase, hstandby, hw, hwaiting,
              ← hdone, hstate₁]
          · rename_i s₁ hgo
            rw [congrArg Prod.snd hgo] at hdone
            rw [congrArg Prod.fst hgo] at hstart
            rw [hstart, hlock]
            simp [Call.givesBack, Call.lacksUsecase, hstandby, hw, ← hdone]

theorem doOutStandby_lock {routing : Bool} (s : St) :
    (s.doOutStandby fx routing).lock = s.lock := by
  have hstopped := (stopCompressed_spec s).1
  rw [St.doOutStandby, stopCompressed_standby]
  split
  · rename_i t hstop
    obtain ⟨rfl, -⟩ := Prod.mk.inj hstop
    exact hstopped
  · rename_i t hstop
    obtain ⟨rfl, -⟩ := Prod.mk.inj hstop
    rw [St.afterStandby, stopOutputOffloadStream_lock]
    exact (closeDevice_lock _).trans hstopped

theorem outFlushOffload_lock (s : St) : s.outFlushOffload.lock = s.lock := by
  have hstopped := (stopCompressed_spec s).1
  rw [St.outFlushOffload]
  split
  · split
    · rename_i t hstop
      rw [congrArg Prod.fst hstop] at hstopped
      exact hstopped
    · rename_i t hstop
      rw [congrArg Prod.fst hstop] at hstopped
      exact hstopped
  · rfl

/-- **A CALL** loses the mutex of the stream exactly if it does not give it back. -/
theorem run_lock (hi : Inv s) (hlock : s.lock = .free) (c : Call) :
    (c.run fx s).lock = .stuck ↔ ¬c.givesBack s := by
  have hfree : ∀ {t : St}, t.lock = s.lock → t.lock ≠ .stuck := fun ht hstuck =>
    by cases hlock.symm.trans (ht.symm.trans hstuck)
  -- a call that only needs the mutex of the audio device
  have hadev : ∀ {c : Call} {f : St → St}, c.needsAdev s = true → c.lacksUsecase s = false →
      (f s).lock = s.lock → ((s.withAdev f).lock = .stuck ↔ ¬c.givesBack s) := by
    intro c f hneeds hlacks hf
    rw [withAdev_lock, or_iff_left (hfree hf), Call.givesBack, and_iff_left hlacks,
      ← Option.not_isSome_iff_eq_none]
    exact ⟨fun hsome h => h hneeds hsome, fun h => by_contra fun hsome => h fun _ => hsome⟩
  -- a call that does not
  have hplain : ∀ {c : Call} {t : St}, c.needsAdev s = false → c.lacksUsecase s = false →
      t.lock = s.lock → (t.lock = .stuck ↔ ¬c.givesBack s) := by
    intro c t hneeds hlacks ht
    refine iff_of_false (hfree ht) (not_not.mpr ⟨fun h => ?_, hlacks⟩)
    cases hneeds.symm.trans h
  cases c with
  | write w => exact outWrite_lock hi hlock w
  | pause =>
      show s.outPauseOffload.lock = .stuck ↔ _
      rw [St.outPauseOffload]
      split
      · rename_i hplaying
        -- the device pauses before the mutex is asked for
        refine Iff.trans ?_
          (@hadev .pause id (by rw [Call.needsAdev, hplaying.1, hplaying.2]; rfl) rfl rfl)
        rw [withAdev_lock, withAdev_lock]
        exact Iff.rfl
      · rename_i hother
        refine hplain ?_ rfl rfl
        rw [Call.needsAdev, Bool.and_eq_false_iff]
        rcases not_and_or.mp hother with hcompr | hstate
        · exact .inl (Bool.eq_false_iff.mpr hcompr)
        · exact .inr (beq_false_of_ne hstate)
  | resume =>
      show s.outResumeOffload.lock = .stuck ↔ _
      rw [St.outResumeOffload]
      split
      · rename_i hpaused
        exact hadev (by rw [Call.needsAdev, hpaused.1, hpaused.2]; rfl) rfl rfl
      · rename_i hother
        refine hplain ?_ rfl rfl
        rw [Call.needsAdev, Bool.and_eq_false_iff]
        rcases not_and_or.mp hother with hcompr | hstate
        · exact .inl (Bool.eq_false_iff.mpr hcompr)
        · exact .inr (beq_false_of_ne hstate)
  | drain early => exact hplain rfl rfl rfl
  | flush => exact hplain rfl rfl (outFlushOffload_lock s)
  | standby =>
      show (s.outStandby fx).lock = .stuck ↔ _
      rw [St.outStandby]
      split
      · rename_i hstandby
        refine hplain ?_ rfl rfl
        rw [Call.needsAdev, hstandby]
        rfl
      · rename_i hrunning
        refine hadev ?_ rfl (doOutStandby_lock s)
        rw [Call.needsAdev, Bool.eq_false_iff.mpr hrunning]
        rfl
  | routing changes =>
      refine @hadev (.routing changes) _ rfl rfl ?_
      split
      · exact doOutStandby_lock s
      · rfl
  | setCallback cookie => exact hplain rfl rfl rfl
  | position =>
      refine hplain rfl rfl ?_
      show s.outGetPosition.lock = s.lock
      rw [St.outGetPosition]
      split <;> rfl

theorem answer_lock (pick : Option Nat) (c : Cmd) (s : St) :
    (s.answer pick c).lock = .thread := by
  obtain ⟨w, flushes, heq, -⟩ := signalCond_spec pick
    { s with offloadThreadBlocked := false, lock := .thread, pc := .top }
  rw [St.answer, heq, St.callBack]
  split <;> rfl

/-- The thread leaves the mutex with itself or with nobody. -/
theorem threadStep_lock (hstep : s.threadStep pick = some s') (hlock : s.lock ≠ .stuck) :
    s'.lock ≠ .stuck := by
  unfold St.threadStep at hstep
  split at hstep
  · split at hstep
    · obtain rfl := Option.some.inj hstep
      exact fun h => by cases h
    · cases hstep
  · split at hstep
    · obtain rfl := Option.some.inj hstep
      exact fun h => by cases h
    · cases hstep
  · obtain rfl := Option.some.inj hstep
    rw [St.loopHead]
    split
    · exact fun h => by cases h
    · rename_i c rest _
      rw [St.takeCmd]
      split
      · exact hlock
      · split
        · obtain ⟨w, flushes, heq, -⟩ := signalCond_spec pick
            (({ s with offloadCmdList := rest } : St).note (.taken c s.compr))
          rw [heq]
          exact hlock
        · exact fun h => by cases h
  · obtain rfl := Option.some.inj hstep
    exact hlock
  · obtain rfl := Option.some.inj hstep
    exact hlock
  · rename_i c hpc
    split at hstep
    · obtain rfl := Option.some.inj hstep
      rw [answer_lock pick c s]
      exact fun h => by cases h
    · cases hstep
  · obtain rfl := Option.some.inj hstep
    exact fun h => by cases h
  · cases hstep
  · cases hstep

/-- Only a call that does not give it back loses the mutex. -/
theorem keepsMutex_step (a : Act) (hi : Inv s) (hlock : s.lock ≠ .stuck)
    (hstep : step fx s a = some s') : s'.lock ≠ .stuck ↔ KeepsMutex s a := by
  have hkept : ∀ {t : St}, t.lock = s.lock → (t.lock ≠ .stuck ↔ True) := fun ht =>
    iff_true_intro (ht ▸ hlock)
  cases a with
  | call c =>
      rw [step] at hstep
      split at hstep
      · rename_i hfree
        obtain rfl := Option.some.inj hstep
        rw [ne_eq, run_lock hi hfree.1 c, not_not]
        exact Iff.rfl
      · cases hstep
  | writeOn =>
      rw [step] at hstep
      split at hstep
      · obtain rfl := Option.some.inj hstep
        exact iff_true_intro fun h => by cases h
      · cases hstep
  | parse mdata =>
      rw [step] at hstep
      split at hstep
      · obtain rfl := Option.some.inj hstep
        exact hkept rfl
      · cases hstep
  | parsed =>
      rw [step] at hstep
      split at hstep
      · cases hstep
      · obtain rfl := Option.some.inj hstep
        exact hkept rfl
  | standbyOn =>
      rw [step] at hstep
      split at hstep
      · split at hstep
        · obtain rfl := Option.some.inj hstep
          exact hkept rfl
        · obtain rfl := Option.some.inj hstep
          refine hkept ?_
          rw [St.afterStandby, stopOutputOffloadStream_lock]
          exact closeDevice_lock s
      · cases hstep
  | flushOn i =>
      rw [step] at hstep
      split at hstep
      · split at hstep
        · obtain rfl := Option.some.inj hstep
          exact hkept rfl
        · obtain rfl := Option.some.inj hstep
          exact hkept rfl
      · cases hstep
  | thread pick => exact iff_true_intro (threadStep_lock hstep hlock)
  | wakeThread =>
      rw [step] at hstep
      split at hstep
      · obtain rfl := Option.some.inj hstep
        exact hkept rfl
      · cases hstep
  | wakeCond pick =>
      obtain rfl := Option.some.inj hstep
      obtain ⟨w, flushes, heq, -⟩ := signalCond_spec pick s
      rw [heq]
      exact hkept rfl
  | destroy =>
      rw [step] at hstep
      split at hstep
      · obtain rfl := Option.some.inj hstep
        exact hkept rfl
      · cases hstep

/-- What a lost mutex leaves as it was. -/
structure Stuck (s s' : St) : Prop where
  lock : s'.lock = .stuck
  waiting : s'.waiting.isSome = s.waiting.isSome
  flushes : s'.flushes.length = s.flushes.length
  callbacks : callbacks s'.log = callbacks s.log

theorem Stuck.trans {t : St} (h : Stuck s t) (h' : Stuck t s') : Stuck s s' where
  lock := h'.lock
  waiting := h'.waiting.trans h.waiting
  flushes := h'.flushes.trans h.flushes
  callbacks := h'.callbacks.trans h.callbacks

theorem stuck_signalCond (hlock : s.lock = .stuck) (pick : Option Nat) :
    Stuck s (s.signalCond pick) := by
  have hsame := undisturbed_signalCond pick s
  have hquiet := quiet_signalCond pick s
  refine ⟨?_, hsame.waiting, hsame.flushes, hquiet.callbacks⟩
  obtain ⟨w, flushes, heq, -⟩ := signalCond_spec pick s
  rw [heq]
  exact hlock

/-- **A LOST MUTEX** stays lost: no step that needs it can be taken. -/
theorem stuck_step (a : Act) (hi : Inv s) (hlock : s.lock = .stuck)
    (hstep : step fx s a = some s') : Stuck s s' ∧ ∀ c, a ≠ .call c := by
  have hheld : ∀ {l : Holder}, l ≠ .stuck → s.lock ≠ l := fun hl h => hl (h.symm.trans hlock)
  have hfree : s.lock ≠ .free := hheld fun h => by cases h
  cases a with
  | call c =>
      rw [step] at hstep
      split at hstep
      · rename_i hready
        exact absurd hready.1 hfree
      · cases hstep
  | writeOn =>
      rw [step] at hstep
      split at hstep
      · rename_i w hwriting
        exact absurd hwriting (hheld fun h => by cases h)
      · cases hstep
  | parse mdata =>
      rw [step] at hstep
      split at hstep
      · obtain rfl := Option.some.inj hstep
        exact ⟨⟨hlock, rfl, rfl, rfl⟩, fun _ h => by cases h⟩
      · cases hstep
  | parsed =>
      rw [step] at hstep
      split at hstep
      · cases hstep
      · obtain rfl := Option.some.inj hstep
        exact ⟨⟨hlock, rfl, rfl, rfl⟩, fun _ h => by cases h⟩
  | standbyOn =>
      rw [step] at hstep
      split at hstep
      · rename_i hready
        exact absurd hready.1 hfree
      · cases hstep
  | flushOn i =>
      rw [step] at hstep
      split at hstep
      · rename_i hready
        exact absurd hready.1 hfree
      · cases hstep
  | thread pick =>
      refine ⟨?_, fun _ h => by cases h⟩
      have hlocked : s.pc.locked ≠ true := fun h =>
        hheld (l := .thread) (fun h => by cases h) (hi.holder.mpr h)
      rw [step] at hstep
      unfold St.threadStep at hstep
      split at hstep
      · rw [if_neg hfree] at hstep
        cases hstep
      · rw [if_neg hfree] at hstep
        cases hstep
      · rename_i hpc
        exact absurd (by rw [hpc]; rfl) hlocked
      · obtain rfl := Option.some.inj hstep
        exact ⟨hlock, rfl, rfl, filterMap_other _ rfl⟩
      · obtain rfl := Option.some.inj hstep
        exact ⟨hlock, rfl, rfl, rfl⟩
      · rw [if_neg hfree] at hstep
        cases hstep
      · rename_i hpc
        exact absurd (by rw [hpc]; rfl) hlocked
      · cases hstep
      · cases hstep
  | wakeThread =>
      rw [step] at hstep
      split at hstep
      · obtain rfl := Option.some.inj hstep
        exact ⟨⟨hlock, rfl, rfl, rfl⟩, fun _ h => by cases h⟩
      · cases hstep
  | wakeCond pick =>
      obtain rfl := Option.some.inj hstep
      exact ⟨stuck_signalCond hlock pick, fun _ h => by cases h⟩
  | destroy =>
      rw [step] at hstep
      split at hstep
      · rename_i hready
        exact absurd hready.1 hfree
      · cases hstep

/-- What follows on a lost mutex. -/
theorem stuck_run : ∀ (acts : List Act) {s s' : St}, Inv s → s.lock = .stuck →
    run (step fx) s acts = some s' → Stuck s s' ∧ ∀ c, Act.call c ∉ acts := by
  intro acts
  induction acts with
  | nil =>
      intro s s' _ hlock hrun
      obtain rfl := Option.some.inj hrun
      exact ⟨⟨hlock, rfl, rfl, rfl⟩, fun _ h => by cases h⟩
  | cons a rest ih =>
      intro s s' hi hlock hrun
      obtain ⟨s₁, hstep, hrest⟩ := run_cons_eq_some hrun
      obtain ⟨hfirst, hcall⟩ := stuck_step a hi hlock hstep
      obtain ⟨hlater, hcalls⟩ := ih (inv_step a hi hstep) hfirst.lock hrest
      refine ⟨hfirst.trans hlater, fun c hmem => ?_⟩
      rcases List.mem_cons.mp hmem with rfl | hmem
      · exact hcall c rfl
      · exact hcalls c hmem

/-- **THE MUTEX IS LOST** in a run exactly by a call that needs the mutex of the
    audio device while a standby waits with it, or by a write to a flushed stream
    without memory for its usecase.  From then on no call begins, no wait ends
    and nothing is called back. -/
theorem mutex_lost_iff (fx : Bool) (acts : List Act) :
    (Always (step fx) (fun s => s.lock ≠ .stuck) {} acts ↔ StepsMeet (step fx) KeepsMutex {} acts)
      ∧ ∀ done rest s s', acts = done ++ rest → run (step fx) {} done = some s →
        s.lock = .stuck → run (step fx) s rest = some s' →
        Stuck s s' ∧ ∀ c, Act.call c ∉ rest := by
  refine ⟨?_, fun done rest s s' _ hdone hlock hrest =>
    stuck_run rest (inv_run_acts hdone) hlock hrest⟩
  refine always_iff_stepsMeet (fun s (h : Inv s ∧ s.lock ≠ .stuck) => h.2)
    ?_ ?_ acts ⟨inv_start, fun h => by cases h⟩
  · intro s a s' h hok hstep
    exact ⟨inv_step a h.1 hstep, (keepsMutex_step a h.1 h.2 hstep).mpr hok⟩
  · intro s a s' h hstep hkept
    exact (keepsMutex_step a h.1 h.2 hstep).mp hkept

end Mutex

end OffloadThread

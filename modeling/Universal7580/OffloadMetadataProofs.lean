import Universal7580.OffloadMutexProofs

/-! # Gapless metadata on its way to the device

    `parse_compress_metadata` stores the metadata of a track in the stream and
    sets `send_new_metadata`, without the mutex of the stream; the next write
    tells the device and clears the flag, in two statements.

    `metadata_kept_iff`: a write goes to a device that knows the metadata of the
    stream, except after a write that clears the flag although a parse stored
    other metadata between its two statements and set the flag before the second
    one.  As long as no parse ends inside a write, that does not happen. -/

namespace OffloadThread

open Run Trace

/-- What an event says about the metadata of the device. -/
def Event.asMdata : Event → Option (Option GaplessMdata)
  | .called (.setGaplessMetadata mdata) _ => some (some mdata)
  | .called .stop _ => some none
  | .opened _ => some none
  | _ => none

/-- The device was told the metadata of the stream, since it was opened and since
    it was last stopped. -/
def Told (s : St) : Prop := lastOf Event.asMdata s.log = some (some s.gaplessMdata)

instance (s : St) : Decidable (Told s) :=
  inferInstanceAs (Decidable (lastOf Event.asMdata s.log = some (some s.gaplessMdata)))

/-- A write that would not tell the device need not tell it, unless a parse is
    still to set the flag. -/
def Kept (s : St) : Prop := s.sendNewMetadata = false → s.parsing = 0 → Told s

/-- A write clears the flag for what the device was told. -/
def ClearsTold (s : St) : Act → Prop
  | .writeOn => s.parsing = 0 → Told s
  | _ => True

/-- No parse sets the flag between the two statements of a write. -/
def ParsesOutside (s : St) : Act → Prop
  | .parsed => ∀ w, s.lock ≠ .writing w
  | _ => True

-- ── Steps that leave the metadata as it is ────────────────────────────────

/-- Nothing happened to the metadata or to what the device knows of it. -/
structure Steady (s s' : St) : Prop where
  log : ∃ es, s'.log = s.log ++ es ∧ ∀ e ∈ es, e.asMdata = none
  flag : s'.sendNewMetadata = s.sendNewMetadata
  mdata : s'.gaplessMdata = s.gaplessMdata
  parsing : s'.parsing = s.parsing
  standby : s'.standby = s.standby

section Steady

variable {fx : Bool} {s s' s'' : St} {pick : Option Nat} {w : WriteIn} {c : Cmd}

theorem Steady.refl (s : St) : Steady s s where
  log := ⟨[], (List.append_nil _).symm, fun _ h => by cases h⟩
  flag := rfl
  mdata := rfl
  parsing := rfl
  standby := rfl

theorem Steady.trans (h : Steady s s') (h' : Steady s' s'') : Steady s s'' where
  log := by
    obtain ⟨es, hlog, hes⟩ := h.log
    obtain ⟨es', hlog', hes'⟩ := h'.log
    refine ⟨es ++ es', ?_, fun e he => ?_⟩
    · rw [hlog', hlog, List.append_assoc]
    · rcases List.mem_append.mp he with he | he
      · exact hes e he
      · exact hes' e he
  flag := h'.flag.trans h.flag
  mdata := h'.mdata.trans h.mdata
  parsing := h'.parsing.trans h.parsing
  standby := h'.standby.trans h.standby

theorem Steady.told (h : Steady s s') : Told s' ↔ Told s := by
  obtain ⟨es, hlog, hes⟩ := h.log
  rw [Told, Told, hlog, h.mdata, lastOf_append_none hes]

theorem Steady.kept (h : Steady s s') (hk : Kept s) : Kept s' := by
  intro hflag hparsing
  rw [h.flag] at hflag
  rw [h.parsing] at hparsing
  exact h.told.mpr (hk hflag hparsing)

/-- Fields that are not about metadata do not matter. -/
theorem Steady.same (h : Steady s s') {t : St} (hlog : t.log = s'.log)
    (hflag : t.sendNewMetadata = s'.sendNewMetadata) (hmdata : t.gaplessMdata = s'.gaplessMdata)
    (hparsing : t.parsing = s'.parsing) (hstandby : t.standby = s'.standby) : Steady s t where
  log := by rw [hlog]; exact h.log
  flag := hflag.trans h.flag
  mdata := hmdata.trans h.mdata
  parsing := hparsing.trans h.parsing
  standby := hstandby.trans h.standby

theorem steady_note {e : Event} (he : e.asMdata = none) (s : St) : Steady s (s.note e) where
  log := ⟨[e], rfl, fun x hx => by rw [List.mem_singleton.mp hx]; exact he⟩
  flag := rfl
  mdata := rfl
  parsing := rfl
  standby := rfl

theorem steady_send (s : St) (cmd : OffloadCmd) : Steady s (s.sendOffloadCmd cmd) :=
  (steady_note (e := .sent ⟨s.allocs, cmd⟩) rfl s).same rfl rfl rfl rfl rfl

theorem steady_signalCond (pick : Option Nat) (s : St) : Steady s (s.signalCond pick) := by
  obtain ⟨w, flushes, heq, -⟩ := signalCond_spec pick s
  rw [heq]
  exact (Steady.refl s).same rfl rfl rfl rfl rfl

theorem steady_finishWrite (s : St) : Steady s (s.finishWrite w) := by
  have hwrite : Steady s (s.call .write) := steady_note rfl s
  have hshort : Steady (s.call .write) ((s.call .write).waitIfShort w) := by
    rw [St.waitIfShort]
    split
    · exact steady_send _ _
    · exact Steady.refl _
  have hstarted : Steady ((s.call .write).waitIfShort w)
      ((s.call .write).waitIfShort w).startPlaying := by
    rw [St.startPlaying]
    split
    · exact Steady.refl _
    · exact (steady_note rfl _).same rfl rfl rfl rfl rfl
  exact ((hwrite.trans hshort).trans hstarted).same rfl rfl rfl rfl rfl

theorem steady_withAdev {f : St → St} (hf : Steady s (f s)) : Steady s (s.withAdev f) := by
  rw [St.withAdev]
  split
  · exact (Steady.refl s).same rfl rfl rfl rfl rfl
  · exact hf

/-- The calls of the thread tell the device nothing about metadata. -/
theorem calls_asMdata {f : Compress} (cmd : OffloadCmd) (hf : f ∈ cmd.calls) (d : Option Nat) :
    (Event.called f d).asMdata = none := by
  cases cmd with
  | exit => cases hf
  | drain => rw [List.mem_singleton.mp hf]; rfl
  | waitForBuffer => rw [List.mem_singleton.mp hf]; rfl
  | partialDrain =>
      rcases List.mem_cons.mp hf with rfl | hf
      · rfl
      · rw [List.mem_singleton.mp hf]
        rfl

end Steady

-- ── Every call ────────────────────────────────────────────────────────────

/-- A stream in standby tells its next device, and `Kept`. -/
structure MdataOk (s : St) : Prop where
  standby : s.standby = true → s.sendNewMetadata = true
  kept : Kept s

/-- A write between its two statements told the device, unless a parse is still to
    set the flag. -/
def WriteTold (s : St) : Prop := ∀ w, s.lock = .writing w → s.parsing = 0 → Told s

section Calls

variable {fx : Bool} {s s' : St} {w : WriteIn}

theorem mdataOk_steady (h : MdataOk s) (hs : Steady s s') : MdataOk s' where
  standby := by
    rw [hs.standby, hs.flag]
    exact h.standby
  kept := hs.kept h.kept

/-- With the flag set the next write tells the device. -/
theorem mdataOk_flag (hflag : s.sendNewMetadata = true) : MdataOk s :=
  ⟨fun _ => hflag, fun hoff => by cases hflag.symm.trans hoff⟩

theorem writeTold_of_lock (hlock : ∀ w, s.lock ≠ .writing w) : WriteTold s :=
  fun w hw => absurd hw (hlock w)

theorem writeTold_stuck (hlock : s.lock = .stuck) : WriteTold s :=
  writeTold_of_lock fun _ hw => by cases hlock.symm.trans hw

theorem writeTold_free (hlock : s.lock = .free) : WriteTold s :=
  writeTold_of_lock fun _ hw => by cases hlock.symm.trans hw

/-- **A WRITE** tells the device, or need not. -/
theorem mdata_writeMetadata (h : MdataOk s) :
    MdataOk (s.writeMetadata w) ∧ WriteTold (s.writeMetadata w) := by
  rw [St.writeMetadata]
  split
  · rename_i hflag
    refine ⟨mdataOk_flag hflag, fun _ _ _ => ?_⟩
    exact lastOf_concat_some rfl
  · exact ⟨mdataOk_steady h (steady_finishWrite s), writeTold_free rfl⟩

theorem mdata_withAdev {f : St → St} (h : MdataOk s)
    (hf : MdataOk (f s) ∧ WriteTold (f s)) :
    MdataOk (s.withAdev f) ∧ WriteTold (s.withAdev f) := by
  rw [St.withAdev]
  split
  · exact ⟨mdataOk_steady h ((Steady.refl s).same rfl rfl rfl rfl rfl), writeTold_stuck rfl⟩
  · exact hf

theorem mdata_outWriteOffload (h : MdataOk s) :
    MdataOk (s.outWriteOffload w) ∧ WriteTold (s.outWriteOffload w) := by
  rw [St.outWriteOffload]
  split
  · refine mdata_withAdev h ?_
    split
    · exact mdata_writeMetadata h
    · exact ⟨mdataOk_steady h ((Steady.refl s).same rfl rfl rfl rfl rfl), writeTold_stuck rfl⟩
  · exact mdata_writeMetadata h

/-- Starting the stream sets no flag and clears none. -/
theorem startOutputStream_flag (s : St) :
    (s.startOutputStream fx w).1.sendNewMetadata = s.sendNewMetadata := by
  have hclose : ∀ t : St, t.closeDevice.sendNewMetadata = t.sendNewMetadata := fun t => by
    rw [St.closeDevice]
    split <;> rfl
  have hstop : ∀ t : St, (t.stopOutputOffloadStream fx).sendNewMetadata = t.sendNewMetadata :=
    fun t => by
      rw [St.stopOutputOffloadStream]
      split <;> rfl
  rw [St.startOutputStream]
  split
  · rfl
  · split
    · exact (hstop _).trans (hclose _)
    · split <;> rfl

theorem mdata_outWrite (h : MdataOk s) (hlock : s.lock = .free) :
    MdataOk (s.outWrite fx w) ∧ WriteTold (s.outWrite fx w) := by
  have hflag := @startOutputStream_flag fx w s
  have hstart := @startOutputStream_lock fx w s
  rw [St.outWrite]
  split
  · rename_i hstandby
    refine mdata_withAdev h ?_
    rw [h.standby hstandby] at hflag
    split
    · rename_i s₁ hgo
      rw [congrArg Prod.fst hgo] at hflag
      have hok : MdataOk { s₁ with standby := false } := mdataOk_flag hflag
      exact mdata_outWriteOffload hok
    · rename_i s₁ hgo
      rw [congrArg Prod.fst hgo] at hflag hstart
      exact ⟨mdataOk_flag hflag, writeTold_free (hstart.trans hlock)⟩
  · exact mdata_outWriteOffload h

/-- Stopping the device sets the flag. -/
theorem stopCompressed_flag (s : St) : s.stopCompressed.1.sendNewMetadata = true := by
  rw [St.stopCompressed]
  split <;> rfl

theorem doOutStandby_flag {routing : Bool} (s : St) :
    (s.doOutStandby fx routing).sendNewMetadata = true := by
  have hflag := stopCompressed_flag s
  rw [St.doOutStandby, stopCompressed_standby]
  split
  · rename_i t hstop
    obtain ⟨rfl, -⟩ := Prod.mk.inj hstop
    exact hflag
  · rename_i t hstop
    obtain ⟨rfl, -⟩ := Prod.mk.inj hstop
    rw [St.afterStandby, St.stopOutputOffloadStream, St.closeDevice]
    split <;> split <;> exact hflag

theorem mdata_doOutStandby {routing : Bool} (hlock : s.lock = .free) :
    MdataOk (s.doOutStandby fx routing) ∧ WriteTold (s.doOutStandby fx routing) :=
  ⟨mdataOk_flag (doOutStandby_flag s), writeTold_free ((doOutStandby_lock s).trans hlock)⟩

/-- **EVERY CALL** leaves the device told, or the flag set. -/
theorem mdata_run (h : MdataOk s) (hlock : s.lock = .free) (c : Call) :
    MdataOk (c.run fx s) ∧ WriteTold (c.run fx s) := by
  have hsame : ∀ {t : St}, Steady s t → t.lock = s.lock → MdataOk t ∧ WriteTold t :=
    fun hs ht => ⟨mdataOk_steady h hs, writeTold_free (ht.trans hlock)⟩
  have hstay := hsame (Steady.refl s) rfl
  cases c with
  | write w => exact mdata_outWrite h hlock
  | pause =>
      show MdataOk s.outPauseOffload ∧ WriteTold s.outPauseOffload
      rw [St.outPauseOffload]
      split
      · have hpaused : Steady s { s.call .pause with offloadState := .paused } :=
          (steady_note rfl s).same rfl rfl rfl rfl rfl
        exact mdata_withAdev (mdataOk_steady h hpaused) (hsame hpaused rfl)
      · exact hstay
  | resume =>
      show MdataOk s.outResumeOffload ∧ WriteTold s.outResumeOffload
      rw [St.outResumeOffload]
      split
      · have hresumed : Steady s { s.call .resume with offloadState := .playing } :=
          (steady_note rfl s).same rfl rfl rfl rfl rfl
        exact mdata_withAdev h (hsame hresumed rfl)
      · exact hstay
  | drain early => exact hsame (steady_send s _) rfl
  | flush =>
      have hflushlock := outFlushOffload_lock s
      show MdataOk s.outFlushOffload ∧ WriteTold s.outFlushOffload
      refine ⟨?_, writeTold_free (hflushlock.trans hlock)⟩
      have hflag := stopCompressed_flag s
      rw [St.outFlushOffload]
      split
      · split
        · rename_i t hstop
          rw [congrArg Prod.fst hstop] at hflag
          exact mdataOk_flag hflag
        · rename_i t hstop
          rw [congrArg Prod.fst hstop] at hflag
          exact mdataOk_flag hflag
      · exact h
  | standby =>
      show MdataOk (s.outStandby fx) ∧ WriteTold (s.outStandby fx)
      rw [St.outStandby]
      split
      · exact hstay
      · exact mdata_withAdev h (mdata_doOutStandby hlock)
  | routing changes =>
      refine mdata_withAdev h ?_
      split
      · exact mdata_doOutStandby hlock
      · exact hstay
  | setCallback cookie => exact hsame ((Steady.refl s).same rfl rfl rfl rfl rfl) rfl
  | position =>
      show MdataOk s.outGetPosition ∧ WriteTold s.outGetPosition
      rw [St.outGetPosition]
      split
      · exact hsame (steady_note rfl s) rfl
      · exact hstay

end Calls

-- ── The thread ────────────────────────────────────────────────────────────

/-- The calls of the device that the thread has before it. -/
def Pc.calls : Pc → List Compress
  | .unlocked _ calls | .inDevice _ _ _ calls => calls
  | _ => []

/-- The thread has nothing to tell the device. -/
def Mute (s : St) : Prop := ∀ f ∈ s.pc.calls, ∀ d, (Event.called f d).asMdata = none

section Thread

variable {fx : Bool} {s s' : St} {pick : Option Nat} {c : Cmd}

theorem calls_sendOffloadCmd (s : St) (cmd : OffloadCmd) :
    (s.sendOffloadCmd cmd).pc.calls = s.pc.calls := by
  rw [St.sendOffloadCmd]
  dsimp only
  split
  · rename_i hpc
    rw [hpc]
    rfl
  · rfl

theorem mute_sends (h : Mute s) (hs : Sends s s') : Mute s' := by
  cases hs with
  | quiet hq =>
      rw [Mute, hq.pc]
      exact h
  | one before other after =>
      rw [Mute, after.pc, calls_sendOffloadCmd, before.pc]
      exact h

theorem mute_of_calls {t : St} (hcalls : t.pc.calls = []) : Mute t := by
  intro f hf
  rw [hcalls] at hf
  cases hf

theorem steady_takeCmd (hmute : Mute s) :
    Steady s (s.takeCmd pick c) ∧ Mute (s.takeCmd pick c)
      ∧ ∀ w, (s.takeCmd pick c).lock = .writing w → s.lock = .writing w := by
  have htaken : Steady s (s.note (.taken c s.compr)) := steady_note rfl s
  rw [St.takeCmd]
  split
  · have hfreed : Steady s ((s.note (.taken c s.compr)).note (.freed c)) :=
      htaken.trans (steady_note rfl _)
    exact ⟨hfreed.same rfl rfl rfl rfl rfl, mute_of_calls rfl, fun _ h => h⟩
  · split
    · have hsignal := steady_signalCond pick (s.note (.taken c s.compr))
      obtain ⟨w, flushes, heq, -⟩ := signalCond_spec pick (s.note (.taken c s.compr))
      rw [heq] at hsignal ⊢
      exact ⟨htaken.trans hsignal, hmute, fun _ h => h⟩
    · exact ⟨htaken.same rfl rfl rfl rfl rfl, fun f hf d => calls_asMdata c.cmd hf d,
        fun _ h => by cases h⟩

theorem steady_answer (s : St) : Steady s (s.answer pick c) := by
  have hback : Steady s { s with offloadThreadBlocked := false, lock := .thread, pc := .top } :=
    (Steady.refl s).same rfl rfl rfl rfl rfl
  have hsignal := hback.trans (steady_signalCond pick _)
  have hcalled : ∀ t : St, Steady t (t.callBack c) := fun t => by
    rw [St.callBack]
    split
    · exact steady_note rfl t
    · exact Steady.refl t
  exact (hsignal.trans (hcalled _)).trans (steady_note rfl _)

theorem answer_pc (pick : Option Nat) (c : Cmd) (s : St) : (s.answer pick c).pc = .top := by
  obtain ⟨w, flushes, heq, -⟩ := signalCond_spec pick
    { s with offloadThreadBlocked := false, lock := .thread, pc := .top }
  rw [St.answer, heq, St.callBack]
  split <;> rfl

theorem steady_leave (s : St) : Steady s (s.leave pick) := by
  have hsignal := steady_signalCond pick s
  have hfreed : Steady (s.signalCond pick) (s.signalCond pick).freeRest := by
    refine ⟨⟨(s.signalCond pick).offloadCmdList.map .freed, rfl, fun e he => ?_⟩, rfl, rfl, rfl,
      rfl⟩
    obtain ⟨c, -, rfl⟩ := List.mem_map.mp he
    rfl
  exact (hsignal.trans hfreed).same rfl rfl rfl rfl rfl

/-- **THE THREAD** leaves the metadata alone. -/
theorem steady_threadStep (hmute : Mute s) (hstep : s.threadStep pick = some s') :
    Steady s s' ∧ Mute s' ∧ ∀ w, s'.lock = .writing w → s.lock = .writing w := by
  unfold St.threadStep at hstep
  split at hstep
  · split at hstep
    · obtain rfl := Option.some.inj hstep
      exact ⟨(Steady.refl s).same rfl rfl rfl rfl rfl, mute_of_calls rfl, fun _ h => by cases h⟩
    · cases hstep
  · split at hstep
    · obtain rfl := Option.some.inj hstep
      exact ⟨(Steady.refl s).same rfl rfl rfl rfl rfl, mute_of_calls rfl, fun _ h => by cases h⟩
    · cases hstep
  · rename_i hpc
    obtain rfl := Option.some.inj hstep
    rw [St.loopHead]
    split
    · exact ⟨(Steady.refl s).same rfl rfl rfl rfl rfl, mute_of_calls rfl, fun _ h => by cases h⟩
    · rename_i c rest _
      have hlist : Steady s { s with offloadCmdList := rest } :=
        (Steady.refl s).same rfl rfl rfl rfl rfl
      obtain ⟨htake, hmute', hlock⟩ := @steady_takeCmd { s with offloadCmdList := rest } pick c hmute
      exact ⟨hlist.trans htake, hmute', hlock⟩
  · rename_i c f calls hpc
    obtain rfl := Option.some.inj hstep
    rw [Mute, hpc] at hmute
    have hcall : Steady s (s.call f) := steady_note (hmute f List.mem_cons_self s.compr) s
    refine ⟨hcall.same rfl rfl rfl rfl rfl, ?_, fun _ h => h⟩
    exact fun g hg => hmute g (List.mem_cons_of_mem f hg)
  · rename_i c f device calls hpc
    obtain rfl := Option.some.inj hstep
    rw [Mute, hpc] at hmute
    exact ⟨(Steady.refl s).same rfl rfl rfl rfl rfl, hmute, fun _ h => h⟩
  · rename_i c hpc
    split at hstep
    · obtain rfl := Option.some.inj hstep
      refine ⟨steady_answer s, mute_of_calls (by rw [answer_pc]; rfl), fun w hw => ?_⟩
      cases (answer_lock pick c s).symm.trans hw
    · cases hstep
  · obtain rfl := Option.some.inj hstep
    exact ⟨steady_leave s, mute_of_calls rfl, fun _ h => by cases h⟩
  · cases hstep
  · cases hstep

end Thread

-- ── Every interleaving ────────────────────────────────────────────────────

/-- What every step keeps that clears the flag only for what the device knows. -/
structure MdataInv (s : St) : Prop where
  inv : Inv s
  mute : Mute s
  ok : MdataOk s

section Runs

variable {fx : Bool} {s s' : St}

theorem mute_step (a : Act) (h : Mute s) (hstep : step fx s a = some s') : Mute s' := by
  cases a with
  | call c =>
      rw [step] at hstep
      split at hstep
      · obtain rfl := Option.some.inj hstep
        exact mute_sends h (sends_run s c)
      · cases hstep
  | writeOn =>
      rw [step] at hstep
      split at hstep
      · obtain rfl := Option.some.inj hstep
        have hquiet : Quiet s { s with sendNewMetadata := false } :=
          (Quiet.refl s).same rfl rfl rfl rfl rfl
        exact mute_sends h ((sends_finishWrite _).before hquiet)
      · cases hstep
  | parse mdata =>
      rw [step] at hstep
      split at hstep
      · obtain rfl := Option.some.inj hstep
        exact h
      · cases hstep
  | parsed =>
      rw [step] at hstep
      split at hstep
      · cases hstep
      · obtain rfl := Option.some.inj hstep
        exact h
  | standbyOn =>
      rw [step] at hstep
      split at hstep
      · split at hstep
        · obtain rfl := Option.some.inj hstep
          exact h
        · obtain rfl := Option.some.inj hstep
          exact mute_sends h (.quiet (quiet_afterStandby s))
      · cases hstep
  | flushOn i =>
      rw [step] at hstep
      split at hstep
      · split at hstep
        · obtain rfl := Option.some.inj hstep
          exact h
        · obtain rfl := Option.some.inj hstep
          exact h
      · cases hstep
  | thread pick => exact (steady_threadStep h hstep).2.1
  | wakeThread =>
      rw [step] at hstep
      split at hstep
      · obtain rfl := Option.some.inj hstep
        exact mute_of_calls rfl
      · cases hstep
  | wakeCond pick =>
      obtain rfl := Option.some.inj hstep
      exact mute_sends h (.quiet (quiet_signalCond pick s))
  | destroy =>
      rw [step] at hstep
      split at hstep
      · obtain rfl := Option.some.inj hstep
        rw [Mute, show ({ s.sendOffloadCmd .exit with closing := true } : St).pc.calls
          = s.pc.calls from calls_sendOffloadCmd s .exit]
        exact h
      · cases hstep

/-- A standby that waited finds the flag set. -/
theorem mdataOk_standbyOn (hi : Inv s) (h : MdataOk s) (hstep : step fx s .standbyOn = some s') :
    MdataOk s' ∧ WriteTold s' := by
  rw [step] at hstep
  split at hstep
  · rename_i hready
    obtain ⟨w, hw, -⟩ := (Option.any_eq_true _ _).mp hready.2
    have hflag : s.sendNewMetadata = true := h.standby (hi.waiting (by rw [hw]; rfl))
    split at hstep
    · obtain rfl := Option.some.inj hstep
      exact ⟨mdataOk_flag hflag, writeTold_free hready.1⟩
    · obtain rfl := Option.some.inj hstep
      refine ⟨mdataOk_flag ?_, writeTold_free ?_⟩
      · rw [St.afterStandby, St.stopOutputOffloadStream, St.closeDevice]
        split <;> split <;> exact hflag
      · rw [St.afterStandby, stopOutputOffloadStream_lock]
        exact (closeDevice_lock s).trans hready.1
  · cases hstep

/-- The second statement of a write. -/
theorem mdataOk_writeOn_iff (hi : Inv s) (hstep : step fx s .writeOn = some s') :
    (MdataOk s' ↔ (s.parsing = 0 → Told s)) ∧ (Kept s' ↔ (s.parsing = 0 → Told s))
      ∧ WriteTold s' := by
  rw [step] at hstep
  split at hstep
  · rename_i w hlock
    obtain rfl := Option.some.inj hstep
    have hrunning := hi.writing w hlock
    have hsteady := @steady_finishWrite w { s with sendNewMetadata := false }
    have hkept : Kept (St.finishWrite w { s with sendNewMetadata := false })
        ↔ (s.parsing = 0 → Told s) := by
      rw [Kept, hsteady.flag, hsteady.parsing, hsteady.told]
      exact ⟨fun hk => hk rfl, fun hk _ => hk⟩
    refine ⟨⟨fun hok => hkept.mp hok.kept, fun ht => ⟨fun hs => ?_, hkept.mpr ht⟩⟩, hkept,
      writeTold_free rfl⟩
    rw [hsteady.standby] at hs
    cases hrunning.symm.trans hs
  · cases hstep

/-- **EVERY STEP** but the second statement of a write keeps the device told or
    the flag set. -/
theorem mdataOk_step (a : Act) (h : MdataInv s) (ha : a ≠ .writeOn)
    (hstep : step fx s a = some s') : MdataOk s' := by
  cases a with
  | call c =>
      rw [step] at hstep
      split at hstep
      · rename_i hfree
        obtain rfl := Option.some.inj hstep
        exact (mdata_run h.ok hfree.1 c).1
      · cases hstep
  | writeOn => exact absurd rfl ha
  | parse mdata =>
      rw [step] at hstep
      split at hstep
      · obtain rfl := Option.some.inj hstep
        exact ⟨h.ok.standby, fun _ hparsing => by cases hparsing⟩
      · cases hstep
  | parsed =>
      rw [step] at hstep
      split at hstep
      · cases hstep
      · obtain rfl := Option.some.inj hstep
        exact mdataOk_flag rfl
  | standbyOn => exact (mdataOk_standbyOn h.inv h.ok hstep).1
  | flushOn i =>
      rw [step] at hstep
      split at hstep
      · split at hstep
        · obtain rfl := Option.some.inj hstep
          exact mdataOk_steady h.ok ((Steady.refl s).same rfl rfl rfl rfl rfl)
        · obtain rfl := Option.some.inj hstep
          exact mdataOk_steady h.ok ((Steady.refl s).same rfl rfl rfl rfl rfl)
      · cases hstep
  | thread pick => exact mdataOk_steady h.ok (steady_threadStep h.mute hstep).1
  | wakeThread =>
      rw [step] at hstep
      split at hstep
      · obtain rfl := Option.some.inj hstep
        exact mdataOk_steady h.ok ((Steady.refl s).same rfl rfl rfl rfl rfl)
      · cases hstep
  | wakeCond pick =>
      obtain rfl := Option.some.inj hstep
      exact mdataOk_steady h.ok (steady_signalCond pick s)
  | destroy =>
      rw [step] at hstep
      split at hstep
      · obtain rfl := Option.some.inj hstep
        exact mdataOk_steady h.ok ((steady_send s .exit).same rfl rfl rfl rfl rfl)
      · cases hstep

theorem clearsTold_other {a : Act} (ha : a ≠ .writeOn) : ClearsTold s a := by
  cases a <;> trivial

theorem mdataInv_step (a : Act) (h : MdataInv s) (hok : ClearsTold s a)
    (hstep : step fx s a = some s') : MdataInv s' where
  inv := inv_step a h.inv hstep
  mute := mute_step a h.mute hstep
  ok := by
    by_cases ha : a = .writeOn
    · subst ha
      exact (mdataOk_writeOn_iff h.inv hstep).1.mpr hok
    · exact mdataOk_step a h ha hstep

theorem clearsTold_of_kept (a : Act) (h : MdataInv s) (hstep : step fx s a = some s')
    (hkept : Kept s') : ClearsTold s a := by
  by_cases ha : a = .writeOn
  · subst ha
    exact (mdataOk_writeOn_iff h.inv hstep).2.1.mp hkept
  · exact clearsTold_other ha

theorem mdataInv_start : MdataInv {} where
  inv := inv_start
  mute := mute_of_calls rfl
  ok := mdataOk_flag rfl

/-- A parse that stays out of the writes leaves what they told as it is. -/
theorem writeTold_step (a : Act) (h : MdataInv s) (ht : WriteTold s) (hok : ParsesOutside s a)
    (hstep : step fx s a = some s') : WriteTold s' := by
  cases a with
  | call c =>
      rw [step] at hstep
      split at hstep
      · rename_i hfree
        obtain rfl := Option.some.inj hstep
        exact (mdata_run h.ok hfree.1 c).2
      · cases hstep
  | writeOn => exact (mdataOk_writeOn_iff h.inv hstep).2.2
  | parse mdata =>
      rw [step] at hstep
      split at hstep
      · obtain rfl := Option.some.inj hstep
        exact fun _ _ hparsing => by cases hparsing
      · cases hstep
  | parsed =>
      rw [step] at hstep
      split at hstep
      · cases hstep
      · obtain rfl := Option.some.inj hstep
        exact writeTold_of_lock hok
  | standbyOn => exact (mdataOk_standbyOn h.inv h.ok hstep).2
  | flushOn i =>
      rw [step] at hstep
      split at hstep
      · rename_i hready
        split at hstep
        · obtain rfl := Option.some.inj hstep
          exact writeTold_free hready.1
        · obtain rfl := Option.some.inj hstep
          exact writeTold_free hready.1
      · cases hstep
  | thread pick =>
      obtain ⟨hsteady, -, hlock⟩ := steady_threadStep h.mute hstep
      intro w hw hparsing
      rw [hsteady.parsing] at hparsing
      exact hsteady.told.mpr (ht w (hlock w hw) hparsing)
  | wakeThread =>
      rw [step] at hstep
      split at hstep
      · obtain rfl := Option.some.inj hstep
        exact ht
      · cases hstep
  | wakeCond pick =>
      obtain rfl := Option.some.inj hstep
      obtain ⟨d, flushes, heq, -⟩ := signalCond_spec pick s
      rw [heq]
      exact ht
  | destroy =>
      rw [step] at hstep
      split at hstep
      · rename_i hready
        obtain rfl := Option.some.inj hstep
        exact writeTold_free hready.1
      · cases hstep

/-- A parse between the two statements of a write: the device never learns of it. -/
example : ∃ s, run (step true) {} [.call (.write ⟨true, true, true, false⟩), .parse ⟨576, 1152⟩,
    .parsed, .writeOn] = some s ∧ ¬Kept s :=
  ⟨_, rfl, fun h => absurd (h rfl rfl) (by decide)⟩

end Runs

end OffloadThread

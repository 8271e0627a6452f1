import Universal7580.OffloadAnswersProofs

/-! # Waiting for the callback thread

    `stop_compressed_output_l` waits for the thread to leave the compress
    device.  `thread_catches_up`: unless the mutex of the stream is with a call,
    the thread alone works off what was sent, in a number of steps bounded by the
    length of the list, and goes to sleep.  `waits_end`: as long as calls on the
    stream begin one after the other, a wait that began ends in this way, with
    every command answered. -/

namespace OffloadThread

open Run Trace

-- ── The thread alone ──────────────────────────────────────────────────────

/-- The steps of the thread, one after the other. -/
abbrev threadActs (k : Nat) : List Act := List.replicate k (.thread none)

/-- What the thread leaves alone while it works. -/
structure Undisturbed (s s' : St) : Prop where
  compr : s'.compr = s.compr
  standby : s'.standby = s.standby
  closing : s'.closing = s.closing
  waiting : s'.waiting.isSome = s.waiting.isSome
  flushes : s'.flushes.length = s.flushes.length
  offloadState : s'.offloadState = s.offloadState

section Thread

variable {fx : Bool} {s s' s'' : St} {pick : Option Nat} {c : Cmd}

theorem Undisturbed.refl (s : St) : Undisturbed s s := ⟨rfl, rfl, rfl, rfl, rfl, rfl⟩

theorem Undisturbed.trans (h : Undisturbed s s') (h' : Undisturbed s' s'') :
    Undisturbed s s'' where
  compr := h'.compr.trans h.compr
  standby := h'.standby.trans h.standby
  closing := h'.closing.trans h.closing
  waiting := h'.waiting.trans h.waiting
  flushes := h'.flushes.trans h.flushes
  offloadState := h'.offloadState.trans h.offloadState

theorem length_signalFirst (l : List Bool) : (St.signalFirst l).length = l.length := by
  induction l with
  | nil => rfl
  | cons b rest ih =>
      cases b with
      | false => rfl
      | true => exact congrArg Nat.succ ih

theorem length_signalCond (pick : Option Nat) (s : St) :
    (s.signalCond pick).flushes.length = s.flushes.length := by
  cases pick with
  | none =>
      rw [St.signalCond]
      split
      · rfl
      · exact length_signalFirst _
  | some i =>
      rw [St.signalCond]
      split
      · rw [St.signalFlush]
        split
        · exact List.length_set
        · exact length_signalFirst _
      · rfl

theorem undisturbed_signalCond (pick : Option Nat) (s : St) :
    Undisturbed s (s.signalCond pick) := by
  have hlength := length_signalCond pick s
  obtain ⟨w, flushes, heq, hw⟩ := signalCond_spec pick s
  rw [heq] at hlength ⊢
  exact ⟨rfl, rfl, rfl, hw, hlength, rfl⟩

/-- A run of the thread that goes on. -/
theorem threadActs_add {k k' : Nat} (h : run (step fx) s (threadActs k) = some s')
    (h' : run (step fx) s' (threadActs k') = some s'') :
    run (step fx) s (threadActs (k + k')) = some s'' := by
  rw [threadActs, List.replicate_add, run_append h]
  exact h'

/-- One step of the thread. -/
theorem threadActs_one (h : s.threadStep none = some s') :
    run (step fx) s (threadActs 1) = some s' :=
  run_cons (show step fx s (.thread none) = some s' from h)

theorem threadStep_top (hpc : s.pc = .top) : s.threadStep pick = some (s.loopHead pick) := by
  unfold St.threadStep
  rw [hpc]

theorem loopHead_cons {rest : List Cmd} (hlist : s.offloadCmdList = c :: rest) :
    s.loopHead pick = ({ s with offloadCmdList := rest } : St).takeCmd pick c := by
  rw [St.loopHead]
  split
  · rename_i hnil
    cases hnil.symm.trans hlist
  · rename_i c' rest' hcons
    obtain ⟨rfl, rfl⟩ := List.cons.inj (hcons.symm.trans hlist)
    rfl

/-- **WORK**: `k` steps of the thread, in which it takes the commands `more`, with
    the device each of them met. -/
structure Works (fx : Bool) (s : St) (k : Nat) (more : List (Cmd × Option Nat)) (s' : St) :
    Prop where
  ran : run (step fx) s (threadActs k) = some s'
  same : Undisturbed s s'
  taken : taken s'.log = taken s.log ++ more

variable {k k' : Nat} {more more' : List (Cmd × Option Nat)}

theorem Works.trans (h : Works fx s k more s') (h' : Works fx s' k' more' s'') :
    Works fx s (k + k') (more ++ more') s'' where
  ran := threadActs_add h.ran h'.ran
  same := h.same.trans h'.same
  taken := by rw [h'.taken, h.taken, List.append_assoc]

theorem works_none (s : St) : Works fx s 0 [] s :=
  ⟨rfl, Undisturbed.refl s, (List.append_nil _).symm⟩

theorem works_one (hstep : s.threadStep none = some s') (hsame : Undisturbed s s')
    (htaken : taken s'.log = taken s.log ++ more) : Works fx s 1 more s' :=
  ⟨threadActs_one hstep, hsame, htaken⟩

/-- A step in which nothing is taken. -/
theorem works_silent (hstep : s.threadStep none = some s') (hsame : Undisturbed s s')
    (hlog : taken s'.log = taken s.log) : Works fx s 1 [] s' :=
  works_one hstep hsame (hlog.trans (List.append_nil _).symm)

theorem Works.account (h : Works fx s k more s') (ha : AccountInv s) : AccountInv s' := by
  have hkeep : ∀ (k : Nat) (s : St), AccountInv s → run (step fx) s (threadActs k) = some s' →
      AccountInv s' := by
    intro k
    induction k with
    | zero =>
        intro s ha hrun
        obtain rfl := Option.some.inj hrun
        exact ha
    | succ k ih =>
        intro s ha hrun
        rw [threadActs, List.replicate_succ] at hrun
        obtain ⟨s₁, hstep, hrest⟩ := run_cons_eq_some hrun
        exact ih s₁ (accountInv_threadStep ha hstep) hrest
  exact hkeep k s ha h.ran

-- ── Through the device and through the list ───────────────────────────────

/-- The thread has the mutex and is at the head of its loop. -/
def AtTop (s : St) : Prop := s.pc = .top ∧ s.lock = .thread

/-- The thread is asleep with nothing to do, or at its end. -/
structure Rested (s : St) : Prop where
  pc : s.pc = .asleep ∨ s.pc = .done
  lock : s.lock = .free
  list : s.offloadCmdList = []

theorem answer_frame (c : Cmd) (s : St) :
    Undisturbed s (s.answer none c) ∧ AtTop (s.answer none c)
      ∧ (s.answer none c).offloadCmdList = s.offloadCmdList
      ∧ taken (s.answer none c).log = taken s.log := by
  have hsame := undisturbed_signalCond none
    { s with offloadThreadBlocked := false, lock := .thread, pc := .top }
  obtain ⟨w, flushes, heq, -⟩ := signalCond_spec none
    { s with offloadThreadBlocked := false, lock := .thread, pc := .top }
  rw [heq] at hsame
  rw [St.answer, St.callBack, heq]
  cases c.cmd.event with
  | none =>
      refine ⟨⟨rfl, rfl, rfl, hsame.waiting, hsame.flushes, rfl⟩, ⟨rfl, rfl⟩, rfl, ?_⟩
      exact filterMap_other _ rfl
  | some e =>
      refine ⟨⟨rfl, rfl, rfl, hsame.waiting, hsame.flushes, rfl⟩, ⟨rfl, rfl⟩, rfl, ?_⟩
      exact (filterMap_other _ rfl).trans (filterMap_other _ rfl)

/-- **THROUGH THE DEVICE**: the thread makes its calls and answers. -/
theorem works_device (calls : List Compress) : ∀ {s : St}, s.pc = .unlocked c calls →
    s.lock = .free → ∃ s', Works fx s (2 * calls.length + 1) [] s' ∧ AtTop s'
      ∧ s'.offloadCmdList = s.offloadCmdList := by
  induction calls with
  | nil =>
      intro s hpc hlock
      obtain ⟨hsame, htop, hlist, htaken⟩ := answer_frame c s
      refine ⟨s.answer none c, works_silent ?_ hsame htaken, htop, hlist⟩
      unfold St.threadStep
      rw [hpc]
      exact if_pos hlock
  | cons f calls ih =>
      intro s hpc hlock
      have henter : s.threadStep none
          = some { s.call f with pc := .inDevice c f s.compr calls } := by
        unfold St.threadStep
        rw [hpc]
      have hleave : ({ s.call f with pc := .inDevice c f s.compr calls } : St).threadStep none
          = some { s.call f with pc := .unlocked c calls } := rfl
      obtain ⟨s', hworks, htop, hlist⟩ :=
        @ih { s.call f with pc := .unlocked c calls } rfl hlock
      have hfirst : Works fx s 1 [] { s.call f with pc := .inDevice c f s.compr calls } :=
        works_silent henter ⟨rfl, rfl, rfl, rfl, rfl, rfl⟩ (filterMap_other _ rfl)
      have hsecond : Works fx { s.call f with pc := .inDevice c f s.compr calls } 1 []
          { s.call f with pc := .unlocked c calls } :=
        works_silent hleave ⟨rfl, rfl, rfl, rfl, rfl, rfl⟩ rfl
      refine ⟨s', ?_, htop, hlist⟩
      have hall := (hfirst.trans hsecond).trans hworks
      have hsteps : 1 + 1 + (2 * calls.length + 1) = 2 * (f :: calls).length + 1 := by
        rw [List.length_cons]
        omega
      rw [hsteps] at hall
      exact hall

theorem length_calls (cmd : OffloadCmd) : cmd.calls.length ≤ 2 := by
  cases cmd <;> decide

/-- **THE END** of the thread. -/
theorem works_leaving (ha : AccountInv s) (hpc : s.pc = .leaving) :
    ∃ s', Works fx s 1 [] s' ∧ Rested s' := by
  have hsame := undisturbed_signalCond none s
  have hquiet := quiet_signalCond none s
  have hlist : (s.signalCond none).offloadCmdList = [] :=
    hquiet.list.trans (ha.ended (by rw [hpc]; rfl)).2
  have hstep : s.threadStep none = some (s.leave none) := by
    unfold St.threadStep
    rw [hpc]
  refine ⟨s.leave none, works_silent hstep ?_ ?_, .inr rfl, rfl, rfl⟩
  · exact ⟨hsame.compr, hsame.standby, hsame.closing, hsame.waiting, hsame.flushes,
      hsame.offloadState⟩
  · show taken ((s.signalCond none).log ++ (s.signalCond none).offloadCmdList.map Event.freed) = _
    rw [hlist, List.map_nil, List.append_nil]
    exact hquiet.taken

/-- **THROUGH THE LIST**: the thread takes what is on it, and rests. -/
theorem works_list : ∀ (list : List Cmd) {s : St}, AccountInv s → AtTop s →
    s.offloadCmdList = list →
    ∃ k s', k ≤ 6 * list.length + 1 ∧ Works fx s k (list.map fun c => (c, s.compr)) s'
      ∧ Rested s' := by
  intro list
  induction list with
  | nil =>
      intro s _ htop hlist
      have hstep : s.threadStep none = some { s with pc := .asleep, lock := .free } := by
        unfold St.threadStep
        rw [htop.1, St.loopHead, hlist]
      refine ⟨1, _, Nat.le_refl 1, works_silent hstep ⟨rfl, rfl, rfl, rfl, rfl, rfl⟩ rfl, ?_⟩
      exact ⟨.inl rfl, rfl, hlist⟩
  | cons c rest ih =>
      intro s ha htop hlist
      obtain ⟨hpc, hlock⟩ := htop
      have hstep : s.threadStep none = some ({ s with offloadCmdList := rest }.takeCmd none c) := by
        rw [threadStep_top hpc, loopHead_cons hlist]
      by_cases hexit : c.cmd = .exit
      · -- nothing was sent after an exit
        have hrest : rest = [] :=
          ha.last ((taken s.log).map Prod.fst) c rest (hlist ▸ ha.inOrder) hexit
        subst hrest
        have htake : ({ s with offloadCmdList := [] } : St).takeCmd none c
            = { (({ s with offloadCmdList := [] } : St).note (.taken c s.compr)).note (.freed c) with
                pc := .leaving } := if_pos hexit
        rw [htake] at hstep
        have hfirst : Works fx s 1 [(c, s.compr)] _ :=
          works_one hstep ⟨rfl, rfl, rfl, rfl, rfl, rfl⟩
            ((filterMap_other _ rfl).trans (taken_concat s.log c s.compr))
        obtain ⟨s', hsecond, hrested⟩ := @works_leaving fx _ (hfirst.account ha) rfl
        exact ⟨2, s', by rw [List.length_singleton]; omega, hfirst.trans hsecond, hrested⟩
      · by_cases hcompr : s.compr.isNone = true
        · -- no device: the thread goes on with the next one
          have htake : ({ s with offloadCmdList := rest } : St).takeCmd none c
              = (({ s with offloadCmdList := rest } : St).note (.taken c s.compr)).signalCond
                  none := by
            rw [St.takeCmd, if_neg hexit]
            exact if_pos hcompr
          rw [htake] at hstep
          have hsame := undisturbed_signalCond none
            (({ s with offloadCmdList := rest } : St).note (.taken c s.compr))
          have hquiet := quiet_signalCond none
            (({ s with offloadCmdList := rest } : St).note (.taken c s.compr))
          obtain ⟨w, flushes, heq, -⟩ := signalCond_spec none
            (({ s with offloadCmdList := rest } : St).note (.taken c s.compr))
          have hfirst : Works fx s 1 [(c, s.compr)] _ :=
            works_one hstep ⟨hsame.compr, hsame.standby, hsame.closing, hsame.waiting,
              hsame.flushes, hsame.offloadState⟩ (hquiet.taken.trans (taken_concat s.log c s.compr))
          have htop : AtTop ((({ s with offloadCmdList := rest } : St).note
              (.taken c s.compr)).signalCond none) := by
            rw [heq]
            exact ⟨hpc, hlock⟩
          obtain ⟨k, s', hk, hsecond, hrested⟩ := ih (hfirst.account ha) htop hquiet.list
          rw [hfirst.same.compr] at hsecond
          refine ⟨1 + k, s', ?_, hfirst.trans hsecond, hrested⟩
          rw [List.length_cons]
          omega
        · -- a device: the thread goes through it
          have htake : ({ s with offloadCmdList := rest } : St).takeCmd none c
              = { ({ s with offloadCmdList := rest } : St).note (.taken c s.compr) with
                  offloadThreadBlocked := true
                  lock := .free
                  pc := .unlocked c c.cmd.calls } := by
            rw [St.takeCmd, if_neg hexit]
            exact if_neg hcompr
          rw [htake] at hstep
          have hfirst : Works fx s 1 [(c, s.compr)] _ :=
            works_one hstep ⟨rfl, rfl, rfl, rfl, rfl, rfl⟩ (taken_concat s.log c s.compr)
          obtain ⟨s₁, hdevice, htop, hlist₁⟩ := @works_device fx c c.cmd.calls
            { ({ s with offloadCmdList := rest } : St).note (.taken c s.compr) with
              offloadThreadBlocked := true
              lock := .free
              pc := .unlocked c c.cmd.calls } rfl rfl
          have hboth := hfirst.trans hdevice
          obtain ⟨k, s', hk, hrest, hrested⟩ := ih (hboth.account ha) htop hlist₁
          rw [hboth.same.compr] at hrest
          refine ⟨1 + (2 * c.cmd.calls.length + 1) + k, s', ?_, hboth.trans hrest, hrested⟩
          have hcalls := length_calls c.cmd
          rw [List.length_cons]
          omega

/-- What the thread still does before it is at the head of its loop. -/
def Pc.toTop : Pc → Nat
  | .starting | .woken | .leaving => 1
  | .unlocked _ calls => 2 * calls.length + 1
  | .inDevice _ _ _ calls => 2 * calls.length + 2
  | .top | .asleep | .done => 0

/-- The thread only sleeps with an empty list: a command that is sent wakes it. -/
def Awake (s : St) : Prop := s.pc = .asleep → s.offloadCmdList = []

/-- **FROM ANYWHERE**: the thread works off the list, unless a call has the
    mutex. -/
theorem works_off (hi : Inv s) (ha : AccountInv s) (hawake : Awake s)
    (hlock : s.lock = .free ∨ s.lock = .thread) :
    ∃ k s', k ≤ 6 * s.offloadCmdList.length + 1 + s.pc.toTop
      ∧ Works fx s k (s.offloadCmdList.map fun c => (c, s.compr)) s' ∧ Rested s' := by
  have hfree : s.pc.locked = false → s.lock = .free := by
    intro hpc
    rcases hlock with hlock | hlock
    · exact hlock
    · exact absurd (hi.holder.mp hlock) (by rw [hpc]; exact Bool.false_ne_true)
  -- what is left once the thread is at the head of its loop
  have hgo : ∀ {k : Nat} {s₁ : St}, Works fx s k [] s₁ → AtTop s₁ →
      s₁.offloadCmdList = s.offloadCmdList → k ≤ s.pc.toTop →
      ∃ k s', k ≤ 6 * s.offloadCmdList.length + 1 + s.pc.toTop
        ∧ Works fx s k (s.offloadCmdList.map fun c => (c, s.compr)) s' ∧ Rested s' := by
    intro k s₁ hfirst htop hlist hk
    obtain ⟨k', s', hk', hrest, hrested⟩ :=
      @works_list fx s.offloadCmdList s₁ (hfirst.account ha) htop hlist
    rw [hfirst.same.compr] at hrest
    exact ⟨k + k', s', by omega, hfirst.trans hrest, hrested⟩
  have hlockStep : s.pc = .starting ∨ s.pc = .woken →
      Works fx s 1 [] { s with pc := .top, lock := .thread } := by
    intro hpc
    have hfree := hfree (by rcases hpc with hpc | hpc <;> rw [hpc] <;> rfl)
    refine works_silent ?_ ⟨rfl, rfl, rfl, rfl, rfl, rfl⟩ rfl
    unfold St.threadStep
    rcases hpc with hpc | hpc <;> rw [hpc] <;> exact if_pos hfree
  cases hpc : s.pc with
  | starting =>
      refine hpc ▸ hgo (hlockStep (.inl hpc)) ⟨rfl, rfl⟩ rfl ?_
      rw [hpc]
      exact Nat.le_refl 1
  | woken =>
      refine hpc ▸ hgo (hlockStep (.inr hpc)) ⟨rfl, rfl⟩ rfl ?_
      rw [hpc]
      exact Nat.le_refl 1
  | top =>
      refine hpc ▸ hgo (works_none s) ⟨hpc, hi.holder.mpr (by rw [hpc]; rfl)⟩ rfl ?_
      exact Nat.zero_le _
  | asleep =>
      have hlist := hawake hpc
      refine ⟨0, s, Nat.zero_le _, ?_, .inl hpc, hfree (by rw [hpc]; rfl), hlist⟩
      rw [hlist]
      exact works_none s
  | done =>
      have hlist := (ha.ended (by rw [hpc]; rfl)).2
      refine ⟨0, s, Nat.zero_le _, ?_, .inr hpc, hfree (by rw [hpc]; rfl), hlist⟩
      rw [hlist]
      exact works_none s
  | leaving =>
      have hlist := (ha.ended (by rw [hpc]; rfl)).2
      obtain ⟨s', hworks, hrested⟩ := @works_leaving fx s ha hpc
      refine ⟨1, s', by rw [Pc.toTop]; omega, ?_, hrested⟩
      rw [hlist]
      exact hworks
  | unlocked c calls =>
      obtain ⟨s₁, hworks, htop, hlist⟩ :=
        @works_device fx c calls s hpc (hfree (by rw [hpc]; rfl))
      refine hpc ▸ hgo hworks htop hlist ?_
      rw [hpc]
      exact Nat.le_refl _
  | inDevice c f device calls =>
      have hleave : Works fx s 1 [] { s with pc := .unlocked c calls } := by
        refine works_silent ?_ ⟨rfl, rfl, rfl, rfl, rfl, rfl⟩ rfl
        unfold St.threadStep
        rw [hpc]
      obtain ⟨s₁, hworks, htop, hlist⟩ :=
        @works_device fx c calls { s with pc := .unlocked c calls } rfl
          (hfree (by rw [hpc]; rfl))
      refine hpc ▸ hgo (hleave.trans hworks) htop hlist ?_
      rw [hpc, Pc.toTop]
      omega

end Thread

-- ── The thread is awake when there is something to do ─────────────────────

section Awake

variable {fx : Bool} {s s' : St} {pick : Option Nat}

theorem awake_quiet (h : Awake s) (hq : Quiet s s') : Awake s' := by
  intro hpc
  rw [hq.list]
  exact h (hq.pc.symm.trans hpc)

theorem awake_send (s : St) (cmd : OffloadCmd) : Awake (s.sendOffloadCmd cmd) := by
  intro hpc
  rw [St.sendOffloadCmd] at hpc
  dsimp only at hpc
  split at hpc
  · cases hpc
  · rename_i hother
    exact absurd hpc hother

theorem awake_sends (h : Awake s) (hs : Sends s s') : Awake s' := by
  cases hs with
  | quiet hq => exact awake_quiet h hq
  | one before other after => exact awake_quiet (awake_send _ _) after

theorem awake_of_pc {t : St} (hpc : t.pc ≠ .asleep) : Awake t := fun h => absurd h hpc

theorem awake_threadStep (hstep : s.threadStep pick = some s') : Awake s' := by
  unfold St.threadStep at hstep
  split at hstep
  · split at hstep
    · obtain rfl := Option.some.inj hstep
      exact awake_of_pc fun h => by cases h
    · cases hstep
  · split at hstep
    · obtain rfl := Option.some.inj hstep
      exact awake_of_pc fun h => by cases h
    · cases hstep
  · rename_i hpc
    obtain rfl := Option.some.inj hstep
    rw [St.loopHead]
    split
    · rename_i hlist
      exact fun _ => hlist
    · rw [St.takeCmd]
      split
      · exact awake_of_pc fun h => by cases h
      · split
        · refine awake_of_pc ?_
          rw [(quiet_signalCond pick _).pc]
          exact fun h => by cases hpc.symm.trans h
        · exact awake_of_pc fun h => by cases h
  · obtain rfl := Option.some.inj hstep
    exact awake_of_pc fun h => by cases h
  · obtain rfl := Option.some.inj hstep
    exact awake_of_pc fun h => by cases h
  · rename_i c hpc
    split at hstep
    · obtain rfl := Option.some.inj hstep
      refine awake_of_pc ?_
      have hquiet := quiet_signalCond pick
        { s with offloadThreadBlocked := false, lock := .thread, pc := .top }
      rw [St.answer, St.callBack]
      split
      · exact fun h => by cases hquiet.pc.symm.trans h
      · exact fun h => by cases hquiet.pc.symm.trans h
    · cases hstep
  · obtain rfl := Option.some.inj hstep
    exact awake_of_pc fun h => by cases h
  · cases hstep
  · cases hstep

/-- **NO SENT COMMAND IS SLEPT ON.** -/
theorem awake_step (a : Act) (h : Awake s) (hstep : step fx s a = some s') : Awake s' := by
  cases a with
  | call c =>
      rw [step] at hstep
      split at hstep
      · obtain rfl := Option.some.inj hstep
        exact awake_sends h (sends_run s c)
      · cases hstep
  | writeOn =>
      rw [step] at hstep
      split at hstep
      · obtain rfl := Option.some.inj hstep
        have hquiet : Quiet s { s with sendNewMetadata := false } :=
          (Quiet.refl s).same rfl rfl rfl rfl rfl
        exact awake_sends h ((sends_finishWrite _).before hquiet)
      · cases hstep
  | parse mdata =>
      rw [step] at hstep
      split at hstep
      · obtain rfl := Option.some.inj hstep
        exact h
      · cases hstep
  | parsed =>
      rw [step] at hstep
      split at hstep
      · cases hstep
      · obtain rfl := Option.some.inj hstep
        exact h
  | standbyOn =>
      rw [step] at hstep
      split at hstep
      · split at hstep
        · obtain rfl := Option.some.inj hstep
          exact h
        · obtain rfl := Option.some.inj hstep
          exact awake_quiet h (quiet_afterStandby s)
      · cases hstep
  | flushOn i =>
      rw [step] at hstep
      split at hstep
      · split at hstep
        · obtain rfl := Option.some.inj hstep
          exact h
        · obtain rfl := Option.some.inj hstep
          exact h
      · cases hstep
  | thread pick => exact awake_threadStep hstep
  | wakeThread =>
      rw [step] at hstep
      split at hstep
      · obtain rfl := Option.some.inj hstep
        exact awake_of_pc fun h => by cases h
      · cases hstep
  | wakeCond pick =>
      obtain rfl := Option.some.inj hstep
      exact awake_quiet h (quiet_signalCond pick s)
  | destroy =>
      rw [step] at hstep
      split at hstep
      · obtain rfl := Option.some.inj hstep
        exact awake_send s .exit
      · cases hstep

theorem inv_run_acts {acts : List Act} (hrun : run (step fx) {} acts = some s) : Inv s :=
  run_invariant (fun _ a _ => inv_step a) acts inv_start hrun

theorem awake_run {acts : List Act} (hrun : run (step fx) {} acts = some s) : Awake s :=
  run_invariant (fun _ a _ => awake_step a) acts (fun _ => rfl) hrun

/-- The callbacks that are still due. -/
def due (s : St) : List CallbackEvent :=
  s.pc.hand.toList.filterMap (·.cmd.event)
    ++ if s.compr.isSome then s.offloadCmdList.filterMap (·.cmd.event) else []

/-- Working off the list calls back for all of it, if there is a device. -/
theorem callbacks_works {k : Nat} (ha : AccountInv s)
    (hworks : Works fx s k (s.offloadCmdList.map fun c => (c, s.compr)) s')
    (hrested : Rested s') : callbacks s'.log = callbacks s.log ++ due s := by
  have hbefore := ha.called
  have hafter := (hworks.account ha).called
  have hhand : s'.pc.hand = none := by
    rcases hrested.pc with hpc | hpc <;> rw [hpc] <;> rfl
  rw [hhand, hworks.taken, List.filterMap_append, ← hbefore] at hafter
  rw [Option.toList_none, List.filterMap_nil, List.append_nil] at hafter
  rw [hafter, due, List.append_assoc]
  refine congrArg _ (congrArg _ ?_)
  cases hcompr : s.compr with
  | none =>
      rw [List.filterMap_map]
      exact List.filterMap_eq_nil_iff.mpr fun c _ => rfl
  | some d =>
      rw [List.filterMap_map]
      exact List.filterMap_congr fun c _ => rfl

/-- The thread alone, from any state of a run in which no call has the mutex. -/
theorem rests_run {acts : List Act} (hrun : run (step fx) {} acts = some s)
    (hlock : s.lock = .free ∨ s.lock = .thread) :
    ∃ k s', k ≤ 6 * s.offloadCmdList.length + 1 + s.pc.toTop
      ∧ run (step fx) s (threadActs k) = some s' ∧ Rested s' ∧ Undisturbed s s'
      ∧ callbacks s'.log = callbacks s.log ++ due s := by
  have ha := accountInv_run hrun
  obtain ⟨k, s', hk, hworks, hrested⟩ :=
    @works_off fx s (inv_run_acts hrun) ha (awake_run hrun) hlock
  exact ⟨k, s', hk, hworks.ran, hrested, hworks.same, callbacks_works ha hworks hrested⟩

/-- A write that the device does not take all of, and two drains while the thread
    waits for a buffer. -/
def drainsInWait : List Act :=
  [.call (.write ⟨true, true, true, true⟩), .writeOn, .thread none, .thread none, .thread none,
    .call (.drain true), .call (.drain false)]

end Awake

-- ── One call after the other ──────────────────────────────────────────────

/-- A call on the stream begins only when no other waits. -/
def Serial (s : St) : Act → Prop
  | .call _ => s.waiting = none ∧ s.flushes = []
  | _ => True

instance (s : St) (a : Act) : Decidable (Serial s a) :=
  match a with
  | .call _ => inferInstanceAs (Decidable (s.waiting = none ∧ s.flushes = []))
  | .writeOn | .parse _ | .parsed | .standbyOn | .flushOn _ | .thread _ | .wakeThread
  | .wakeCond _ | .destroy => isTrue trivial

/-- At most one call waits; while it sleeps the thread is in the device, from
    which it comes back with a signal; and no other call has the mutex. -/
structure Served (s : St) : Prop where
  one : s.waiting = none ∨ s.flushes = []
  single : s.flushes.length ≤ 1
  standby : ∀ w, s.waiting = some w → w.signalled = false → s.offloadThreadBlocked = true
  flush : false ∈ s.flushes → s.offloadThreadBlocked = true
  lock : s.waiting ≠ none ∨ s.flushes ≠ [] → s.lock = .free ∨ s.lock = .thread

/-- Nothing waits more or less than before. -/
structure Alike (s s' : St) : Prop where
  waiting : s'.waiting = s.waiting
  flushes : s'.flushes = s.flushes

section Served

variable {fx : Bool} {s s' s'' : St} {pick : Option Nat} {w : WriteIn}

theorem served_none (hw : s.waiting = none) (hf : s.flushes = []) : Served s where
  one := .inl hw
  single := by rw [hf]; exact Nat.zero_le _
  standby := fun w h => by cases hw.symm.trans h
  flush := fun h => by rw [hf] at h; cases h
  lock := fun h => h.elim (fun h => absurd hw h) fun h => absurd hf h

theorem Alike.refl (s : St) : Alike s s := ⟨rfl, rfl⟩

theorem Alike.trans (h : Alike s s') (h' : Alike s' s'') : Alike s s'' :=
  ⟨h'.waiting.trans h.waiting, h'.flushes.trans h.flushes⟩

theorem alike_stopOutput (s : St) : Alike s (s.stopOutputOffloadStream fx) := by
  rw [St.stopOutputOffloadStream]
  split <;> exact ⟨rfl, rfl⟩

theorem alike_closeDevice (s : St) : Alike s s.closeDevice := by
  rw [St.closeDevice]
  split <;> exact ⟨rfl, rfl⟩

theorem alike_startOutputStream (s : St) : Alike s (s.startOutputStream fx w).1 := by
  rw [St.startOutputStream]
  split
  · exact Alike.refl s
  · split
    · have hopen : Alike s s.openDevice := ⟨rfl, rfl⟩
      exact (hopen.trans (alike_closeDevice _)).trans (alike_stopOutput _)
    · split <;> exact ⟨rfl, rfl⟩

theorem alike_finishWrite (s : St) : Alike s (s.finishWrite w) := by
  have hshort : Alike s ((s.call .write).waitIfShort w) := by
    rw [St.waitIfShort]
    split <;> exact ⟨rfl, rfl⟩
  have hstarted : Alike ((s.call .write).waitIfShort w)
      ((s.call .write).waitIfShort w).startPlaying := by
    rw [St.startPlaying]
    split <;> exact ⟨rfl, rfl⟩
  exact (hshort.trans hstarted).trans ⟨rfl, rfl⟩

theorem alike_writeMetadata (s : St) : Alike s (s.writeMetadata w) := by
  rw [St.writeMetadata]
  split
  · exact ⟨rfl, rfl⟩
  · exact alike_finishWrite s

theorem alike_withAdev {f : St → St} (hf : Alike s (f s)) : Alike s (s.withAdev f) := by
  rw [St.withAdev]
  split
  · exact ⟨rfl, rfl⟩
  · exact hf

theorem alike_outWriteOffload (s : St) : Alike s (s.outWriteOffload w) := by
  rw [St.outWriteOffload]
  split
  · refine alike_withAdev ?_
    split
    · exact alike_writeMetadata s
    · exact ⟨rfl, rfl⟩
  · exact alike_writeMetadata s

theorem alike_outWrite (s : St) : Alike s (s.outWrite fx w) := by
  have hstarted := @alike_startOutputStream fx w s
  rw [St.outWrite]
  split
  · refine alike_withAdev ?_
    split
    · rename_i s' hstart
      rw [congrArg Prod.fst hstart] at hstarted
      have hwrite := @alike_outWriteOffload w { s' with standby := false }
      exact ⟨hwrite.waiting.trans hstarted.waiting, hwrite.flushes.trans hstarted.flushes⟩
    · rename_i s' hstart
      rw [congrArg Prod.fst hstart] at hstarted
      exact hstarted
  · exact alike_outWriteOffload s

theorem served_doOutStandby {routing : Bool} (hlock : s.lock = .free) (hf : s.flushes = []) :
    Served (s.doOutStandby fx routing) := by
  obtain ⟨hlock', -, -, -, -, hwaits⟩ := stopCompressed_spec s
  have hflushes : s.stopCompressed.1.flushes = [] := by
    rw [St.stopCompressed]
    split <;> exact hf
  have hblocked : s.stopCompressed.1.offloadThreadBlocked = s.offloadThreadBlocked := by
    rw [St.stopCompressed]
    split <;> rfl
  rw [St.doOutStandby, stopCompressed_standby]
  cases hstop : s.stopCompressed.2 with
  | true =>
      rw [hstop] at hwaits
      have hin : s.offloadThreadBlocked = true := ((Bool.and_eq_true _ _).mp hwaits.symm).2
      exact {
        one := .inr hflushes
        single := by
          show s.stopCompressed.1.flushes.length ≤ 1
          rw [hflushes]
          exact Nat.zero_le _
        standby := fun _ _ _ => hblocked.trans hin
        flush := fun _ => hblocked.trans hin
        lock := fun _ => .inl (hlock'.trans hlock) }
  | false =>
      show Served (St.afterStandby fx { s.stopCompressed.1 with standby := true })
      have hstopped := @alike_stopOutput fx
        { St.closeDevice { s.stopCompressed.1 with standby := true } with
          gaplessMdata := ⟨0, 0⟩, waiting := none }
      refine served_none hstopped.waiting (hstopped.flushes.trans ?_)
      exact (alike_closeDevice _).flushes.trans hflushes

theorem served_outFlushOffload (hlock : s.lock = .free) (hw : s.waiting = none)
    (hf : s.flushes = []) : Served s.outFlushOffload := by
  obtain ⟨hlock', -, hwaiting', -, -, hwaits⟩ := stopCompressed_spec s
  have hflushes : s.stopCompressed.1.flushes = [] := by
    rw [St.stopCompressed]
    split <;> exact hf
  have hblocked : s.stopCompressed.1.offloadThreadBlocked = s.offloadThreadBlocked := by
    rw [St.stopCompressed]
    split <;> rfl
  rw [St.outFlushOffload]
  split
  · split
    · rename_i s' hstop
      rw [congrArg Prod.fst hstop] at hlock' hwaiting' hflushes hblocked
      rw [congrArg Prod.snd hstop] at hwaits
      have hin : s.offloadThreadBlocked = true := ((Bool.and_eq_true _ _).mp hwaits.symm).2
      exact {
        one := .inl (hwaiting'.trans hw)
        single := by
          show (s'.flushes ++ [false]).length ≤ 1
          rw [hflushes]
          exact Nat.le_refl 1
        standby := fun _ _ _ => hblocked.trans hin
        flush := fun _ => hblocked.trans hin
        lock := fun _ => .inl (hlock'.trans hlock) }
    · rename_i s' hstop
      rw [congrArg Prod.fst hstop] at hwaiting' hflushes
      exact served_none (hwaiting'.trans hw) hflushes
  · exact served_none hw hf

/-- A call that begins when nobody waits leaves at most itself waiting. -/
theorem served_run (hlock : s.lock = .free) (hw : s.waiting = none) (hf : s.flushes = [])
    (c : Call) : Served (c.run fx s) := by
  have hsame : ∀ {t : St}, Alike s t → Served t := fun ht =>
    served_none (ht.waiting.trans hw) (ht.flushes.trans hf)
  have hadev : ∀ f : St → St, s.withAdev f = f s := by
    intro f
    rw [St.withAdev, hw]
    rfl
  cases c with
  | write w => exact hsame (alike_outWrite s)
  | pause =>
      show Served s.outPauseOffload
      rw [St.outPauseOffload]
      split
      · have hpaused : Alike s { s.call .pause with offloadState := .paused } := ⟨rfl, rfl⟩
        exact hsame (hpaused.trans (alike_withAdev (Alike.refl _)))
      · exact served_none hw hf
  | resume =>
      show Served s.outResumeOffload
      rw [St.outResumeOffload]
      split
      · exact hsame (alike_withAdev ⟨rfl, rfl⟩)
      · exact served_none hw hf
  | drain early => exact served_none hw hf
  | flush => exact served_outFlushOffload hlock hw hf
  | standby =>
      show Served (s.outStandby fx)
      rw [St.outStandby]
      split
      · exact served_none hw hf
      · rw [hadev]
        exact served_doOutStandby hlock hf
  | routing changes =>
      show Served (s.outSetRouting fx changes)
      rw [St.outSetRouting, hadev]
      split
      · exact served_doOutStandby hlock hf
      · exact served_none hw hf
  | setCallback cookie => exact served_none hw hf
  | position =>
      show Served s.outGetPosition
      rw [St.outGetPosition]
      split <;> exact served_none hw hf

end Served

-- ── Every wait ends ───────────────────────────────────────────────────────

/-- Nobody who waits is asleep. -/
structure Roused (s : St) : Prop where
  standby : ∀ w, s.waiting = some w → w.signalled = true
  flush : false ∉ s.flushes

section Waits

variable {fx : Bool} {s s' : St} {pick : Option Nat} {c : Cmd}

theorem roused_signalStandby (hf : false ∉ s.flushes) : Roused s.signalStandby where
  standby := by
    intro w hw
    rw [St.signalStandby, Option.map_eq_some_iff] at hw
    obtain ⟨w₀, -, rfl⟩ := hw
    rfl
  flush := hf

/-- At most one call waits, so a signal meets it. -/
theorem roused_signalCond (hone : s.waiting = none ∨ s.flushes = [])
    (hsingle : s.flushes.length ≤ 1) (pick : Option Nat) : Roused (s.signalCond pick) := by
  have hshort : s.flushes = [] ∨ s.flushes = [false] ∨ s.flushes = [true] := by
    match hf : s.flushes with
    | [] => exact .inl rfl
    | [false] => exact .inr (.inl rfl)
    | [true] => exact .inr (.inr rfl)
    | _ :: _ :: _ =>
        rw [hf] at hsingle
        exact absurd hsingle (by rw [List.length_cons, List.length_cons]; omega)
  have hfirst : false ∉ St.signalFirst s.flushes := by
    rcases hshort with hf | hf | hf <;> rw [hf] <;> decide
  have hset : ∀ i, s.flushes[i]? = some false → false ∉ s.flushes.set i true := by
    intro i hi
    rcases hshort with hf | hf | hf <;> rw [hf] at hi ⊢
    · cases hi
    · cases i with
      | zero => decide
      | succ i => cases hi
    · cases i with
      | zero => cases hi
      | succ i => cases hi
  cases pick with
  | none =>
      rw [St.signalCond]
      split
      · rename_i hasleep
        refine roused_signalStandby ?_
        rcases hone with hw | hf
        · rw [hw] at hasleep
          cases hasleep
        · rw [hf]
          exact List.not_mem_nil
      · rename_i hawake
        refine ⟨fun w hw => ?_, hfirst⟩
        rw [show s.waiting = some w from hw] at hawake
        cases hsig : w.signalled with
        | true => rfl
        | false => exact absurd (by rw [Option.any_some, hsig]; rfl) hawake
  | some i =>
      rw [St.signalCond]
      split
      · rename_i hmem
        have hnone : s.waiting = none := hone.resolve_right fun hf => by
          rw [hf] at hmem
          cases hmem
        rw [St.signalFlush]
        split
        · rename_i hi
          exact ⟨fun w hw => (by cases hnone.symm.trans hw), hset i hi⟩
        · exact ⟨fun w hw => (by cases hnone.symm.trans hw), hfirst⟩
      · rename_i hmem
        exact roused_signalStandby hmem

/-- A signal, with the mutex wherever it is. -/
theorem served_roused (hone : s.waiting = none ∨ s.flushes = [])
    (hsingle : s.flushes.length ≤ 1) (hlock : s.lock = .free ∨ s.lock = .thread)
    (pick : Option Nat) : Served (s.signalCond pick) := by
  obtain ⟨hasleep, hflush⟩ := roused_signalCond hone hsingle pick
  have hlength := length_signalCond pick s
  obtain ⟨w, flushes, heq, hw⟩ := signalCond_spec pick s
  rw [heq] at hasleep hflush hlength ⊢
  exact {
    one := by
      rcases hone with hnone | hnil
      · refine .inl (Option.not_isSome_iff_eq_none.mp ?_)
        rw [hw, hnone]
        exact Bool.false_ne_true
      · refine .inr (List.length_eq_zero_iff.mp ?_)
        rw [hlength, hnil]
        rfl
    single := by
      rw [hlength]
      exact hsingle
    standby := fun w hw hsig => by cases (hasleep w hw).symm.trans hsig
    flush := fun hmem => absurd hmem hflush
    lock := fun _ => hlock }

/-- A wake-up out of nowhere is a signal too. -/
theorem served_signalCond (h : Served s) (pick : Option Nat) : Served (s.signalCond pick) := by
  by_cases hwaits : s.waiting ≠ none ∨ s.flushes ≠ []
  · exact served_roused h.one h.single (h.lock hwaits) pick
  · rw [not_or, not_not, not_not] at hwaits
    have hsame : s.signalCond pick = s := by
      cases pick <;> simp [St.signalCond, St.signalStandby, St.signalFirst, hwaits]
      all_goals rw [← hwaits.1, ← hwaits.2]
    rw [hsame]
    exact h

theorem Served.quiet (h : Served s) (hsame : Alike s s')
    (hblocked : s'.offloadThreadBlocked = s.offloadThreadBlocked)
    (hlock : s'.lock = s.lock ∨ s'.lock = .free ∨ s'.lock = .thread) : Served s' where
  one := by
    rw [hsame.waiting, hsame.flushes]
    exact h.one
  single := by
    rw [hsame.flushes]
    exact h.single
  standby := fun w hw hsig => hblocked.trans (h.standby w (hsame.waiting.symm.trans hw) hsig)
  flush := fun hmem => hblocked.trans (h.flush (hsame.flushes ▸ hmem))
  lock := by
    intro hwaits
    rw [hsame.waiting, hsame.flushes] at hwaits
    rcases hlock with hlock | hlock
    · rw [hlock]
      exact h.lock hwaits
    · exact hlock

theorem served_takeCmd (h : Served s) (hlock : s.lock = .thread) :
    Served (s.takeCmd pick c) := by
  rw [St.takeCmd]
  split
  · exact h.quiet ⟨rfl, rfl⟩ rfl (.inl rfl)
  · split
    · exact @served_roused (s.note (.taken c s.compr)) h.one h.single (.inr hlock) pick
    · -- the thread goes into the device, from where it signals when it is back
      exact {
        one := h.one
        single := h.single
        standby := fun _ _ _ => rfl
        flush := fun _ => rfl
        lock := fun _ => .inl rfl }

/-- The thread keeps its word. -/
theorem served_threadStep (hi : Inv s) (h : Served s) (hstep : s.threadStep pick = some s') :
    Served s' := by
  unfold St.threadStep at hstep
  split at hstep
  · split at hstep
    · obtain rfl := Option.some.inj hstep
      exact h.quiet ⟨rfl, rfl⟩ rfl (.inr (.inr rfl))
    · cases hstep
  · split at hstep
    · obtain rfl := Option.some.inj hstep
      exact h.quiet ⟨rfl, rfl⟩ rfl (.inr (.inr rfl))
    · cases hstep
  · rename_i hpc
    obtain rfl := Option.some.inj hstep
    have hlock : s.lock = .thread := hi.holder.mpr (by rw [hpc]; rfl)
    rw [St.loopHead]
    split
    · exact h.quiet ⟨rfl, rfl⟩ rfl (.inr (.inl rfl))
    · rename_i c rest _
      exact served_takeCmd (s := { s with offloadCmdList := rest })
        (h.quiet ⟨rfl, rfl⟩ rfl (.inl rfl)) hlock
  · obtain rfl := Option.some.inj hstep
    exact h.quiet ⟨rfl, rfl⟩ rfl (.inl rfl)
  · obtain rfl := Option.some.inj hstep
    exact h.quiet ⟨rfl, rfl⟩ rfl (.inl rfl)
  · rename_i c hpc
    split at hstep
    · obtain rfl := Option.some.inj hstep
      have hback := @served_roused { s with
        offloadThreadBlocked := false, lock := .thread, pc := .top } h.one h.single (.inr rfl) pick
      have hcalled : ∀ t : St, Served t → Served (t.callBack c) := by
        intro t ht
        rw [St.callBack]
        split
        · exact ht.quiet ⟨rfl, rfl⟩ rfl (.inl rfl)
        · exact ht
      exact (hcalled _ hback).quiet ⟨rfl, rfl⟩ rfl (.inl rfl)
    · cases hstep
  · rename_i hpc
    obtain rfl := Option.some.inj hstep
    have hlock : s.lock = .thread := hi.holder.mpr (by rw [hpc]; rfl)
    exact (served_roused h.one h.single (.inr hlock) pick).quiet ⟨rfl, rfl⟩ rfl (.inr (.inl rfl))
  · cases hstep
  · cases hstep

/-- **ONE AFTER THE OTHER**: as long as calls begin one after the other, whoever
    waits is served. -/
theorem served_step (a : Act) (hi : Inv s) (h : Served s) (hserial : Serial s a)
    (hstep : step fx s a = some s') : Served s' := by
  cases a with
  | call c =>
      rw [step] at hstep
      split at hstep
      · rename_i hfree
        obtain rfl := Option.some.inj hstep
        exact served_run hfree.1 hserial.1 hserial.2 c
      · cases hstep
  | writeOn =>
      rw [step] at hstep
      split at hstep
      · rename_i w hlock
        obtain rfl := Option.some.inj hstep
        -- a write in between holds the mutex, so nobody waits
        have hidle : ¬(s.waiting ≠ none ∨ s.flushes ≠ []) := by
          intro hwaits
          rcases h.lock hwaits with hl | hl
          · cases hlock.symm.trans hl
          · cases hlock.symm.trans hl
        rw [not_or, not_not, not_not] at hidle
        have hsame := @alike_finishWrite w { s with sendNewMetadata := false }
        exact served_none (hsame.waiting.trans hidle.1) (hsame.flushes.trans hidle.2)
      · cases hstep
  | parse mdata =>
      rw [step] at hstep
      split at hstep
      · obtain rfl := Option.some.inj hstep
        exact h.quiet ⟨rfl, rfl⟩ rfl (.inl rfl)
      · cases hstep
  | parsed =>
      rw [step] at hstep
      split at hstep
      · cases hstep
      · obtain rfl := Option.some.inj hstep
        exact h.quiet ⟨rfl, rfl⟩ rfl (.inl rfl)
  | standbyOn =>
      rw [step] at hstep
      split at hstep
      · rename_i hready
        obtain ⟨w, hw, -⟩ := (Option.any_eq_true _ _).mp hready.2
        have hf : s.flushes = [] := h.one.resolve_left fun hnone => by cases hnone.symm.trans hw
        split at hstep
        · rename_i hblocked
          obtain rfl := Option.some.inj hstep
          exact {
            one := .inr hf
            single := h.single
            standby := fun _ _ _ => hblocked
            flush := fun _ => hblocked
            lock := fun _ => .inl hready.1 }
        · obtain rfl := Option.some.inj hstep
          have hsame := @alike_stopOutput fx
            { s.closeDevice with gaplessMdata := ⟨0, 0⟩, waiting := none }
          refine served_none hsame.waiting (hsame.flushes.trans ?_)
          exact (alike_closeDevice s).flushes.trans hf
      · cases hstep
  | flushOn i =>
      rw [step] at hstep
      split at hstep
      · rename_i hready
        have hnil : s.flushes ≠ [] := fun hf => by
          rw [hf] at hready
          cases hready.2
        have hw : s.waiting = none := h.one.resolve_right hnil
        split at hstep
        · rename_i hblocked
          obtain rfl := Option.some.inj hstep
          exact {
            one := .inl hw
            single := by
              show (s.flushes.set i false).length ≤ 1
              rw [List.length_set]
              exact h.single
            standby := fun _ _ _ => hblocked
            flush := fun _ => hblocked
            lock := fun _ => .inl hready.1 }
        · obtain rfl := Option.some.inj hstep
          refine served_none hw (List.length_eq_zero_iff.mp ?_)
          have hlt : i < s.flushes.length := (List.getElem?_eq_some_iff.mp hready.2).1
          have hsingle := h.single
          rw [List.length_eraseIdx_of_lt hlt]
          omega
      · cases hstep
  | thread pick => exact served_threadStep hi h hstep
  | wakeThread =>
      rw [step] at hstep
      split at hstep
      · obtain rfl := Option.some.inj hstep
        exact h.quiet ⟨rfl, rfl⟩ rfl (.inl rfl)
      · cases hstep
  | wakeCond pick =>
      obtain rfl := Option.some.inj hstep
      exact served_signalCond h pick
  | destroy =>
      rw [step] at hstep
      split at hstep
      · rename_i hready
        obtain rfl := Option.some.inj hstep
        exact served_none hready.2.2.2.1 hready.2.2.2.2.1
      · cases hstep

theorem served_start : Served {} := served_none rfl rfl

/-- Invariant and service together, over a run. -/
theorem served_run_acts {acts : List Act} (hserial : StepsMeet (step fx) Serial {} acts)
    (hrun : run (step fx) {} acts = some s) : Served s :=
  always_of_stepsMeet (fun s (h : Inv s ∧ Served s) => h.2)
    (fun _ a _ h hok hstep => ⟨inv_step a h.1 hstep, served_step a h.1 h.2 hok hstep⟩)
    acts ⟨inv_start, served_start⟩ hserial acts [] s (List.append_nil acts).symm hrun

/-- The steps of the thread are not calls. -/
theorem serial_threadActs (k : Nat) (s : St) : StepsMeet (step fx) Serial s (threadActs k) := by
  refine stepsMeet_of_forall ?_ s
  intro a ha t
  rw [List.eq_of_mem_replicate ha]
  trivial

theorem served_threadActs {k : Nat} (hi : Inv s) (h : Served s)
    (hrun : run (step fx) s (threadActs k) = some s') : Inv s' ∧ Served s' :=
  always_of_stepsMeet (fun s (h : Inv s ∧ Served s) => h)
    (fun _ a _ h hok hstep => ⟨inv_step a h.1 hstep, served_step a h.1 h.2 hok hstep⟩)
    (threadActs k) ⟨hi, h⟩ (serial_threadActs k s) (threadActs k) [] s'
    (List.append_nil _).symm hrun

/-- What a wait leaves when it is over. -/
structure Over (s s' : St) : Prop where
  waiting : s'.waiting = none
  flushes : s'.flushes = []
  lock : s'.lock = .free
  list : s'.offloadCmdList = []
  standby : s.waiting ≠ none → s'.compr = none
  flush : s.flushes ≠ [] → s'.offloadState = .pausedFlushed ∧ s'.compr = s.compr
  callbacks : callbacks s'.log = callbacks s.log ++ due s

theorem compr_afterStandby (s : St) : (s.afterStandby fx).compr = none := by
  rw [St.afterStandby, St.stopOutputOffloadStream]
  have hclosed : s.closeDevice.compr = none := by
    rw [St.closeDevice]
    split
    · rfl
    · rename_i hcompr
      exact Option.not_isSome_iff_eq_none.mp hcompr
  split <;> exact hclosed

/-- Once the thread rests, who waits goes on. -/
theorem over_of_rested (hi : Inv s') (h : Served s') (hrested : Rested s')
    (hsame : Undisturbed s s') (hcalled : callbacks s'.log = callbacks s.log ++ due s)
    (hwaits : s.waiting ≠ none ∨ s.flushes ≠ []) :
    ∃ on s'', (on = .standbyOn ∨ on = .flushOn 0) ∧ step fx s' on = some s'' ∧ Over s s'' := by
  have hout : s'.offloadThreadBlocked = false := by
    rw [hi.blocked]
    rcases hrested.pc with hpc | hpc <;> rw [hpc] <;> rfl
  cases hw : s'.waiting with
  | some w =>
      have hsig : w.signalled = true := by
        cases hsig : w.signalled with
        | true => rfl
        | false => cases hout.symm.trans (h.standby w hw hsig)
      have hf : s'.flushes = [] := h.one.resolve_left fun hnone => by cases hnone.symm.trans hw
      have hf₀ : s.flushes = [] := by
        refine List.length_eq_zero_iff.mp ?_
        rw [← hsame.flushes, hf]
        rfl
      have hgo : step fx s' .standbyOn = some (s'.afterStandby fx) := by
        rw [step, if_pos ⟨hrested.lock, by rw [hw]; exact hsig⟩, hout]
        rfl
      have hquiet := @quiet_afterStandby fx s'
      have hafter := @alike_stopOutput fx
        { s'.closeDevice with gaplessMdata := ⟨0, 0⟩, waiting := none }
      refine ⟨.standbyOn, s'.afterStandby fx, .inl rfl, hgo, ?_⟩
      exact {
        waiting := hafter.waiting
        flushes := hafter.flushes.trans ((alike_closeDevice s').flushes.trans hf)
        lock := by
          rw [St.afterStandby, stopOutputOffloadStream_lock]
          exact (closeDevice_lock s').trans hrested.lock
        list := hquiet.list.trans hrested.list
        standby := fun _ => compr_afterStandby s'
        flush := fun hne => absurd hf₀ hne
        callbacks := hquiet.callbacks.trans hcalled }
  | none =>
      have hw₀ : s.waiting = none := by
        refine Option.not_isSome_iff_eq_none.mp ?_
        rw [← hsame.waiting, hw]
        exact Bool.false_ne_true
      have hne : s.flushes ≠ [] := hwaits.resolve_left (not_not.mpr hw₀)
      -- one flush, and it is awake
      obtain ⟨b, hb⟩ : ∃ b, s'.flushes = [b] := by
        refine List.length_eq_one_iff.mp (Nat.le_antisymm h.single ?_)
        rw [hsame.flushes]
        exact List.length_pos_iff.mpr hne
      have htrue : b = true := by
        cases b with
        | true => rfl
        | false => cases hout.symm.trans (h.flush (by rw [hb]; decide))
      subst htrue
      have hgo : step fx s' (.flushOn 0)
          = some { s' with flushes := s'.flushes.eraseIdx 0, offloadState := .pausedFlushed } := by
        rw [step, if_pos ⟨hrested.lock, by rw [hb]; rfl⟩, hout]
        rfl
      refine ⟨.flushOn 0, _, .inr rfl, hgo, ?_⟩
      exact {
        waiting := hw
        flushes := by
          show s'.flushes.eraseIdx 0 = []
          rw [hb]
          rfl
        lock := hrested.lock
        list := hrested.list
        standby := fun hne => absurd hw₀ hne
        flush := fun _ => ⟨rfl, hsame.compr⟩
        callbacks := hcalled }

end Waits

/-- A write that the device does not take all of, so that the thread goes into it
    to wait for a buffer, and a standby. -/
def standbyInWait : List Act :=
  [.call (.write ⟨true, true, true, true⟩), .writeOn, .thread none, .thread none, .thread none,
    .call .standby]

end OffloadThread

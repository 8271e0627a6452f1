import Universal7580.AudioUsecaseProofs

/-! # The primary output

    `adev->primary_output` is written by `adev_open_output_stream` alone, between
    its checks: a primary stream is published before the look at the active
    usecases, and the stream that fails there is freed all the same.
    `adev_close_output_stream` frees the primary output and leaves the pointer.

    `primary_output_valid` says that the pointer names an open stream all along a
    run, that a failed open leaves it and that closing the primary output
    releases it exactly if the run has neither of the two. -/

namespace AudioHal

open AudioRouting Run

-- ── What the other operations leave alone ─────────────────────────────────

/-- The primary output, and which outputs are open. -/
def Adev.registry (s : Adev) : Option Nat × (Nat → Bool) :=
  (s.primaryOutput, fun n => (s.outs n).isOpen)

/-- The registry and the active input, which the work on outputs leaves alone
    too. -/
def Adev.handles (s : Adev) : Option Nat × Option Nat × (Nat → Bool) :=
  (s.activeInput, s.registry)

section Registry

variable {view : StreamOut → InputView} (s : Adev) (n : Nat)

theorem registry_of_handles {s s' : Adev} (h : s'.handles = s.handles) : s'.registry = s.registry :=
  congrArg Prod.snd h

theorem activeInput_of_handles {s s' : Adev} (h : s'.handles = s.handles) :
    s'.activeInput = s.activeInput := congrArg Prod.fst h

theorem handles_setOut {f : StreamOut → StreamOut} (hf : ∀ o, (f o).isOpen = o.isOpen) :
    (s.setOut n f).handles = s.handles := by
  refine Prod.ext rfl (Prod.ext rfl (funext fun m => ?_))
  show (Function.update s.outs n (f (s.outs n)) m).isOpen = (s.outs m).isOpen
  by_cases hm : m = n
  · rw [hm, Function.update_self, hf]
  · rw [Function.update_of_ne hm]

@[simp]
theorem registry_setIn (f : StreamIn → StreamIn) : (s.setIn n f).registry = s.registry := rfl

@[simp]
theorem handles_onRouting (f : Routing → Routing) : (s.onRouting f).handles = s.handles := rfl

@[simp]
theorem handles_selectDevices (id : UsecaseId) :
    (s.selectDevices view id).handles = s.handles := by
  have hrest := congrArg Adev.handles (@selectDevices_rest view s id)
  exact hrest

@[simp]
theorem registry_selectDevices (id : UsecaseId) :
    (s.selectDevices view id).registry = s.registry :=
  registry_of_handles (handles_selectDevices s id)

@[simp]
theorem handles_enableOutputPath (alloc : Bool) :
    (s.enableOutputPath view n alloc).1.handles = s.handles := by
  rw [Adev.enableOutputPath]
  split
  · rfl
  · rw [handles_selectDevices, handles_onRouting, handles_setOut]
    exact fun _ => rfl

@[simp]
theorem handles_disableOutputPath : (s.disableOutputPath n).handles = s.handles := by
  rw [Adev.disableOutputPath]
  split
  · rfl
  · rw [handles_onRouting, handles_setOut, handles_onRouting]
    exact fun _ => rfl

@[simp]
theorem handles_stopOutputStream : (s.stopOutputStream n).handles = s.handles := by
  have hset : (s.setOut n fun o => { o with offloadState := .idle }).handles = s.handles :=
    handles_setOut s n fun _ => rfl
  rw [Adev.stopOutputStream]
  split
  · simp only
    split
    · exact hset
    · rw [handles_disableOutputPath, hset]
  · rw [handles_disableOutputPath]

@[simp]
theorem handles_doOutStandby : (s.doOutStandby n).handles = s.handles := by
  have hset : ∀ s₁ : Adev, (s₁.setOut n fun o => { o with standby := true }).handles = s₁.handles :=
    fun s₁ => handles_setOut s₁ n fun _ => rfl
  have hcompr : ∀ s₁ : Adev, (s₁.setOut n fun o => { o with compr := none }).handles = s₁.handles :=
    fun s₁ => handles_setOut s₁ n fun _ => rfl
  rw [Adev.doOutStandby, handles_stopOutputStream]
  split
  · rw [hcompr, hset]
  · rw [hset]

@[simp]
theorem handles_outStandby : (s.outStandby n).handles = s.handles := by
  rw [Adev.outStandby]
  split <;> simp

@[simp]
theorem handles_startOutputStream (w : WriteResult) :
    (s.startOutputStream view n w).1.handles = s.handles := by
  have hcompr : ∀ (s₁ : Adev) (c : Option Bool),
      (s₁.setOut n fun o => { o with compr := c }).handles = s₁.handles :=
    fun s₁ _ => handles_setOut s₁ n fun _ => rfl
  have hpath := @handles_enableOutputPath view s n w.alloc
  rcases startOutputStream_cases view s n w with heq | ⟨c, heq | heq⟩
  · rw [heq, hpath]
  · rw [heq, hcompr, hpath]
  · rw [heq, handles_stopOutputStream, hcompr, hpath]

@[simp]
theorem handles_stopVoiceCall : s.stopVoiceCall.handles = s.handles := by
  simp only [Adev.stopVoiceCall]
  split <;> rfl

@[simp]
theorem handles_startVoiceCall (alloc : Bool) :
    (s.startVoiceCall view n alloc).handles = s.handles := by
  rw [Adev.startVoiceCall]
  split <;> simp

@[simp]
theorem handles_restartVoiceCall (alloc : Bool) :
    (s.restartVoiceCall view alloc).handles = s.handles := by
  rw [Adev.restartVoiceCall]
  split <;> simp

@[simp]
theorem registry_stopInputStream : (s.stopInputStream n).registry = s.registry := by
  simp only [Adev.stopInputStream]
  split <;> rfl

@[simp]
theorem registry_doInStandby : (s.doInStandby n).registry = s.registry := by
  rw [Adev.doInStandby]
  split
  · rfl
  · rw [registry_setIn, registry_stopInputStream]

@[simp]
theorem registry_forceInStandby (i : Option Nat) : (s.forceInStandby i).registry = s.registry := by
  cases i with
  | none => rfl
  | some n => exact registry_doInStandby s n

@[simp]
theorem handles_writeOffload (w : WriteResult) :
    (s.writeOffload view n w).handles = s.handles := by
  have hstart : ∀ s₁ : Adev, (if (s₁.outs n).offloadState = .playing then s₁
      else s₁.setOut n fun o =>
        { o with compr := o.compr.map fun _ => true, offloadState := .playing }).handles
        = s₁.handles := by
    intro s₁
    split
    · rfl
    · exact handles_setOut s₁ n fun _ => rfl
  have hpath := @handles_enableOutputPath view s n w.allocFlushed
  rw [Adev.writeOffload]
  split
  · generalize s.enableOutputPath view n w.allocFlushed = r at hpath ⊢
    obtain ⟨s₁, ok⟩ := r
    cases ok with
    | false =>
        refine Eq.trans ?_ hpath
        exact handles_setOut s₁ n fun _ => rfl
    | true => exact (hstart s₁).trans hpath
  · exact hstart s

@[simp]
theorem handles_writePcm (w : WriteResult) : (s.writePcm n w).handles = s.handles := by
  rw [Adev.writePcm]
  split <;> simp

theorem registry_outWrite {w : WriteResult} {s' : Adev} (hw : s.outWrite view n w = some s') :
    s'.registry = s.registry := by
  have hstart := registry_of_handles (@handles_startOutputStream view s n w)
  refine outWrite_rule (motive := fun s₁ => s₁.registry = s.registry) hw (fun _ => rfl)
    (fun _ _ => hstart) ?_ ?_ (fun _ _ hs₁ => hs₁) ?_ ?_
  · intro _ _
    refine (registry_of_handles (handles_setOut _ n ?_)).trans hstart
    exact fun _ => rfl
  · exact fun s₁ hs₁ => (registry_of_handles (handles_writeOffload s₁ n w)).trans hs₁
  · exact fun s₁ hs₁ => (registry_of_handles (handles_writePcm s₁ n w)).trans hs₁
  · exact fun s₁ input hs₁ => (registry_forceInStandby s₁ input).trans hs₁

@[simp]
theorem handles_rerouteOutput (val : Devices) :
    (s.rerouteOutput view n val).handles = s.handles := by
  rw [Adev.rerouteOutput]
  simp only
  split
  · exact handles_selectDevices s _
  · split
    · exact handles_doOutStandby s n
    · split <;> simp

@[simp]
theorem handles_updateBtSco : (s.updateBtSco n).handles = s.handles := by
  simp only [Adev.updateBtSco]
  split
  · rfl
  · split <;> rfl

@[simp]
theorem handles_updateVoiceCall (alloc : Bool) :
    (s.updateVoiceCall view n alloc).handles = s.handles := by
  rw [Adev.updateVoiceCall]
  split
  · split <;> simp
  · rfl

theorem registry_outSetParameters (val : Devices) (alloc : Bool) :
    (s.outSetParameters view n val alloc).registry = s.registry := by
  have hset : (s.setOut n fun o => { o with devices := val }).handles = s.handles :=
    handles_setOut s n fun _ => rfl
  rw [Adev.outSetParameters, registry_forceInStandby]
  refine registry_of_handles ?_
  split
  · rw [handles_updateVoiceCall, handles_updateBtSco]
    split
    · exact hset
    · rw [handles_rerouteOutput, hset]
  · rfl

theorem handles_outPause : (s.outPause n).handles = s.handles := by
  rw [Adev.outPause]
  split
  · rw [handles_disableOutputPath, handles_setOut]
    exact fun _ => rfl
  · rfl

theorem handles_outResume (alloc : Bool) : (s.outResume view n alloc).handles = s.handles := by
  rw [Adev.outResume]
  split
  · rw [handles_setOut, handles_enableOutputPath]
    exact fun _ => rfl
  · rfl

theorem handles_outFlush : (s.outFlush n).handles = s.handles := by
  rw [Adev.outFlush]
  split
  · rw [handles_setOut]
    exact fun _ => rfl
  · rfl

theorem registry_openInputStream (a : OpenInput) : (s.openInputStream n a).registry = s.registry := by
  rw [Adev.openInputStream]
  split
  · rfl
  · split <;> rfl

theorem registry_startInputStream (w : ReadResult) :
    (s.startInputStream view n w).1.registry = s.registry := by
  simp only [Adev.startInputStream]
  split
  · rfl
  · split
    · rfl
    · split
      · rw [registry_selectDevices]
        rfl
      · refine Eq.trans (registry_stopInputStream _ n) ?_
        rw [registry_selectDevices]
        rfl

theorem registry_inRead {w : ReadResult} {s' : Adev} (hr : s.inRead view n w = some s') :
    s'.registry = s.registry := by
  have hstart := @registry_startInputStream view s n w
  refine inRead_rule (motive := fun s₁ => s₁.registry = s.registry) hr (fun _ => rfl)
    (fun _ _ => hstart) (fun _ _ => (registry_setIn _ n _).trans hstart) ?_
  exact fun s₁ hs₁ => (registry_doInStandby s₁ n).trans hs₁

theorem registry_rerouteInput (val : Devices) :
    (s.rerouteInput view n val).registry = s.registry := by
  rw [Adev.rerouteInput]
  split
  · split <;> simp
  · simp

theorem registry_inSetParameters (source : Option Source) (routing : Option Devices) :
    (s.inSetParameters view n source routing).registry = s.registry := by
  refine inSetParameters_rule (motive := fun s₁ => s₁.registry = s.registry) n source routing rfl
    ?_ ?_ ?_
  · intro source'
    rfl
  · intro s₁ val hs₁
    rw [registry_setIn, hs₁]
  · intro s₁ val hs₁
    rw [registry_rerouteInput, hs₁]

theorem registry_addRemoveAudioEffect (auxChanged : Bool) (aec : Option Bool) :
    (s.addRemoveAudioEffect view n auxChanged aec).registry = s.registry := by
  have haux : (if auxChanged then s.doInStandby n else s).registry = s.registry := by
    split <;> simp
  simp only [Adev.addRemoveAudioEffect]
  generalize (if auxChanged then s.doInStandby n else s) = s₁ at haux ⊢
  split
  · exact haux
  · split
    · exact haux
    · rw [registry_doInStandby, registry_selectDevices, registry_setIn, haux]

theorem registry_setMode (mode : Mode) : (s.setMode mode).registry = s.registry := by
  rw [Adev.setMode]
  split
  · simp only
    split
    · exact registry_of_handles (handles_stopVoiceCall { s with mode := mode })
    · rfl
  · rfl

theorem registry_wbAmr (type : Int) (alloc : Bool) :
    (s.wbAmr view type alloc).registry = s.registry := by
  rw [Adev.wbAmr]
  split
  · simp only
    split
    · exact registry_of_handles (handles_restartVoiceCall
        { s with session := { s.session with wbAmrType := type } } alloc)
    · rfl
  · rfl

end Registry

-- ── The primary output ────────────────────────────────────────────────────

/-- The primary output is an open stream. -/
def PrimaryOpen (s : Adev) : Prop := ∀ n, s.primaryOutput = some n → (s.outs n).isOpen = true

/-- What one operation owes to the primary output: a failed open leaves it, and
    closing it releases it. -/
def PrimaryStep (s : Adev) (a : Act) (s' : Adev) : Prop :=
  match a with
  | .openOutput n _ => (s'.outs n).isOpen = false → s'.primaryOutput = s.primaryOutput
  | .closeOutput n => s.primaryOutput = some n → s'.primaryOutput = none
  | _ => True

/-- The primary output is not closed, and no primary stream is published that
    then finds its usecase active. -/
def Adev.keepsPrimary (s : Adev) : Act → Prop
  | .openOutput _ a =>
      a.alloc = true → a.primary = true → s.openPublishes a = true →
        s.routing.getUsecaseFromId (.playback a.usecase) = none
  | .closeOutput n => s.primaryOutput ≠ some n
  | _ => True

section Primary

variable {view : StreamOut → InputView} {s : Adev} {n : Nat}

/-- **ONLY OPEN AND CLOSE** touch the primary output or which streams are open. -/
theorem registry_step {a : Act} {s' : Adev} (hstep : step view s a = some s')
    (hopen : ∀ n o, a ≠ .openOutput n o) (hclose : ∀ n, a ≠ .closeOutput n) :
    s'.registry = s.registry := by
  cases a with
  | openOutput n o => exact absurd rfl (hopen n o)
  | closeOutput n => exact absurd rfl (hclose n)
  | write n w =>
      rw [step] at hstep
      exact registry_outWrite s n (onOut_eq_some hstep).2
  | outStandby n =>
      rw [step] at hstep
      exact Option.some.inj (onOut_eq_some hstep).2 ▸ registry_of_handles (handles_outStandby s n)
  | outSetParameters n val alloc =>
      rw [step] at hstep
      obtain ⟨-, hs⟩ := onOut_eq_some hstep
      split at hs
      · cases hs
      · exact Option.some.inj hs ▸ registry_outSetParameters s n val alloc
  | pause n =>
      rw [step] at hstep
      obtain ⟨-, ⟨-, rfl⟩ | ⟨-, rfl⟩⟩ := onOffload_eq_some hstep
      · exact registry_of_handles (handles_outPause s n)
      · rfl
  | resume n alloc =>
      rw [step] at hstep
      obtain ⟨-, ⟨-, rfl⟩ | ⟨-, rfl⟩⟩ := onOffload_eq_some hstep
      · exact registry_of_handles (handles_outResume s n alloc)
      · rfl
  | flush n =>
      rw [step] at hstep
      obtain ⟨-, ⟨-, rfl⟩ | ⟨-, rfl⟩⟩ := onOffload_eq_some hstep
      · exact registry_of_handles (handles_outFlush s n)
      · rfl
  | drain n =>
      rw [step] at hstep
      obtain ⟨-, ⟨-, rfl⟩ | ⟨-, rfl⟩⟩ := onOffload_eq_some hstep <;> rfl
  | openInput n a =>
      rw [step] at hstep
      split at hstep
      · cases hstep
      · exact Option.some.inj hstep ▸ registry_openInputStream s n a
  | closeInput n =>
      rw [step] at hstep
      obtain ⟨-, rfl⟩ := onIn_eq_some hstep
      exact registry_doInStandby s n
  | read n w =>
      rw [step] at hstep
      split at hstep
      · exact registry_inRead s n hstep
      · cases hstep
  | inStandby n =>
      rw [step] at hstep
      obtain ⟨-, rfl⟩ := onIn_eq_some hstep
      exact registry_doInStandby s n
  | inSetParameters n source routing =>
      rw [step] at hstep
      obtain ⟨-, rfl⟩ := onIn_eq_some hstep
      exact registry_inSetParameters s n source routing
  | effect n auxChanged aec =>
      rw [step] at hstep
      obtain ⟨-, rfl⟩ := onIn_eq_some hstep
      exact registry_addRemoveAudioEffect s n auxChanged aec
  | setMode mode => exact Option.some.inj hstep ▸ registry_setMode s mode
  | wbAmr type alloc => exact Option.some.inj hstep ▸ registry_wbAmr s type alloc
  | bluetoothWb on => exact Option.some.inj hstep ▸ rfl

theorem primaryOpen_of_registry {s' : Adev} (h : PrimaryOpen s) (hregistry : s'.registry = s.registry) :
    PrimaryOpen s' := by
  have hprimary : s'.primaryOutput = s.primaryOutput := congrArg Prod.fst hregistry
  intro n hn
  rw [hprimary] at hn
  exact (congrFun (congrArg Prod.snd hregistry) n).trans (h n hn)

/-- **OPENING** publishes a primary stream that passes the first checks, and
    leaves the pointer otherwise. -/
theorem openOutputStream_primaryOutput (s : Adev) (n : Nat) (a : OpenOutput) :
    (s.openOutputStream n a).primaryOutput
      = if a.alloc = true ∧ a.primary = true ∧ s.openPublishes a = true then some n
        else s.primaryOutput := by
  have hpublish : a.alloc = true → s.openPublishes a = true →
      (if a.primary = true then some n else s.primaryOutput)
        = if a.alloc = true ∧ a.primary = true ∧ s.openPublishes a = true then some n
          else s.primaryOutput := by
    intro halloc hpublishes
    simp only [halloc, hpublishes, true_and, and_true]
  have hopened := opened_openOutputStream s n a
  generalize s.openOutputStream n a = s' at hopened ⊢
  cases hopened with
  | noMemory halloc =>
      rw [if_neg]
      exact fun h => nomatch halloc.symm.trans h.1
  | refused _ hrefused =>
      rw [if_neg]
      · rfl
      · exact fun h => nomatch hrefused.symm.trans h.2.2
  | active halloc hpublishes => exact hpublish halloc hpublishes
  | standby halloc hpublishes => exact hpublish halloc hpublishes

/-- The stream is freed again if its usecase is active. -/
theorem openOutputStream_isOpen (s : Adev) (n : Nat) (a : OpenOutput) :
    ((s.openOutputStream n a).outs n).isOpen = true
      ↔ if a.alloc = true then s.openPublishes a = true
          ∧ s.routing.getUsecaseFromId (.playback a.usecase) = none
        else (s.outs n).isOpen = true := by
  have hopened := opened_openOutputStream s n a
  generalize s.openOutputStream n a = s' at hopened ⊢
  cases hopened with
  | noMemory halloc =>
      rw [if_neg]
      exact fun h => nomatch halloc.symm.trans h
  | refused halloc hrefused => simp [Adev.setOut, halloc, hrefused]
  | active halloc _ hactive =>
      obtain ⟨uc, huc⟩ := Option.isSome_iff_exists.mp hactive
      simp [Adev.setOut, halloc, huc]
  | standby halloc hpublishes hidle =>
      simp [Adev.setOut, OpenOutput.stream, halloc, hpublishes, hidle]

theorem closeOutputStream_registry (s : Adev) (n : Nat) :
    (s.closeOutputStream n).primaryOutput = s.primaryOutput
      ∧ ((s.closeOutputStream n).outs n).isOpen = false
      ∧ ∀ m, m ≠ n → ((s.closeOutputStream n).outs m).isOpen = (s.outs m).isOpen := by
  have hregistry := registry_of_handles (handles_outStandby s n)
  refine ⟨congrArg Prod.fst hregistry, ?_, fun m hm => ?_⟩
  · simp [Adev.closeOutputStream, Adev.setOut]
  · refine Eq.trans ?_ (congrFun (congrArg Prod.snd hregistry) m)
    simp [Adev.closeOutputStream, Adev.setOut, Function.update_of_ne hm, Adev.registry]

/-- A stream that may be opened has a free address. -/
theorem openOutput_eq_some {a : OpenOutput} {s' : Adev}
    (hstep : step view s (.openOutput n a) = some s') :
    (s.outs n).isOpen = false ∧ s' = s.openOutputStream n a := by
  rw [step] at hstep
  split at hstep
  · cases hstep
  · rename_i hclosed
    exact ⟨Bool.eq_false_iff.mpr hclosed, (Option.some.inj hstep).symm⟩

theorem closeOutput_eq_some {s' : Adev} (hstep : step view s (.closeOutput n) = some s') :
    s' = s.closeOutputStream n := by
  rw [step] at hstep
  exact (Option.some.inj (onOut_eq_some hstep).2).symm

theorem primaryOpen_openOutput {a : OpenOutput} (h : PrimaryOpen s)
    (hclosed : (s.outs n).isOpen = false) (hok : s.keepsPrimary (.openOutput n a)) :
    PrimaryOpen (s.openOutputStream n a) := by
  intro m hm
  rw [openOutputStream_primaryOutput] at hm
  split at hm
  · rename_i hpublished
    obtain rfl := Option.some.inj hm
    rw [openOutputStream_isOpen, if_pos hpublished.1]
    exact ⟨hpublished.2.2, hok hpublished.1 hpublished.2.1 hpublished.2.2⟩
  · have hmn : m ≠ n := by
      rintro rfl
      exact nomatch hclosed.symm.trans (h m hm)
    rw [openOutputStream_outs_of_ne hmn]
    exact h m hm

theorem primaryOpen_closeOutput (h : PrimaryOpen s) (hok : s.keepsPrimary (.closeOutput n)) :
    PrimaryOpen (s.closeOutputStream n) := by
  obtain ⟨hprimary, -, hother⟩ := closeOutputStream_registry s n
  intro m hm
  rw [hprimary] at hm
  have hmn : m ≠ n := by
    rintro rfl
    exact hok hm
  rw [hother m hmn]
  exact h m hm

/-- **STEP**: an operation that meets the condition keeps the pointer valid. -/
theorem primaryOpen_step (s : Adev) (a : Act) (s' : Adev) (h : PrimaryOpen s)
    (hok : s.keepsPrimary a) (hstep : step view s a = some s') : PrimaryOpen s' := by
  by_cases hopen : ∃ n o, a = .openOutput n o
  · obtain ⟨n, o, rfl⟩ := hopen
    obtain ⟨hclosed, rfl⟩ := openOutput_eq_some hstep
    exact primaryOpen_openOutput h hclosed hok
  · by_cases hclose : ∃ n, a = .closeOutput n
    · obtain ⟨n, rfl⟩ := hclose
      obtain rfl := closeOutput_eq_some hstep
      exact primaryOpen_closeOutput h hok
    · refine primaryOpen_of_registry h (registry_step hstep ?_ ?_)
      · exact fun n o heq => hopen ⟨n, o, heq⟩
      · exact fun n heq => hclose ⟨n, heq⟩

/-- **BREAK**: one that does not meet it leaves a dangling pointer. -/
theorem keepsPrimary_step (s : Adev) (a : Act) (s' : Adev) (_ : PrimaryOpen s)
    (hstep : step view s a = some s') (hafter : PrimaryOpen s') : s.keepsPrimary a := by
  cases a with
  | openOutput n o =>
      intro halloc hprimary haccepted
      obtain ⟨-, rfl⟩ := openOutput_eq_some hstep
      have hpublished := openOutputStream_primaryOutput s n o
      rw [if_pos ⟨halloc, hprimary, haccepted⟩] at hpublished
      have hopen := hafter n hpublished
      rw [openOutputStream_isOpen, if_pos halloc] at hopen
      exact hopen.2
  | closeOutput n =>
      intro hprimary
      obtain rfl := closeOutput_eq_some hstep
      obtain ⟨hleft, hfreed, -⟩ := closeOutputStream_registry s n
      exact nomatch hfreed.symm.trans (hafter n (hleft.trans hprimary))
  | write | outStandby | outSetParameters | pause | resume | flush | drain | openInput | closeInput
  | read | inStandby | inSetParameters | effect | setMode | wbAmr | bluetoothWb => trivial

theorem primaryStep_of_keeps {a : Act} {s' : Adev} (hok : s.keepsPrimary a)
    (hstep : step view s a = some s') : PrimaryStep s a s' := by
  cases a with
  | openOutput n o =>
      intro hfreed
      obtain ⟨-, rfl⟩ := openOutput_eq_some hstep
      rw [openOutputStream_primaryOutput]
      split
      · rename_i hpublished
        have hopen : ((s.openOutputStream n o).outs n).isOpen = true := by
          rw [openOutputStream_isOpen, if_pos hpublished.1]
          exact ⟨hpublished.2.2, hok hpublished.1 hpublished.2.1 hpublished.2.2⟩
        exact nomatch hfreed.symm.trans hopen
      · rfl
  | closeOutput n => exact fun hprimary => absurd hprimary hok
  | write | outStandby | outSetParameters | pause | resume | flush | drain | openInput | closeInput
  | read | inStandby | inSetParameters | effect | setMode | wbAmr | bluetoothWb => trivial

end Primary

-- ── Every run ─────────────────────────────────────────────────────────────

/-- **PRIMARY OUTPUT**: along a run the pointer is NULL or an open stream, every
    failed open leaves it and every close of the primary output releases it,
    exactly if the primary output is never closed and no primary stream is
    published whose usecase is active. -/
theorem primary_output_valid (view : StreamOut → InputView) (fx : Bool) (session : VoiceSession)
    (acts : List Act) :
    (Always (step view) PrimaryOpen (start fx session) acts
        ∧ ∀ done a rest s s', acts = done ++ a :: rest →
          run (step view) (start fx session) done = some s → step view s a = some s' →
          PrimaryStep s a s')
      ↔ StepsMeet (step view) Adev.keepsPrimary (start fx session) acts := by
  have hiff : Always (step view) PrimaryOpen (start fx session) acts
      ↔ StepsMeet (step view) Adev.keepsPrimary (start fx session) acts :=
    always_iff_stepsMeet (fun _ h => h) primaryOpen_step keepsPrimary_step acts
      (fun _ h => nomatch h)
  refine ⟨fun h => hiff.mp h.1, fun h => ⟨hiff.mpr h, ?_⟩⟩
  intro done a rest s s' hcat hrun hstep
  exact primaryStep_of_keeps (h done a rest s s' hcat hrun hstep) hstep

/-- The primary output is closed, and the pointer still names it. -/
theorem primary_left_after_close :
    ¬ ∀ (view : StreamOut → InputView) (fx : Bool) (session : VoiceSession) (acts : List Act),
      Always (step view) PrimaryOpen (start fx session) acts
        ∧ ∀ done a rest s s', acts = done ++ a :: rest →
          run (step view) (start fx session) done = some s → step view s a = some s' →
          PrimaryStep s a s' := by
  intro hclaim
  have hend : (run (step plainView) (start false plainSession)
      [.openOutput 0 speakerOutput, .closeOutput 0]).map
        (fun s => (s.primaryOutput, (s.outs 0).isOpen)) = some (some 0, false) := by
    decide +kernel
  obtain ⟨s, hrun, hs⟩ := Option.map_eq_some_iff.mp hend
  obtain ⟨hprimary, hfreed⟩ := Prod.mk.inj hs
  have hopen := (hclaim plainView false plainSession
    [.openOutput 0 speakerOutput, .closeOutput 0]).1 [.openOutput 0 speakerOutput, .closeOutput 0]
    [] s (List.append_nil _).symm hrun 0 hprimary
  exact nomatch hfreed.symm.trans hopen

end AudioHal

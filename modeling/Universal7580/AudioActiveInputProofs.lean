import Universal7580.AudioPrimaryProofs
import Universal7580.AudioOffloadProofs

/-! # The active input

    `select_devices` and `get_input_snd_device` take the stream of the first
    capture or voice call usecase for an input.  The stream of a voice call is
    the primary output.

    `selectReads` lists what a call of `select_devices` reads through that
    pointer.  `select_reads_inputs` says when all of it belongs to captures: for
    one call, and all along a run.  The run is decided on the line of the
    captures and the call, in the order of the list. -/

namespace AudioHal

open AudioRouting Run

-- ── What is read ─────────────────────────────────────────────────────────────

/-- The fields of `struct stream_in` that routing reads. -/
inductive InputField where
  | source
  | devices
  | enableAec
  | usecase
  deriving DecidableEq, Repr

/-- A field read through the stream of a usecase. -/
structure InputRead where
  usecase : Usecase
  field : InputField
  deriving DecidableEq, Repr

section Reads

variable (view : StreamOut → InputView)

/-- The usecase that `active_input` is taken from. -/
def Adev.activeUsecase (s : Adev) : Option Usecase :=
  s.routing.getUsecaseFromType [.pcmCapture, .voiceCall]

/-- The reads of `get_input_snd_device`. -/
def Adev.inputSndDeviceReads (s : Adev) : List InputRead :=
  match s.activeUsecase with
  | none => []
  | some uc =>
      let source := (s.viewOf view uc.stream).source
      [⟨uc, .source⟩, ⟨uc, .devices⟩] ++
        if s.mode ≠ .inCall ∧ (source = .voiceCommunication ∨ source = .mic) then
          [⟨uc, .enableAec⟩]
        else []

/-- The reads of `select_devices`, with those of the call it makes. -/
def Adev.selectReadsWith (nested : Adev → UsecaseId → List InputRead) (s : Adev)
    (id : UsecaseId) : List InputRead :=
  match s.routing.getUsecaseFromId id with
  | none => []
  | some uc =>
      match uc.type with
      | .voiceCall => s.inputSndDeviceReads view
      | .pcmPlayback =>
          if s.vcOut ≠ .none ∨ s.primaryOutput ≠ some (streamIndex uc.stream) then []
          else
            match s.activeUsecase with
            | none => []
            | some active =>
                if (s.viewOf view active.stream).source = .voiceCommunication then
                  [⟨active, .source⟩, ⟨active, .usecase⟩] ++
                    (s.inputFollows view (streamIndex uc.stream)).elim [] (nested s)
                else [⟨active, .source⟩]
      | .pcmCapture =>
          if s.vcIn ≠ .none then []
          else
            match s.activeUsecase with
            | none => []
            | some active => ⟨active, .source⟩ :: s.inputSndDeviceReads view

def Adev.selectReads (s : Adev) (id : UsecaseId) : List InputRead :=
  s.selectReadsWith view (fun s => s.selectReadsWith view fun _ _ => []) id

end Reads

/-- All that a call reads belongs to capture usecases. -/
def ReadsInputs (reads : List InputRead) : Prop := ∀ r ∈ reads, r.usecase.type = .pcmCapture

/-- `active_input` is no input. -/
def Adev.confused (s : Adev) : Prop := ∃ uc, s.activeUsecase = some uc ∧ uc.type = .voiceCall

/-- The calls of `select_devices` that do not look at `active_input`. -/
def Adev.looksAway (s : Adev) (id : UsecaseId) : Prop :=
  match s.routing.getUsecaseFromId id with
  | none => True
  | some uc =>
      match uc.type with
      | .voiceCall => False
      | .pcmPlayback => s.vcOut ≠ .none ∨ s.primaryOutput ≠ some (streamIndex uc.stream)
      | .pcmCapture => s.vcIn ≠ .none

section Confusion

variable {view : StreamOut → InputView} {s : Adev} {id : UsecaseId}

theorem activeUsecase_type {uc : Usecase} (h : s.activeUsecase = some uc) :
    uc.type = .pcmCapture ∨ uc.type = .voiceCall := by
  have hmem := List.find?_some h
  simpa using hmem

/-- Every read of the second function goes through the active usecase. -/
theorem inputSndDeviceReads_active {r : InputRead} (hr : r ∈ s.inputSndDeviceReads view) :
    s.activeUsecase = some r.usecase := by
  rw [Adev.inputSndDeviceReads] at hr
  split at hr
  · exact absurd hr List.not_mem_nil
  · rename_i uc huc
    have hsame : r.usecase = uc := by
      simp only [List.cons_append, List.nil_append, List.mem_cons] at hr
      obtain rfl | rfl | hr := hr
      · rfl
      · rfl
      · split at hr
        · rw [List.mem_singleton.mp hr]
        · exact absurd hr List.not_mem_nil
    rw [hsame]
    exact huc

theorem selectReadsWith_active {nested : Adev → UsecaseId → List InputRead}
    (hnested : ∀ id, ∀ r ∈ nested s id, s.activeUsecase = some r.usecase)
    {r : InputRead} (hr : r ∈ s.selectReadsWith view nested id) :
    s.activeUsecase = some r.usecase := by
  rw [Adev.selectReadsWith] at hr
  split at hr
  · exact absurd hr List.not_mem_nil
  · rename_i uc huc
    split at hr
    · exact inputSndDeviceReads_active hr
    · split at hr
      · exact absurd hr List.not_mem_nil
      · split at hr
        · exact absurd hr List.not_mem_nil
        · rename_i active hactive
          split at hr
          · simp only [List.cons_append, List.nil_append, List.mem_cons] at hr
            obtain rfl | rfl | hr := hr
            · exact hactive
            · exact hactive
            · cases hfollows : s.inputFollows view (streamIndex uc.stream) with
              | none =>
                  rw [hfollows] at hr
                  exact absurd hr List.not_mem_nil
              | some id' =>
                  rw [hfollows] at hr
                  exact hnested id' r hr
          · rw [List.mem_singleton.mp hr]
            exact hactive
    · split at hr
      · exact absurd hr List.not_mem_nil
      · split at hr
        · exact absurd hr List.not_mem_nil
        · rename_i active hactive
          obtain rfl | hr := List.mem_cons.mp hr
          · exact hactive
          · exact inputSndDeviceReads_active hr

/-- Whatever a call reads through `active_input`, it reads of one usecase. -/
theorem selectReads_active {r : InputRead} (hr : r ∈ s.selectReads view id) :
    s.activeUsecase = some r.usecase := by
  refine selectReadsWith_active ?_ hr
  intro id' r' hr'
  refine selectReadsWith_active ?_ hr'
  intro _ r'' hr''
  exact absurd hr'' List.not_mem_nil

theorem inputSndDeviceReads_ne_nil {uc : Usecase} (h : s.activeUsecase = some uc) :
    s.inputSndDeviceReads view ≠ [] := by
  rw [Adev.inputSndDeviceReads, h]
  exact List.cons_ne_nil _ _

/-- A call that looks at `active_input` reads a field of it. -/
theorem selectReads_ne_nil {uc : Usecase} (h : s.activeUsecase = some uc)
    (hlooks : ¬ s.looksAway id) : s.selectReads view id ≠ [] := by
  rw [Adev.looksAway] at hlooks
  rw [Adev.selectReads, Adev.selectReadsWith]
  cases hfound : s.routing.getUsecaseFromId id with
  | none =>
      rw [hfound] at hlooks
      exact absurd trivial hlooks
  | some found =>
      rw [hfound] at hlooks
      cases htype : found.type with
      | voiceCall =>
          simp only [htype]
          exact inputSndDeviceReads_ne_nil h
      | pcmPlayback =>
          simp only [htype] at hlooks ⊢
          rw [if_neg hlooks]
          simp only [h]
          split
          · exact List.cons_ne_nil _ _
          · exact List.cons_ne_nil _ _
      | pcmCapture =>
          simp only [htype] at hlooks ⊢
          rw [if_neg hlooks]
          simp only [h]
          exact List.cons_ne_nil _ _

theorem selectReads_eq_nil (haway : s.looksAway id) : s.selectReads view id = [] := by
  rw [Adev.looksAway] at haway
  rw [Adev.selectReads, Adev.selectReadsWith]
  cases hfound : s.routing.getUsecaseFromId id with
  | none => rfl
  | some found =>
      rw [hfound] at haway
      cases htype : found.type with
      | voiceCall =>
          simp only [htype] at haway
      | pcmPlayback =>
          simp only [htype] at haway ⊢
          rw [if_pos haway]
      | pcmCapture =>
          simp only [htype] at haway ⊢
          rw [if_pos haway]

/-- **ONE CALL**: it reads of captures alone, unless it looks at `active_input`
    while that is the primary output. -/
theorem readsInputs_iff (view : StreamOut → InputView) (s : Adev) (id : UsecaseId) :
    ReadsInputs (s.selectReads view id) ↔ ¬ s.confused ∨ s.looksAway id := by
  constructor
  · intro h
    refine or_iff_not_imp_right.mpr fun hlooks => ?_
    rintro ⟨uc, huc, htype⟩
    obtain ⟨r, hr⟩ := List.exists_mem_of_ne_nil _ (@selectReads_ne_nil view s _ uc huc hlooks)
    have hsame : uc = r.usecase := Option.some.inj (huc.symm.trans (selectReads_active hr))
    have hcapture := h r hr
    rw [← hsame, htype] at hcapture
    cases hcapture
  · rintro (h | haway) r hr
    · have hactive := selectReads_active hr
      obtain htype | htype := activeUsecase_type hactive
      · exact htype
      · exact absurd ⟨_, hactive, htype⟩ h
    · rw [selectReads_eq_nil haway] at hr
      exact absurd hr List.not_mem_nil

end Confusion

-- ── The line ─────────────────────────────────────────────────────────────────

/-- The usecases that `active_input` can be taken from. -/
def inLine : UsecaseId → Bool
  | .playback _ => false
  | .capture => true
  | .voiceCall => true

namespace Ledger

/-- The captures and the calls, in the order of the list. -/
def line (l : Ledger) : List UsecaseId := (l.entries.map Identity.id).filter inLine

section Line

variable {l : Ledger}

theorem line_add (id : UsecaseId) (stream : Stream) :
    (l.add id stream).line = l.line ++ if inLine id then [id] else [] := by
  have hnew : [id].filter inLine = if inLine id then [id] else [] := by
    cases h : inLine id with
    | false => simp [h]
    | true => simp [h]
  rw [line, add, List.map_append, List.filter_append, ← hnew]
  rfl

/-- The entries without the one found under an id. -/
theorem ids_without : ∀ {entries : List Identity} {id : UsecaseId} {e : Identity},
    (entries.map Identity.ptr).Nodup → entries.find? (fun e => e.id = id) = some e →
    (entries.filter fun e' => e'.ptr ≠ e.ptr).map Identity.id
      = (entries.map Identity.id).erase id := by
  intro entries id e hnodup hfind
  induction entries with
  | nil => cases hfind
  | cons a rest ih =>
      rw [List.map_cons] at hnodup
      obtain ⟨hnew, hrest⟩ := List.nodup_cons.mp hnodup
      by_cases hid : a.id = id
      · rw [List.find?_cons_of_pos (by simpa using hid)] at hfind
        obtain rfl := Option.some.inj hfind
        have hothers : rest.filter (fun e' => e'.ptr ≠ a.ptr) = rest := by
          refine List.filter_eq_self.mpr fun e' he' => ?_
          refine decide_eq_true fun hptr => hnew ?_
          exact hptr ▸ List.mem_map_of_mem he'
        rw [List.filter_cons_of_neg (by simp), hothers, List.map_cons, hid,
          List.erase_cons_head]
      · rw [List.find?_cons_of_neg (by simpa using hid)] at hfind
        have hmem := List.mem_of_find?_eq_some hfind
        have hptr : a.ptr ≠ e.ptr := fun h => hnew (h ▸ List.mem_map_of_mem hmem)
        rw [List.filter_cons_of_pos (by simpa using hptr), List.map_cons, List.map_cons,
          List.erase_cons_tail (by simpa using hid), ih hrest hfind]

/-- Dropping an entry takes the first of its id out of the line. -/
theorem line_drop (hd : Distinct l.entries l.nextPtr) (id : UsecaseId) :
    (l.drop id).line = l.line.erase id := by
  rw [drop]
  split
  · rename_i hnone
    rw [List.erase_of_not_mem]
    intro hmem
    obtain ⟨e, he, hid⟩ := List.mem_map.mp (List.mem_filter.mp hmem).1
    exact id_ne_of_find hnone he hid
  · rename_i e he
    rw [line, line, List.erase_filter]
    exact congrArg (List.filter inLine) (ids_without hd.1 he)

theorem line_drop_playback (hd : Distinct l.entries l.nextPtr) (p : Playback) :
    (l.drop (.playback p)).line = l.line := by
  rw [line_drop hd, List.erase_of_not_mem]
  intro hmem
  cases (List.mem_filter.mp hmem).2

theorem line_stopOutput (hd : Distinct l.entries l.nextPtr) (n : Nat) :
    (l.stopOutput n).line = l.line := by
  simp only [stopOutput]
  split
  · split
    · rfl
    · exact line_drop_playback (l := l.setOut n _) hd _
  · exact line_drop_playback hd _

theorem line_outStandby (hd : Distinct l.entries l.nextPtr) (n : Nat) :
    (l.outStandby n).line = l.line := by
  simp only [outStandby]
  split
  · exact line_stopOutput (l := (l.setOut n _).setOut n _) hd n
  · exact line_stopOutput (l := l.setOut n _) hd n

theorem stopOutput_inCall (n : Nat) : (l.stopOutput n).inCall = l.inCall := by
  simp only [stopOutput]
  split
  · split
    · rfl
    · exact drop_inCall _ _
  · exact drop_inCall _ _

theorem outStandby_inCall (n : Nat) : (l.outStandby n).inCall = l.inCall := by
  simp only [outStandby]
  split
  · exact stopOutput_inCall n
  · exact stopOutput_inCall n

end Line

end Ledger

def Adev.line (s : Adev) : List UsecaseId := s.ledger.line

-- ── What the work on outputs leaves alone ────────────────────────────────────

/-- The mode, the inputs and which streams are active and primary. -/
def Adev.inputSide (s : Adev) : Mode × Option Nat × Option Nat × (Nat → StreamIn) :=
  (s.mode, s.activeInput, s.primaryOutput, s.ins)

section InputSide

variable {view : StreamOut → InputView} {s : Adev} (n : Nat)

theorem ins_of_inputSide {s s' : Adev} (h : s'.inputSide = s.inputSide) : s'.ins = s.ins :=
  congrArg (fun k => k.2.2.2) h

theorem forcedInput_of_inputSide {s s' : Adev} (h : s'.inputSide = s.inputSide) :
    s'.forcedInput = s.forcedInput := by
  have hactive : s'.activeInput = s.activeInput := congrArg (fun k => k.2.1) h
  rw [Adev.forcedInput, Adev.forcedInput, hactive, ins_of_inputSide h]

theorem inputSide_selectDevices (id : UsecaseId) :
    (s.selectDevices view id).inputSide = s.inputSide :=
  have hrest : (s.selectDevices view id).rest.inputSide = s.rest.inputSide :=
    congrArg Adev.inputSide (@selectDevices_rest view s id)
  hrest

theorem inputSide_enableOutputPath (alloc : Bool) :
    (s.enableOutputPath view n alloc).1.inputSide = s.inputSide := by
  rw [Adev.enableOutputPath]
  split
  · rfl
  · exact inputSide_selectDevices _

theorem inputSide_disableOutputPath : (s.disableOutputPath n).inputSide = s.inputSide := by
  rw [Adev.disableOutputPath]
  split
  · rfl
  · rfl

theorem inputSide_stopOutputStream : (s.stopOutputStream n).inputSide = s.inputSide := by
  rw [Adev.stopOutputStream]
  split
  · simp only
    split
    · rfl
    · exact inputSide_disableOutputPath n
  · exact inputSide_disableOutputPath n

theorem inputSide_doOutStandby : (s.doOutStandby n).inputSide = s.inputSide := by
  simp only [Adev.doOutStandby]
  rw [inputSide_stopOutputStream]
  split
  · rfl
  · rfl

theorem inputSide_startOutputStream (w : WriteResult) :
    (s.startOutputStream view n w).1.inputSide = s.inputSide := by
  have hpath := @inputSide_enableOutputPath view s n w.alloc
  rcases startOutputStream_cases view s n w with heq | ⟨c, heq | heq⟩
  · rw [heq]
    exact hpath
  · rw [heq]
    exact hpath
  · rw [heq]
    exact (inputSide_stopOutputStream n).trans hpath

theorem inputSide_writePcm (w : WriteResult) : (s.writePcm n w).inputSide = s.inputSide := by
  rw [Adev.writePcm]
  split
  · rfl
  · rw [Adev.outStandby]
    split
    · rfl
    · exact inputSide_doOutStandby n

theorem inputSide_rerouteOutput (val : Devices) :
    (s.rerouteOutput view n val).inputSide = s.inputSide := by
  simp only [Adev.rerouteOutput]
  split
  · exact inputSide_selectDevices _
  · split
    · exact inputSide_doOutStandby n
    · rw [inputSide_selectDevices]
      split
      · rfl
      · rfl

theorem inputSide_updateBtSco : (s.updateBtSco n).inputSide = s.inputSide := by
  simp only [Adev.updateBtSco]
  split
  · rfl
  · split
    · rfl
    · rfl

theorem inputSide_stopVoiceCall : s.stopVoiceCall.inputSide = s.inputSide := by
  simp only [Adev.stopVoiceCall]
  split
  · rfl
  · rfl

theorem inputSide_startVoiceCall (alloc : Bool) :
    (s.startVoiceCall view n alloc).inputSide = s.inputSide := by
  rw [Adev.startVoiceCall]
  split
  · rfl
  · exact inputSide_selectDevices _

theorem inputSide_restartVoiceCall (alloc : Bool) :
    (s.restartVoiceCall view alloc).inputSide = s.inputSide := by
  rw [Adev.restartVoiceCall]
  split
  · exact inputSide_stopVoiceCall
  · exact (inputSide_startVoiceCall _ alloc).trans inputSide_stopVoiceCall

theorem inputSide_updateVoiceCall (alloc : Bool) :
    (s.updateVoiceCall view n alloc).inputSide = s.inputSide := by
  rw [Adev.updateVoiceCall]
  split
  · split
    · exact inputSide_restartVoiceCall alloc
    · exact inputSide_startVoiceCall n alloc
  · rfl

end InputSide

-- ── The line after each part ─────────────────────────────────────────────────

section Parts

variable {view : StreamOut → InputView} {s : Adev} (n : Nat)

theorem line_selectDevices (id : UsecaseId) : (s.selectDevices view id).line = s.line :=
  congrArg Ledger.line (ledger_selectDevices s id)

theorem line_doOutStandby (hd : DistinctPtrs s.routing) : (s.doOutStandby n).line = s.line := by
  rw [Adev.line, ledger_doOutStandby]
  exact Ledger.line_outStandby (l := s.ledger) hd n

theorem line_outStandby (hd : DistinctPtrs s.routing) : (s.outStandby n).line = s.line := by
  rw [Adev.outStandby]
  split
  · rfl
  · exact line_doOutStandby n hd

theorem line_startOutputStream (hd : DistinctPtrs s.routing) (w : WriteResult) :
    (s.startOutputStream view n w).1.line = s.line := by
  have hadd : ∀ p, (s.ledger.add (.playback p) (.output n)).line = s.line := by
    intro p
    rw [Ledger.line_add]
    exact List.append_nil _
  rw [Adev.line]
  obtain ⟨-, hstart⟩ | ⟨-, -, -, hledger⟩ | ⟨-, -, hledger⟩ :=
    @ledger_startOutputStream view s n w
  · rw [hstart]
    rfl
  · rw [hledger]
    exact hadd _
  · rw [hledger]
    refine Eq.trans (Ledger.line_stopOutput ?_ n) (hadd (s.outs n).usecase)
    exact distinct_add hd _ _

theorem line_writeOffload (w : WriteResult) : (s.writeOffload view n w).line = s.line := by
  rw [Adev.line]
  obtain ⟨-, hledger⟩ | ⟨-, hledger⟩ | ⟨-, hledger⟩ := @ledger_writeOffload view s n w
  · rw [hledger]
    rfl
  · rw [hledger]
    exact (Ledger.line_add _ _).trans (List.append_nil _)
  · rw [hledger]
    rfl

theorem line_writePcm (hd : DistinctPtrs s.routing) (w : WriteResult) :
    (s.writePcm n w).line = s.line := by
  rw [Adev.writePcm]
  split
  · rfl
  · exact line_outStandby n hd

theorem line_setOffloadParameters (uc : Usecase) :
    (s.onRouting fun r => r.setOffloadParameters uc).line = s.line :=
  congrArg Ledger.line (ledger_setOffloadParameters s uc)

theorem line_rerouteOutput (hd : DistinctPtrs s.routing) (val : Devices) :
    (s.rerouteOutput view n val).line = s.line := by
  simp only [Adev.rerouteOutput]
  split
  · exact line_selectDevices _
  · split
    · exact line_doOutStandby n hd
    · rw [line_selectDevices]
      split
      · exact line_setOffloadParameters _
      · rfl

theorem inCall_rerouteOutput (val : Devices) :
    (s.rerouteOutput view n val).routing.inCall = s.routing.inCall := by
  show (s.rerouteOutput view n val).ledger.inCall = s.ledger.inCall
  simp only [Adev.rerouteOutput]
  split
  · rw [ledger_selectDevices]
  · split
    · rw [ledger_doOutStandby, Ledger.outStandby_inCall]
    · rw [ledger_selectDevices]
      split
      · rw [ledger_setOffloadParameters]
      · rfl

theorem line_stopVoiceCall (hd : DistinctPtrs s.routing) :
    s.stopVoiceCall.line = s.line.erase .voiceCall := by
  rw [Adev.line, ledger_stopVoiceCall]
  exact Ledger.line_drop (l := s.ledger.setInCall false) hd .voiceCall

theorem line_startVoiceCall (alloc : Bool) :
    (s.startVoiceCall view n alloc).line = s.line ++ if alloc then [.voiceCall] else [] := by
  cases alloc with
  | false =>
      rw [Adev.startVoiceCall, if_pos rfl]
      exact (List.append_nil _).symm
  | true =>
      rw [Adev.line, ledger_startVoiceCall]
      exact Ledger.line_add _ _

theorem line_stopInputStream (hd : DistinctPtrs s.routing) :
    (s.stopInputStream n).line = s.line.erase .capture := by
  rw [Adev.line, ledger_stopInputStream]
  exact Ledger.line_drop (l := s.ledger) hd .capture

end Parts

-- ── The line after each operation ────────────────────────────────────────────

/-- An input goes into standby: the first capture leaves the line. -/
def Adev.lineInStandby (s : Adev) (n : Nat) (line : List UsecaseId) : List UsecaseId :=
  if (s.ins n).standby then line else line.erase .capture

/-- The active input is stopped for an output. -/
def Adev.lineForced (s : Adev) (line : List UsecaseId) : List UsecaseId :=
  s.forcedInput.elim line fun n => s.lineInStandby n line

/-- The call leaves the line, and comes back at its end. -/
def Adev.lineRestart (s : Adev) (alloc : Bool) (line : List UsecaseId) : List UsecaseId :=
  line.erase .voiceCall ++ if s.primaryOutput.isSome && alloc then [.voiceCall] else []

def Adev.lineCall (s : Adev) (n : Nat) (alloc : Bool) (line : List UsecaseId) :
    List UsecaseId :=
  if s.mode = .inCall ∧ s.primaryOutput = some n then
    if s.routing.inCall then s.lineRestart alloc line
    else line ++ if alloc then [.voiceCall] else []
  else line

/-- Does a write start a stream that is no offload stream? -/
def Adev.startsPcm (s : Adev) (n : Nat) (w : WriteResult) : Bool :=
  (s.outs n).standby && (s.outs n).usecase != .offload && w.alloc
    && (w.opened || (outputProfiles (s.outs n).devices).isEmpty)

def Adev.lineRead (s : Adev) (n : Nat) (w : ReadResult) : List UsecaseId :=
  if (s.ins n).standby then
    if (getPcmDevice (s.ins n).usecaseType (s.ins n).devices).isSome && w.alloc then
      if w.opened && (!w.resampler || w.didRead) then s.line ++ [UsecaseId.capture]
      else (s.line ++ [UsecaseId.capture]).erase .capture
    else s.line
  else if w.didRead && !(s.ins n).pcmDevList.isEmpty then s.line
  else s.line.erase .capture

/-- Do the devices of the first PCM device leave out a new one? -/
def StreamIn.leaves (i : StreamIn) (val : Devices) : Bool :=
  i.pcmDevList.head?.any fun p => !hasDevice (p.devices &&& val) (~~~Devices.bitIn)

/-- Do new devices stop an input?  Without a capture there is nothing to stop. -/
def Adev.stopsForDevices (s : Adev) (n : Nat) (val : Devices) : Bool :=
  (s.ins n).devices != val && val != 0 && !(s.ins n).standby && (s.ins n).leaves val

/-- The line that an operation leaves. -/
def Adev.nextLine (s : Adev) : Act → List UsecaseId
  | .write n w => if s.startsPcm n w then s.lineForced s.line else s.line
  | .outSetParameters n val alloc =>
      let line := if val ≠ 0 then s.lineCall n alloc s.line else s.line
      if (s.outs n).devices ≠ val ∧ val ≠ 0 ∧ (s.outs n).standby = false
          ∧ (s.outs n).usecase = .playback then
        s.lineForced line
      else line
  | .closeInput n => s.lineInStandby n s.line
  | .inStandby n => s.lineInStandby n s.line
  | .read n w => s.lineRead n w
  | .inSetParameters n _ routing =>
      if routing.any (s.stopsForDevices n) then s.line.erase .capture else s.line
  | .effect n auxChanged aec =>
      if auxChanged || aec.isSome then s.lineInStandby n s.line else s.line
  | .setMode mode =>
      if s.mode ≠ mode ∧ mode = .normal ∧ s.routing.inCall = true then s.line.erase .voiceCall
      else s.line
  | .wbAmr type alloc =>
      if s.session.wbAmrType ≠ type ∧ s.routing.inCall = true then s.lineRestart alloc s.line
      else s.line
  | _ => s.line

section Operations

variable {view : StreamOut → InputView} {s : Adev} {n : Nat}

theorem distinct_selectDevices (hd : DistinctPtrs s.routing) (id : UsecaseId) :
    DistinctPtrs (s.selectDevices view id).routing :=
  (distinctPtrs_kept view).select s id hd

theorem line_doInStandby (hd : DistinctPtrs s.routing) (n : Nat) :
    (s.doInStandby n).line = s.lineInStandby n s.line := by
  rw [Adev.doInStandby, Adev.lineInStandby]
  split
  · rfl
  · exact line_stopInputStream n hd

/-- Stopping the active input of the state before, after work on outputs. -/
theorem line_forceInStandby {s' : Adev} (hd : DistinctPtrs s'.routing)
    (hside : s'.inputSide = s.inputSide) :
    (s'.forceInStandby s.forcedInput).line = s.lineForced s'.line := by
  rw [Adev.lineForced]
  cases s.forcedInput with
  | none => rfl
  | some n =>
      refine (line_doInStandby hd n).trans ?_
      rw [Adev.lineInStandby, ins_of_inputSide hside]
      rfl

theorem line_restartVoiceCall (hd : DistinctPtrs s.routing) (alloc : Bool) :
    (s.restartVoiceCall view alloc).line = s.lineRestart alloc s.line := by
  rw [Adev.restartVoiceCall, Adev.lineRestart]
  cases s.primaryOutput with
  | none => exact (line_stopVoiceCall hd).trans (List.append_nil _).symm
  | some n =>
      refine (line_startVoiceCall n alloc).trans ?_
      rw [line_stopVoiceCall hd]
      rfl

theorem line_updateVoiceCall (hd : DistinctPtrs s.routing) (n : Nat) (alloc : Bool) :
    (s.updateVoiceCall view n alloc).line = s.lineCall n alloc s.line := by
  rw [Adev.updateVoiceCall, Adev.lineCall]
  split
  · split
    · exact line_restartVoiceCall hd alloc
    · exact line_startVoiceCall n alloc
  · rfl

/-- The part of `lineCall` that the state decides. -/
theorem lineCall_congr {s' : Adev} (hside : s'.inputSide = s.inputSide)
    (hcall : s'.routing.inCall = s.routing.inCall) (n : Nat) (alloc : Bool)
    (line : List UsecaseId) : s'.lineCall n alloc line = s.lineCall n alloc line := by
  have hmode : s'.mode = s.mode := congrArg Prod.fst hside
  have hprimary : s'.primaryOutput = s.primaryOutput := congrArg (fun k => k.2.2.1) hside
  rw [Adev.lineCall, Adev.lineCall, Adev.lineRestart, Adev.lineRestart, hmode, hprimary, hcall]

theorem outs_selectDevices (id : UsecaseId) : (s.selectDevices view id).outs = s.outs := by
  have hrest : (s.selectDevices view id).rest.outs = s.rest.outs :=
    congrArg Adev.outs (@selectDevices_rest view s id)
  exact hrest

theorem ins_selectDevices (id : UsecaseId) : (s.selectDevices view id).ins = s.ins :=
  ins_of_inputSide (inputSide_selectDevices id)

theorem outs_enableOutputPath (n : Nat) :
    (s.enableOutputPath view n true).1.outs n
      = { s.outs n with pcmDevList := outputProfiles (s.outs n).devices } := by
  simp only [Adev.enableOutputPath, Bool.true_eq_false, if_false, outs_selectDevices]
  exact Function.update_self ..

/-- A stream that is no offload stream starts if there is memory and its devices
    open. -/
theorem startOutputStream_ok (w : WriteResult) (hpcm : (s.outs n).usecase ≠ .offload) :
    (s.startOutputStream view n w).2
      = (w.alloc && (w.opened || (outputProfiles (s.outs n).devices).isEmpty)) := by
  cases halloc : w.alloc with
  | false => rw [Adev.startOutputStream, halloc, enableOutputPath_of_not_alloc, Bool.false_and]
  | true =>
      have houts := @outs_enableOutputPath view s n
      have hok := @enableOutputPath_ok view s n true
      rw [Adev.startOutputStream, halloc, Bool.true_and]
      generalize s.enableOutputPath view n true = r at houts hok ⊢
      obtain ⟨s₁, ok⟩ := r
      obtain rfl : ok = true := hok
      have husecase : (s₁.outs n).usecase ≠ .offload := by
        rw [houts]
        exact hpcm
      have hprofiles : ((s₁.setOut n fun o => { o with compr := none }).outs n).pcmDevList
          = outputProfiles (s.outs n).devices := by
        have hset : (s₁.setOut n fun o => { o with compr := none }).outs n
            = { s₁.outs n with compr := none } := Function.update_self ..
        rw [hset, houts]
      simp only [if_neg husecase, hprofiles]
      split
      · rename_i h
        exact h.symm
      · rename_i h
        exact (Bool.eq_false_iff.mpr h).symm

theorem startOutputStream_usecase {w : WriteResult}
    (hok : (s.startOutputStream view n w).2 = true) :
    ((s.startOutputStream view n w).1.outs n).usecase = (s.outs n).usecase := by
  show ((s.startOutputStream view n w).1.ledger.outs n).usecase = _
  obtain ⟨-, hstart⟩ | ⟨-, -, -, hledger⟩ | ⟨-, hfail, -⟩ := @ledger_startOutputStream view s n w
  · rw [hstart] at hok
    cases hok
  · rw [hledger, Ledger.setOut_outs_self]
    rfl
  · rw [hfail] at hok
    cases hok

theorem startsPcm_of_standby (w : WriteResult) (hstandby : (s.outs n).standby = true)
    (hpcm : (s.outs n).usecase ≠ .offload) :
    s.startsPcm n w = (s.startOutputStream view n w).2 := by
  rw [startOutputStream_ok w hpcm, Adev.startsPcm, hstandby, bne_iff_ne.mpr hpcm,
    Bool.true_and, Bool.true_and]

theorem startsPcm_offload (w : WriteResult) (hoffload : (s.outs n).usecase = .offload) :
    s.startsPcm n w = false := by
  rw [Adev.startsPcm, hoffload]
  simp

/-- **WRITING** stops the active input if it starts a stream that is no offload
    stream. -/
theorem line_outWrite (hd : DistinctPtrs s.routing) {w : WriteResult} {s' : Adev}
    (hw : s.outWrite view n w = some s') :
    s'.line = if s.startsPcm n w then s.lineForced s.line else s.line := by
  rw [Adev.outWrite] at hw
  split at hw
  · rename_i hstandby
    split at hw
    · cases hw
    · have hline := @line_startOutputStream view s n hd w
      have hside := @inputSide_startOutputStream view s n w
      have hd₁ := kept_startOutputStream (distinctPtrs_kept view) hd n w
      have husecase := @startOutputStream_usecase view s n w
      have hstarts := @startsPcm_of_standby view s n w hstandby
      generalize s.startOutputStream view n w = r at hline hside hd₁ husecase hstarts hw
      obtain ⟨s₁, ok⟩ := r
      cases ok with
      | false =>
          obtain rfl := Option.some.inj hw
          have hfalse : s.startsPcm n w = false := by
            by_cases hpcm : (s.outs n).usecase = .offload
            · exact startsPcm_offload w hpcm
            · exact hstarts hpcm
          rw [hfalse]
          exact hline
      | true =>
          have hset : ((s₁.setOut n fun o => { o with standby := false }).outs n).usecase
              = (s.outs n).usecase := by
            rw [setOut_usecase]
            · exact husecase rfl
            · exact fun _ => rfl
          simp only [hset] at hw
          split at hw
          · rename_i hoffload
            obtain rfl := Option.some.inj hw
            rw [startsPcm_offload w hoffload]
            exact (line_writeOffload n w).trans hline
          · rename_i hpcm
            obtain rfl := Option.some.inj hw
            rw [hstarts hpcm]
            have hforced : (s₁.setOut n fun o => { o with standby := false }).forcedInput
                = s.forcedInput := forcedInput_of_inputSide hside
            rw [hforced]
            refine (line_forceInStandby ?_ ?_).trans ?_
            · exact kept_writePcm (distinctPtrs_kept view) (s := s₁.setOut n _) hd₁ n w
            · exact (inputSide_writePcm n w).trans hside
            · rw [line_writePcm (s := s₁.setOut n _) n hd₁ w]
              exact congrArg s.lineForced hline
  · rename_i hawake
    have hfalse : s.startsPcm n w = false := by
      rw [Adev.startsPcm, Bool.eq_false_iff.mpr hawake]
      simp
    rw [hfalse]
    split at hw
    · obtain rfl := Option.some.inj hw
      exact line_writeOffload n w
    · obtain rfl := Option.some.inj hw
      exact line_writePcm n hd w

theorem line_outSetParameters (hd : DistinctPtrs s.routing) (n : Nat) (val : Devices)
    (alloc : Bool) :
    (s.outSetParameters view n val alloc).line = s.nextLine (.outSetParameters n val alloc) := by
  have hkept := distinctPtrs_kept view
  -- the part before the active input is stopped
  have hpart : ∀ s₁ : Adev, s₁ = (if val ≠ 0 then
        let s := s.setOut n fun o => { o with devices := val }
        let s := if (s.outs n).standby then s else s.rerouteOutput view n val
        (s.updateBtSco n).updateVoiceCall view n alloc
      else s) →
      DistinctPtrs s₁.routing ∧ s₁.inputSide = s.inputSide ∧
        s₁.line = if val ≠ 0 then s.lineCall n alloc s.line else s.line := by
    rintro s₁ rfl
    split
    · simp only
      have hset : DistinctPtrs (s.setOut n fun o => { o with devices := val }).routing := hd
      generalize hs₂ : (if ((s.setOut n fun o => { o with devices := val }).outs n).standby = true
        then s.setOut n fun o => { o with devices := val }
        else (s.setOut n fun o => { o with devices := val }).rerouteOutput view n val) = s₂
      have hs₂ : DistinctPtrs s₂.routing ∧ s₂.inputSide = s.inputSide
          ∧ s₂.routing.inCall = s.routing.inCall ∧ s₂.line = s.line := by
        split at hs₂
        · exact hs₂ ▸ ⟨hd, rfl, rfl, rfl⟩
        · refine hs₂ ▸ ⟨?_, ?_, ?_, ?_⟩
          · exact distinctPtrs_reroute hset n val
          · exact inputSide_rerouteOutput n val
          · exact inCall_rerouteOutput n val
          · exact line_rerouteOutput n hset val
      obtain ⟨hd₂, hside, hcall, hline⟩ := hs₂
      have hrouting := updateBtSco_routing s₂ n
      have hd₃ : DistinctPtrs (s₂.updateBtSco n).routing := hrouting ▸ hd₂
      refine ⟨kept_updateVoiceCall hkept hd₃ n alloc, ?_, ?_⟩
      · rw [inputSide_updateVoiceCall, inputSide_updateBtSco, hside]
      · rw [line_updateVoiceCall hd₃, lineCall_congr (s := s) ((inputSide_updateBtSco n).trans hside)
          ((congrArg Routing.inCall hrouting).trans hcall)]
        refine congrArg (s.lineCall n alloc) ?_
        exact (congrArg Ledger.line (ledger_updateBtSco s₂ n)).trans hline
    · exact ⟨hd, rfl, rfl⟩
  obtain ⟨hd₁, hside, hline⟩ := hpart _ rfl
  by_cases hforced : (s.outs n).devices ≠ val ∧ val ≠ 0 ∧ (s.outs n).standby = false
      ∧ (s.outs n).usecase = .playback
  · simp only [Adev.outSetParameters, Adev.nextLine, if_pos hforced]
    exact (line_forceInStandby hd₁ hside).trans (congrArg s.lineForced hline)
  · simp only [Adev.outSetParameters, Adev.nextLine, if_neg hforced]
    exact hline

/-- Can an input be started as far as the profile and the memory go? -/
def Adev.canStart (s : Adev) (n : Nat) (w : ReadResult) : Bool :=
  (getPcmDevice (s.ins n).usecaseType (s.ins n).devices).isSome && w.alloc

/-- What `start_input_stream` leaves of the line and of the stream. -/
structure StartedInput (s : Adev) (n : Nat) (w : ReadResult) (r : Adev × Bool) : Prop where
  distinct : DistinctPtrs r.1.routing
  standby : (r.1.ins n).standby = (s.ins n).standby
  refused : s.canStart n w = false → r.2 = false ∧ r.1.line = s.line
  failed : s.canStart n w = true → w.opened = false →
    r.2 = false ∧ r.1.line = (s.line ++ [UsecaseId.capture]).erase .capture
  opened : s.canStart n w = true → w.opened = true →
    r.2 = w.resampler ∧ r.1.line = s.line ++ [.capture] ∧ (r.1.ins n).pcmDevList ≠ []

theorem stopInputStream_standby (s : Adev) (n : Nat) :
    ((s.stopInputStream n).ins n).standby = (s.ins n).standby := by
  simp only [Adev.stopInputStream]
  split
  · rfl
  · show (Function.update s.ins n _ n).standby = _
    rw [Function.update_self]
    rfl

theorem startedInput (hd : DistinctPtrs s.routing) (n : Nat) (w : ReadResult) :
    StartedInput s n w (s.startInputStream view n w) := by
  have hd' := kept_startInputStream (distinctPtrs_kept view) hd n w
  simp only [Adev.startInputStream] at hd' ⊢
  cases hprofile : getPcmDevice (s.ins n).usecaseType (s.ins n).devices with
  | none =>
      have hcan : s.canStart n w = false := by
        rw [Adev.canStart, hprofile]
        rfl
      exact ⟨hd, rfl, fun _ => ⟨rfl, rfl⟩, fun h => absurd h (by rw [hcan]; decide),
        fun h => absurd h (by rw [hcan]; decide)⟩
  | some p =>
      simp only [hprofile] at hd'
      cases halloc : w.alloc with
      | false =>
          have hcan : s.canStart n w = false := by
            rw [Adev.canStart, halloc, Bool.and_false]
          exact ⟨hd, rfl, fun _ => ⟨rfl, rfl⟩, fun h => absurd h (by rw [hcan]; decide),
            fun h => absurd h (by rw [hcan]; decide)⟩
      | true =>
          have hcan : s.canStart n w = true := by
            rw [Adev.canStart, hprofile, halloc]
            rfl
          simp only [halloc, Bool.true_eq_false, if_false] at hd' ⊢
          -- the state with the usecase and its devices
          have hd₀ : DistinctPtrs (((({ s with activeInput := some n } : Adev).setIn n fun i =>
              { i with pcmDevList := [p] }).onRouting fun r =>
                r.addUsecase .capture (.input n) [p.card]).selectDevices view .capture).routing :=
            (distinctPtrs_kept view).select _ _ ((distinctPtrs_kept view).addInput _ n _ hd)
          have hline : (((({ s with activeInput := some n } : Adev).setIn n fun i =>
              { i with pcmDevList := [p] }).onRouting fun r =>
                r.addUsecase .capture (.input n) [p.card]).selectDevices view .capture).line
              = s.line ++ [.capture] := by
            rw [line_selectDevices, Adev.line, ledger_addUsecase]
            exact Ledger.line_add _ _
          have hins : (((({ s with activeInput := some n } : Adev).setIn n fun i =>
              { i with pcmDevList := [p] }).onRouting fun r =>
                r.addUsecase .capture (.input n) [p.card]).selectDevices view .capture).ins n
              = { s.ins n with pcmDevList := [p] } := by
            rw [ins_selectDevices]
            exact Function.update_self ..
          generalize ((({ s with activeInput := some n } : Adev).setIn n fun i =>
              { i with pcmDevList := [p] }).onRouting fun r =>
                r.addUsecase .capture (.input n) [p.card]).selectDevices view .capture = s₁
            at hd' hd₀ hline hins ⊢
          cases hopened : w.opened with
          | true =>
              simp only [if_true]
              refine ⟨hd₀, ?_, fun h => absurd h (by rw [hcan]; decide),
                fun _ h => absurd h (by rw [hopened]; decide), fun _ _ => ⟨rfl, hline, ?_⟩⟩
              · rw [hins]
              · rw [hins]
                exact List.cons_ne_nil _ _
          | false =>
              simp only [Bool.false_eq_true, if_false]
              refine ⟨?_, ?_, fun h => absurd h (by rw [hcan]; decide), fun _ _ => ⟨rfl, ?_⟩,
                fun _ h => absurd h (by rw [hopened]; decide)⟩
              · exact kept_stopInputStream (distinctPtrs_kept view) hd₀ n
              · refine (stopInputStream_standby s₁ n).trans ?_
                rw [hins]
              · rw [← hline]
                exact line_stopInputStream n hd₀

/-- **READING** starts an input in standby, and stops one that cannot be read. -/
theorem line_inRead (hd : DistinctPtrs s.routing) {w : ReadResult} {s' : Adev}
    (hr : s.inRead view n w = some s') : s'.line = s.lineRead n w := by
  rw [Adev.inRead] at hr
  simp only at hr
  split at hr
  · rename_i hstandby
    rw [Adev.lineRead, if_pos hstandby]
    split at hr
    · cases hr
    · have hstart := @startedInput view s hd n w
      rw [← Adev.canStart]
      generalize s.startInputStream view n w = r at hstart hr
      obtain ⟨s₁, ok⟩ := r
      have hstandby₁ : (s₁.ins n).standby = true := hstart.standby.trans hstandby
      cases hcan : s.canStart n w with
      | false =>
          obtain ⟨hok, hline⟩ := hstart.refused hcan
          obtain rfl : ok = false := hok
          obtain rfl := Option.some.inj hr
          rw [doInStandby_of_standby hstandby₁]
          exact hline
      | true =>
          rw [if_pos rfl]
          cases hopened : w.opened with
          | false =>
              obtain ⟨hok, hline⟩ := hstart.failed hcan hopened
              obtain rfl : ok = false := hok
              obtain rfl := Option.some.inj hr
              rw [doInStandby_of_standby hstandby₁]
              exact hline
          | true =>
              obtain ⟨hok, hline, hlist⟩ := hstart.opened hcan hopened
              rw [Bool.true_and]
              cases ok with
              | false =>
                  obtain rfl := Option.some.inj hr
                  have hresampler : w.resampler = false := hok.symm
                  rw [doInStandby_of_standby hstandby₁, hresampler]
                  exact hline
              | true =>
                  have hresampler : w.resampler = true := hok.symm
                  have hlist₁ : ((s₁.setIn n fun i => { i with standby := false }).ins
                      n).pcmDevList.isEmpty = false := by
                    have hins : ((s₁.setIn n fun i => { i with standby := false }).ins n).pcmDevList
                        = (s₁.ins n).pcmDevList := by
                      show (Function.update s₁.ins n _ n).pcmDevList = _
                      rw [Function.update_self]
                    rw [hins]
                    exact List.isEmpty_eq_false_iff.mpr hlist
                  simp only [hlist₁, Bool.not_false, Bool.and_true] at hr
                  rw [hresampler, Bool.not_true, Bool.false_or]
                  split at hr
                  · rename_i hread
                    obtain rfl := Option.some.inj hr
                    rw [if_pos hread]
                    exact hline
                  · rename_i hread
                    split at hr
                    · cases hr
                    · obtain rfl := Option.some.inj hr
                      rw [if_neg hread]
                      refine (line_doInStandby (s := s₁.setIn n _) hstart.distinct n).trans ?_
                      rw [Adev.lineInStandby, if_neg]
                      · exact congrArg (fun l => List.erase l UsecaseId.capture) hline
                      · show ¬ (Function.update s₁.ins n _ n).standby = true
                        rw [Function.update_self]
                        exact Bool.false_ne_true
  · rename_i hawake
    rw [Adev.lineRead, if_neg hawake]
    split at hr
    · rename_i hread
      obtain rfl := Option.some.inj hr
      rw [if_pos hread]
    · rename_i hread
      split at hr
      · cases hr
      · obtain rfl := Option.some.inj hr
        rw [if_neg hread]
        refine (line_doInStandby hd n).trans ?_
        rw [Adev.lineInStandby, if_neg hawake]

/-- Without a capture the line has none to lose. -/
theorem erase_capture_of_none (h : s.routing.getUsecaseFromId .capture = none) :
    s.line.erase .capture = s.line := by
  rw [List.erase_of_not_mem]
  intro hmem
  obtain ⟨e, he, hid⟩ := List.mem_map.mp (List.mem_filter.mp hmem).1
  have hfind : s.ledger.find .capture = none :=
    (find_ledger s .capture).trans (congrArg (Option.map Usecase.identity) h)
  exact Ledger.id_ne_of_find hfind he hid

theorem line_rerouteInput (hd : DistinctPtrs s.routing) (n : Nat) (val : Devices)
    (hawake : (s.ins n).standby = false) :
    (s.rerouteInput view n val).line
      = if (s.ins n).leaves val then s.line.erase .capture else s.line := by
  rw [Adev.rerouteInput]
  split
  · rename_i uc p rest hfound hlist
    have hleaves : (s.ins n).leaves val
        = !hasDevice (p.devices &&& val) (~~~Devices.bitIn) := by
      rw [StreamIn.leaves, hlist]
      rfl
    rw [hleaves]
    cases hasDevice (p.devices &&& val) (~~~Devices.bitIn) with
    | true => exact line_selectDevices _
    | false =>
        refine (line_doInStandby hd n).trans ?_
        rw [Adev.lineInStandby, hawake]
        rfl
  · rename_i hother
    rw [line_selectDevices]
    cases hlist : (s.ins n).pcmDevList with
    | nil =>
        have hleaves : (s.ins n).leaves val = false := by
          rw [StreamIn.leaves, hlist]
          rfl
        rw [hleaves]
        rfl
    | cons p rest =>
        cases hfound : s.routing.getUsecaseFromId .capture with
        | none => rw [erase_capture_of_none hfound, ite_self]
        | some uc => exact (hother uc p rest hfound hlist).elim

/-- Noting the source of an input changes nothing that its devices are compared
    with. -/
structure Noted (s s₁ : Adev) (n : Nat) : Prop where
  routing : s₁.routing = s.routing
  devices : (s₁.ins n).devices = (s.ins n).devices
  standby : (s₁.ins n).standby = (s.ins n).standby
  list : (s₁.ins n).pcmDevList = (s.ins n).pcmDevList

theorem noted_setIn (s : Adev) (n : Nat) (source : Source) :
    Noted s (s.setIn n fun i => { i with source := source }) n := by
  have hins : (s.setIn n fun i => { i with source := source }).ins n
      = { s.ins n with source := source } := Function.update_self ..
  exact ⟨rfl, by rw [hins], by rw [hins], by rw [hins]⟩

/-- The part of `in_set_parameters` after the source. -/
def Adev.inSetDevices (view : StreamOut → InputView) (s : Adev) (n : Nat) (val : Devices) : Adev :=
  if (s.ins n).devices ≠ val ∧ val ≠ 0 then
    let s := s.setIn n fun i => { i with devices := val }
    if (s.ins n).standby then s else s.rerouteInput view n val
  else s

theorem inSetParameters_eq (s : Adev) (n : Nat) (source : Option Source)
    (routing : Option Devices) :
    ∃ s₁, Noted s s₁ n ∧ s.inSetParameters view n source routing
      = routing.elim s₁ fun val => s₁.inSetDevices view n val := by
  have hsame : Noted s s n := ⟨rfl, rfl, rfl, rfl⟩
  cases source with
  | none => exact ⟨s, hsame, by cases routing <;> rfl⟩
  | some source =>
      by_cases hdefault : source = .default
      · rw [hdefault]
        exact ⟨s, hsame, by cases routing <;> rfl⟩
      · refine ⟨_, noted_setIn s n source, ?_⟩
        cases source <;> first | exact absurd rfl hdefault | (cases routing <;> rfl)

theorem line_inSetParameters (hd : DistinctPtrs s.routing) (n : Nat) (source : Option Source)
    (routing : Option Devices) :
    (s.inSetParameters view n source routing).line
      = s.nextLine (.inSetParameters n source routing) := by
  obtain ⟨s₁, hs₁, heq⟩ := @inSetParameters_eq view s n source routing
  have hline : s₁.line = s.line := by
    rw [Adev.line, Adev.line, Ledger.line, Ledger.line]
    exact congrArg (fun r : Routing =>
      ((r.usecases.map Usecase.identity).map Identity.id).filter inLine) hs₁.routing
  rw [heq, Adev.nextLine]
  cases routing with
  | none => exact hline
  | some val =>
      rw [Option.any_some, Option.elim_some, Adev.inSetDevices]
      rw [Adev.stopsForDevices, ← hs₁.devices, ← hs₁.standby, StreamIn.leaves, ← hs₁.list]
      by_cases hnew : (s₁.ins n).devices ≠ val ∧ val ≠ 0
      · have hins : (s₁.setIn n fun i => { i with devices := val }).ins n
            = { s₁.ins n with devices := val } := Function.update_self ..
        rw [if_pos hnew, bne_iff_ne.mpr hnew.1, bne_iff_ne.mpr hnew.2, Bool.true_and,
          Bool.true_and]
        cases hstandby : (s₁.ins n).standby with
        | true =>
            simp only [hins]
            rw [if_pos hstandby, Bool.not_true, Bool.false_and, if_neg Bool.false_ne_true]
            exact hline
        | false =>
            simp only [hins, hstandby]
            rw [if_neg Bool.false_ne_true, Bool.not_false, Bool.true_and]
            refine (line_rerouteInput (s := s₁.setIn n _) ?_ n val ?_).trans ?_
            · exact hs₁.routing ▸ hd
            · rw [hins]
              exact hstandby
            · rw [StreamIn.leaves, hins]
              show (if _ then s₁.line.erase .capture else s₁.line) = _
              rw [hline]
      · rw [if_neg hnew]
        have hsame : ((s₁.ins n).devices != val && val != 0) = false := by
          rw [Bool.and_eq_false_iff, bne_eq_false_iff_eq, bne_eq_false_iff_eq]
          by_contra hor
          exact hnew ⟨fun h => hor (Or.inl h), fun h => hor (Or.inr h)⟩
        rw [hsame, Bool.false_and, Bool.false_and, if_neg Bool.false_ne_true]
        exact hline

theorem line_effect (hd : DistinctPtrs s.routing) (n : Nat) (auxChanged : Bool)
    (aec : Option Bool) :
    (s.addRemoveAudioEffect view n auxChanged aec).line
      = s.nextLine (.effect n auxChanged aec) := by
  rw [Adev.nextLine]
  simp only [Adev.addRemoveAudioEffect]
  -- the first standby leaves nothing to stop for the second
  generalize hfirst : (if auxChanged then s.doInStandby n else s) = s₁
  have hs₁ : DistinctPtrs s₁.routing ∧ (auxChanged = true → (s₁.ins n).standby = true)
      ∧ (auxChanged = false → s₁ = s)
      ∧ s₁.line = if auxChanged then s.lineInStandby n s.line else s.line := by
    cases auxChanged with
    | true =>
        refine hfirst ▸ ⟨kept_doInStandby (distinctPtrs_kept view) hd n, fun _ => ?_,
          fun h => (by cases h), line_doInStandby hd n⟩
        rw [if_pos rfl, Adev.doInStandby]
        split
        · assumption
        · show (Function.update (s.stopInputStream n).ins n _ n).standby = true
          rw [Function.update_self]
    | false => exact hfirst ▸ ⟨hd, fun h => (by cases h), fun _ => rfl, rfl⟩
  obtain ⟨hd₁, hstopped, hsame, hline⟩ := hs₁
  cases aec with
  | none =>
      simp only [Option.isSome_none, Bool.or_false]
      exact hline
  | some enable =>
      simp only [Option.isSome_some, Bool.or_true, if_true]
      have hins : (s₁.setIn n fun i => { i with enableAec := enable }).ins n
          = { s₁.ins n with enableAec := enable } := Function.update_self ..
      rw [hins]
      simp only
      cases auxChanged with
      | true =>
          rw [if_pos (hstopped rfl)]
          exact hline
      | false =>
          obtain rfl := hsame rfl
          split
          · rename_i hstandby
            rw [Adev.lineInStandby, if_pos hstandby]
            rfl
          · rename_i hawake
            refine (line_doInStandby (distinct_selectDevices (s := s₁.setIn n _) hd₁ _) n).trans ?_
            rw [Adev.lineInStandby, Adev.lineInStandby, ins_selectDevices, hins, line_selectDevices]
            rfl

theorem line_setMode (hd : DistinctPtrs s.routing) (mode : Mode) :
    (s.setMode mode).line = s.nextLine (.setMode mode) := by
  rw [Adev.setMode, Adev.nextLine]
  by_cases hmode : s.mode ≠ mode
  · simp only [if_pos hmode]
    by_cases hcall : mode = .normal ∧ s.routing.inCall = true
    · rw [if_pos hcall, if_pos ⟨hmode, hcall⟩]
      exact line_stopVoiceCall (s := { s with mode := mode }) hd
    · rw [if_neg hcall, if_neg (fun h => hcall h.2)]
      rfl
  · rw [if_neg hmode, if_neg (fun h => hmode h.1)]

theorem line_wbAmr (hd : DistinctPtrs s.routing) (type : Int) (alloc : Bool) :
    (s.wbAmr view type alloc).line = s.nextLine (.wbAmr type alloc) := by
  rw [Adev.wbAmr, Adev.nextLine]
  by_cases htype : s.session.wbAmrType ≠ type
  · simp only [if_pos htype]
    by_cases hcall : s.routing.inCall = true
    · rw [if_pos hcall, if_pos ⟨htype, hcall⟩]
      exact line_restartVoiceCall
        (s := { s with session := { s.session with wbAmrType := type } }) hd alloc
    · rw [if_neg hcall, if_neg (fun h => hcall h.2)]
      rfl
  · rw [if_neg htype, if_neg (fun h => htype h.1)]

theorem line_outResume (alloc : Bool) : (s.outResume view n alloc).line = s.line := by
  rw [Adev.outResume]
  split
  · show (s.enableOutputPath view n alloc).1.line = s.line
    cases alloc with
    | false => rw [enableOutputPath_of_not_alloc]
    | true =>
        rw [Adev.line, ledger_enableOutputPath]
        exact (Ledger.line_add _ _).trans (List.append_nil _)
  · rfl

theorem line_outPause (hd : DistinctPtrs s.routing) : (s.outPause n).line = s.line := by
  rw [Adev.outPause]
  split
  · rw [Adev.line, ledger_disableOutputPath]
    exact Ledger.line_drop_playback (l := (s.setOut n _).ledger) hd _
  · rfl

theorem line_of_routing {s' : Adev} (h : s'.routing = s.routing) : s'.line = s.line := by
  have hentries : s'.ledger.entries = s.ledger.entries :=
    congrArg (fun r : Routing => r.usecases.map Usecase.identity) h
  rw [Adev.line, Adev.line, Ledger.line, Ledger.line, hentries]

/-- **STEP**: every operation leaves the line that `nextLine` says. -/
theorem line_step (hd : DistinctPtrs s.routing) {a : Act} {s' : Adev}
    (hstep : step view s a = some s') : s'.line = s.nextLine a := by
  cases a with
  | openOutput n a =>
      rw [step] at hstep
      split at hstep
      · cases hstep
      · obtain rfl := Option.some.inj hstep
        exact line_of_routing (openOutputStream_routing s n a)
  | closeOutput n =>
      rw [step] at hstep
      obtain ⟨-, hstep⟩ := onOut_eq_some hstep
      obtain rfl := Option.some.inj hstep
      exact line_outStandby n hd
  | write n w =>
      rw [step] at hstep
      obtain ⟨-, hstep⟩ := onOut_eq_some hstep
      exact line_outWrite hd hstep
  | outStandby n =>
      rw [step] at hstep
      obtain ⟨-, hstep⟩ := onOut_eq_some hstep
      obtain rfl := Option.some.inj hstep
      exact line_outStandby n hd
  | outSetParameters n val alloc =>
      rw [step] at hstep
      obtain ⟨-, hstep⟩ := onOut_eq_some hstep
      split at hstep
      · cases hstep
      · obtain rfl := Option.some.inj hstep
        exact line_outSetParameters hd n val alloc
  | pause n =>
      rw [step] at hstep
      obtain ⟨-, ⟨-, rfl⟩ | ⟨-, rfl⟩⟩ := onOffload_eq_some hstep
      · exact line_outPause hd
      · rfl
  | resume n alloc =>
      rw [step] at hstep
      obtain ⟨-, ⟨-, rfl⟩ | ⟨-, rfl⟩⟩ := onOffload_eq_some hstep
      · exact line_outResume alloc
      · rfl
  | flush n =>
      rw [step] at hstep
      obtain ⟨-, ⟨-, rfl⟩ | ⟨-, rfl⟩⟩ := onOffload_eq_some hstep
      · rw [Adev.outFlush]
        split
        · rfl
        · rfl
      · rfl
  | drain n =>
      rw [step] at hstep
      obtain ⟨-, ⟨-, rfl⟩ | ⟨-, rfl⟩⟩ := onOffload_eq_some hstep
      · rfl
      · rfl
  | openInput n a =>
      rw [step] at hstep
      split at hstep
      · cases hstep
      · obtain rfl := Option.some.inj hstep
        exact line_of_routing (openInputStream_routing s n a)
  | closeInput n =>
      rw [step] at hstep
      obtain ⟨-, rfl⟩ := onIn_eq_some hstep
      exact line_doInStandby hd n
  | read n w =>
      rw [step] at hstep
      split at hstep
      · exact line_inRead hd hstep
      · cases hstep
  | inStandby n =>
      rw [step] at hstep
      obtain ⟨-, rfl⟩ := onIn_eq_some hstep
      exact line_doInStandby hd n
  | inSetParameters n source routing =>
      rw [step] at hstep
      obtain ⟨-, rfl⟩ := onIn_eq_some hstep
      exact line_inSetParameters hd n source routing
  | effect n auxChanged aec =>
      rw [step] at hstep
      obtain ⟨-, rfl⟩ := onIn_eq_some hstep
      exact line_effect hd n auxChanged aec
  | setMode mode =>
      obtain rfl := Option.some.inj hstep
      exact line_setMode hd mode
  | wbAmr type alloc =>
      obtain rfl := Option.some.inj hstep
      exact line_wbAmr hd type alloc
  | bluetoothWb on =>
      obtain rfl := Option.some.inj hstep
      rfl

end Operations

-- ── The head of the line ─────────────────────────────────────────────────────

section Head

variable {view view' : StreamOut → InputView} {s : Adev}

theorem head_line (s : Adev) : s.line.head? = s.activeUsecase.map Usecase.id := by
  have htypes : (fun uc : Usecase => decide (uc.type ∈ [UsecaseType.pcmCapture, .voiceCall]))
      = inLine ∘ Usecase.id := by
    funext uc
    rw [Usecase.type]
    cases h : uc.id <;> simp [inLine, UsecaseId.type, h]
  have hids : s.ledger.entries.map Identity.id = s.routing.usecases.map Usecase.id :=
    List.map_map
  rw [Adev.line, Ledger.line, hids, List.head?_filter, List.find?_map, Adev.activeUsecase,
    Routing.getUsecaseFromType, ← htypes]

/-- `active_input` is no input exactly if a call is at the head of the line. -/
theorem confused_iff (s : Adev) : s.confused ↔ s.line.head? = some .voiceCall := by
  rw [head_line, Option.map_eq_some_iff]
  constructor
  · rintro ⟨uc, huc, htype⟩
    refine ⟨uc, huc, ?_⟩
    rw [Usecase.type] at htype
    cases hid : uc.id with
    | playback p =>
        rw [hid] at htype
        cases htype
    | capture =>
        rw [hid] at htype
        cases htype
    | voiceCall => rfl
  · rintro ⟨uc, huc, hid⟩
    exact ⟨uc, huc, by rw [Usecase.type, hid]; rfl⟩

/-- No call of `select_devices` takes an output for an input. -/
def Adev.ReadsInputs (view : StreamOut → InputView) (s : Adev) : Prop :=
  ∀ id, ∀ r ∈ s.selectReads view id, r.usecase.type = .pcmCapture ∧ ∃ n, r.usecase.stream = .input n

/-- The streams of the captures are inputs. -/
def CapturesInputs (entries : List Identity) : Prop :=
  ∀ e ∈ entries, e.id = .capture → ∃ n, e.stream = .input n

def CapturesInputsOf (r : Routing) : Prop := CapturesInputs (r.usecases.map Usecase.identity)

theorem capturesInputs_of_skeleton {r r' : Routing} (h : CapturesInputsOf r)
    (hskeleton : r'.skeleton = r.skeleton) : CapturesInputsOf r' := by
  have hentries : r'.usecases.map Usecase.identity = r.usecases.map Usecase.identity :=
    congrArg Prod.fst hskeleton
  rw [CapturesInputsOf, hentries]
  exact h

theorem capturesInputs_add {r : Routing} (h : CapturesInputsOf r) {id : UsecaseId}
    {stream : Stream} (hnew : id = .capture → ∃ n, stream = .input n) (mixers : List Nat) :
    CapturesInputsOf (r.addUsecase id stream mixers) := by
  intro e he hid
  rw [Routing.addUsecase, List.map_append, List.mem_append] at he
  obtain he | he := he
  · exact h e he hid
  · rw [List.map_singleton, List.mem_singleton] at he
    subst he
    exact hnew hid

theorem capturesInputs_remove {r : Routing} (h : CapturesInputsOf r) (p : Nat) :
    CapturesInputsOf (r.removeUsecase p) :=
  fun e he => h e ((List.filter_sublist.map _).subset he)

theorem capturesInputs_kept (view : StreamOut → InputView) : Kept view CapturesInputsOf where
  select := fun s id h => capturesInputs_of_skeleton h (selectDevices_skeleton s id)
  addOutput := fun _ _ _ _ h => capturesInputs_add h (fun hid => by cases hid) _
  addInput := fun _ n _ h => capturesInputs_add h (fun _ => ⟨n, rfl⟩) _
  startCall := fun r _ h =>
    @capturesInputs_add { r with inCall := true } h _ _ (fun hid => by cases hid) _
  stopOutput := fun r _ uc h _ =>
    capturesInputs_remove (capturesInputs_of_skeleton h
      (skeleton_of_frame (disableSndDevice_frame r uc _))) _
  stopInput := fun r uc h _ =>
    capturesInputs_remove (capturesInputs_of_skeleton h
      (skeleton_of_frame (disableSndDevice_frame r uc _))) _
  stopCall := by
    intro r uc h _
    have hcall : CapturesInputsOf { r with inCall := false } := h
    refine capturesInputs_remove (capturesInputs_of_skeleton hcall (skeleton_of_frame ?_)) _
    rw [disableSndDevice_frame, disableSndDevice_frame]
  hangUp := fun _ h _ => h

theorem capturesInputs_step {a : Act} {s' : Adev} (h : CapturesInputsOf s.routing)
    (hstep : step view s a = some s') : CapturesInputsOf s'.routing := by
  have hkept := capturesInputs_kept view
  refine kept_step hkept ?_ h hstep
  intro n val _ _ _ _
  simp only [Adev.rerouteOutput]
  split
  · exact hkept.select _ _ h
  · rename_i uc _
    split
    · exact kept_doOutStandby hkept (by exact h) n
    · refine hkept.select _ _ ?_
      split
      · exact capturesInputs_of_skeleton (by exact h) (setOffloadParameters_skeleton s.routing uc)
      · exact h

/-- **ONE STATE**: all calls read of inputs exactly if no call is at the head of
    the line. -/
theorem readsInputs_state (hinputs : CapturesInputsOf s.routing) :
    s.ReadsInputs view ↔ ¬ s.confused := by
  constructor
  · rintro h ⟨uc, huc, htype⟩
    have hid : uc.id = .voiceCall := by
      have hhead := (confused_iff s).mp ⟨uc, huc, htype⟩
      rw [head_line, huc] at hhead
      exact Option.some.inj hhead
    have hlooks : ¬ s.looksAway .voiceCall := by
      rw [Adev.looksAway]
      cases hfound : s.routing.getUsecaseFromId .voiceCall with
      | none =>
          have hne := List.find?_eq_none.mp hfound uc (List.mem_of_find?_eq_some huc)
          exact absurd hid (by simpa using hne)
      | some found =>
          have hfoundType : found.type = .voiceCall := type_of_id hfound
          simp only [hfoundType]
          exact not_false
    have hcalls : ReadsInputs (s.selectReads view .voiceCall) := fun r hr => (h .voiceCall r hr).1
    obtain hnot | haway := (readsInputs_iff view s .voiceCall).mp hcalls
    · exact hnot ⟨uc, huc, htype⟩
    · exact hlooks haway
  · intro h id r hr
    have htype := (readsInputs_iff view s id).mpr (Or.inl h) r hr
    refine ⟨htype, ?_⟩
    have hmem : r.usecase.identity ∈ s.routing.usecases.map Usecase.identity :=
      List.mem_map_of_mem (List.mem_of_find?_eq_some (selectReads_active hr))
    refine hinputs _ hmem ?_
    show r.usecase.id = .capture
    rw [Usecase.type] at htype
    cases hid : r.usecase.id with
    | playback p =>
        rw [hid] at htype
        cases htype
    | capture => rfl
    | voiceCall =>
        rw [hid] at htype
        cases htype

/-- Two views of output streams that agree on the active input lead to the same
    devices. -/
theorem selectWith_congr {nested nested' : Adev → UsecaseId → Adev} {id : UsecaseId}
    (hactive : s.activeView view = s.activeView view')
    (hnested : ∀ id, nested s id = nested' s id) :
    s.selectWith view nested id = s.selectWith view' nested' id := by
  have hfollows : ∀ n, s.inputFollows view n = s.inputFollows view' n := by
    intro n
    rw [Adev.inputFollows, Adev.inputFollows, hactive]
  have helim : ∀ n, (s.inputFollows view n).elim s (nested s)
      = (s.inputFollows view' n).elim s (nested' s) := by
    intro n
    rw [hfollows n]
    cases s.inputFollows view' n with
    | none => rfl
    | some id => exact hnested id
  have hcall : ∀ devices, ({ s with session := s.session.prepare devices } : Adev).voiceCallDevices
      view devices = ({ s with session := s.session.prepare devices } : Adev).voiceCallDevices
      view' devices := by
    intro devices
    have hsame : ({ s with session := s.session.prepare devices } : Adev).activeView view
        = ({ s with session := s.session.prepare devices } : Adev).activeView view' := hactive
    rw [Adev.voiceCallDevices, Adev.voiceCallDevices, hsame]
  have hcapture : s.captureDevice view = s.captureDevice view' := by
    rw [Adev.captureDevice, Adev.captureDevice, Adev.outDevicesForInput, Adev.outDevicesForInput,
      hactive]
  simp only [Adev.selectWith, helim, hcall, hcapture]

/-- **NO INFLUENCE**: where a call reads of inputs alone, what an output stream
    has in the place of their fields does not matter. -/
theorem selectDevices_view {id : UsecaseId}
    (hinputs : ∀ r ∈ s.selectReads view id, ∃ n, r.usecase.stream = .input n)
    (hlooks : ¬ s.looksAway id) :
    s.selectDevices view id = s.selectDevices view' id := by
  have hactive : s.activeView view = s.activeView view' := by
    rw [Adev.activeView, Adev.activeView, ← Adev.activeUsecase]
    cases huc : s.activeUsecase with
    | none => rfl
    | some uc =>
        obtain ⟨r, hr⟩ := List.exists_mem_of_ne_nil _ (@selectReads_ne_nil view s _ uc huc hlooks)
        obtain ⟨n, hn⟩ := hinputs r hr
        have hsame : uc = r.usecase := Option.some.inj (huc.symm.trans (selectReads_active hr))
        rw [Option.map_some, Option.map_some, hsame, hn]
        rfl
  exact selectWith_congr hactive fun _ => selectWith_congr hactive fun _ => rfl

end Head

-- ── Runs ─────────────────────────────────────────────────────────────────────

/-- The operation leaves no call at the head of the line. -/
def Adev.keepsInputFirst (s : Adev) (a : Act) : Prop := (s.nextLine a).head? ≠ some .voiceCall

/-- **ACTIVE INPUT**: a call of `select_devices` reads of captures alone exactly
    if the first of captures and calls is no call, or it does not look at
    `active_input`; and all along a run every call does, exactly if no operation
    of the run leaves a voice call in front of all captures. -/
theorem select_reads_inputs (view : StreamOut → InputView) :
    (∀ (s : Adev) id,
        ReadsInputs (s.selectReads view id) ↔ ¬ s.confused ∨ s.looksAway id)
      ∧ ∀ fx session acts,
        Always (step view) (Adev.ReadsInputs view) (start fx session) acts
          ↔ StepsMeet (step view) Adev.keepsInputFirst (start fx session) acts := by
  refine ⟨readsInputs_iff view, fun fx session acts => ?_⟩
  refine @always_iff_stepsMeet Adev Act (step view)
    (fun s => (DistinctPtrs s.routing ∧ CapturesInputsOf s.routing) ∧ ¬ s.confused)
    (Adev.ReadsInputs view) Adev.keepsInputFirst (fun s h => (readsInputs_state h.1.2).mpr h.2) ?_ ?_ acts
    (start fx session) ?_
  · rintro s a s' ⟨⟨hd, hinputs⟩, -⟩ hok hstep
    refine ⟨⟨distinctPtrs_step s a s' hd hstep, capturesInputs_step hinputs hstep⟩, ?_⟩
    rw [confused_iff, line_step hd hstep]
    exact hok
  · rintro s a s' ⟨⟨hd, hinputs⟩, -⟩ hstep hreads
    have hnot := (readsInputs_state (capturesInputs_step hinputs hstep)).mp hreads
    rw [confused_iff, line_step hd hstep] at hnot
    exact hnot
  · refine ⟨⟨⟨List.nodup_nil, fun _ h => absurd h List.not_mem_nil⟩,
      fun _ h => absurd h List.not_mem_nil⟩, ?_⟩
    rw [confused_iff]
    show ¬ ([] : List UsecaseId).head? = some .voiceCall
    intro h
    cases h

/-- A voice call alone: the primary output is opened, the mode set, and the call
    started by routing the output. -/
def voiceCallAlone : List Act := [
  .openOutput 0 speakerOutput, .setMode .inCall, .outSetParameters 0 Devices.outSpeaker true]

theorem output_read_as_input :
    ¬ ∀ (view : StreamOut → InputView) (fx : Bool) (session : VoiceSession) (acts : List Act),
      Always (step view) (Adev.ReadsInputs view) (start fx session) acts := by
  intro hclaim
  have hend : (run (step plainView) (start false plainSession) voiceCallAlone).map
      (fun s => (s.selectReads plainView .voiceCall).map fun r => r.usecase.type)
      = some [.voiceCall, .voiceCall] := by
    decide +kernel
  obtain ⟨s, hrun, hreads⟩ := Option.map_eq_some_iff.mp hend
  have hall := hclaim plainView false plainSession voiceCallAlone voiceCallAlone [] s
    (List.append_nil _).symm hrun .voiceCall
  have hmem : UsecaseType.voiceCall ∈ (s.selectReads plainView .voiceCall).map
      fun r => r.usecase.type := by
    rw [hreads]
    exact List.mem_cons_self ..
  obtain ⟨r, hr, htype⟩ := List.mem_map.mp hmem
  have hcapture := (hall r hr).1
  rw [htype] at hcapture
  cases hcapture

end AudioHal

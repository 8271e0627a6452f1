import Universal7580.AudioMovesProofs

/-! # The ledger of streams and usecases

    Which usecases are active does not depend on the sound devices they are on.
    The ledger is what is left of the audio device without devices, counts and
    paths: the usecases as address, id and stream, and of each stream the fields
    that decide when its usecase is added or removed.

    This file shows what the operations' parts do to the ledger.
    `select_devices` does nothing to it (`ledger_selectDevices`); enabling an
    output path adds an entry, disabling one drops the entry found under the
    stream's id, and the streams change the way the source says. -/

namespace AudioHal

open AudioRouting

-- ── The ledger ────────────────────────────────────────────────────────────

/-- A stream without its devices. -/
def StreamOut.bare (o : StreamOut) : StreamOut := { o with devices := 0, pcmDevList := [] }

def StreamIn.bare (i : StreamIn) : StreamIn :=
  { devices := 0
    source := .default
    usecaseType := .capture
    enableAec := false
    standby := i.standby
    pcmDevList := []
    isOpen := i.isOpen }

structure Ledger where
  entries : List Identity
  nextPtr : Nat
  inCall : Bool
  outs : Nat → StreamOut
  ins : Nat → StreamIn
  offloadFx : Bool

def Adev.ledger (s : Adev) : Ledger where
  entries := s.routing.usecases.map Usecase.identity
  nextPtr := s.routing.nextPtr
  inCall := s.routing.inCall
  outs := fun n => (s.outs n).bare
  ins := fun n => (s.ins n).bare
  offloadFx := s.offloadFx

namespace Ledger

def setOut (l : Ledger) (n : Nat) (f : StreamOut → StreamOut) : Ledger :=
  { l with outs := Function.update l.outs n (f (l.outs n)) }

def setIn (l : Ledger) (n : Nat) (f : StreamIn → StreamIn) : Ledger :=
  { l with ins := Function.update l.ins n (f (l.ins n)) }

def setInCall (l : Ledger) (b : Bool) : Ledger := { l with inCall := b }

def find (l : Ledger) (id : UsecaseId) : Option Identity := l.entries.find? fun e => e.id = id

def add (l : Ledger) (id : UsecaseId) (stream : Stream) : Ledger :=
  { l with
    entries := l.entries ++ [{ ptr := l.nextPtr, id := id, stream := stream }]
    nextPtr := l.nextPtr + 1 }

/-- Remove the entry found under an id. -/
def drop (l : Ledger) (id : UsecaseId) : Ledger :=
  match l.find id with
  | none => l
  | some e => { l with entries := l.entries.filter fun e' => e'.ptr ≠ e.ptr }

/-- `stop_output_stream` on the ledger. -/
def stopOutput (l : Ledger) (n : Nat) : Ledger :=
  if l.offloadFx then
    let paused := (l.outs n).offloadState.isPaused
    let l := l.setOut n fun o => { o with offloadState := .idle }
    if paused then l else l.drop (.playback (l.outs n).usecase)
  else l.drop (.playback (l.outs n).usecase)

/-- `do_out_standby_l` on the ledger. -/
def outStandby (l : Ledger) (n : Nat) : Ledger :=
  let l := l.setOut n fun o => { o with standby := true }
  let l := if (l.outs n).usecase = .offload then l.setOut n fun o => { o with compr := none } else l
  l.stopOutput n

section Updates

variable (l : Ledger) (n m : Nat) (f g : StreamOut → StreamOut)

@[simp]
theorem setOut_outs_self : (l.setOut n f).outs n = f (l.outs n) := Function.update_self ..

theorem setOut_outs_of_ne {n m : Nat} (h : m ≠ n) : (l.setOut n f).outs m = l.outs m :=
  Function.update_of_ne h ..

@[simp]
theorem setOut_setOut : (l.setOut n f).setOut n g = l.setOut n (g ∘ f) := by
  simp [setOut]

theorem drop_outs (id : UsecaseId) : (l.drop id).outs = l.outs := by
  rw [drop]
  split <;> rfl

theorem drop_ins (id : UsecaseId) : (l.drop id).ins = l.ins := by
  rw [drop]
  split <;> rfl

theorem setOut_drop (id : UsecaseId) : (l.drop id).setOut n f = (l.setOut n f).drop id := by
  rw [drop, drop]
  have hfind : (l.setOut n f).find id = l.find id := rfl
  rw [hfind]
  split
  · rfl
  · rfl

theorem setIn_drop (id : UsecaseId) (f : StreamIn → StreamIn) :
    (l.drop id).setIn n f = (l.setIn n f).drop id := by
  rw [drop, drop]
  have hfind : (l.setIn n f).find id = l.find id := rfl
  rw [hfind]
  split
  · rfl
  · rfl

end Updates

end Ledger

-- ── Selecting devices ─────────────────────────────────────────────────────

/-- All of the device but the routing and the voice session. -/
def Adev.rest (s : Adev) : Adev :=
  { s with
    routing := initial
    session :=
      { outDevice := 0
        twoMicControl := false
        twoMicDisabled := false
        wbAmrType := 0
        bluetoothWb := false } }

section Select

variable {view : StreamOut → InputView}

theorem selectWith_rest {nested : Adev → UsecaseId → Adev}
    (hnested : ∀ (s : Adev) (id : UsecaseId), (nested s id).rest = s.rest) (s : Adev)
    (id : UsecaseId) : (s.selectWith view nested id).rest = s.rest := by
  have hsel : Selected view nested s id _ := selected_selectWith nested s id
  generalize s.selectWith view nested id = s' at hsel ⊢
  cases hsel with
  | missing => rfl
  | call session out in' => rfl
  | follow => rfl
  | stopped huc htype hvc hafter =>
      rw [hafter]
      exact kept_follow (K := fun s' => s'.rest = s.rest) rfl fun id' _ => hnested s id'
  | play out huc htype hvc hafter =>
      show Adev.rest _ = s.rest
      rw [hafter]
      exact kept_follow (K := fun s' => s'.rest = s.rest) rfl fun id' _ => hnested s id'
  | capture in' => rfl

/-- `select_devices` works on the routing and the voice session alone. -/
theorem selectDevices_rest (s : Adev) (id : UsecaseId) :
    (s.selectDevices view id).rest = s.rest :=
  selectWith_rest (selectWith_rest fun _ _ => rfl) s id

/-- The ledger is decided by the list of usecases and the rest of the device. -/
theorem ledger_congr {s s' : Adev} (hskeleton : s'.routing.skeleton = s.routing.skeleton)
    (hrest : s'.rest = s.rest) : s'.ledger = s.ledger := by
  have hentries : s'.routing.usecases.map Usecase.identity
      = s.routing.usecases.map Usecase.identity := congrArg Prod.fst hskeleton
  have hcall : s'.routing.inCall = s.routing.inCall := congrArg (fun k => k.2.1) hskeleton
  have hnext : s'.routing.nextPtr = s.routing.nextPtr := congrArg (fun k => k.2.2.1) hskeleton
  have houts : s'.rest.outs = s.rest.outs := congrArg Adev.outs hrest
  have hins : s'.rest.ins = s.rest.ins := congrArg Adev.ins hrest
  have hfx : s'.rest.offloadFx = s.rest.offloadFx := congrArg Adev.offloadFx hrest
  simp only [Adev.rest] at houts hins hfx
  rw [Adev.ledger, Adev.ledger, hentries, hcall, hnext, houts, hins, hfx]

@[simp]
theorem ledger_selectDevices (s : Adev) (id : UsecaseId) :
    (s.selectDevices view id).ledger = s.ledger :=
  ledger_congr (selectDevices_skeleton s id) (selectDevices_rest s id)

end Select

-- ── Streams and entries ───────────────────────────────────────────────────

section Effects

variable {view : StreamOut → InputView} (s : Adev) (n : Nat)

@[simp]
theorem ledger_outs : s.ledger.outs n = (s.outs n).bare := rfl

/-- A change of a stream that treats the ledger's fields the same way. -/
theorem ledger_setOut {f : StreamOut → StreamOut} (hf : ∀ o, (f o).bare = f o.bare) :
    (s.setOut n f).ledger = s.ledger.setOut n f := by
  have houts : StreamOut.bare ∘ Function.update s.outs n (f (s.outs n))
      = Function.update (StreamOut.bare ∘ s.outs) n (f (s.outs n).bare) := by
    rw [Function.comp_update, hf]
  exact congrArg (fun outs => { s.ledger with outs := outs }) houts

/-- A stream that takes the place of another one. -/
theorem ledger_putOut (o : StreamOut) :
    (s.setOut n fun _ => o).ledger = s.ledger.setOut n fun _ => o.bare :=
  congrArg (fun outs => { s.ledger with outs := outs }) (Function.comp_update StreamOut.bare ..)

/-- A change of a stream that the ledger does not see. -/
theorem ledger_setOut_of_bare {f : StreamOut → StreamOut} (hf : ∀ o, (f o).bare = o.bare) :
    (s.setOut n f).ledger = s.ledger := by
  have houts : StreamOut.bare ∘ Function.update s.outs n (f (s.outs n))
      = StreamOut.bare ∘ s.outs := by
    rw [Function.comp_update, hf]
    exact Function.update_eq_self n _
  exact congrArg (fun outs => { s.ledger with outs := outs }) houts

theorem ledger_setIn {f : StreamIn → StreamIn} (hf : ∀ i, (f i).bare = f i.bare) :
    (s.setIn n f).ledger = s.ledger.setIn n f := by
  have hins : StreamIn.bare ∘ Function.update s.ins n (f (s.ins n))
      = Function.update (StreamIn.bare ∘ s.ins) n (f (s.ins n).bare) := by
    rw [Function.comp_update, hf]
  exact congrArg (fun ins => { s.ledger with ins := ins }) hins

theorem ledger_putIn (i : StreamIn) :
    (s.setIn n fun _ => i).ledger = s.ledger.setIn n fun _ => i.bare :=
  congrArg (fun ins => { s.ledger with ins := ins }) (Function.comp_update StreamIn.bare ..)

theorem ledger_setIn_of_bare {f : StreamIn → StreamIn} (hf : ∀ i, (f i).bare = i.bare) :
    (s.setIn n f).ledger = s.ledger := by
  have hins : StreamIn.bare ∘ Function.update s.ins n (f (s.ins n))
      = StreamIn.bare ∘ s.ins := by
    rw [Function.comp_update, hf]
    exact Function.update_eq_self n _
  exact congrArg (fun ins => { s.ledger with ins := ins }) hins

/-- Looking up a usecase and looking up its entry are the same. -/
theorem find_ledger (id : UsecaseId) :
    s.ledger.find id = (s.routing.getUsecaseFromId id).map Usecase.identity := by
  rw [Ledger.find, Adev.ledger, List.find?_map]
  rfl

theorem ledger_addUsecase (id : UsecaseId) (stream : Stream) (mixers : List Nat) :
    (s.onRouting fun r => r.addUsecase id stream mixers).ledger = s.ledger.add id stream := by
  rw [Adev.ledger, Ledger.add]
  simp only [onRouting_routing, Routing.addUsecase, List.map_append, List.map_cons, List.map_nil]
  rfl

/-- Stopping the usecase found under an id drops its entry. -/
theorem ledger_removeUsecase {r : Routing} {id : UsecaseId} {uc : Usecase}
    (huc : s.routing.getUsecaseFromId id = some uc) (hframe : r.frame = s.routing.frame) :
    ({ s with routing := r.removeUsecase uc.ptr } : Adev).ledger = s.ledger.drop id := by
  have hucs : r.usecases = s.routing.usecases := congrArg Prod.fst hframe
  have hcall : r.inCall = s.routing.inCall := congrArg (fun k => k.2.1) hframe
  have hnext : r.nextPtr = s.routing.nextPtr := congrArg (fun k => k.2.2.1) hframe
  rw [Ledger.drop, find_ledger, huc]
  simp only [Option.map_some, Adev.ledger, Routing.removeUsecase, hucs, hcall, hnext]
  rw [List.filter_map]
  rfl

theorem ledger_enableOutputPath :
    (s.enableOutputPath view n true).1.ledger
      = s.ledger.add (.playback (s.outs n).usecase) (.output n) := by
  simp only [Adev.enableOutputPath, Bool.true_eq_false, if_false, ledger_selectDevices]
  rw [ledger_addUsecase, ledger_setOut_of_bare]
  exact fun _ => rfl

theorem enableOutputPath_of_not_alloc : s.enableOutputPath view n false = (s, false) := by
  rw [Adev.enableOutputPath, if_pos rfl]

theorem enableOutputPath_ok (alloc : Bool) : (s.enableOutputPath view n alloc).2 = alloc := by
  cases alloc with
  | false => rw [enableOutputPath_of_not_alloc]
  | true => rw [Adev.enableOutputPath, if_neg (fun h => by cases h)]

theorem ledger_disableOutputPath :
    (s.disableOutputPath n).ledger = s.ledger.drop (.playback (s.outs n).usecase) := by
  rw [Adev.disableOutputPath]
  split
  · rename_i hnone
    rw [Ledger.drop, find_ledger, hnone]
    rfl
  · rename_i uc huc
    rw [← ledger_removeUsecase s huc (disableSndDevice_frame s.routing uc uc.outSndDevice)]
    have hf : ∀ o : StreamOut, ({ o with pcmDevList := [] } : StreamOut).bare = o.bare :=
      fun _ => rfl
    exact ledger_setOut_of_bare { s with
      routing := (s.routing.disableSndDevice uc uc.outSndDevice).removeUsecase uc.ptr }
      (streamIndex uc.stream) hf

theorem setOut_usecase {f : StreamOut → StreamOut} (hf : ∀ o, (f o).usecase = o.usecase) :
    ((s.setOut n f).outs n).usecase = (s.outs n).usecase := by
  simp [Adev.setOut, hf]

theorem ledger_stopOutputStream : (s.stopOutputStream n).ledger = s.ledger.stopOutput n := by
  rw [Adev.stopOutputStream, Ledger.stopOutput]
  have hfx : s.ledger.offloadFx = s.offloadFx := rfl
  have hset : (s.setOut n fun o => { o with offloadState := .idle }).ledger
      = s.ledger.setOut n fun o => { o with offloadState := .idle } :=
    ledger_setOut s n fun _ => rfl
  rw [hfx]
  by_cases hhooks : s.offloadFx = true
  · rw [if_pos hhooks, if_pos hhooks]
    have hpaused : (s.ledger.outs n).offloadState = (s.outs n).offloadState := rfl
    simp only [hpaused]
    split
    · exact hset
    · rw [ledger_disableOutputPath, hset, Ledger.setOut_outs_self, setOut_usecase]
      · rfl
      · exact fun _ => rfl
  · rw [if_neg hhooks, if_neg hhooks]
    exact ledger_disableOutputPath s n

theorem ledger_doOutStandby : (s.doOutStandby n).ledger = s.ledger.outStandby n := by
  have hset : (s.setOut n fun o => { o with standby := true }).ledger
      = s.ledger.setOut n fun o => { o with standby := true } := ledger_setOut s n fun _ => rfl
  have hcompr : ∀ s₁ : Adev, (s₁.setOut n fun o => { o with compr := none }).ledger
      = s₁.ledger.setOut n fun o => { o with compr := none } := fun s₁ => ledger_setOut s₁ n fun _ => rfl
  have husecase : ((s.setOut n fun o => { o with standby := true }).outs n).usecase
      = ((s.ledger.setOut n fun o => { o with standby := true }).outs n).usecase := by
    rw [Ledger.setOut_outs_self, setOut_usecase]
    · rfl
    · exact fun _ => rfl
  simp only [Adev.doOutStandby, Ledger.outStandby, ledger_stopOutputStream, husecase]
  split
  · rw [hcompr, hset]
  · rw [hset]

theorem ledger_outStandby :
    (s.outStandby n).ledger
      = if (s.outs n).standby then s.ledger else s.ledger.outStandby n := by
  rw [Adev.outStandby]
  split
  · rfl
  · exact ledger_doOutStandby s n

theorem ledger_setInCall (b : Bool) :
    (s.onRouting fun r => { r with inCall := b }).ledger = s.ledger.setInCall b := rfl

theorem ledger_stopVoiceCall :
    s.stopVoiceCall.ledger = (s.ledger.setInCall false).drop .voiceCall := by
  simp only [Adev.stopVoiceCall]
  split
  · rename_i hnone
    have hfind : (s.ledger.setInCall false).find .voiceCall = none :=
      (find_ledger s .voiceCall).trans (congrArg (Option.map Usecase.identity) hnone)
    rw [Ledger.drop, hfind]
    rfl
  · rename_i uc huc
    rw [← ledger_setInCall]
    refine ledger_removeUsecase (s.onRouting fun r => { r with inCall := false }) huc ?_
    rw [disableSndDevice_frame, disableSndDevice_frame]

theorem ledger_startVoiceCall :
    (s.startVoiceCall view n true).ledger
      = (s.ledger.setInCall true).add .voiceCall (.output n) := by
  simp only [Adev.startVoiceCall, Bool.true_eq_false, if_false, ledger_selectDevices]
  exact ledger_addUsecase (s.onRouting fun r => { r with inCall := true }) .voiceCall (.output n) _

theorem ledger_stopInputStream : (s.stopInputStream n).ledger = s.ledger.drop .capture := by
  simp only [Adev.stopInputStream]
  split
  · rename_i hnone
    have hfind : s.ledger.find .capture = none :=
      (find_ledger s .capture).trans (congrArg (Option.map Usecase.identity) hnone)
    rw [Ledger.drop, hfind]
    rfl
  · rename_i uc huc
    rw [ledger_setIn_of_bare]
    · exact ledger_removeUsecase s huc (disableSndDevice_frame s.routing uc uc.inSndDevice)
    · exact fun _ => rfl

theorem ledger_doInStandby :
    (s.doInStandby n).ledger
      = if (s.ins n).standby then s.ledger
        else (s.ledger.drop .capture).setIn n fun i => { i with standby := true } := by
  rw [Adev.doInStandby]
  split
  · rfl
  · rw [ledger_setIn, ledger_stopInputStream]
    exact fun _ => rfl

theorem ledger_setOffloadParameters (uc : Usecase) :
    (s.onRouting fun r => r.setOffloadParameters uc).ledger = s.ledger :=
  ledger_congr (setOffloadParameters_skeleton s.routing uc) rfl

theorem ledger_updateBtSco : (s.updateBtSco n).ledger = s.ledger := by
  simp only [Adev.updateBtSco]
  split
  · rfl
  · split <;> rfl

end Effects

end AudioHal

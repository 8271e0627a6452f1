import Mathlib.Logic.Function.Basic
import Universal7580.AudioRoutingProofs
import Universal7580.LifetimeProofs
import Universal7580.RunProofs

/-! # Echo references

    An echo reference is made when a capture with echo cancellation starts while
    the primary output plays.  The device has it installed, the capture reads
    from it, and the outputs pick it up and write to it.  When the capture stops,
    `put_echo_reference` releases it, unless the primary output has picked it up:
    then that output releases it as soon as it notices that the generation of the
    device has changed.

    The actions are the sections that the functions go through under the lock of
    a stream, or under that lock and the one of the device. -/

namespace EchoReference

open AudioRouting Run Lifetime

-- ── The device ────────────────────────────────────────────────────────────

/-- Where the thread that has the lock of an output stream is in `out_write`. -/
inductive Phase where
  | unlocked
  | locked
  | stale
  | current
  deriving DecidableEq, Repr

/-- What an output stream knows of the echo reference. -/
structure OutEcho where
  standby : Bool
  phase : Phase
  reference : Option Nat
  generation : BitVec 32
  deriving DecidableEq, Repr

structure InEcho where
  standby : Bool
  enableAec : Bool
  reference : Option Nat
  deriving DecidableEq, Repr

/-- The device, and the echo references that were ever made. -/
structure Device where
  cells : Cells
  reference : Option Nat
  generation : BitVec 32
  outs : Nat → OutEcho
  ins : Nat → InEcho

def Device.setOut (s : Device) (n : Nat) (o : OutEcho) : Device :=
  { s with outs := Function.update s.outs n o }

def Device.setIn (s : Device) (m : Nat) (i : InEcho) : Device :=
  { s with ins := Function.update s.ins m i }

def Device.setPhase (s : Device) (n : Nat) (phase : Phase) : Device :=
  s.setOut n { s.outs n with phase := phase }

/-- A read from an echo reference, or a write to it. -/
def Device.use (s : Device) (r : Nat) : Device := { s with cells := s.cells.use r }

/-- `release_echo_reference`. -/
def Device.release (s : Device) (r : Nat) : Device := { s with cells := s.cells.release r }

-- ── The functions ─────────────────────────────────────────────────────────

section Model

variable (primary : Option Nat) (usecase : Nat → Playback)

/-- The primary output, where it is the one for low latency. -/
def primaryPlayback : Option Nat := primary.filter fun p => usecase p = .playback

/-- `put_echo_reference`. -/
def Device.putEchoReference (s : Device) (reference : Option Nat) : Device :=
  match s.reference with
  | none => s
  | some r =>
      if reference = some r then
        let s' := { s with reference := none, generation := s.generation + 1 }
        match primaryPlayback primary usecase with
        | some p =>
            if (s.outs p).generation ≠ s.generation ∨ (s.outs p).standby then s'.release r else s'
        | none => s'.release r
      else s

/-- Does `get_echo_reference` make a reference? -/
def Device.canCreate (s : Device) : Bool :=
  (primaryPlayback primary usecase).any fun p => !(s.outs p).standby

/-- `get_echo_reference`, up to the reference it returns: the installed one.
    `created` says that `create_echo_reference` succeeds. -/
def Device.getEchoReference (s : Device) (created : Bool) : Device :=
  let s := s.putEchoReference primary usecase s.reference
  if s.canCreate primary usecase && created then
    { s with
      cells := s.cells.create
      reference := some s.cells.created
      generation := s.generation + 1 }
  else s

/-- `start_output_stream` and the end of the standby.  `ok` is its result. -/
def Device.startOutputStream (s : Device) (n : Nat) (ok : Bool) : Device :=
  let o := s.outs n
  if ok = false then s
  else if usecase n = .offload then s.setOut n { o with standby := false, phase := .locked }
  else
    s.setOut n
      { standby := false
        phase := .locked
        reference := s.reference
        generation := s.generation }

/-- The section of `out_write` that takes over the reference of the device. -/
def Device.updateReference (s : Device) (n : Nat) : Device :=
  let o := s.outs n
  let s := o.reference.elim s s.release
  s.setOut n
    { standby := o.standby
      phase := .current
      reference := s.reference
      generation := s.generation }

/-- `do_out_standby_l`. -/
def Device.doOutStandby (s : Device) (n : Nat) : Device :=
  let o := { s.outs n with standby := true }
  if usecase n = .offload then s.setOut n o
  else
    match o.reference with
    | none => s.setOut n o
    | some r =>
        let s := s.use r
        if o.generation ≠ s.generation then
          (s.release r).setOut n { o with reference := none, generation := s.generation }
        else s.setOut n { o with reference := none }

/-- The start of an input stream: memory for it, a new echo reference if it needs
    one, and the result of the function. -/
structure StartInput where
  alloc : Bool
  created : Bool
  ok : Bool
  deriving DecidableEq, Repr

/-- `start_input_stream` and the end of the standby.  When the PCM device does
    not open, the echo reference stays with the stream. -/
def Device.startInputStream (s : Device) (m : Nat) (w : StartInput) : Device :=
  let i := s.ins m
  if w.alloc = false then s
  else if i.enableAec ∧ i.reference = none then
    let s := s.getEchoReference primary usecase w.created
    s.setIn m { i with standby := !w.ok, reference := s.reference }
  else s.setIn m { i with standby := !w.ok }

/-- `do_in_standby_l`. -/
def Device.doInStandby (s : Device) (m : Nat) : Device :=
  let i := s.ins m
  match i.reference with
  | none => s.setIn m { i with standby := true }
  | some r =>
      ((s.use r).putEchoReference primary usecase i.reference).setIn m
        { i with standby := true, reference := none }

/-- The sections.  `lockOutput`, `check`, `update`, `write` and `unlock` are
    those of one call of `out_write` on a stream that plays: the lock, the
    comparison of the generations, the section under the device lock if they
    differ, the writes to the reference. -/
inductive Act where
  | startOutput (n : Nat) (ok : Bool)
  | lockOutput (n : Nat)
  | check (n : Nat)
  | update (n : Nat)
  | write (n : Nat)
  | unlock (n : Nat)
  | outStandby (n : Nat)
  | startInput (m : Nat) (w : StartInput)
  | read (m : Nat)
  | inStandby (m : Nat)
  | setAec (m : Nat) (enable : Bool)
  deriving DecidableEq, Repr

def step (s : Device) : Act → Option Device
  | .startOutput n ok =>
      if (s.outs n).phase = .unlocked ∧ (s.outs n).standby then
        some (s.startOutputStream usecase n ok)
      else none
  | .lockOutput n =>
      if (s.outs n).phase = .unlocked ∧ (s.outs n).standby = false then
        some (s.setPhase n .locked)
      else none
  | .check n =>
      if (s.outs n).phase = .locked ∧ usecase n ≠ .offload then
        some (s.setPhase n (if s.generation ≠ (s.outs n).generation then .stale else .current))
      else none
  | .update n =>
      if (s.outs n).phase = .stale ∧ usecase n ≠ .offload then some (s.updateReference n) else none
  | .write n =>
      if (s.outs n).phase = .current then some ((s.outs n).reference.elim s s.use) else none
  | .unlock n =>
      if (s.outs n).phase = .current ∨ (s.outs n).phase = .locked ∧ usecase n = .offload then
        some (s.setPhase n .unlocked)
      else none
  | .outStandby n =>
      if (s.outs n).phase = .unlocked ∧ (s.outs n).standby = false then
        some (s.doOutStandby usecase n)
      else none
  | .startInput m w =>
      if (s.ins m).standby then some (s.startInputStream primary usecase m w) else none
  | .read m =>
      if (s.ins m).standby then none else some ((s.ins m).reference.elim s s.use)
  | .inStandby m =>
      if (s.ins m).standby then none else some (s.doInStandby primary usecase m)
  | .setAec m enable =>
      let s := s.setIn m { s.ins m with enableAec := enable }
      some (if (s.ins m).standby then s else s.doInStandby primary usecase m)

end Model

/-- All streams are in standby, and no reference was ever made. -/
def start (generation : BitVec 32) : Device where
  cells := Cells.empty
  reference := none
  generation := generation
  outs := fun _ => { standby := true, phase := .unlocked, reference := none, generation := 0 }
  ins := fun _ => { standby := true, enableAec := false, reference := none }

-- ── Ownership ─────────────────────────────────────────────────────────────

/-- A stream that is not in standby has the reference. -/
def Device.Held (s : Device) (r : Nat) : Prop :=
  (∃ m, (s.ins m).standby = false ∧ (s.ins m).reference = some r)
    ∨ ∃ n, (s.outs n).standby = false ∧ (s.outs n).reference = some r

/-- **OWNED**: nobody has used or released a reference after its release, none
    was released twice, and those that no stream has any more were released. -/
structure Device.Owned (s : Device) : Prop where
  unmisused : s.cells.misused = false
  once : ∀ r, s.cells.released.count r ≤ 1
  exactly : ∀ r < s.cells.created, ¬ s.Held r → s.cells.released.count r = 1

/-! The conditions on a step: -/

section Conditions

variable (primary : Option Nat) (usecase : Nat → Playback) (s : Device)

/-- The counter does not come round to the generation that the primary output
    has noted. -/
def Device.Unwrapped : Prop :=
  ∀ p, primaryPlayback primary usecase = some p → (s.outs p).standby = false →
    (s.outs p).generation ≠ s.generation + 1

/-- No other output than the primary one has the reference that a capture
    stops with. -/
def Device.PutsSafely (m : Nat) : Prop :=
  (s.ins m).reference ≠ none →
    (∀ n, (s.outs n).reference = (s.ins m).reference → primaryPlayback primary usecase = some n)
      ∧ s.Unwrapped primary usecase

/-- A capture that asks for a reference finds no other one with a reference, and
    starts if it gets one. -/
def Device.GetsSafely (m : Nat) (w : StartInput) : Prop :=
  (s.ins m).enableAec = true → w.alloc = true →
    (∀ m', (s.ins m').reference = none)
      ∧ (s.canCreate primary usecase = true → w.created = true →
          w.ok = true ∧ s.Unwrapped primary usecase)

def Device.keepsOwned : Act → Prop
  | .startInput m w => s.GetsSafely primary usecase m w
  | .inStandby m => s.PutsSafely primary usecase m
  | .setAec m _ => (s.ins m).standby = false → s.PutsSafely primary usecase m
  | _ => True

end Conditions

-- ── The invariant ─────────────────────────────────────────────────────────

/-- The device or an output stream has the reference. -/
def Device.Holds (s : Device) (r : Nat) : Prop :=
  s.reference = some r ∨ ∃ n, (s.outs n).reference = some r

/-- **THE INVARIANT**: the installed reference is the one of a single capture.
    An output has either the installed reference, with its generation, or is the
    primary output with a reference that was put, and will notice it. -/
structure Inv (primary : Option Nat) (usecase : Nat → Playback) (s : Device) : Prop where
  proper : Proper s.cells s.Holds
  ins : ∀ m r, (s.ins m).reference = some r → s.reference = some r ∧ (s.ins m).standby = false
  unique : ∀ m m' r, (s.ins m).reference = some r → (s.ins m').reference = some r → m = m'
  installed : ∀ r, s.reference = some r → ∃ m, (s.ins m).reference = some r
  outs : ∀ n r, (s.outs n).reference = some r → (s.outs n).standby = false
    ∧ (s.reference = some r ∧ (s.outs n).generation = s.generation
      ∨ primaryPlayback primary usecase = some n ∧ (s.outs n).generation ≠ s.generation
        ∧ s.reference ≠ some r)
  current : ∀ p, primaryPlayback primary usecase = some p → (s.outs p).standby = false →
    (s.outs p).generation = s.generation → (s.outs p).reference = s.reference
  stale : ∀ n r, (s.outs n).phase = .stale → (s.outs n).reference = some r →
    (s.outs n).generation ≠ s.generation
  locked : ∀ n, (s.outs n).phase ≠ .unlocked → (s.outs n).standby = false
  pcm : ∀ n r, (s.outs n).reference = some r → usecase n ≠ .offload

section Steps

variable {primary : Option Nat} {usecase : Nat → Playback} {s s' : Device}

theorem inv_start (generation : BitVec 32) : Inv primary usecase (start generation) where
  proper := proper_empty fun _ h => h.elim (fun h => nomatch h) fun ⟨_, h⟩ => nomatch h
  ins := fun _ _ h => nomatch h
  unique := fun _ _ _ h => nomatch h
  installed := fun _ h => nomatch h
  outs := fun _ _ h => nomatch h
  current := fun _ _ h => nomatch h
  stale := fun _ _ h => nomatch h
  locked := fun _ h => absurd rfl h
  pcm := fun _ _ h => nomatch h

/-- What the invariant says of the claim. -/
theorem owned_of_inv (h : Inv primary usecase s) : s.Owned := by
  refine ⟨h.proper.unmisused, h.proper.count_le_one, fun r hlt hfree => ?_⟩
  refine h.proper.count_eq_one hlt fun hholds => hfree ?_
  obtain hinstalled | ⟨n, hn⟩ := hholds
  · obtain ⟨m, hm⟩ := h.installed r hinstalled
    exact .inl ⟨m, (h.ins m r hm).2, hm⟩
  · exact .inr ⟨n, (h.outs n r hn).1, hn⟩

/-- Using a reference that somebody holds leaves no trace. -/
theorem use_of_holds (h : Inv primary usecase s) {r : Nat} (hr : s.Holds r) : s.use r = s := by
  rw [Device.use, use_of_owned h.proper hr]

@[simp]
theorem setOut_outs_self (n : Nat) (o : OutEcho) : (s.setOut n o).outs n = o :=
  Function.update_self ..

theorem setOut_outs_of_ne {n k : Nat} (o : OutEcho) (hk : k ≠ n) :
    (s.setOut n o).outs k = s.outs k := Function.update_of_ne hk ..

@[simp]
theorem setIn_ins_self (m : Nat) (i : InEcho) : (s.setIn m i).ins m = i := Function.update_self ..

theorem setIn_ins_of_ne {m k : Nat} (i : InEcho) (hk : k ≠ m) :
    (s.setIn m i).ins k = s.ins k := Function.update_of_ne hk ..

/-- An output that gets the installed reference, or none. -/
theorem inv_setOut (h : Inv primary usecase s) {n : Nat} {o : OutEcho} {cells : Cells}
    (href : ∀ r, o.reference = some r →
      o.standby = false ∧ s.reference = some r ∧ o.generation = s.generation)
    (hcurrent : primaryPlayback primary usecase = some n → o.standby = false →
      o.generation = s.generation → o.reference = s.reference)
    (hlocked : o.phase ≠ .unlocked → o.phase ≠ .stale ∧ o.standby = false)
    (hpcm : usecase n = .offload → o.reference = none)
    (hproper : Proper cells (s.setOut n o).Holds) :
    Inv primary usecase ({ s with cells := cells }.setOut n o) := by
  refine ⟨hproper, h.ins, h.unique, h.installed, fun k r hr => ?_, fun p hp hplays hgen => ?_,
    fun k r hphase hr => ?_, fun k hphase => ?_, fun k r hr hoffload => ?_⟩
  · by_cases hk : k = n
    · subst hk
      rw [setOut_outs_self] at hr ⊢
      obtain ⟨hplays, hinstalled, hgen⟩ := href r hr
      exact ⟨hplays, .inl ⟨hinstalled, hgen⟩⟩
    · rw [setOut_outs_of_ne o hk] at hr ⊢
      exact h.outs k r hr
  · by_cases hk : p = n
    · subst hk
      rw [setOut_outs_self] at hplays hgen ⊢
      exact hcurrent hp hplays hgen
    · rw [setOut_outs_of_ne o hk] at hplays hgen ⊢
      exact h.current p hp hplays hgen
  · by_cases hk : k = n
    · subst hk
      rw [setOut_outs_self] at hphase
      exact absurd hphase (hlocked (by rw [hphase]; exact fun h => nomatch h)).1
    · rw [setOut_outs_of_ne o hk] at hphase hr ⊢
      exact h.stale k r hphase hr
  · by_cases hk : k = n
    · subst hk
      rw [setOut_outs_self] at hphase ⊢
      exact (hlocked hphase).2
    · rw [setOut_outs_of_ne o hk] at hphase ⊢
      exact h.locked k hphase
  · by_cases hk : k = n
    · subst hk
      rw [setOut_outs_self] at hr
      exact nomatch (hpcm hoffload).symm.trans hr
    · rw [setOut_outs_of_ne o hk] at hr
      exact h.pcm k r hr hoffload

theorem inv_setPhase (h : Inv primary usecase s) {n : Nat} {phase : Phase}
    (hstale : phase = .stale → (s.outs n).generation ≠ s.generation)
    (hlocked : phase ≠ .unlocked → (s.outs n).standby = false) :
    Inv primary usecase (s.setPhase n phase) := by
  have hout : ∀ k, ((s.setPhase n phase).outs k).standby = (s.outs k).standby
      ∧ ((s.setPhase n phase).outs k).reference = (s.outs k).reference
      ∧ ((s.setPhase n phase).outs k).generation = (s.outs k).generation := by
    intro k
    by_cases hk : k = n
    · subst hk
      rw [Device.setPhase, setOut_outs_self]
      exact ⟨rfl, rfl, rfl⟩
    · rw [Device.setPhase, setOut_outs_of_ne _ hk]
      exact ⟨rfl, rfl, rfl⟩
  refine ⟨proper_congr h.proper fun r => ?_, h.ins, h.unique, h.installed, fun k r hr => ?_,
    fun p hp hplays hgen => ?_, fun k r hphase hr => ?_, fun k hphase => ?_, fun k r hr => ?_⟩
  · simp only [Device.Holds, (hout _).2.1]
    rfl
  · rw [(hout k).2.1] at hr
    rw [(hout k).1, (hout k).2.2]
    exact h.outs k r hr
  · rw [(hout p).1] at hplays
    rw [(hout p).2.2] at hgen
    rw [(hout p).2.1]
    exact h.current p hp hplays hgen
  · rw [(hout k).2.1] at hr
    rw [(hout k).2.2]
    by_cases hk : k = n
    · subst hk
      rw [Device.setPhase, setOut_outs_self] at hphase
      exact hstale hphase
    · rw [Device.setPhase, setOut_outs_of_ne _ hk] at hphase
      exact h.stale k r hphase hr
  · rw [(hout k).1]
    by_cases hk : k = n
    · subst hk
      rw [Device.setPhase, setOut_outs_self] at hphase
      exact hlocked hphase
    · rw [Device.setPhase, setOut_outs_of_ne _ hk] at hphase
      exact h.locked k hphase
  · rw [(hout k).2.1] at hr
    exact h.pcm k r hr

/-- Who holds a reference after an output has changed its own. -/
theorem holds_setOut {n : Nat} {o : OutEcho} {q : Nat} :
    (s.setOut n o).Holds q
      ↔ s.reference = some q ∨ o.reference = some q
        ∨ ∃ k, k ≠ n ∧ (s.outs k).reference = some q := by
  constructor
  · rintro (hq | ⟨k, hq⟩)
    · exact .inl hq
    · by_cases hk : k = n
      · subst hk
        rw [setOut_outs_self] at hq
        exact .inr (.inl hq)
      · rw [setOut_outs_of_ne o hk] at hq
        exact .inr (.inr ⟨k, hk, hq⟩)
  · rintro (hq | hq | ⟨k, hk, hq⟩)
    · exact .inl hq
    · exact .inr ⟨n, by rw [setOut_outs_self]; exact hq⟩
    · exact .inr ⟨k, by rw [setOut_outs_of_ne o hk]; exact hq⟩

/-- An output that had no reference but the installed one. -/
theorem proper_setOut (h : Inv primary usecase s) {n : Nat} {o : OutEcho}
    (hold : ∀ r, (s.outs n).reference = some r → s.reference = some r)
    (hnew : ∀ r, o.reference = some r → s.reference = some r) :
    Proper s.cells (s.setOut n o).Holds := by
  refine proper_congr h.proper fun q => holds_setOut.trans ⟨?_, ?_⟩
  · rintro (hq | hq | ⟨k, -, hq⟩)
    · exact .inl hq
    · exact .inl (hnew q hq)
    · exact .inr ⟨k, hq⟩
  · rintro (hq | ⟨k, hq⟩)
    · exact .inl hq
    · by_cases hk : k = n
      · exact .inl (hold q (hk ▸ hq))
      · exact .inr (.inr ⟨k, hk, hq⟩)

/-- The primary output that has noticed the change releases what it has: nobody
    else has it. -/
theorem proper_setOut_release (h : Inv primary usecase s) {n r : Nat} {o : OutEcho}
    (hr : (s.outs n).reference = some r) (hgen : (s.outs n).generation ≠ s.generation)
    (hnew : ∀ q, o.reference = some q → s.reference = some q) :
    Proper (s.cells.release r) (s.setOut n o).Holds := by
  obtain ⟨-, ⟨-, hsame⟩ | ⟨hprimary, -, hput⟩⟩ := h.outs n r hr
  · exact absurd hsame hgen
  · refine proper_release h.proper (.inr ⟨n, hr⟩) fun q => holds_setOut.trans ⟨?_, ?_⟩
    · rintro (hq | hq | ⟨k, hk, hq⟩)
      · exact ⟨.inl hq, fun hqr => hput (hqr ▸ hq)⟩
      · exact ⟨.inl (hnew q hq), fun hqr => hput (hqr ▸ hnew q hq)⟩
      · refine ⟨.inr ⟨k, hq⟩, fun hqr => ?_⟩
        obtain ⟨-, ⟨hinstalled, -⟩ | ⟨hother, -⟩⟩ := h.outs k q hq
        · exact hput (hqr ▸ hinstalled)
        · exact hk (Option.some.inj (hother.symm.trans hprimary))
    · rintro ⟨hq | ⟨k, hq⟩, hne⟩
      · exact .inl hq
      · by_cases hk : k = n
        · subst hk
          exact absurd (Option.some.inj (hq.symm.trans hr)) hne
        · exact .inr (.inr ⟨k, hk, hq⟩)

-- ── The outputs ───────────────────────────────────────────────────────────

theorem primaryPlayback_pcm {n : Nat} (h : primaryPlayback primary usecase = some n) :
    usecase n ≠ .offload := by
  have hplayback := (Option.filter_eq_some_iff.mp h).2
  intro hoffload
  rw [hoffload] at hplayback
  exact nomatch hplayback

theorem inv_startOutputStream (h : Inv primary usecase s) {n : Nat}
    (hstandby : (s.outs n).standby = true) (ok : Bool) :
    Inv primary usecase (s.startOutputStream usecase n ok) := by
  have hnone : ∀ r, (s.outs n).reference ≠ some r := by
    intro r hr
    exact nomatch hstandby.symm.trans (h.outs n r hr).1
  have hlocked : Phase.locked ≠ .unlocked → Phase.locked ≠ .stale ∧ false = false :=
    fun _ => ⟨fun h => (nomatch h), rfl⟩
  rw [Device.startOutputStream]
  split
  · exact h
  · split
    · rename_i hoffload
      refine inv_setOut h (fun r hr => absurd hr (hnone r))
        (fun hp => absurd hoffload (primaryPlayback_pcm hp)) hlocked
        (fun _ => Option.eq_none_iff_forall_ne_some.mpr hnone) ?_
      exact proper_setOut h (fun r hr => absurd hr (hnone r)) fun r hr => absurd hr (hnone r)
    · rename_i hpcm
      refine inv_setOut h (fun _ hr => ⟨rfl, hr, rfl⟩) (fun _ _ _ => rfl) hlocked
        (fun hoffload => absurd hoffload hpcm) ?_
      exact proper_setOut h (fun r hr => absurd hr (hnone r)) fun _ hr => hr

theorem inv_updateReference (h : Inv primary usecase s) {n : Nat}
    (hstale : (s.outs n).phase = .stale) (hpcm : usecase n ≠ .offload) :
    Inv primary usecase (s.updateReference n) := by
  have hplays : (s.outs n).standby = false :=
    h.locked n (by rw [hstale]; exact fun h => nomatch h)
  have hlocked : Phase.current ≠ .unlocked → Phase.current ≠ .stale ∧ (s.outs n).standby = false :=
    fun _ => ⟨fun h => (nomatch h), hplays⟩
  rw [Device.updateReference]
  cases hr : (s.outs n).reference with
  | none =>
      refine inv_setOut h (fun _ hr => ⟨hplays, hr, rfl⟩) (fun _ _ _ => rfl) hlocked
        (fun hoffload => absurd hoffload hpcm) ?_
      exact proper_setOut h (fun r hr' => nomatch hr.symm.trans hr') fun _ hr => hr
  | some r =>
      refine inv_setOut h (fun _ hr => ⟨hplays, hr, rfl⟩) (fun _ _ _ => rfl) hlocked
        (fun hoffload => absurd hoffload hpcm) ?_
      exact proper_setOut_release h hr (h.stale n r hstale hr) fun _ hr => hr

theorem inv_doOutStandby (h : Inv primary usecase s) {n : Nat}
    (hphase : (s.outs n).phase = .unlocked) : Inv primary usecase (s.doOutStandby usecase n) := by
  -- a stream in standby has neither a reference nor its lock
  have hinv : ∀ (generation : BitVec 32) (cells : Cells),
      (∀ o : OutEcho, o.reference = none → Proper cells (s.setOut n o).Holds) →
      Inv primary usecase ({ s with cells := cells }.setOut n
        { standby := true, phase := (s.outs n).phase, reference := none,
          generation := generation }) := by
    intro generation cells hproper
    refine inv_setOut h (fun _ hr => nomatch hr) (fun _ hplays => nomatch hplays)
      (fun hlocked => absurd hphase hlocked) (fun _ => rfl) (hproper _ rfl)
  have hnone : (∀ r, (s.outs n).reference = some r → s.reference = some r) → ∀ o : OutEcho,
      o.reference = none → Proper s.cells (s.setOut n o).Holds :=
    fun hold o ho => proper_setOut h hold fun r hr => nomatch ho.symm.trans hr
  rw [Device.doOutStandby]
  cases hr : (s.outs n).reference with
  | none =>
      have hkept := hinv (s.outs n).generation s.cells
        (hnone fun r hr' => nomatch hr.symm.trans hr')
      split
      · rw [← hr] at hkept
        exact hkept
      · simp only [hr]
        exact hkept
  | some r =>
      rw [if_neg (h.pcm n r hr)]
      have huse := use_of_holds h (.inr ⟨n, hr⟩)
      simp only [huse]
      split
      · rename_i hgen
        refine hinv s.generation (s.cells.release r) fun o ho => ?_
        exact proper_setOut_release h hr hgen fun q hq => nomatch ho.symm.trans hq
      · rename_i hgen
        refine hinv _ s.cells (hnone fun q hq => ?_)
        obtain ⟨-, ⟨hinstalled, -⟩ | ⟨-, hne, -⟩⟩ := h.outs n q hq
        · exact hinstalled
        · exact absurd hne hgen

-- ── The captures ──────────────────────────────────────────────────────────

/-- What `put_echo_reference` does with the installed reference: the device
    forgets it, and the primary output has it or it is released. -/
theorem putEchoReference_installed {r : Nat} (hr : s.reference = some r) :
    ∃ cells, s.putEchoReference primary usecase (some r)
        = { s with cells := cells, reference := none, generation := s.generation + 1 }
      ∧ (cells = s.cells.release r
          ∧ (∀ p, primaryPlayback primary usecase = some p →
            (s.outs p).generation ≠ s.generation ∨ (s.outs p).standby = true)
        ∨ cells = s.cells ∧ ∃ p, primaryPlayback primary usecase = some p
          ∧ (s.outs p).generation = s.generation ∧ (s.outs p).standby = false) := by
  rw [Device.putEchoReference, hr]
  simp only [if_true]
  cases hp : primaryPlayback primary usecase with
  | none => exact ⟨_, rfl, .inl ⟨rfl, fun _ h => nomatch h⟩⟩
  | some p =>
      dsimp only
      by_cases hcond : (s.outs p).generation ≠ s.generation ∨ (s.outs p).standby = true
      · rw [if_pos hcond]
        exact ⟨_, rfl, .inl ⟨rfl, fun q hq => Option.some.inj hq ▸ hcond⟩⟩
      · rw [if_neg hcond]
        obtain ⟨hgen, hplays⟩ := not_or.mp hcond
        exact ⟨_, rfl, .inr ⟨rfl, p, rfl, not_not.mp hgen, Bool.eq_false_iff.mpr hplays⟩⟩

theorem putEchoReference_none (hr : s.reference = none) (reference : Option Nat) :
    s.putEchoReference primary usecase reference = s := by
  rw [Device.putEchoReference, hr]

/-- The generation moves on while no output but the primary one has a
    reference. -/
theorem inv_advance (h : Inv primary usecase s) (hunwrapped : s.Unwrapped primary usecase)
    {cells : Cells} {reference : Option Nat} {ins : Nat → InEcho}
    (hfree : ∀ n r, (s.outs n).reference = some r →
      primaryPlayback primary usecase = some n ∧ reference ≠ some r)
    (hproper : Proper cells fun r => reference = some r ∨ ∃ n, (s.outs n).reference = some r)
    (hins : ∀ m r, (ins m).reference = some r → reference = some r ∧ (ins m).standby = false)
    (hunique : ∀ m m' r, (ins m).reference = some r → (ins m').reference = some r → m = m')
    (hinstalled : ∀ r, reference = some r → ∃ m, (ins m).reference = some r) :
    Inv primary usecase
      { s with
        cells := cells
        reference := reference
        generation := s.generation + 1
        ins := ins } where
  proper := hproper
  ins := hins
  unique := hunique
  installed := hinstalled
  outs := by
    intro n r hr
    obtain ⟨hprimary, hne⟩ := hfree n r hr
    have hplays := (h.outs n r hr).1
    exact ⟨hplays, .inr ⟨hprimary, hunwrapped n hprimary hplays, hne⟩⟩
  current := fun p hp hplays hgen => absurd hgen (hunwrapped p hp hplays)
  stale := fun n r _ hr => hunwrapped n (hfree n r hr).1 (h.outs n r hr).1
  locked := h.locked
  pcm := h.pcm

/-- A change of an input that has no reference. -/
theorem inv_setIn (h : Inv primary usecase s) {m : Nat} {i : InEcho}
    (hold : (s.ins m).reference = none) (hnew : i.reference = none) :
    Inv primary usecase (s.setIn m i) := by
  have hins : ∀ {k r}, ((s.setIn m i).ins k).reference = some r →
      k ≠ m ∧ (s.ins k).reference = some r := by
    intro k r hr
    by_cases hk : k = m
    · subst hk
      rw [setIn_ins_self, hnew] at hr
      exact nomatch hr
    · rw [setIn_ins_of_ne i hk] at hr
      exact ⟨hk, hr⟩
  refine ⟨h.proper, fun k r hr => ?_, fun k k' r hr hr' => ?_, fun r hr => ?_, h.outs, h.current,
    h.stale, h.locked, h.pcm⟩
  · obtain ⟨hk, hr⟩ := hins hr
    rw [setIn_ins_of_ne i hk]
    exact h.ins k r hr
  · exact h.unique k k' r (hins hr).2 (hins hr').2
  · obtain ⟨k, hk⟩ := h.installed r hr
    have hne : k ≠ m := by
      rintro rfl
      exact nomatch hold.symm.trans hk
    exact ⟨k, by rw [setIn_ins_of_ne i hne]; exact hk⟩

/-- Switching the echo canceller of an input. -/
theorem inv_enableAec (h : Inv primary usecase s) (m : Nat) (enable : Bool) :
    Inv primary usecase (s.setIn m { s.ins m with enableAec := enable }) := by
  have hins : ∀ k, ((s.setIn m { s.ins m with enableAec := enable }).ins k).reference
        = (s.ins k).reference
      ∧ ((s.setIn m { s.ins m with enableAec := enable }).ins k).standby
        = (s.ins k).standby := by
    intro k
    by_cases hk : k = m
    · subst hk
      rw [setIn_ins_self]
      exact ⟨rfl, rfl⟩
    · rw [setIn_ins_of_ne _ hk]
      exact ⟨rfl, rfl⟩
  refine ⟨h.proper, fun k r hr => ?_, fun k k' r hr hr' => ?_, fun r hr => ?_, h.outs, h.current,
    h.stale, h.locked, h.pcm⟩
  · rw [(hins k).1] at hr
    rw [(hins k).2]
    exact h.ins k r hr
  · rw [(hins k).1] at hr
    rw [(hins k').1] at hr'
    exact h.unique k k' r hr hr'
  · obtain ⟨k, hk⟩ := h.installed r hr
    exact ⟨k, (hins k).1.trans hk⟩

/-- **DO_IN_STANDBY_L**: the reference goes to the primary output, if that has
    picked it up, and is released otherwise. -/
theorem inv_doInStandby (h : Inv primary usecase s) {m : Nat}
    (hsafe : s.PutsSafely primary usecase m) :
    Inv primary usecase (s.doInStandby primary usecase m) := by
  rw [Device.doInStandby]
  cases hr : (s.ins m).reference with
  | none =>
      exact inv_setIn h hr rfl
  | some r =>
      obtain ⟨hinstalled, -⟩ := h.ins m r hr
      obtain ⟨honly, hunwrapped⟩ := hsafe (by rw [hr]; exact fun h => nomatch h)
      rw [hr] at honly
      simp only [use_of_holds h (.inl hinstalled)]
      obtain ⟨cells, hput, hcells⟩ :=
        @putEchoReference_installed primary usecase _ _ hinstalled
      rw [hput]
      -- an output with a reference is the primary one
      have hprimary : ∀ n q, (s.outs n).reference = some q →
          primaryPlayback primary usecase = some n := by
        intro n q hq
        obtain ⟨-, ⟨hsame, -⟩ | ⟨hp, -⟩⟩ := h.outs n q hq
        · exact honly n (hq.trans (hsame.symm.trans hinstalled))
        · exact hp
      have hins : ∀ {k q}, ((s.setIn m { s.ins m with
          standby := true, reference := none }).ins k).reference = some q → False := by
        intro k q hq
        by_cases hk : k = m
        · subst hk
          rw [setIn_ins_self] at hq
          exact nomatch hq
        · rw [setIn_ins_of_ne _ hk] at hq
          have hqr := Option.some.inj ((h.ins k q hq).1.symm.trans hinstalled)
          exact hk (h.unique k m r (hqr ▸ hq) hr)
      refine inv_advance h hunwrapped (fun n q hq => ⟨hprimary n q hq, fun h => nomatch h⟩) ?_
        (fun k q hq => (hins hq).elim) (fun k _ q hq _ => (hins hq).elim) fun q hq => nomatch hq
      obtain ⟨rfl, hreleased⟩ | ⟨rfl, p, hp, hgen, hplays⟩ := hcells
      · -- no output has it
        refine proper_release h.proper (.inl hinstalled) fun q => ⟨?_, ?_⟩
        · rintro (hq | ⟨n, hq⟩)
          · exact nomatch hq
          · refine ⟨.inr ⟨n, hq⟩, fun hqr => ?_⟩
            obtain ⟨hplays, ⟨-, hgen⟩ | ⟨-, -, hne⟩⟩ := h.outs n q hq
            · obtain hgen' | hstandby := hreleased n (hprimary n q hq)
              · exact hgen' hgen
              · exact nomatch hstandby.symm.trans hplays
            · exact hne (hqr ▸ hinstalled)
        · rintro ⟨hq | hq, hne⟩
          · exact absurd (Option.some.inj (hq.symm.trans hinstalled)) hne
          · exact .inr hq
      · -- the primary output has it
        have hpicked := (h.current p hp hplays hgen).trans hinstalled
        refine proper_congr h.proper fun q => ⟨?_, ?_⟩
        · rintro (hq | hq)
          · exact nomatch hq
          · exact .inr hq
        · rintro (hq | hq)
          · have hqr := Option.some.inj (hq.symm.trans hinstalled)
            exact .inr ⟨p, hqr ▸ hpicked⟩
          · exact .inr hq

/-- **START_INPUT_STREAM**: no other capture has a reference, so none is installed
    and the new one belongs to this capture. -/
theorem inv_startInputStream (h : Inv primary usecase s) {m : Nat} {w : StartInput}
    (hstandby : (s.ins m).standby = true) (hsafe : s.GetsSafely primary usecase m w) :
    Inv primary usecase (s.startInputStream primary usecase m w) := by
  have hnone : (s.ins m).reference = none := by
    refine Option.eq_none_iff_forall_ne_some.mpr fun r hr => ?_
    exact nomatch hstandby.symm.trans (h.ins m r hr).2
  rw [Device.startInputStream]
  split
  · exact h
  · rename_i halloc
    split
    · rename_i haec
      obtain ⟨hothers, hstarts⟩ := hsafe haec.1 ((Bool.not_eq_false _).mp halloc)
      have huninstalled : s.reference = none := by
        refine Option.eq_none_iff_forall_ne_some.mpr fun r hr => ?_
        obtain ⟨k, hk⟩ := h.installed r hr
        exact nomatch (hothers k).symm.trans hk
      rw [Device.getEchoReference, putEchoReference_none huninstalled]
      split
      · rename_i hcreates
        obtain ⟨hcan, hcreated⟩ := Bool.and_eq_true_iff.mp hcreates
        obtain ⟨hok, hunwrapped⟩ := hstarts hcan hcreated
        have hins : ∀ {k r}, (Function.update s.ins m { s.ins m with
            standby := !w.ok, reference := some s.cells.created } k).reference = some r →
            k = m ∧ s.cells.created = r := by
          intro k r hr
          by_cases hk : k = m
          · subst hk
            rw [Function.update_self] at hr
            exact ⟨rfl, Option.some.inj hr⟩
          · rw [Function.update_of_ne hk] at hr
            exact nomatch (hothers k).symm.trans hr
        refine @inv_advance primary usecase _ h hunwrapped _ (some s.cells.created) _ (fun n r hr => ?_) ?_
          (fun k r hr => ?_) (fun k k' r hr hr' => (hins hr).1.trans (hins hr').1.symm)
          fun r hr => ⟨m, by rw [Function.update_self]; exact hr⟩
        · obtain ⟨-, ⟨hinstalled, -⟩ | ⟨hp, -⟩⟩ := h.outs n r hr
          · exact nomatch huninstalled.symm.trans hinstalled
          · refine ⟨hp, fun hnew => ?_⟩
            have hlt := h.proper.lt_created (.inr ⟨n, hr⟩)
            exact absurd (Option.some.inj hnew) (Nat.ne_of_gt hlt)
        · refine proper_create h.proper fun q => ⟨?_, ?_⟩
          · rintro (hq | hq)
            · exact .inr (Option.some.inj hq).symm
            · exact .inl (.inr hq)
          · rintro ((hq | hq) | rfl)
            · exact nomatch huninstalled.symm.trans hq
            · exact .inr hq
            · exact .inl rfl
        · obtain ⟨rfl, rfl⟩ := hins hr
          rw [Function.update_self, hok]
          exact ⟨rfl, rfl⟩
      · exact inv_setIn h hnone huninstalled
    · exact inv_setIn h hnone hnone

-- ── Steps and runs ────────────────────────────────────────────────────────

theorem inv_elim_use (h : Inv primary usecase s) {reference : Option Nat}
    (hholds : ∀ r, reference = some r → s.Holds r) :
    Inv primary usecase (reference.elim s s.use) := by
  cases reference with
  | none => exact h
  | some r =>
      rw [Option.elim_some, use_of_holds h (hholds r rfl)]
      exact h

/-- A step that meets its condition keeps the invariant. -/
theorem inv_step (s : Device) (a : Act) (s' : Device) (h : Inv primary usecase s)
    (hok : s.keepsOwned primary usecase a) (hstep : step primary usecase s a = some s') :
    Inv primary usecase s' := by
  cases a with
  | startOutput n ok =>
      obtain ⟨⟨-, hstandby⟩, hs⟩ := Option.ite_none_right_eq_some.mp hstep
      exact Option.some.inj hs ▸ inv_startOutputStream h hstandby ok
  | lockOutput n =>
      obtain ⟨⟨-, hplays⟩, hs⟩ := Option.ite_none_right_eq_some.mp hstep
      exact Option.some.inj hs ▸ inv_setPhase h (fun h => nomatch h) fun _ => hplays
  | check n =>
      obtain ⟨⟨hlocked, -⟩, hs⟩ := Option.ite_none_right_eq_some.mp hstep
      refine Option.some.inj hs ▸ inv_setPhase h (fun hstale => ?_) fun _ => ?_
      · split at hstale
        · rename_i hgen
          exact Ne.symm hgen
        · exact nomatch hstale
      · exact h.locked n (by rw [hlocked]; exact fun h => nomatch h)
  | update n =>
      obtain ⟨⟨hstale, hpcm⟩, hs⟩ := Option.ite_none_right_eq_some.mp hstep
      exact Option.some.inj hs ▸ inv_updateReference h hstale hpcm
  | write n =>
      obtain ⟨-, hs⟩ := Option.ite_none_right_eq_some.mp hstep
      exact Option.some.inj hs ▸ inv_elim_use h fun _ hr => .inr ⟨n, hr⟩
  | unlock n =>
      obtain ⟨-, hs⟩ := Option.ite_none_right_eq_some.mp hstep
      exact Option.some.inj hs ▸ inv_setPhase h (fun h => nomatch h) fun h => absurd rfl h
  | outStandby n =>
      obtain ⟨⟨hphase, -⟩, hs⟩ := Option.ite_none_right_eq_some.mp hstep
      exact Option.some.inj hs ▸ inv_doOutStandby h hphase
  | startInput m w =>
      obtain ⟨hstandby, hs⟩ := Option.ite_none_right_eq_some.mp hstep
      exact Option.some.inj hs ▸ inv_startInputStream h hstandby hok
  | read m =>
      obtain ⟨-, hs⟩ := Option.ite_none_left_eq_some.mp hstep
      exact Option.some.inj hs ▸ inv_elim_use h fun r hr => .inl (h.ins m r hr).1
  | inStandby m =>
      obtain ⟨-, hs⟩ := Option.ite_none_left_eq_some.mp hstep
      exact Option.some.inj hs ▸ inv_doInStandby h hok
  | setAec m enable =>
      obtain rfl := Option.some.inj hstep
      have haec := inv_enableAec h m enable
      rw [setIn_ins_self]
      split
      · exact haec
      · rename_i hplays
        refine inv_doInStandby haec fun hsome => ?_
        rw [setIn_ins_self] at hsome ⊢
        exact hok (Bool.eq_false_iff.mpr hplays) hsome

end Steps

/-- **OWNERSHIP**: in every run whose steps meet their conditions, every echo
    reference is released exactly once, and never used after its release. -/
theorem echo_references_owned (primary : Option Nat) (usecase : Nat → Playback)
    (generation : BitVec 32) (acts : List Act)
    (hok : StepsMeet (step primary usecase) (Device.keepsOwned primary usecase) (start generation)
      acts) :
    Always (step primary usecase) Device.Owned (start generation) acts :=
  always_of_stepsMeet (fun _ => owned_of_inv) inv_step acts (inv_start generation) hok

/-- A call: the capture starts while the primary output plays, the output picks
    the reference up, the capture stops, and the output releases it. -/
def echoCapture : List Act := [
  .setAec 0 true, .startOutput 0 true, .startInput 0 ⟨true, true, true⟩, .check 0, .update 0,
  .write 0, .unlock 0, .read 0, .inStandby 0, .lockOutput 0, .check 0, .update 0, .unlock 0]

theorem echo_references_owned_echoCapture :
    StepsMeet (step (some 0) fun _ => .playback)
        (Device.keepsOwned (some 0) fun _ => .playback) (start 0) echoCapture
      ∧ Always (step (some 0) fun _ => .playback) Device.Owned (start 0) echoCapture := by
  have hok : StepsMeet (step (some 0) fun _ => .playback)
      (Device.keepsOwned (some 0) fun _ => .playback) (start 0) echoCapture := by
    refine stepsMeet_cons.mpr fun s₁ h₁ => ⟨fun h => (nomatch h), ?_⟩
    obtain rfl := Option.some.inj h₁
    refine stepsMeet_cons.mpr fun s₂ h₂ => ⟨trivial, ?_⟩
    obtain rfl := Option.some.inj h₂
    refine stepsMeet_cons.mpr fun s₃ h₃ => ⟨fun _ _ => ⟨fun m => ?_, fun _ _ => ⟨rfl, ?_⟩⟩, ?_⟩
    · by_cases hm : m = 0
      · subst hm
        rfl
      · exact (setIn_ins_of_ne _ hm).symm ▸ rfl
    · rintro p hp -
      obtain rfl : 0 = p := Option.some.inj hp
      decide
    · obtain rfl := Option.some.inj h₃
      refine stepsMeet_cons.mpr fun s₄ h₄ => ⟨trivial, ?_⟩
      obtain rfl := Option.some.inj h₄
      refine stepsMeet_cons.mpr fun s₅ h₅ => ⟨trivial, ?_⟩
      obtain rfl := Option.some.inj h₅
      refine stepsMeet_cons.mpr fun s₆ h₆ => ⟨trivial, ?_⟩
      obtain rfl := Option.some.inj h₆
      refine stepsMeet_cons.mpr fun s₇ h₇ => ⟨trivial, ?_⟩
      obtain rfl := Option.some.inj h₇
      refine stepsMeet_cons.mpr fun s₈ h₈ => ⟨trivial, ?_⟩
      obtain rfl := Option.some.inj h₈
      refine stepsMeet_cons.mpr fun s₉ _ => ⟨fun _ => ⟨fun n hn => ?_, ?_⟩, ?_⟩
      · cases n with
        | zero => rfl
        | succ n =>
            -- the other outputs were never started
            have hnone : (none : Option Nat) = some 0 := hn
            exact nomatch hnone
      · rintro p hp -
        obtain rfl : 0 = p := Option.some.inj hp
        decide
      · refine stepsMeet_of_forall ?_ s₉
        intro a ha s
        simp only [List.mem_cons, List.not_mem_nil, or_false] at ha
        obtain rfl | rfl | rfl | rfl := ha <;> exact trivial
  exact ⟨hok, echo_references_owned _ _ 0 echoCapture hok⟩

-- ── A reference that is released twice ────────────────────────────────────

/-- Another output picks the reference up as well. -/
def deepBufferEcho : List Act := [
  .setAec 0 true, .startOutput 0 true, .startInput 0 ⟨true, true, true⟩, .startOutput 1 true,
  .inStandby 0, .check 1, .update 1]

theorem echo_released_twice :
    ¬ ∀ (primary : Option Nat) (usecase : Nat → Playback) (generation : BitVec 32)
      (acts : List Act), Always (step primary usecase) Device.Owned (start generation) acts := by
  intro hclaim
  have hend : (run (step (some 0) fun n => if n = 0 then .playback else .deepBuffer) (start 0)
      deepBufferEcho).map Device.cells
      = some { created := 1, released := [0, 0], misused := true } := by
    decide +kernel
  obtain ⟨s, hrun, hcells⟩ := Option.map_eq_some_iff.mp hend
  have howned := hclaim _ _ _ deepBufferEcho deepBufferEcho [] s (List.append_nil _).symm hrun
  have hmisused := howned.unmisused
  rw [hcells] at hmisused
  exact nomatch hmisused

end EchoReference

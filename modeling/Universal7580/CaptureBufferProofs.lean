import Universal7580.CaptureStreamProofs

/-! # Room in the processing buffers

    The two processing buffers have one size.  Reading with effects grows both,
    but the second one only if there are additional channels; reading without
    effects grows the second one alone, and the size says the same afterwards.

    `buffers_fit` says that every write to them is inside of its buffer exactly if
    the first input buffer has room for what the first turn of a read puts there
    without growing it. -/

namespace CaptureStream

open Run Preprocessor
open AudioHal (Devices)

variable {H : Type} {count : ChannelMask → Nat} {s s' : StreamIn H}

-- ── Writes ───────────────────────────────────────────────────────────────────

/-- The frames up to the last one written have room in the buffer. -/
def Write.InRoom (w : Write) : Prop := w.upTo * w.frameBytes ≤ w.room

/-- Every write so far was inside of its buffer; and nothing was written over the
    fields of the stream. -/
def Fitted (s : StreamIn H) : Prop := s.overrun = false ∧ ∀ w ∈ s.writes, w.InRoom

/-- What an active stream knows of its buffers. -/
structure Sized (count : ChannelMask → Nat) (s : StreamIn H) : Prop where
  loaded : s.procBufFrames ≤ s.procBufSize
  input : s.procBufFrames * s.frameBytes ≤ s.procBufIn
  output : s.hasAdditionalChannels count = true → s.procBufSize * s.frameBytes ≤ s.procBufOut

/-- The invariant of the loop once a turn has put enough frames into the input
    buffer. -/
structure Ready (count : ChannelMask → Nat) (frames : Nat) (s : StreamIn H) : Prop
    extends Sized count s where
  size : frames ≤ s.procBufSize
  room : frames * s.frameBytes ≤ s.procBufIn
  writes : ∀ w ∈ s.writes, w.InRoom

theorem wrote_inRoom {buffer : Buffer} {start n : Nat} :
    (∀ w ∈ s.wrote buffer start n, w.InRoom)
      ↔ (n ≠ 0 → (start + n) * s.frameBytes ≤ s.room buffer) := by
  rw [StreamIn.wrote]
  split
  · rename_i hnone
    exact iff_of_true (fun w hw => absurd hw List.not_mem_nil) (fun h => absurd hnone h)
  · rename_i hsome
    rw [List.forall_mem_singleton, Write.InRoom]
    exact ⟨fun h _ => h, fun h => h hsome⟩

-- ── Reloading ────────────────────────────────────────────────────────────────

/-- Where a reload that does not grow the buffers ends. -/
def StreamIn.reloadEnd (s : StreamIn H) (frames : Nat) (readError : Option Nat) : Nat :=
  s.procBufFrames + framesRead readError (frames - s.procBufFrames)

/-- The condition on a reload: if it needs frames and does not grow the buffers,
    the input buffer has room for them. -/
def ReloadFits (s : StreamIn H) (frames : Nat) (readError : Option Nat) : Prop :=
  s.procBufFrames < frames → frames ≤ s.procBufSize →
    s.reloadEnd frames readError * s.frameBytes ≤ s.procBufIn

theorem framesRead_le (readError : Option Nat) (wanted : Nat) :
    framesRead readError wanted ≤ wanted := by
  cases readError with
  | none => exact Nat.le_refl wanted
  | some n => exact Nat.min_le_left wanted n

theorem reloadEnd_le {frames : Nat} (h : s.procBufFrames < frames) (readError : Option Nat) :
    s.reloadEnd frames readError ≤ frames := by
  have hread := framesRead_le readError (frames - s.procBufFrames)
  rw [StreamIn.reloadEnd]
  omega

/-- The buffers after growing, if they grow. -/
theorem grow_sized (h : Sized count s) (frames : Nat) :
    Sized count (s.grow count frames) ∧ frames ≤ (s.grow count frames).procBufSize
      ∧ (s.procBufSize < frames → (s.grow count frames).procBufIn = frames * s.frameBytes) := by
  rw [StreamIn.grow]
  split
  · rename_i hgrow
    refine ⟨⟨?_, ?_, ?_⟩, Nat.le_refl frames, fun _ => rfl⟩
    · exact Nat.le_trans h.loaded (Nat.le_of_lt hgrow)
    · exact Nat.mul_le_mul_right _ (Nat.le_trans h.loaded (Nat.le_of_lt hgrow))
    · intro hadditional
      have hadditional' : s.hasAdditionalChannels count = true := hadditional
      simp only [hadditional', if_true]
      exact Nat.le_refl _
  · rename_i hkeep
    exact ⟨h, Nat.not_lt.mp hkeep, fun hgrow => absurd hgrow hkeep⟩

theorem grow_writes (s : StreamIn H) (frames : Nat) :
    (s.grow count frames).writes = s.writes := by
  rw [StreamIn.grow]
  split
  · rfl
  · rfl

theorem grow_frames (s : StreamIn H) (frames : Nat) :
    (s.grow count frames).procBufFrames = s.procBufFrames := by
  rw [StreamIn.grow]
  split
  · rfl
  · rfl

theorem grow_frameBytes (s : StreamIn H) (frames : Nat) :
    (s.grow count frames).frameBytes = s.frameBytes :=
  ((Reads.refl s).grow frames).frameBytes

/-- Room for what a reload puts into the buffer, after it may have grown. -/
theorem grow_room (h : Sized count s) {frames : Nat} (hlt : s.procBufFrames < frames)
    (readError : Option Nat) :
    s.reloadEnd frames readError * s.frameBytes ≤ (s.grow count frames).procBufIn
      ↔ ReloadFits s frames readError := by
  by_cases hgrow : s.procBufSize < frames
  · refine iff_of_true ?_ fun _ hsize => absurd hgrow (Nat.not_lt.mpr hsize)
    rw [(grow_sized h frames).2.2 hgrow]
    exact Nat.mul_le_mul_right _ (reloadEnd_le hlt readError)
  · have hsame : s.grow count frames = s := by
      rw [StreamIn.grow, if_neg hgrow]
    rw [hsame]
    exact ⟨fun hroom _ _ => hroom, fun hfits => hfits hlt (Nat.not_lt.mp hgrow)⟩

theorem fill_sized (h : Sized count s) (frames : Nat) (readError : Option Nat) :
    Sized count (s.fill count frames readError) := by
  obtain ⟨hloaded, hinput, houtput⟩ := (grow_sized h frames).1
  exact ⟨hloaded, hinput, houtput⟩

/-- The writes of a reload are inside of the buffer exactly if it meets the
    condition. -/
theorem fill_writes (h : Sized count s) {frames : Nat} (hlt : s.procBufFrames < frames)
    (readError : Option Nat) :
    (∀ w ∈ (s.fill count frames readError).writes, w.InRoom)
      ↔ (∀ w ∈ s.writes, w.InRoom) ∧ ReloadFits s frames readError := by
  rw [StreamIn.fill, StreamIn.log, List.forall_mem_append, grow_writes, wrote_inRoom,
    grow_frameBytes, ← grow_room h hlt readError]
  refine and_congr_right fun _ => ⟨fun hroom => ?_, fun hroom _ => hroom⟩
  by_cases hnone : framesRead readError (frames - s.procBufFrames) = 0
  · -- nothing is read: the frames that were there still have room
    have hinput := (grow_sized h frames).1.input
    rw [grow_frames, grow_frameBytes] at hinput
    rw [StreamIn.reloadEnd, hnone, Nat.add_zero]
    exact hinput
  · exact hroom hnone

/-- **A RELOAD** stays inside of its buffer exactly if it meets the condition. -/
theorem reload_writes (h : Sized count s) (frames : Nat) (readError : Option Nat) :
    (∀ w ∈ (s.reload count frames readError).1.writes, w.InRoom)
      ↔ (∀ w ∈ s.writes, w.InRoom) ∧ ReloadFits s frames readError := by
  rw [StreamIn.reload]
  split
  · rename_i hlt
    split
    · exact fill_writes h hlt readError
    · exact fill_writes h hlt readError
  · rename_i hge
    exact ⟨fun hw => ⟨hw, fun hlt => absurd hlt hge⟩, fun hw => hw.1⟩

/-- All frames that are wanted have room once they are read. -/
theorem grown_room (h : Sized count s) {frames : Nat} (hlt : s.procBufFrames < frames)
    (hfits : ReloadFits s frames none) :
    frames * s.frameBytes ≤ (s.grow count frames).procBufIn := by
  have hend : s.reloadEnd frames none = frames := by
    rw [StreamIn.reloadEnd, framesRead, Option.elim_none]
    omega
  have hroom := (grow_room h hlt none).mpr hfits
  rw [hend] at hroom
  exact hroom

/-- A reload keeps the sizes right; after one that succeeds the loop is ready. -/
theorem reload_ready (h : Sized count s) (hwrites : ∀ w ∈ s.writes, w.InRoom) {frames : Nat}
    {readError : Option Nat} (hfits : ReloadFits s frames readError) :
    Sized count (s.reload count frames readError).1
      ∧ ((s.reload count frames readError).2 = true →
          Ready count frames (s.reload count frames readError).1) := by
  have hnew := (reload_writes h frames readError).mpr ⟨hwrites, hfits⟩
  rw [StreamIn.reload] at hnew ⊢
  split
  · rename_i hlt
    rw [if_pos hlt] at hnew
    cases readError with
    | some n => exact ⟨fill_sized h frames (some n), fun hsuccess => absurd hsuccess Bool.noConfusion⟩
    | none =>
        have hsize := (grow_sized h frames).2.1
        have hroom := grown_room h hlt hfits
        rw [← @grow_frameBytes H count s frames] at hroom
        have hsized : Sized count { s.fill count frames none with procBufFrames := frames } :=
          ⟨hsize, hroom, (fill_sized h frames none).output⟩
        exact ⟨hsized, fun _ => ⟨hsized, hsize, hroom, hnew⟩⟩
  · rename_i hge
    have hle : frames ≤ s.procBufFrames := Nat.not_lt.mp hge
    refine ⟨h, fun _ => ⟨h, Nat.le_trans hle h.loaded, ?_, hwrites⟩⟩
    exact Nat.le_trans (Nat.mul_le_mul_right _ hle) h.input

-- ── The loop ─────────────────────────────────────────────────────────────────

theorem Ready.reloadFits {frames : Nat} (h : Ready count frames s) (readError : Option Nat) :
    ReloadFits s frames readError := fun hlt _ =>
  Nat.le_trans (Nat.mul_le_mul_right _ (reloadEnd_le hlt readError)) h.room

/-- The effects process what is loaded, into the rest of the frames. -/
theorem process_ready {frames framesWr : Nat} (h : Ready count frames s)
    (hle : framesWr ≤ frames) (turn : Turn) :
    Ready count frames (s.process count frames framesWr turn).1
      ∧ framesWr + (s.process count frames framesWr turn).2 ≤ frames := by
  have hproduced : (turn.produces (frames - framesWr) : Nat) ≤ frames - framesWr :=
    Nat.le_of_lt_succ (turn.produces (frames - framesWr)).isLt
  have hleft : s.procBufFrames - turn.consumes s.procBufFrames ≤ s.procBufFrames :=
    Nat.sub_le _ _
  have hinput : (s.procBufFrames - turn.consumes s.procBufFrames) * s.frameBytes ≤ s.procBufIn :=
    Nat.le_trans (Nat.mul_le_mul_right _ hleft) h.input
  refine ⟨⟨⟨Nat.le_trans hleft h.loaded, hinput, h.output⟩, h.size, h.room, ?_⟩, ?_⟩
  · refine List.forall_mem_append.mpr ⟨h.writes, List.forall_mem_append.mpr ⟨?_, ?_⟩⟩
    · split
      · rename_i hadditional
        refine wrote_inRoom.mpr fun _ => ?_
        refine Nat.le_trans (Nat.mul_le_mul_right _ ?_) (h.output hadditional)
        exact Nat.le_trans (by omega) h.size
      · exact fun w hw => absurd hw List.not_mem_nil
    · refine wrote_inRoom.mpr fun _ => ?_
      rw [Nat.zero_add]
      exact hinput
  · show framesWr + (turn.produces (frames - framesWr) : Nat) ≤ frames
    omega

/-- What reading leaves of the buffers: their sizes are right, and every write was
    inside of its buffer. -/
def Sound (count : ChannelMask → Nat) (s : StreamIn H) : Prop :=
  Sized count s ∧ ∀ w ∈ s.writes, w.InRoom

/-- Induction on the turns, once the loop is ready. -/
theorem processLoop_ready {frames : Nat} (turns : List Turn) :
    ∀ {framesWr : Nat} {s : StreamIn H}, Ready count frames s → framesWr ≤ frames →
      Sound count (s.processLoop count frames turns framesWr).1 := by
  induction turns with
  | nil => exact fun h _ => ⟨h.toSized, h.writes⟩
  | cons turn rest ih =>
      intro framesWr s h hle
      rw [StreamIn.processLoop]
      split
      · have hfits := h.reloadFits turn.readError
        obtain ⟨hsized, hready⟩ := reload_ready h.toSized h.writes hfits
        simp only
        split
        · rename_i hsuccess
          obtain ⟨hnext, hbound⟩ := process_ready (hready hsuccess) hle turn
          rw [if_pos hbound]
          exact ih hnext hbound
        · exact ⟨hsized, (reload_writes h.toSized frames turn.readError).mpr ⟨h.writes, hfits⟩⟩
      · exact ⟨h.toSized, h.writes⟩

theorem reload_log (s : StreamIn H) (frames : Nat) (readError : Option Nat) :
    s.writes ⊆ (s.reload count frames readError).1.writes := by
  have hfill : s.writes ⊆ (s.fill count frames readError).writes := by
    rw [StreamIn.fill, StreamIn.log, grow_writes]
    exact List.subset_append_left _ _
  rw [StreamIn.reload]
  split
  · split
    · exact hfill
    · exact hfill
  · exact List.Subset.refl _

/-- The loop only adds to the log. -/
theorem processLoop_log {frames : Nat} (turns : List Turn) :
    ∀ (framesWr : Nat) (s : StreamIn H),
      s.writes ⊆ (s.processLoop count frames turns framesWr).1.writes := by
  induction turns with
  | nil => exact fun _ s => List.Subset.refl s.writes
  | cons turn rest ih =>
      intro framesWr s
      have hreload := @reload_log H count s frames turn.readError
      rw [StreamIn.processLoop]
      split
      · simp only
        split
        · refine List.Subset.trans hreload (List.Subset.trans ?_ (ih _ _))
          exact List.subset_append_left _ _
        · exact hreload
      · exact List.Subset.refl _

/-- The condition on a read with effects. -/
def LoopFits (s : StreamIn H) (frames : Nat) (turns : List Turn) : Prop :=
  ∀ turn ∈ turns.head?, ReloadFits s frames turn.readError

/-- **THE LOOP** stays inside of the buffers exactly if its first turn does. -/
theorem processLoop_sound (h : Sound count s) (frames : Nat) (turns : List Turn) :
    (LoopFits s frames turns → Sound count (s.processLoop count frames turns 0).1)
      ∧ ((∀ w ∈ (s.processLoop count frames turns 0).1.writes, w.InRoom) →
          LoopFits s frames turns) := by
  cases turns with
  | nil => exact ⟨fun _ => h, fun _ turn hturn => absurd hturn (Option.not_mem_none turn)⟩
  | cons turn rest =>
      have hturns : LoopFits s frames (turn :: rest) ↔ ReloadFits s frames turn.readError :=
        ⟨fun hfits => hfits turn rfl, fun hfits _ hturn => Option.some.inj hturn ▸ hfits⟩
      rw [hturns, StreamIn.processLoop]
      by_cases hpos : 0 < frames
      · rw [if_pos hpos]
        simp only
        constructor
        · intro hfits
          obtain ⟨hsized, hready⟩ := reload_ready h.1 h.2 hfits
          split
          · rename_i hsuccess
            obtain ⟨hnext, hbound⟩ := process_ready (hready hsuccess) hpos.le turn
            rw [if_pos hbound]
            exact processLoop_ready rest hnext hbound
          · exact ⟨hsized, (reload_writes h.1 frames turn.readError).mpr ⟨h.2, hfits⟩⟩
        · intro hwrites
          refine ((reload_writes h.1 frames turn.readError).mp fun w hw => ?_).2
          refine hwrites w ?_
          split
          · refine processLoop_log rest _ _ ?_
            exact List.subset_append_left _ _ hw
          · exact hw
      · rw [if_neg hpos]
        exact ⟨fun _ => h, fun _ hlt => absurd (Nat.lt_of_le_of_lt (Nat.zero_le _) hlt) hpos⟩

-- ── Reading ──────────────────────────────────────────────────────────────────

/-- Reading without effects grows the second buffer, which is the only one it
    writes. -/
theorem readDirectly_sound (h : Sound count s) (frames : Nat) (readError : Option Nat) :
    Sound count (s.readDirectly count frames readError).1 := by
  obtain ⟨⟨hloaded, hinput, houtput⟩, hwrites⟩ := h
  have hread := framesRead_le readError frames
  rw [StreamIn.readDirectly]
  split
  · rename_i hadditional
    simp only
    split
    · rename_i hgrow
      have hroom : frames * s.frameBytes ≤ frames * s.frameBytes := Nat.le_refl _
      refine ⟨⟨Nat.le_trans hloaded hgrow.le, hinput, fun _ => hroom⟩, ?_⟩
      refine List.forall_mem_append.mpr ⟨hwrites, wrote_inRoom.mpr fun _ => ?_⟩
      exact Nat.mul_le_mul_right _ (by omega)
    · rename_i hkeep
      refine ⟨⟨hloaded, hinput, houtput⟩, ?_⟩
      refine List.forall_mem_append.mpr ⟨hwrites, wrote_inRoom.mpr fun _ => ?_⟩
      exact Nat.le_trans (Nat.mul_le_mul_right _ (by omega)) (houtput hadditional)
  · exact ⟨⟨hloaded, hinput, houtput⟩, hwrites⟩

/-- The condition on a read: with effects, what the first turn loads without
    growing the buffers has room in the input buffer. -/
def ReadFits (s : StreamIn H) (frames : Nat) (turns : List Turn) : Prop :=
  s.table.numPreprocessors ≠ 0 → LoopFits s frames turns

theorem loopFits_closed (hpcm : s.pcm = none) (frames : Nat) (turns : List Turn) :
    LoopFits s frames turns := by
  intro turn _ _ _
  rw [StreamIn.frameBytes, hpcm, Option.elim_none, Nat.mul_zero]
  exact Nat.zero_le _

/-- **A READ** stays inside of the buffers exactly if it meets the condition. -/
theorem read_sound (h : Sound count s) (frames : Nat) (turns : List Turn)
    (readError : Option Nat) :
    (ReadFits s frames turns →
        Sound count (s.readAndProcessFrames count frames turns readError).1)
      ∧ ((∀ w ∈ (s.readAndProcessFrames count frames turns readError).1.writes, w.InRoom) →
          ReadFits s frames turns) := by
  rw [StreamIn.readAndProcessFrames]
  split
  · rename_i hpcm
    exact ⟨fun _ => h, fun _ _ => loopFits_closed (Option.isNone_iff_eq_none.mp hpcm) frames turns⟩
  · split
    · rename_i hnum
      obtain ⟨hsound, hfits⟩ := processLoop_sound h frames turns
      exact ⟨fun hread => hsound (hread hnum), fun hwrites _ => hfits hwrites⟩
    · rename_i hnone
      exact ⟨fun _ => readDirectly_sound h frames readError, fun _ hnum => absurd hnum hnone⟩

-- ── Every operation ──────────────────────────────────────────────────────────

/-- **THE INVARIANT**: the buffers of an active stream have the sizes it counts
    on. -/
def BufferInv (count : ChannelMask → Nat) (s : StreamIn H) : Prop :=
  Fitted s ∧ (s.standby = false → Sized count s)

/-- The condition on an operation. -/
def Roomy (s : StreamIn H) : Act H → Prop
  | .read frames turns _ => ReadFits s frames turns
  | .effect c => ¬ s.table.overfills c.call
  | _ => True

theorem Spares.bufferInv (h : Spares s s') (hs : BufferInv count s)
    (hover : s'.overrun = false) : BufferInv count s' := by
  refine ⟨⟨hover, ?_⟩, fun hactive => ?_⟩
  · rw [h.writes]
    exact hs.1.2
  · obtain ⟨hbefore, hpcm⟩ := h.active hactive
    obtain ⟨hloaded, hinput, houtput⟩ := hs.2 hbefore
    have hbytes : s'.frameBytes = s.frameBytes := by
      rw [StreamIn.frameBytes, StreamIn.frameBytes, hpcm]
    refine ⟨?_, ?_, ?_⟩
    · rw [h.procBufFrames, h.procBufSize]
      exact hloaded
    · rw [h.procBufFrames, h.procBufIn, hbytes]
      exact hinput
    · rw [h.procBufSize, h.procBufOut, hbytes, h.hasAdditionalChannels]
      exact houtput

theorem start_bufferInv (hs : BufferInv count s) (env : StartEnv) :
    BufferInv count { (s.startInputStream count env).1 with
        standby := !(s.startInputStream count env).2 } := by
  obtain ⟨hover, hwrites⟩ := @start_rest H count s env
  refine ⟨⟨hover.trans hs.1.1, ?_⟩, fun hactive => ?_⟩
  · show ∀ w ∈ (s.startInputStream count env).1.writes, w.InRoom
    rw [hwrites]
    exact hs.1.2
  · obtain ⟨p, -, hstarted⟩ := started_of_active hactive
    -- the sizes are counted anew, whatever the buffers are
    have hframes := hstarted.procBufFrames
    have hsize := hstarted.procBufSize
    refine ⟨?_, ?_, fun _ => ?_⟩
    · exact Nat.le_of_eq (hframes.trans hsize.symm)
    · show (s.startInputStream count env).1.procBufFrames * _ ≤ _
      rw [hframes, Nat.zero_mul]
      exact Nat.zero_le _
    · show (s.startInputStream count env).1.procBufSize * _ ≤ _
      rw [hsize, Nat.zero_mul]
      exact Nat.zero_le _

theorem effect_bufferInv [DecidableEq H] (hs : BufferInv count s) {c : EffectCall H}
    (hfits : ¬ s.table.overfills c.call) : BufferInv count (s.addRemoveAudioEffect count c).1 :=
  ((Spares.refl s).addRemoveAudioEffect c).bufferInv hs ((effect_clean hs.1.1 c).mpr hfits)

theorem read_bufferInv (hs : BufferInv count s) (hactive : s.standby = false) {frames : Nat}
    {turns : List Turn} (hfits : ReadFits s frames turns) (readError : Option Nat) :
    BufferInv count (s.readAndProcessFrames count frames turns readError).1 := by
  have hsound := (read_sound ⟨hs.2 hactive, hs.1.2⟩ frames turns readError).1 hfits
  have hreads : Reads s (s.readAndProcessFrames count frames turns readError).1 :=
    (Reads.refl s).readAndProcessFrames frames turns readError
  exact ⟨⟨hreads.overrun.trans hs.1.1, hsound.2⟩, fun _ => hsound.1⟩

/-- **STEP**: an operation that meets the condition keeps the invariant. -/
theorem step_bufferInv [DecidableEq H] {a : Act H} (hs : BufferInv count s) (hok : Roomy s a)
    (hstep : step count s a = some s') : BufferInv count s' := by
  cases stepped_of_step hstep with
  | start env => exact start_bufferInv hs env
  | read frames turns readError hactive hspares hover =>
      have hread := read_bufferInv hs hactive hok readError
      exact hspares.bufferInv hread (hover.trans hread.1.1)
  | standby hspares hover => exact hspares.bufferInv hs (hover.trans hs.1.1)
  | effect c => exact effect_bufferInv hs hok
  | setDevices devices restarts hspares hover =>
      exact hspares.bufferInv hs (hover.trans hs.1.1)

/-- An operation after which every write was inside of its buffer met the
    condition. -/
theorem roomy_of_fitted [DecidableEq H] {a : Act H} (hs : BufferInv count s)
    (hstep : step count s a = some s') (hfitted : Fitted s') : Roomy s a := by
  cases stepped_of_step hstep with
  | read frames turns readError hactive hspares hover =>
      have hsound : Sound count s := ⟨hs.2 hactive, hs.1.2⟩
      refine (read_sound hsound frames turns readError).2 fun w hw => hfitted.2 w ?_
      rw [hspares.writes]
      exact hw
  | effect c => exact (effect_clean hs.1.1 c).mp hfitted.1
  | start env => trivial
  | standby => trivial
  | setDevices => trivial

theorem open_bufferInv {a : OpenArgs} (hopen : openInputStream count a = some s) :
    BufferInv count s := by
  obtain ⟨hstandby, hclean, hwrites⟩ := opened_standby hopen
  refine ⟨⟨hclean, ?_⟩, fun hactive => ?_⟩
  · rw [hwrites]
    exact fun w hw => absurd hw List.not_mem_nil
  · cases hstandby.symm.trans hactive

/-- **BUFFERS**: all along any sequence of operations on an opened stream, every
    write to a processing buffer is inside of the buffer, exactly if each read
    with effects that does not grow the buffers has room in the first one for
    what its first turn loads, and no effect is added to a full table. -/
theorem buffers_fit [DecidableEq H] {a : OpenArgs} (hopen : openInputStream count a = some s)
    (acts : List (Act H)) :
    Always (step count) Fitted s acts ↔ StepsMeet (step count) Roomy s acts :=
  always_iff_stepsMeet (fun _ h => h.1)
    (fun _ _ _ hs hok hstep => step_bufferInv hs hok hstep)
    (fun _ _ _ hs hstep h => roomy_of_fitted hs hstep h) acts (open_bufferInv hopen)

/-- An effect takes all that it is given, and produces as much. -/
def wholeTurn : Turn where
  readError := none
  consumes := fun given => Fin.last given
  produces := fun given => Fin.last given

theorem buffers_fit_mono :
    ∃ s : StreamIn Nat, openInputStream channelCountFromInMask monoArgs = some s
      ∧ (Always (step channelCountFromInMask) Fitted s [.start granted, .read 160 [] none]
        ↔ StepsMeet (step channelCountFromInMask) Roomy s [.start granted, .read 160 [] none]) :=
  ⟨_, rfl, buffers_fit (a := monoArgs) rfl _⟩

/-- The read before the effect grew the second buffer alone, and the read after it
    writes to an input buffer that was never allocated. -/
theorem effect_read_overruns :
    ∃ s s' : StreamIn Nat, openInputStream channelCountFromInMask monoArgs = some s
      ∧ run (step channelCountFromInMask) s
          [.start granted, .read 160 [] none, .effect plainEffect, .read 160 [wholeTurn] none]
          = some s'
      ∧ s'.overrun = false
      ∧ { buffer := .procBufIn, upTo := 160, frameBytes := 4, room := 0 } ∈ s'.writes :=
  ⟨_, _, rfl, rfl, rfl, by decide⟩

end CaptureStream

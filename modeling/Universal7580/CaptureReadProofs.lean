import Mathlib.Data.List.Range
import Mathlib.Tactic.Ring

/-! # Reading a capture stream

    `in_read` serves reads of any size from a buffer of one period, which
    `get_next_buffer` fills and `release_buffer` takes frames off.  With more
    hardware channels than main channels the frames go through a second buffer,
    and each is cut.

    `capture_conserved`: whatever the sizes, the frames that the reads of a
    session return are the frames of the PCM device in order, none lost and none
    twice, cut to the main channels; a read while the microphone is muted returns
    silence for its frames. -/

namespace CaptureRead

variable {σ : Type}

-- ── Copies ────────────────────────────────────────────────────────────────

/-- `memcpy` of `n` samples. -/
def memcpy (dst : Nat → σ) (d : Nat) (src : Nat → σ) (s n : Nat) : Nat → σ :=
  fun i => if d ≤ i ∧ i < d + n then src (s + (i - d)) else dst i

theorem memcpy_at (dst : Nat → σ) (d : Nat) (src : Nat → σ) (s : Nat) {n j : Nat} (h : j < n) :
    memcpy dst d src s n (d + j) = src (s + j) := by
  rw [memcpy, if_pos ⟨Nat.le_add_right d j, Nat.add_lt_add_left h d⟩, Nat.add_sub_cancel_left]

theorem memcpy_before (dst : Nat → σ) {d : Nat} (src : Nat → σ) (s n : Nat) {i : Nat} (h : i < d) :
    memcpy dst d src s n i = dst i :=
  if_neg fun hin => absurd hin.1 (Nat.not_le_of_lt h)

-- ── The stream ────────────────────────────────────────────────────────────

/-- The configuration of a capture stream: the channels of the hardware, the
    frames of a period, and the channels the client asked for. -/
structure Config where
  channels : Nat
  periodSize : Nat
  mainChannels : Nat
  period_pos : 0 < periodSize
  main_le : mainChannels ≤ channels

/-- The PCM device: its samples, channel by channel and frame by frame, and the
    results of the calls of `pcm_read`. -/
structure Pcm (σ : Type) where
  samples : Nat → σ
  status : Nat → Int

/-- `struct stream_in`.  `reads` counts the calls of `pcm_read`. -/
structure StreamIn (σ : Type) where
  reads : Nat
  readBuf : Nat → σ
  readBufSize : Nat
  readBufFrames : Nat
  readStatus : Int
  procBufOut : Nat → σ
  procBufSize : Nat

section Model

variable (cfg : Config) (pcm : Pcm σ)

/-- The buffers after `start_input_stream`, which opens the PCM device. -/
def StreamIn.start (s : StreamIn σ) : StreamIn σ :=
  { s with reads := 0, procBufSize := 0, readBufSize := 0, readBufFrames := 0 }

/-- `pcm_read` of a period into `read_buf`. -/
def StreamIn.pcmRead (s : StreamIn σ) : StreamIn σ :=
  let size := cfg.periodSize * cfg.channels
  { s with
    reads := s.reads + 1
    readStatus := pcm.status s.reads
    readBuf := if pcm.status s.reads = 0 then memcpy s.readBuf 0 pcm.samples (s.reads * size) size
      else s.readBuf }

/-- `get_next_buffer`: where in `read_buf` the next frames are, and how many. -/
def StreamIn.getNextBuffer (s : StreamIn σ) (frameCount : Nat) :
    StreamIn σ × Option Nat × Nat :=
  let give (s : StreamIn σ) :=
    (s, some ((cfg.periodSize - s.readBufFrames) * cfg.channels), min frameCount s.readBufFrames)
  if s.readBufFrames = 0 then
    let s := if s.readBufSize < cfg.periodSize then { s with readBufSize := cfg.periodSize } else s
    let s := s.pcmRead cfg pcm
    if s.readStatus ≠ 0 then (s, none, 0)
    else give { s with readBufFrames := cfg.periodSize }
  else give s

/-- `release_buffer`. -/
def StreamIn.releaseBuffer (s : StreamIn σ) (frameCount : Nat) : StreamIn σ :=
  { s with readBufFrames := s.readBufFrames - frameCount }

/-- The loop of `read_frames`, without a resampler.  A turn reads a frame at
    least, so that as many turns as there are frames will do. -/
def StreamIn.readLoop (frames : Nat) :
    Nat → Nat → StreamIn σ → (Nat → σ) → StreamIn σ × (Nat → σ) × Except Int Nat
  | 0, framesWr, s, buffer => (s, buffer, .ok framesWr)
  | fuel + 1, framesWr, s, buffer =>
      if framesWr < frames then
        let r := s.getNextBuffer cfg pcm (frames - framesWr)
        let buffer := match r.2.1 with
          | some raw =>
              memcpy buffer (framesWr * cfg.channels) r.1.readBuf raw (r.2.2 * cfg.channels)
          | none => buffer
        let s := r.1.releaseBuffer r.2.2
        if s.readStatus ≠ 0 then (s, buffer, .error s.readStatus)
        else StreamIn.readLoop frames fuel (framesWr + r.2.2) s buffer
      else (s, buffer, .ok framesWr)

/-- `read_frames`. -/
def StreamIn.readFrames (s : StreamIn σ) (buffer : Nat → σ) (frames : Nat) :
    StreamIn σ × (Nat → σ) × Except Int Nat :=
  StreamIn.readLoop cfg pcm frames frames 0 s buffer

/-- The loop that cuts `n` frames to the main channels. -/
def removeChannels (src dst : Nat → σ) : Nat → Nat → σ
  | 0 => dst
  | n + 1 => memcpy (removeChannels src dst n) (n * cfg.mainChannels) src (n * cfg.channels)
      cfg.mainChannels

/-- `read_and_process_frames`, without effects. -/
def StreamIn.readAndProcessFrames (s : StreamIn σ) (buffer : Nat → σ) (frames : Nat) :
    StreamIn σ × (Nat → σ) × Except Int Nat :=
  if cfg.mainChannels ≠ cfg.channels then
    let s := if s.procBufSize < frames then { s with procBufSize := frames } else s
    let r := s.readFrames cfg pcm s.procBufOut frames
    let s := { r.1 with procBufOut := r.2.1 }
    match r.2.2 with
    | .ok framesWr => (s, removeChannels cfg r.2.1 buffer framesWr, .ok framesWr)
    | .error status => (s, buffer, .error status)
  else s.readFrames cfg pcm buffer frames

/-- A call of `in_read`: the size in bytes, the buffer, and whether the
    microphone is muted when the data is there. -/
structure Call (σ : Type) where
  bytes : Nat
  buffer : Nat → σ
  muted : Bool

/-- `audio_stream_in_frame_size`, in bytes. -/
def Config.frameSize (cfg : Config) : Nat := cfg.mainChannels * 2

/-- The frames a call asks for. -/
def Call.frames (c : Call σ) : Nat := c.bytes / cfg.frameSize

/-- `in_read` of a stream that is not in standby.  After an error the stream goes
    to standby. -/
def StreamIn.inRead [Zero σ] (s : StreamIn σ) (c : Call σ) :
    StreamIn σ × (Nat → σ) × Except Int Nat :=
  let r := s.readAndProcessFrames cfg pcm c.buffer (c.frames cfg)
  match r.2.2 with
  | .ok framesWr =>
      (r.1, if c.muted then fun i => if i < c.bytes / 2 then 0 else r.2.1 i else r.2.1, .ok framesWr)
  | .error status => (r.1, r.2.1, .error status)

/-- The frames in a buffer. -/
def framesOf (buffer : Nat → σ) (n : Nat) : List (List σ) :=
  (List.range n).map fun j =>
    (List.range cfg.mainChannels).map fun c => buffer (j * cfg.mainChannels + c)

/-- The frames that the reads of a session return, as long as `pcm_read`
    succeeds. -/
def session [Zero σ] : StreamIn σ → List (Call σ) → Option (List (List σ))
  | _, [] => some []
  | s, c :: rest =>
      match s.inRead cfg pcm c with
      | (s, buffer, .ok framesWr) =>
          (session s rest).map fun frames => framesOf cfg buffer framesWr ++ frames
      | (_, _, .error _) => none

-- ── What a session should return ──────────────────────────────────────────

/-- A frame of the PCM device, cut to the main channels. -/
def frame (n : Nat) : List σ :=
  (List.range cfg.mainChannels).map fun c => pcm.samples (n * cfg.channels + c)

/-- `n` frames from frame `pos` on. -/
def captured (pos n : Nat) : List (List σ) := (List.range n).map fun j => frame cfg pcm (pos + j)

/-- The frames of a call, or silence for them if it was muted. -/
def deliveredBy [Zero σ] (pos : Nat) (c : Call σ) : List (List σ) :=
  if c.muted then (captured cfg pcm pos (c.frames cfg)).map fun frame => frame.map fun _ => 0
  else captured cfg pcm pos (c.frames cfg)

/-- The frames of the calls, one after the other. -/
def delivered [Zero σ] : Nat → List (Call σ) → List (List σ)
  | _, [] => []
  | pos, c :: rest => deliveredBy cfg pcm pos c ++ delivered (pos + c.frames cfg) rest

end Model

-- ── The buffer of a period ────────────────────────────────────────────────

/-- **THE INVARIANT**: the frames left in `read_buf` are the ones from frame
    `pos` on, and after them comes the next period. -/
structure Buffered (cfg : Config) (pcm : Pcm σ) (s : StreamIn σ) (pos : Nat) : Prop where
  le : s.readBufFrames ≤ cfg.periodSize
  next : pos + s.readBufFrames = s.reads * cfg.periodSize
  status : 0 < s.readBufFrames → s.readStatus = 0
  data : ∀ i, i < s.readBufFrames * cfg.channels →
    s.readBuf ((cfg.periodSize - s.readBufFrames) * cfg.channels + i)
      = pcm.samples (pos * cfg.channels + i)

section Reads

variable {cfg : Config} {pcm : Pcm σ} {s : StreamIn σ} {pos : Nat}

theorem buffered_start (cfg : Config) (pcm : Pcm σ) (s : StreamIn σ) :
    Buffered cfg pcm s.start 0 where
  le := Nat.zero_le _
  next := (Nat.zero_mul _).symm
  status := fun h => absurd h (Nat.lt_irrefl 0)
  data := fun i h => absurd (Nat.lt_of_lt_of_eq h (Nat.zero_mul _)) (Nat.not_lt_zero i)

/-- Taking frames off. -/
theorem buffered_release (h : Buffered cfg pcm s pos) {n : Nat} (hn : n ≤ s.readBufFrames) :
    Buffered cfg pcm (s.releaseBuffer n) (pos + n) := by
  obtain ⟨hle, hnext, hstatus, hdata⟩ := h
  obtain ⟨left, hleft⟩ := Nat.exists_eq_add_of_le hn
  have hframes : (s.releaseBuffer n).readBufFrames = left := by
    rw [StreamIn.releaseBuffer, hleft]
    exact Nat.add_sub_cancel_left n left
  refine ⟨by omega, ?_, fun hpos => hstatus (by omega), ?_⟩
  · rw [hframes]
    show pos + n + left = s.reads * cfg.periodSize
    omega
  · intro i hi
    rw [hframes] at hi ⊢
    -- the frames that are left come `n` frames later
    have hoffset : (cfg.periodSize - left) * cfg.channels
        = (cfg.periodSize - s.readBufFrames) * cfg.channels + n * cfg.channels := by
      rw [← Nat.add_mul]
      congr 1
      omega
    have hlt : n * cfg.channels + i < s.readBufFrames * cfg.channels := by
      rw [hleft, Nat.add_mul]
      omega
    have hat := hdata (n * cfg.channels + i) hlt
    rw [hoffset, Nat.add_assoc, Nat.add_mul, Nat.add_assoc]
    exact hat

/-- A period that was read is the next one. -/
theorem buffered_pcmRead (h : Buffered cfg pcm s pos) (hempty : s.readBufFrames = 0)
    (hok : pcm.status s.reads = 0) :
    Buffered cfg pcm { s.pcmRead cfg pcm with readBufFrames := cfg.periodSize } pos := by
  have hpos : pos = s.reads * cfg.periodSize := by
    have hnext := h.next
    omega
  refine ⟨Nat.le_refl _, ?_, fun _ => hok, fun i hi => ?_⟩
  · show pos + cfg.periodSize = (s.reads + 1) * cfg.periodSize
    rw [hpos, Nat.add_mul, Nat.one_mul]
  · show (s.pcmRead cfg pcm).readBuf ((cfg.periodSize - cfg.periodSize) * cfg.channels + i) = _
    rw [StreamIn.pcmRead, Nat.sub_self, Nat.zero_mul]
    simp only [hok, if_true]
    rw [memcpy_at _ _ _ _ hi, hpos, Nat.mul_assoc]

/-- **GET_NEXT_BUFFER** fails, or points to some of the frames that come next. -/
theorem getNextBuffer_spec (h : Buffered cfg pcm s pos) {frameCount : Nat}
    (hcount : 0 < frameCount) :
    let r := s.getNextBuffer cfg pcm frameCount
    (r.1.readStatus ≠ 0 ∧ ∃ k, pcm.status k ≠ 0)
      ∨ r.1.readStatus = 0 ∧ ∃ raw, r.2.1 = some raw ∧ 0 < r.2.2 ∧ r.2.2 ≤ frameCount
        ∧ (∀ i, i < r.2.2 * cfg.channels →
          r.1.readBuf (raw + i) = pcm.samples (pos * cfg.channels + i))
        ∧ Buffered cfg pcm (r.1.releaseBuffer r.2.2) (pos + r.2.2) := by
  -- the frames in the buffer are given out
  have hgive : ∀ s : StreamIn σ, Buffered cfg pcm s pos → 0 < s.readBufFrames →
      0 < min frameCount s.readBufFrames ∧ min frameCount s.readBufFrames ≤ frameCount
        ∧ (∀ i, i < min frameCount s.readBufFrames * cfg.channels →
          s.readBuf ((cfg.periodSize - s.readBufFrames) * cfg.channels + i)
            = pcm.samples (pos * cfg.channels + i))
        ∧ Buffered cfg pcm (s.releaseBuffer (min frameCount s.readBufFrames))
          (pos + min frameCount s.readBufFrames) := by
    intro s hs hframes
    refine ⟨Nat.lt_min.mpr ⟨hcount, hframes⟩, Nat.min_le_left _ _, fun i hi => ?_,
      buffered_release hs (Nat.min_le_right _ _)⟩
    exact hs.data i (Nat.lt_of_lt_of_le hi (Nat.mul_le_mul_right _ (Nat.min_le_right _ _)))
  simp only [StreamIn.getNextBuffer]
  by_cases hempty : s.readBufFrames = 0
  · rw [if_pos hempty]
    have hresize : ∀ s₁ : StreamIn σ, s₁ = (if s.readBufSize < cfg.periodSize then
        { s with readBufSize := cfg.periodSize } else s) →
        Buffered cfg pcm s₁ pos ∧ s₁.readBufFrames = 0 := by
      rintro s₁ rfl
      split
      · exact ⟨⟨h.le, h.next, h.status, h.data⟩, hempty⟩
      · exact ⟨h, hempty⟩
    generalize hs₁ : (if s.readBufSize < cfg.periodSize then
      { s with readBufSize := cfg.periodSize } else s) = s₁
    obtain ⟨hbuffered, hempty₁⟩ := hresize s₁ hs₁.symm
    have hstatus : (s₁.pcmRead cfg pcm).readStatus = pcm.status s₁.reads := rfl
    rw [hstatus]
    by_cases hok : pcm.status s₁.reads = 0
    · have hread := buffered_pcmRead hbuffered hempty₁ hok
      rw [if_neg fun hne => hne hok]
      exact .inr ⟨hok, _, rfl, hgive _ hread cfg.period_pos⟩
    · rw [if_pos hok]
      exact .inl ⟨hok, s₁.reads, hok⟩
  · rw [if_neg hempty]
    have hframes := Nat.pos_of_ne_zero hempty
    exact .inr ⟨h.status hframes, _, rfl, hgive s h hframes⟩

/-- **THE LOOP** of `read_frames`: with `framesWr` frames written, it fails, or it
    writes the rest. -/
theorem readLoop_spec {frames start : Nat} (fuel : Nat) :
    ∀ (framesWr : Nat) (s : StreamIn σ) (buffer : Nat → σ),
      frames ≤ framesWr + fuel → framesWr ≤ frames → Buffered cfg pcm s (start + framesWr) →
      (∀ i, i < framesWr * cfg.channels → buffer i = pcm.samples (start * cfg.channels + i)) →
      let r := StreamIn.readLoop cfg pcm frames fuel framesWr s buffer
      (∃ status, r.2.2 = .error status ∧ ∃ k, pcm.status k ≠ 0)
        ∨ r.2.2 = .ok frames ∧ Buffered cfg pcm r.1 (start + frames)
          ∧ ∀ i, i < frames * cfg.channels → r.2.1 i = pcm.samples (start * cfg.channels + i) := by
  induction fuel with
  | zero =>
      intro framesWr s buffer hfuel hle hs hbuffer
      obtain rfl : framesWr = frames := by omega
      exact .inr ⟨rfl, hs, hbuffer⟩
  | succ fuel ih =>
      intro framesWr s buffer hfuel hle hs hbuffer
      by_cases hlt : framesWr < frames
      · have hnext := getNextBuffer_spec hs (Nat.sub_pos_of_lt hlt)
        simp only [StreamIn.readLoop, if_pos hlt]
        generalize s.getNextBuffer cfg pcm (frames - framesWr) = next at hnext ⊢
        obtain ⟨s₁, raw, n⟩ := next
        rcases hnext with ⟨hbad, hk⟩ | ⟨hok, raw, rfl, hn, hcount, hdata, hs₁⟩
        · rw [if_pos (show (s₁.releaseBuffer n).readStatus ≠ 0 from hbad)]
          exact .inl ⟨_, rfl, hk⟩
        · rw [if_neg fun hne : (s₁.releaseBuffer n).readStatus ≠ 0 => hne hok]
          dsimp only at hn hcount hdata hs₁ ⊢
          refine ih (framesWr + n) _ _ (by omega) (by omega) (by rwa [← Nat.add_assoc]) ?_
          intro i hi
          rcases Nat.lt_or_ge i (framesWr * cfg.channels) with hbefore | hafter
          · rw [memcpy_before _ _ _ _ hbefore]
            exact hbuffer i hbefore
          · obtain ⟨j, rfl⟩ := Nat.exists_eq_add_of_le hafter
            have hj : j < n * cfg.channels := by
              rw [Nat.add_mul] at hi
              omega
            rw [memcpy_at _ _ _ _ hj, hdata j hj, Nat.add_mul, Nat.add_assoc]
      · obtain rfl : framesWr = frames := by omega
        rw [StreamIn.readLoop, if_neg hlt]
        exact .inr ⟨rfl, hs, hbuffer⟩

/-- **READ_FRAMES** fails, or writes the frames that come next. -/
theorem readFrames_spec (hs : Buffered cfg pcm s pos) (buffer : Nat → σ) (frames : Nat) :
    let r := s.readFrames cfg pcm buffer frames
    (∃ status, r.2.2 = .error status ∧ ∃ k, pcm.status k ≠ 0)
      ∨ r.2.2 = .ok frames ∧ Buffered cfg pcm r.1 (pos + frames)
        ∧ ∀ i, i < frames * cfg.channels → r.2.1 i = pcm.samples (pos * cfg.channels + i) := by
  refine readLoop_spec frames 0 s buffer (by omega) (Nat.zero_le _) hs fun i hi => ?_
  rw [Nat.zero_mul] at hi
  exact absurd hi (Nat.not_lt_zero i)

-- ── The additional channels ───────────────────────────────────────────────

/-- The loop keeps the first samples of every frame. -/
theorem removeChannels_at (cfg : Config) (src dst : Nat → σ) (n : Nat) :
    ∀ j c, j < n → c < cfg.mainChannels →
      removeChannels cfg src dst n (j * cfg.mainChannels + c) = src (j * cfg.channels + c) := by
  induction n with
  | zero => exact fun j c hj => absurd hj (Nat.not_lt_zero j)
  | succ n ih =>
      intro j c hj hc
      rw [removeChannels]
      rcases Nat.lt_succ_iff_lt_or_eq.mp hj with hlt | rfl
      · have hbefore : j * cfg.mainChannels + c < n * cfg.mainChannels := by
          have hnext := Nat.mul_le_mul_right cfg.mainChannels (Nat.succ_le_of_lt hlt)
          rw [Nat.succ_mul] at hnext
          omega
        rw [memcpy_before _ _ _ _ hbefore]
        exact ih j c hlt hc
      · exact memcpy_at _ _ _ _ hc

/-- **READ_AND_PROCESS_FRAMES** fails, or writes the frames that come next, cut to
    the main channels. -/
theorem readAndProcessFrames_spec (hs : Buffered cfg pcm s pos) (buffer : Nat → σ)
    (frames : Nat) :
    let r := s.readAndProcessFrames cfg pcm buffer frames
    (∃ status, r.2.2 = .error status ∧ ∃ k, pcm.status k ≠ 0)
      ∨ r.2.2 = .ok frames ∧ Buffered cfg pcm r.1 (pos + frames)
        ∧ ∀ j c, j < frames → c < cfg.mainChannels →
          r.2.1 (j * cfg.mainChannels + c) = pcm.samples ((pos + j) * cfg.channels + c) := by
  -- sample `c` of frame `j`, in a buffer of whole frames
  have hin : ∀ j c, j < frames → c < cfg.mainChannels →
      j * cfg.channels + c < frames * cfg.channels := by
    intro j c hj hc
    have hmain := cfg.main_le
    have hnext := Nat.mul_le_mul_right cfg.channels (Nat.succ_le_of_lt hj)
    rw [Nat.succ_mul] at hnext
    omega
  simp only [StreamIn.readAndProcessFrames]
  by_cases hextra : cfg.mainChannels ≠ cfg.channels
  · rw [if_pos hextra]
    generalize hs₁ : (if s.procBufSize < frames then { s with procBufSize := frames } else s) = s₁
    have hbuffered : Buffered cfg pcm s₁ pos := by
      rw [← hs₁]
      split
      · exact ⟨hs.le, hs.next, hs.status, hs.data⟩
      · exact hs
    have hread := readFrames_spec hbuffered s₁.procBufOut frames
    generalize s₁.readFrames cfg pcm s₁.procBufOut frames = r at hread ⊢
    obtain ⟨s₂, out, result⟩ := r
    rcases hread with ⟨status, rfl, hk⟩ | ⟨rfl, hs₂, hout⟩
    · exact .inl ⟨status, rfl, hk⟩
    · refine .inr ⟨rfl, ⟨hs₂.le, hs₂.next, hs₂.status, hs₂.data⟩, fun j c hj hc => ?_⟩
      dsimp only at hout ⊢
      rw [removeChannels_at cfg out buffer frames j c hj hc, hout _ (hin j c hj hc), Nat.add_mul,
        Nat.add_assoc]
  · rw [if_neg hextra]
    rw [ne_eq, Decidable.not_not] at hextra
    rcases readFrames_spec hs buffer frames with hbad | ⟨hok, hs₁, hout⟩
    · exact .inl hbad
    · refine .inr ⟨hok, hs₁, fun j c hj hc => ?_⟩
      rw [hextra, hout _ (hin j c hj hc), Nat.add_mul, Nat.add_assoc]

-- ── The reads of a session ────────────────────────────────────────────────

/-- The frames in a buffer that holds the samples of the device. -/
theorem framesOf_captured {buffer : Nat → σ} {n : Nat}
    (h : ∀ j c, j < n → c < cfg.mainChannels →
      buffer (j * cfg.mainChannels + c) = pcm.samples ((pos + j) * cfg.channels + c)) :
    framesOf cfg buffer n = captured cfg pcm pos n := by
  refine List.map_congr_left fun j hj => List.map_congr_left fun c hc => ?_
  exact h j c (List.mem_range.mp hj) (List.mem_range.mp hc)

/-- The frames of a muted call lie in the bytes that are cleared. -/
theorem sample_in_bytes (c : Call σ) {j i : Nat} (hj : j < c.frames cfg)
    (hi : i < cfg.mainChannels) : j * cfg.mainChannels + i < c.bytes / 2 := by
  have hbytes : c.frames cfg * (cfg.mainChannels * 2) ≤ c.bytes := Nat.div_mul_le_self _ _
  have hsamples : c.frames cfg * cfg.mainChannels ≤ c.bytes / 2 := by
    rw [Nat.le_div_iff_mul_le (by omega), Nat.mul_assoc]
    exact hbytes
  have hnext := Nat.mul_le_mul_right cfg.mainChannels (Nat.succ_le_of_lt hj)
  rw [Nat.succ_mul] at hnext
  omega

/-- **IN_READ** fails, or returns the frames that come next, or silence for them. -/
theorem inRead_spec [Zero σ] (hs : Buffered cfg pcm s pos) (c : Call σ) :
    let r := s.inRead cfg pcm c
    (∃ status, r.2.2 = .error status ∧ ∃ k, pcm.status k ≠ 0)
      ∨ r.2.2 = .ok (c.frames cfg) ∧ Buffered cfg pcm r.1 (pos + c.frames cfg)
        ∧ framesOf cfg r.2.1 (c.frames cfg) = deliveredBy cfg pcm pos c := by
  have hread := readAndProcessFrames_spec hs c.buffer (c.frames cfg)
  simp only [StreamIn.inRead]
  generalize s.readAndProcessFrames cfg pcm c.buffer (c.frames cfg) = r at hread ⊢
  obtain ⟨s₁, out, result⟩ := r
  rcases hread with ⟨status, rfl, hk⟩ | ⟨rfl, hs₁, hout⟩
  · exact .inl ⟨status, rfl, hk⟩
  · refine .inr ⟨rfl, hs₁, ?_⟩
    have hcaptured := framesOf_captured hout
    cases hmuted : c.muted with
    | false =>
        simp only [deliveredBy, hmuted]
        exact hcaptured
    | true =>
        simp only [deliveredBy, hmuted, if_true, captured, framesOf, List.map_map]
        refine List.map_congr_left fun j hj => ?_
        rw [Function.comp_apply, frame, List.map_map]
        refine List.map_congr_left fun i hi => ?_
        exact if_pos (sample_in_bytes c (List.mem_range.mp hj) (List.mem_range.mp hi))

/-- A session returns the frames of its calls, unless a `pcm_read` failed. -/
theorem session_spec [Zero σ] (calls : List (Call σ)) :
    ∀ (s : StreamIn σ) (pos : Nat), Buffered cfg pcm s pos →
      (session cfg pcm s calls = none ∧ ∃ k, pcm.status k ≠ 0)
        ∨ session cfg pcm s calls = some (delivered cfg pcm pos calls) := by
  induction calls with
  | nil => exact fun s pos _ => .inr rfl
  | cons c rest ih =>
      intro s pos hs
      have hread := inRead_spec hs c
      simp only [session]
      generalize s.inRead cfg pcm c = r at hread ⊢
      obtain ⟨s₁, out, result⟩ := r
      rcases hread with ⟨status, rfl, hk⟩ | ⟨rfl, hs₁, hout⟩
      · exact .inl ⟨rfl, hk⟩
      · dsimp only at hout hs₁ ⊢
        rcases ih s₁ _ hs₁ with ⟨hrest, hk⟩ | hrest
        · exact .inl ⟨by rw [hrest]; rfl, hk⟩
        · refine .inr ?_
          rw [hrest, hout]
          rfl

/-- The frames of two stretches. -/
theorem captured_append (cfg : Config) (pcm : Pcm σ) (pos m n : Nat) :
    captured cfg pcm pos m ++ captured cfg pcm (pos + m) n = captured cfg pcm pos (m + n) := by
  simp only [captured, List.range_add, List.map_append, List.map_map]
  congr 1
  refine List.map_congr_left fun j _ => ?_
  rw [Function.comp_apply, Nat.add_assoc]

/-- Without a muted call, the frames of a session are the first of the device. -/
theorem delivered_unmuted [Zero σ] (cfg : Config) (pcm : Pcm σ) :
    ∀ (calls : List (Call σ)) (pos : Nat), (∀ c ∈ calls, c.muted = false) →
      delivered cfg pcm pos calls
        = captured cfg pcm pos (calls.map fun c => c.frames cfg).sum := by
  intro calls
  induction calls with
  | nil => exact fun _ _ => rfl
  | cons c rest ih =>
      intro pos hunmuted
      have hc : deliveredBy cfg pcm pos c = captured cfg pcm pos (c.frames cfg) :=
        if_neg (Bool.eq_false_iff.mp (hunmuted c List.mem_cons_self))
      have hrest := ih (pos + c.frames cfg) fun d hd => hunmuted d (List.mem_cons_of_mem _ hd)
      rw [delivered, hc, hrest, List.map_cons, List.sum_cons]
      exact captured_append cfg pcm pos _ _

end Reads

/-- **CAPTURED FRAMES ARE CONSERVED**: while `pcm_read` succeeds, the reads of a
    session return the first frames of the device, cut to the main channels and
    with silence for those of a muted read, and nothing else. -/
theorem capture_conserved [Zero σ] (cfg : Config) (pcm : Pcm σ) (s : StreamIn σ)
    (calls : List (Call σ)) :
    ((∀ k, pcm.status k = 0) → (session cfg pcm s.start calls).isSome)
      ∧ (∀ frames, session cfg pcm s.start calls = some frames →
          frames = delivered cfg pcm 0 calls)
      ∧ ((∀ c ∈ calls, c.muted = false) →
          delivered cfg pcm 0 calls = captured cfg pcm 0 (calls.map fun c => c.frames cfg).sum) := by
  refine ⟨fun hok => ?_, fun frames hframes => ?_, delivered_unmuted cfg pcm calls 0⟩
  · rcases session_spec calls s.start 0 (buffered_start cfg pcm s) with ⟨_, k, hk⟩ | hsome
    · exact absurd (hok k) hk
    · rw [hsome]
      rfl
  · rcases session_spec calls s.start 0 (buffered_start cfg pcm s) with ⟨hnone, _⟩ | hsome
    · rw [hnone] at hframes
      exact nomatch hframes
    · rw [hsome] at hframes
      exact (Option.some.inj hframes).symm

-- ── Three reads of a stereo device ────────────────────────────────────────

/-- A mono stream over a stereo device with periods of two frames. -/
def monoOfStereo : Config where
  channels := 2
  periodSize := 2
  mainChannels := 1
  period_pos := Nat.two_pos
  main_le := Nat.le_succ 1

/-- A device whose sample `n` is `n + 1`. -/
def counting : Pcm Int where
  samples := fun n => n + 1
  status := fun _ => 0

/-- A stream that was just opened. -/
def opened : StreamIn Int where
  reads := 0
  readBuf := fun _ => 0
  readBufSize := 0
  readBufFrames := 0
  readStatus := 0
  procBufOut := fun _ => 0
  procBufSize := 0

/-- A read of `frames` frames into an empty buffer. -/
def readOf (frames : Nat) (muted : Bool) : Call Int where
  bytes := frames * 2
  buffer := fun _ => 0
  muted := muted

theorem capture_conserved_mono :
    session monoOfStereo counting opened.start [readOf 1 false, readOf 3 false]
      = some [[1], [3], [5], [7]] := by
  obtain ⟨hsome, hframes, hunmuted⟩ := capture_conserved monoOfStereo counting opened
    [readOf 1 false, readOf 3 false]
  obtain ⟨frames, hsession⟩ := Option.isSome_iff_exists.mp (hsome fun _ => rfl)
  rw [hsession, hframes frames hsession, hunmuted (by decide)]
  rfl

/-- A muted read returns silence. -/
theorem muted_frames_lost : ¬ ∀ (cfg : Config) (pcm : Pcm Int) (s : StreamIn Int)
    (calls : List (Call Int)), (∀ k, pcm.status k = 0) →
      session cfg pcm s.start calls
        = some (captured cfg pcm 0 (calls.map fun c => c.frames cfg).sum) := by
  intro h
  have hmuted := h monoOfStereo counting opened [readOf 1 true] fun _ => rfl
  exact absurd hmuted (by decide)

end CaptureRead

import Universal7580.LoopProofs
import Universal7580.RilClientProofs

/-! # `blockingWrite`

    A loop that writes until the descriptor has taken everything.  It repeats an
    interrupted write, goes on behind what a short one has taken, and gives up on
    any other error, with the descriptor closed.

    `results` is what the system answers to one `write` after the other, and
    `blockingWrite` how far the loop has come after so many of them.  At any time
    the descriptor has taken the bytes in front of `writeOffset` (`Wrote`), so
    what is behind `delivers` is one invariant; and a `write` that takes nothing
    is no error, so the loop may go on for ever (`waits_iff`). -/

namespace RilWrite

open Loop
open PageBytes (Bytes)

-- ── The loop ─────────────────────────────────────────────────────────────────

def EINTR : Errno := ⟨RilClient.eintr, by decide⟩

/-- What a `write` meets: room for so many bytes, or an error. -/
inductive WriteResult where
  | wrote (room : Nat)
  | failed (errno : Errno)
  deriving DecidableEq

/-- The descriptor: what it has taken, and how often it was closed. -/
structure Fd where
  handed : Bytes := []
  closed : Nat := 0
  deriving DecidableEq

structure St where
  writeOffset : Nat := 0
  fd : Fd := {}
  deriving DecidableEq

structure Result where
  ret : Int
  fd : Fd
  deriving DecidableEq

/-- `while (writeOffset < len)`. -/
def loopHead (toWrite : Bytes) (st : St) : Turn St Result :=
  if st.writeOffset < toWrite.length then .again st else .done { ret := 0, fd := st.fd }

/-- One `write`, and what comes of its result. -/
def turn (toWrite : Bytes) (st : St) : WriteResult → Turn St Result
  | .wrote room =>
      let written := (toWrite.drop st.writeOffset).take room
      loopHead toWrite
        { writeOffset := st.writeOffset + written.length
          fd := { st.fd with handed := st.fd.handed ++ written } }
  | .failed errno =>
      if errno = EINTR then .again st
      else .done { ret := -errno.val, fd := { st.fd with closed := st.fd.closed + 1 } }

/-- `blockingWrite` after `n` results; `none` is `NULL`. -/
def blockingWrite (buffer : Option Bytes) (results : Nat → WriteResult) (n : Nat) :
    Turn St Result :=
  match buffer with
  | none => .done { ret := -1, fd := {} }
  | some toWrite => turns (turn toWrite) results (loopHead toWrite {}) n

def fdOf : Turn St Result → Fd
  | .again st => st.fd
  | .done r => r.fd

/-- What the descriptor has taken after `n` results. -/
def handed (buffer : Option Bytes) (results : Nat → WriteResult) (n : Nat) : Bytes :=
  (fdOf (blockingWrite buffer results n)).handed

/-- It returns `ret`, and leaves the descriptor so. -/
def Returns (buffer : Option Bytes) (results : Nat → WriteResult) (ret : Int) (fd : Fd) : Prop :=
  ∃ n, blockingWrite buffer results n = .done { ret := ret, fd := fd }

/-- The `n`-th `write` was made, and failed for good. -/
def FailsAt (buffer : Option Bytes) (results : Nat → WriteResult) (n : Nat) (errno : Errno) :
    Prop :=
  (∃ st, blockingWrite buffer results n = .again st) ∧ results n = .failed errno ∧ errno ≠ EINTR

-- ── What is promised ─────────────────────────────────────────────────────────

/-- As it may be expected: either everything is written, or a write has failed. -/
structure Promised (buffer : Option Bytes) (results : Nat → WriteResult) : Prop where
  inOrder : ∀ n, handed buffer results n <+: buffer.getD []
  whole : (∃ fd, Returns buffer results 0 fd) ↔ ∃ n, handed buffer results n = buffer.getD []
  otherwise : (¬∃ fd, Returns buffer results 0 fd) →
    ∃ n errno fd, FailsAt buffer results n errno ∧ Returns buffer results (-errno.val) fd
      ∧ fd.closed = 1

/-- No error, and no byte. -/
def Idle : WriteResult → Prop
  | .wrote room => room = 0
  | .failed errno => errno = EINTR

/-- **AS IT IS**: a buffer is written, or a write fails, or the system takes no
    more bytes without an error. -/
structure Delivers (b : Bytes) (results : Nat → WriteResult) : Prop where
  inOrder : ∀ n, handed (some b) results n <+: b
  grows : ∀ n m, n ≤ m → handed (some b) results n <+: handed (some b) results m
  once : ∀ ret fd ret' fd', Returns (some b) results ret fd → Returns (some b) results ret' fd' →
    ret = ret' ∧ fd = fd'
  whole : (∃ fd, Returns (some b) results 0 fd) ↔ ∃ n, handed (some b) results n = b
  unclosed : ∀ fd, Returns (some b) results 0 fd → fd = { handed := b, closed := 0 }
  failed : ∀ ret fd, ret ≠ 0 → (Returns (some b) results ret fd ↔
    ∃ n errno, FailsAt (some b) results n errno ∧ ret = -errno.val
      ∧ fd = { handed := handed (some b) results n, closed := 1 })
  waits : (∀ ret fd, ¬Returns (some b) results ret fd) ↔
    ∃ n, (∃ st, blockingWrite (some b) results n = .again st) ∧ ∀ k, n ≤ k → Idle (results k)

-- ── What a turn does ─────────────────────────────────────────────────────────

/-- The descriptor is open and has taken what is in front of the offset. -/
structure Wrote (toWrite : Bytes) (st : St) : Prop where
  handed : st.fd.handed = toWrite.take st.writeOffset
  inside : st.writeOffset < toWrite.length
  unclosed : st.fd.closed = 0

/-- How the loop ends. -/
def Ended (toWrite : Bytes) (r : Result) : Prop :=
  r = { ret := 0, fd := { handed := toWrite, closed := 0 } }
    ∨ ∃ errno : Errno, errno ≠ EINTR ∧ r.ret = -errno.val ∧ r.fd.closed = 1
      ∧ ∃ n, n < toWrite.length ∧ r.fd.handed = toWrite.take n

section Turns

variable {toWrite : Bytes} {results : Nat → WriteResult} {st st' : St} {n : Nat}

theorem loopHead_holds {fd : Fd} {offset : Nat} (hhanded : fd.handed = toWrite.take offset)
    (hclosed : fd.closed = 0) :
    (loopHead toWrite { writeOffset := offset, fd := fd }).Holds (Wrote toWrite)
      (Ended toWrite) := by
  rw [loopHead]
  by_cases hlt : offset < toWrite.length
  · rw [if_pos hlt]
    exact ⟨hhanded, hlt, hclosed⟩
  · rw [if_neg hlt]
    refine Or.inl ?_
    obtain ⟨h, c⟩ := fd
    obtain rfl : c = 0 := hclosed
    obtain rfl : h = toWrite := hhanded.trans (List.take_of_length_le (Nat.le_of_not_lt hlt))
    rfl

/-- What a short write takes is the next part of the buffer. -/
theorem take_add_written (offset room : Nat) :
    toWrite.take offset ++ (toWrite.drop offset).take room
      = toWrite.take (offset + ((toWrite.drop offset).take room).length) := by
  rw [List.length_take, List.take_add]
  congr 1
  rw [List.take_eq_take_iff]
  omega

/-- **ONE WRITE**. -/
theorem turn_holds (h : Wrote toWrite st) (result : WriteResult) :
    (turn toWrite st result).Holds (Wrote toWrite) (Ended toWrite) := by
  cases result with
  | wrote room =>
      refine loopHead_holds ?_ h.unclosed
      show st.fd.handed ++ _ = _
      rw [h.handed]
      exact take_add_written st.writeOffset room
  | failed errno =>
      rw [turn]
      by_cases hintr : errno = EINTR
      · rw [if_pos hintr]
        exact h
      · rw [if_neg hintr]
        refine Or.inr ⟨errno, hintr, rfl, ?_, st.writeOffset, h.inside, h.handed⟩
        show st.fd.closed + 1 = 1
        rw [h.unclosed]

/-- **ALL WRITES**. -/
theorem blockingWrite_holds (b : Bytes) (results : Nat → WriteResult) (n : Nat) :
    (blockingWrite (some b) results n).Holds (Wrote b) (Ended b) :=
  turns_invariant (loopHead_holds (by rw [List.take_zero]) rfl)
    (fun k _ _ h => turn_holds h (results k)) n

theorem again_wrote (h : blockingWrite (some toWrite) results n = .again st) :
    Wrote toWrite st := by
  have hholds := blockingWrite_holds toWrite results n
  rw [h] at hholds
  exact hholds

theorem done_ended {r : Result} (h : blockingWrite (some toWrite) results n = .done r) :
    Ended toWrite r := by
  have hholds := blockingWrite_holds toWrite results n
  rw [h] at hholds
  exact hholds

/-- What is still to be written. -/
def left (toWrite : Bytes) (st : St) : Nat := toWrite.length - st.writeOffset

/-- A turn that goes on has written something, or was idle. -/
theorem turn_again (h : Wrote toWrite st) {result : WriteResult}
    (hturn : turn toWrite st result = .again st') :
    left toWrite st' < left toWrite st ∨ (Idle result ∧ st' = st) := by
  have hinside := h.inside
  cases result with
  | wrote room =>
      rw [turn, loopHead] at hturn
      split at hturn
      · rename_i hlt
        obtain rfl := Turn.again.inj hturn
        rw [List.length_take, List.length_drop] at hlt
        cases room with
        | zero =>
            refine Or.inr ⟨rfl, ?_⟩
            simp
        | succ room =>
            refine Or.inl ?_
            simp only [left, List.length_take, List.length_drop]
            omega
      · cases hturn
  | failed errno =>
      rw [turn] at hturn
      split at hturn
      · rename_i hintr
        exact Or.inr ⟨hintr, (Turn.again.inj hturn).symm⟩
      · cases hturn

/-- An idle turn changes nothing. -/
theorem turn_idle (h : Wrote toWrite st) {result : WriteResult} (hidle : Idle result) :
    turn toWrite st result = .again st := by
  cases result with
  | wrote room =>
      obtain rfl : room = 0 := hidle
      rw [turn]
      simp [loopHead, h.inside]
  | failed errno => exact if_pos hidle

/-- The last turn. -/
theorem turn_done (h : Wrote toWrite st) {result : WriteResult} {r : Result}
    (hturn : turn toWrite st result = .done r) (hret : r.ret ≠ 0) :
    ∃ errno, result = .failed errno ∧ errno ≠ EINTR ∧ r.ret = -errno.val
      ∧ r.fd = { handed := st.fd.handed, closed := 1 } := by
  cases result with
  | wrote room =>
      rw [turn, loopHead] at hturn
      split at hturn
      · cases hturn
      · obtain rfl := Turn.done.inj hturn
        exact absurd rfl hret
  | failed errno =>
      rw [turn] at hturn
      split at hturn
      · cases hturn
      · rename_i hintr
        obtain rfl := Turn.done.inj hturn
        refine ⟨errno, rfl, hintr, rfl, ?_⟩
        show ({ handed := st.fd.handed, closed := st.fd.closed + 1 } : Fd) = _
        rw [h.unclosed]

theorem turn_failed (h : Wrote toWrite st) {errno : Errno} (hintr : errno ≠ EINTR) :
    turn toWrite st (.failed errno)
      = .done { ret := -errno.val, fd := { handed := st.fd.handed, closed := 1 } } := by
  rw [turn, if_neg hintr, h.unclosed]

end Turns

-- ── From turns to runs ───────────────────────────────────────────────────────

section Runs

variable {b : Bytes} {results : Nat → WriteResult} {n : Nat}

theorem fdOf_loopHead (toWrite : Bytes) (st : St) : fdOf (loopHead toWrite st) = st.fd := by
  rw [loopHead]
  split
  · rfl
  · rfl

/-- What was taken stays taken. -/
theorem turn_handed (toWrite : Bytes) (st : St) (result : WriteResult) :
    st.fd.handed <+: (fdOf (turn toWrite st result)).handed := by
  cases result with
  | wrote room =>
      rw [turn, fdOf_loopHead]
      exact List.prefix_append _ _
  | failed errno =>
      rw [turn]
      split
      · exact List.prefix_refl _
      · exact List.prefix_refl _

theorem turn_offset {toWrite : Bytes} {st st' : St} {result : WriteResult}
    (hturn : turn toWrite st result = .again st') : st.writeOffset ≤ st'.writeOffset := by
  cases result with
  | wrote room =>
      rw [turn, loopHead] at hturn
      split at hturn
      · obtain rfl := Turn.again.inj hturn
        exact Nat.le_add_right _ _
      · cases hturn
  | failed errno =>
      rw [turn] at hturn
      split at hturn
      · obtain rfl := Turn.again.inj hturn
        exact Nat.le_refl _
      · cases hturn

theorem handed_again {st : St} (h : blockingWrite (some b) results n = .again st) :
    handed (some b) results n = st.fd.handed := by
  rw [handed, h]
  rfl

theorem handed_done {r : Result} (h : blockingWrite (some b) results n = .done r) :
    handed (some b) results n = r.fd.handed := by
  rw [handed, h]
  rfl

/-- **A PREFIX**, at any time. -/
theorem handed_inOrder (b : Bytes) (results : Nat → WriteResult) (n : Nat) :
    handed (some b) results n <+: b := by
  cases h : blockingWrite (some b) results n with
  | again st =>
      rw [handed_again h, (again_wrote h).handed]
      exact List.take_prefix _ _
  | done r =>
      rw [handed_done h]
      rcases done_ended h with rfl | ⟨-, -, -, -, k, -, hk⟩
      · exact List.prefix_refl _
      · rw [hk]
        exact List.take_prefix _ _

theorem handed_succ (b : Bytes) (results : Nat → WriteResult) (n : Nat) :
    handed (some b) results n <+: handed (some b) results (n + 1) := by
  cases h : blockingWrite (some b) results n with
  | again st =>
      have hnext : blockingWrite (some b) results (n + 1) = turn b st (results n) := turns_again h
      rw [handed_again h, handed, hnext]
      exact turn_handed b st (results n)
  | done r =>
      have hnext : blockingWrite (some b) results (n + 1) = .done r := turns_done h
      have hsame := (handed_done h).trans (handed_done hnext).symm
      exact hsame ▸ List.prefix_refl _

theorem handed_le (b : Bytes) (results : Nat → WriteResult) {n m : Nat} (hle : n ≤ m) :
    handed (some b) results n <+: handed (some b) results m := by
  induction hle with
  | refl => exact List.prefix_refl _
  | step _ ih => exact ih.trans (handed_succ b results _)

theorem neg_errno_ne_zero (errno : Errno) : (-errno.val : Int) ≠ 0 := by
  have hpos := errno.property
  omega

/-- What is left out is not the whole. -/
theorem take_ne_self {k : Nat} (hk : k < b.length) : b.take k ≠ b := by
  intro heq
  have hlen := congrArg List.length heq
  rw [List.length_take] at hlen
  omega

/-- It returns once. -/
theorem returns_once {ret ret' : Int} {fd fd' : Fd} (h : Returns (some b) results ret fd)
    (h' : Returns (some b) results ret' fd') : ret = ret' ∧ fd = fd' := by
  have hends : Ends (turn b) results (loopHead b {}) { ret := ret, fd := fd } := h
  exact Result.mk.inj (hends.unique h')

/-- Zero is returned when the whole buffer is taken, and the descriptor is open. -/
theorem returns_zero {fd : Fd} (h : Returns (some b) results 0 fd) :
    fd = { handed := b, closed := 0 } := by
  obtain ⟨n, hn⟩ := h
  rcases done_ended hn with heq | ⟨errno, -, hret, -⟩
  · exact (Result.mk.inj heq).2
  · exact absurd hret.symm (neg_errno_ne_zero errno)

/-- **ZERO** is returned exactly when the whole buffer is taken. -/
theorem returns_zero_iff : (∃ fd, Returns (some b) results 0 fd)
    ↔ ∃ n, handed (some b) results n = b := by
  constructor
  · rintro ⟨fd, hret⟩
    have hfd := returns_zero hret
    obtain ⟨n, hn⟩ := hret
    refine ⟨n, ?_⟩
    rw [handed_done hn, hfd]
  · rintro ⟨n, hn⟩
    cases h : blockingWrite (some b) results n with
    | again st =>
        rw [handed_again h, (again_wrote h).handed] at hn
        exact absurd hn (take_ne_self (again_wrote h).inside)
    | done r =>
        rw [handed_done h] at hn
        rcases done_ended h with heq | ⟨-, -, -, -, k, hk, htake⟩
        · exact ⟨_, n, h.trans (congrArg Turn.done heq)⟩
        · exact absurd (htake.symm.trans hn) (take_ne_self hk)

/-- **AN ERROR** is returned exactly when a write fails for good. -/
theorem returns_error_iff {ret : Int} {fd : Fd} (hret : ret ≠ 0) :
    Returns (some b) results ret fd ↔ ∃ n errno, FailsAt (some b) results n errno
      ∧ ret = -errno.val ∧ fd = { handed := handed (some b) results n, closed := 1 } := by
  constructor
  · rintro ⟨n, hn⟩
    rcases last_turn hn with hstart | ⟨k, st, hagain, hdone⟩
    · rw [loopHead] at hstart
      split at hstart
      · cases hstart
      · exact absurd (Result.mk.inj (Turn.done.inj hstart)).1.symm hret
    · obtain ⟨errno, hfailed, hintr, hval, hfd⟩ := turn_done (again_wrote hagain) hdone hret
      refine ⟨k, errno, ⟨⟨st, hagain⟩, hfailed, hintr⟩, hval, ?_⟩
      rw [handed_again hagain]
      exact hfd
  · rintro ⟨n, errno, ⟨⟨st, hagain⟩, hfailed, hintr⟩, rfl, rfl⟩
    refine ⟨n + 1, ?_⟩
    rw [handed_again hagain, ← turn_failed (again_wrote hagain) hintr, ← hfailed]
    exact turns_again hagain

/-- **FOR EVER**: the loop does not end exactly when the system, with bytes left,
    takes no more of them and does not say why. -/
theorem waits_iff : (∀ ret fd, ¬Returns (some b) results ret fd) ↔
    ∃ n, (∃ st, blockingWrite (some b) results n = .again st) ∧ ∀ k, n ≤ k → Idle (results k) := by
  constructor
  · intro hnever
    have hgoes : GoesOn (turn b) results (loopHead b {}) := by
      refine goesOn_iff.mpr ?_
      rintro r ⟨n, hn⟩
      exact hnever r.ret r.fd ⟨n, hn⟩
    have hleft : ∀ st a st', turn b st a = .again st' → left b st' ≤ left b st :=
      fun _ _ _ hturn => Nat.sub_le_sub_left (turn_offset hturn) _
    obtain ⟨N, m, hstill⟩ := goesOn_still hgoes hleft
    refine ⟨N, hgoes N, ?_⟩
    intro k hk
    obtain ⟨st, hst⟩ := hgoes k
    obtain ⟨st', hst'⟩ := hgoes (k + 1)
    have hturn := hst'
    rw [turns_again hst] at hturn
    rcases turn_again (again_wrote hst) hturn with hless | ⟨hidle, -⟩
    · have hsame := hstill k st hk hst
      have hsame' := hstill (k + 1) st' (Nat.le_succ_of_le hk) hst'
      omega
    · exact hidle
  · rintro ⟨n, ⟨st, hagain⟩, hidle⟩ ret fd ⟨m, hm⟩
    -- the state at `n` is the state ever after
    have hforever : ∀ k, blockingWrite (some b) results (n + k) = .again st := by
      intro k
      induction k with
      | zero => exact hagain
      | succ k ih =>
          have hturn := turn_idle (again_wrote ih) (hidle (n + k) (Nat.le_add_right n k))
          exact (turns_again ih).trans hturn
    have hlate : blockingWrite (some b) results (n + m) = .done { ret := ret, fd := fd } :=
      turns_le hm (Nat.le_add_left m n)
    rw [hforever m] at hlate
    cases hlate

end Runs

/-- **`blockingWrite`** hands out a prefix of the buffer, returns zero when that is
    the whole of it and an error when a write has failed, and waits as long as
    neither happens. -/
theorem delivers (b : Bytes) (results : Nat → WriteResult) :
    Delivers b results ∧ (∀ n, blockingWrite none results n = .done { ret := -1, fd := {} }) := by
  refine ⟨⟨handed_inOrder b results, ?_, ?_, returns_zero_iff, fun _ => returns_zero, ?_,
    waits_iff⟩, fun _ => rfl⟩
  · exact fun n m hle => handed_le b results hle
  · exact fun ret fd ret' fd' h h' => returns_once h h'
  · exact fun ret fd hret => returns_error_iff hret

/-- A descriptor that takes no byte and reports no error, and no buffer at all. -/
theorem write_not_promised : ¬Promised (some [0]) (fun _ => .wrote 0)
    ∧ ¬Promised none (fun _ => .wrote 0) := by
  constructor
  · intro h
    have hwaits : ∀ ret fd, ¬Returns (some [0]) (fun _ => .wrote 0) ret fd :=
      waits_iff.mpr ⟨0, ⟨{}, rfl⟩, fun _ _ => rfl⟩
    obtain ⟨n, errno, fd, -, hreturns, -⟩ := h.otherwise (fun ⟨fd, hzero⟩ => hwaits 0 fd hzero)
    exact hwaits _ fd hreturns
  · intro h
    obtain ⟨fd, n, hzero⟩ := h.whole.mpr ⟨0, rfl⟩
    exact absurd (Result.mk.inj (Turn.done.inj hzero)).1 (by decide)

-- ── The client's own writes ──────────────────────────────────────────────────

/-- The same result for `RilClient.blockingWrite`, which takes as many results as it
    asks for off a list. -/
def WriteResult.toClient : WriteResult → RilClient.WriteResult
  | .wrote room => .wrote room
  | .failed errno => .failed errno.val

/-- Its return value, and how often it closes the descriptor. -/
def clientView (w : RilClient.Written) : Int × Nat :=
  (w.ret, w.calls.countP fun call => match call with | .close _ => true | _ => false)

def view : Turn St Result → Option (Int × Nat)
  | .again _ => none
  | .done r => some (r.ret, r.fd.closed)

/-- One result more in front of those that are left. -/
theorem view_map {fd : Int} {offered : Bytes} (w : Option RilClient.Written) :
    (w.map fun r => { r with calls := .write fd offered :: r.calls }).map clientView
      = w.map clientView := by
  cases w with
  | none => rfl
  | some w =>
      show some (clientView _) = some (clientView _)
      simp [clientView]

/-- Behind what was written is behind the room for it. -/
theorem drop_written (toWrite : Bytes) (offset room : Nat) :
    toWrite.drop (offset + room)
      = toWrite.drop (offset + ((toWrite.drop offset).take room).length) := by
  rw [List.length_take, List.length_drop]
  rcases Nat.le_total room (toWrite.length - offset) with hle | hle
  · rw [Nat.min_eq_left hle]
  · rw [Nat.min_eq_right hle, List.drop_of_length_le (by omega),
      List.drop_of_length_le (by omega)]

section Client

variable {toWrite : Bytes} {st : St}

/-- Bytes are left, and room for some of them. -/
theorem client_wrote (fd : Int) (hlt : st.writeOffset < toWrite.length) (room : Nat)
    (answers : List RilClient.WriteResult) :
    (RilClient.blockingWrite fd (toWrite.drop st.writeOffset) (.wrote room :: answers)).map
        clientView
      = (RilClient.blockingWrite fd
          (toWrite.drop (st.writeOffset + ((toWrite.drop st.writeOffset).take room).length))
          answers).map clientView := by
  rw [← drop_written, ← List.drop_drop, List.drop_eq_getElem_cons hlt, RilClient.blockingWrite,
    view_map]

/-- Bytes are left, and an error. -/
theorem client_failed (fd : Int) (hlt : st.writeOffset < toWrite.length) (errno : Errno)
    (answers : List RilClient.WriteResult) :
    (RilClient.blockingWrite fd (toWrite.drop st.writeOffset) (.failed errno.val :: answers)).map
        clientView
      = if errno = EINTR then
          (RilClient.blockingWrite fd (toWrite.drop st.writeOffset) answers).map clientView
        else some (-errno.val, 1) := by
  have hval : errno.val = RilClient.eintr ↔ errno = EINTR :=
    ⟨fun heq => Subtype.ext heq, fun heq => congrArg Subtype.val heq⟩
  rw [List.drop_eq_getElem_cons hlt, RilClient.blockingWrite]
  by_cases hintr : errno = EINTR
  · rw [if_pos (hval.mpr hintr), if_pos hintr, view_map]
  · rw [if_neg (hval.not.mpr hintr), if_neg hintr]
    rfl

/-- No bytes are left. -/
theorem client_whole (fd : Int) (hwhole : ¬st.writeOffset < toWrite.length)
    (hclosed : st.fd.closed = 0) (answers : List RilClient.WriteResult)
    (results : Nat → WriteResult) (n : Nat) :
    (RilClient.blockingWrite fd (toWrite.drop st.writeOffset) answers).map clientView
      = view (turns (turn toWrite) results (loopHead toWrite st) n) := by
  rw [loopHead, if_neg hwhole, turns_of_done, List.drop_of_length_le (Nat.le_of_not_lt hwhole),
    RilClient.blockingWrite]
  show some ((0 : Int), 0) = some (0, st.fd.closed)
  rw [hclosed]

/-- **RESULT BY RESULT**, from any place in the buffer. -/
theorem client_turns (fd : Int) (toWrite : Bytes) : ∀ (n : Nat) (results : Nat → WriteResult)
    (st : St), st.fd.closed = 0 →
    (RilClient.blockingWrite fd (toWrite.drop st.writeOffset)
        ((List.range n).map fun k => (results k).toClient)).map clientView
      = view (turns (turn toWrite) results (loopHead toWrite st) n) := by
  intro n
  induction n with
  | zero =>
      intro results st hclosed
      by_cases hlt : st.writeOffset < toWrite.length
      · rw [loopHead, if_pos hlt, List.drop_eq_getElem_cons hlt]
        rfl
      · exact client_whole fd hlt hclosed _ results 0
  | succ n ih =>
      intro results st hclosed
      by_cases hlt : st.writeOffset < toWrite.length
      · have hresults : (List.range (n + 1)).map (fun k => (results k).toClient)
            = (results 0).toClient :: (List.range n).map fun k => (results (k + 1)).toClient := by
          rw [List.range_succ_eq_map, List.map_cons, List.map_map]
          rfl
        have hhead : loopHead toWrite st = .again st := if_pos hlt
        rw [hresults, hhead, turns_succ]
        cases results 0 with
        | wrote room =>
            rw [WriteResult.toClient, client_wrote fd hlt]
            exact ih (fun k => results (k + 1))
              { writeOffset := st.writeOffset + ((toWrite.drop st.writeOffset).take room).length
                fd := { st.fd with
                  handed := st.fd.handed ++ (toWrite.drop st.writeOffset).take room } } hclosed
        | failed errno =>
            rw [WriteResult.toClient, client_failed fd hlt, turn]
            by_cases hintr : errno = EINTR
            · rw [if_pos hintr, if_pos hintr, ← hhead]
              exact ih (fun k => results (k + 1)) st hclosed
            · rw [if_neg hintr, if_neg hintr, turns_of_done]
              show some (_, _) = some (_, st.fd.closed + 1)
              rw [hclosed]
      · exact client_whole fd hlt hclosed _ results (n + 1)

end Client

/-- **THE CLIENT** writes its requests with this loop: as many results do, and with
    the same outcome. -/
theorem client_blockingWrite (fd : Int) (b : Bytes) (results : Nat → WriteResult) (n : Nat) :
    (RilClient.blockingWrite fd b ((List.range n).map fun k => (results k).toClient)).map clientView
      = view (blockingWrite (some b) results n) :=
  client_turns fd b n results {} rfl

end RilWrite

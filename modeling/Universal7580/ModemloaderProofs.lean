import Universal7580.CStringsProofs
import Universal7580.LinesProofs
import Universal7580.LoopProofs
import Universal7580.StrtolProofs

/-! # `modemloader`

    The revision of the board is a line of `/proc/cpuinfo`.  The file is read into
    a buffer that grows: as long as a `read` fills it, it is doubled and read on.
    A `read` that leaves room is taken to be the last, whether the file has ended
    or not, so the number is found if it came before the first such `read`
    (`meets_iff`), and for any file that has one there is a way to deliver it in
    which it is not found (`promised_iff`).

    What was read is searched for a line behind another that starts with
    `Revision`, so the first line is never found; and then for the first `": "`
    from there on, in that line or in a later one.

    No access leaves the buffer, whatever the system does (`parse_isSome`). -/

namespace Modemloader

open CStrings Lines Loop Scanf Strtol

-- ── Reading ──────────────────────────────────────────────────────────────────

/-- The buffer, of which some cells were never written, and the two counters.
    `realloc` does not return more than the address space has, so `limit` can be
    doubled. -/
structure Reading where
  data : List (Option Char) := []
  len : Nat := 0
  limit : Nat := 1024

/-- What a turn is answered: whether there is memory, and how much `read` gives at
    most; `none` is an error. -/
structure Answer where
  realloc : Bool
  read : Option Nat

/-- How the loop is left. -/
inductive Stop where
  /-- `goto done` -/
  | gaveUp
  /-- A write outside the buffer. -/
  | outside
  | read (data : List (Option Char)) (len : Nat)
  deriving DecidableEq

/-- The old cells are kept. -/
def realloc (data : List (Option Char)) (limit : Nat) : List (Option Char) :=
  data ++ List.replicate (limit - data.length) none

/-- A `read` of up to `count` characters gives one at least, unless the file has ended. -/
def read (most count : Nat) (file : List Char) : List Char := file.take (min (max 1 most) count)

/-- Characters are stored from cell `start` on. -/
def store (data : List (Option Char)) (start : Nat) (chunk : List Char) :
    Option (List (Option Char)) :=
  if start + chunk.length ≤ data.length then
    some (data.take start ++ (chunk.map some ++ data.drop (start + chunk.length)))
  else none

/-- The loop of `parse_hardware_revision`. -/
def turn (content : List Char) (st : Reading) (a : Answer) : Turn Reading Stop :=
  if a.realloc = false then .done .gaveUp
  else
    let data := realloc st.data st.limit
    match a.read with
    | none => .done .gaveUp
    | some most =>
        let chunk := read most (st.limit - st.len) (content.drop st.len)
        match store data st.len chunk with
        | none => .done .outside
        | some data =>
            let len := st.len + chunk.length
            if len < st.limit then .done (.read data len)
            -- the buffer is full: double it and read on
            else .again { data := data, len := len, limit := st.limit * 2 }

-- ── Parsing ──────────────────────────────────────────────────────────────────

def revisionWord : List Char := "Revision".toList
def colon : List Char := ": ".toList

/-- What is behind the `": "` that the two searches find. -/
def field (text : List Char) : Option (List Char) :=
  ((strstr ('\n' :: revisionWord) text).bind (strstr colon)).map (List.drop 2)

/-- `*revision`, after the text was parsed. -/
def revisionOf (LONG_BIT : Nat) (text : List Char) (revision : UInt32) : UInt32 :=
  match field text with
  | none => revision
  | some x => UInt32.ofNat (strtoul LONG_BIT 16 x)

/-- The string in the buffer; `none` if it does not end there or has a cell that was
    never written. -/
def stringIn : List (Option Char) → Option (List Char)
  | [] => none
  | none :: _ => none
  | some c :: rest => if c = NUL then some [] else (stringIn rest).map (c :: ·)

/-- What follows the loop; `none` is an access outside the buffer. -/
def afterLoop (LONG_BIT : Nat) (revision : UInt32) : Stop → Option UInt32
  | .gaveUp => some revision
  | .outside => none
  | .read data len =>
      if len < data.length then
        (stringIn (data.set len (some NUL))).map fun text => revisionOf LONG_BIT text revision
      else none

/-- `parse_hardware_revision`: the revision that it leaves.  `none` for `cpuinfo` is a
    file that does not open, and as a result an access outside the buffer or a loop
    with more turns than the file has characters. -/
def parseHardwareRevision (LONG_BIT : Nat) (cpuinfo : Option (List Char)) (answers : Nat → Answer)
    (revision : UInt32) : Option UInt32 :=
  match cpuinfo with
  | none => some revision
  | some content =>
      match turns (turn content) answers (.again {}) (content.length + 1) with
      | .again _ => none
      | .done stop => afterLoop LONG_BIT revision stop

def PROP_VALUE_MAX : Nat := 92

/-- `main`: the properties, in the order they are set.  `hwRev` is `ro.boot.hw_rev`, or
    zero. -/
def main (LONG_BIT : Nat) (hwRev : Int32) (cpuinfo : Option (List Char))
    (answers : Nat → Answer) : Option (List (String × List Char)) :=
  let revision := hwRev.toUInt32
  let parsed :=
    if revision = 0 then parseHardwareRevision LONG_BIT cpuinfo answers revision
    else some revision
  parsed.map fun revision =>
    let hardwareRevision := (decimal revision.toInt32.toInt).take (PROP_VALUE_MAX - 1)
    [("hw.revision", hardwareRevision), ("ro.cbd.dt_revision", hardwareRevision),
      ("ril.cbd.dt_revision", hardwareRevision), ("ro.modemloader.done", ['1'])]

-- ── What is promised ─────────────────────────────────────────────────────────

/-- Memory is found and no `read` fails. -/
def granting (most : Nat → Nat) (n : Nat) : Answer := { realloc := true, read := some (most n) }

/-- The first line that starts with `Revision`. -/
def revisionLine (content : List Char) : Option (List Char) :=
  (lines content).find? fun line => revisionWord <+: line

/-- The hexadecimal number that a text starts with. -/
def hexNumber (s : List Char) : Option Nat :=
  let s := s.dropWhile isSpace
  let digits := (s.drop (takePrefix 2 s).length).takeWhile isHex
  if digits = [] then none else some (hexNat digits)

/-- The number behind the first `": "` of that line. -/
def number (content : List Char) : Option Nat :=
  (revisionLine content).bind fun line => (strstr colon line).bind fun x => hexNumber (x.drop 2)

/-- What the file says, against what was there. -/
structure Says (content : List Char) (revision r : UInt32) : Prop where
  found : ∀ v, number content = some v → r.toNat = v
  unchanged : number content = none → r = revision

/-- The file is understood when it is delivered in this way. -/
def Meets (LONG_BIT : Nat) (content : List Char) (most : Nat → Nat) : Prop :=
  ∀ revision, ∃ r, parseHardwareRevision LONG_BIT (some content) (granting most) revision = some r
    ∧ Says content revision r

/-- **THE SAME**, and the right one, in whatever way the file is delivered. -/
structure Promised (LONG_BIT : Nat) (content : List Char) : Prop where
  meets : ∀ most, Meets LONG_BIT content most
  same : ∀ most most' revision,
    parseHardwareRevision LONG_BIT (some content) (granting most) revision
      = parseHardwareRevision LONG_BIT (some content) (granting most') revision

/-- Where the `n`-th `read` starts, if all before it have filled the buffer. -/
def starts : Nat → Nat
  | 0 => 0
  | n + 1 => 1024 * 2 ^ n

/-- Every `read` in front of `needed` fills the buffer or gets there. -/
def Reaches (most : Nat → Nat) (needed : Nat) : Prop :=
  ∀ n, starts n < needed → min needed (starts (n + 1)) ≤ starts n + max 1 (most n)

-- ── What a turn does ─────────────────────────────────────────────────────────

/-- The cells of the buffer in front of `len` are what the file starts with. -/
structure Read (content : List Char) (st : Reading) : Prop where
  data : st.data = (content.take st.len).map some
  room : st.len < st.limit
  inside : st.len ≤ content.length

/-- How the loop is left, in the end: with a part of the file and room behind it. -/
def Stopped (content : List Char) (stop : Stop) : Prop :=
  stop = .gaveUp ∨ ∃ len room, len ≤ content.length
    ∧ stop = .read ((content.take len).map some ++ List.replicate (room + 1) none) len

section Turns

variable {content : List Char} {st : Reading}

/-- How many characters a `read` gives. -/
theorem length_read (most count : Nat) (file : List Char) :
    (read most count file).length = min (min (max 1 most) count) file.length := by
  rw [read, List.length_take]

/-- Characters are stored behind those that are there, in cells that were not written. -/
theorem store_spec (xs chunk : List Char) {room : Nat} (hroom : chunk.length ≤ room) :
    store (xs.map some ++ List.replicate room none) xs.length chunk
      = some ((xs ++ chunk).map some ++ List.replicate (room - chunk.length) none) := by
  have hfront : (xs.map some).length = xs.length := List.length_map some
  rw [store, if_pos]
  · rw [List.take_left' hfront, ← hfront, List.drop_append, List.drop_of_length_le (by omega),
      List.nil_append, List.drop_replicate, List.map_append, List.append_assoc,
      Nat.add_sub_cancel_left]
  · rw [List.length_append, hfront, List.length_replicate]
    omega

/-- **ONE READ**: what it gives is stored behind what was there. -/
theorem turn_read (h : Read content st) (most : Nat) {len : Nat}
    (hlen : len = min content.length (st.len + min (max 1 most) (st.limit - st.len))) :
    turn content st { realloc := true, read := some most }
      = if len < st.limit then
          .done (.read ((content.take len).map some ++ List.replicate (st.limit - len) none) len)
        else .again { data := (content.take len).map some, len := len, limit := st.limit * 2 } := by
  have hroom := h.room
  have hinside := h.inside
  have htake : (content.take st.len).length = st.len := List.length_take_of_le hinside
  have hchunk : st.len + (read most (st.limit - st.len) (content.drop st.len)).length = len := by
    rw [length_read, List.length_drop, hlen]
    omega
  have hall : content.take st.len ++ read most (st.limit - st.len) (content.drop st.len)
      = content.take len := by
    rw [read, ← List.take_add, List.take_eq_take_iff]
    omega
  have hstore : store (realloc st.data st.limit) st.len
      (read most (st.limit - st.len) (content.drop st.len))
      = some ((content.take len).map some ++ List.replicate (st.limit - len) none) := by
    have hspec := @store_spec (content.take st.len)
      (read most (st.limit - st.len) (content.drop st.len)) (st.limit - st.len) (by omega)
    rw [htake, hall] at hspec
    rw [realloc, h.data, List.length_map, htake, hspec, ← hchunk, Nat.sub_add_eq]
  rw [turn, if_neg (by simp)]
  dsimp only
  rw [hstore]
  dsimp only
  rw [hchunk]
  split
  · rfl
  · have hfull : st.limit - len = 0 := by omega
    rw [hfull, List.replicate_zero, List.append_nil]

/-- **ONE TURN**, whatever the system answers. -/
theorem turn_holds (h : Read content st) (a : Answer) :
    (turn content st a).Holds (Read content) (Stopped content) := by
  obtain ⟨memory, given⟩ := a
  cases memory with
  | false => exact Or.inl rfl
  | true =>
      cases given with
      | none => exact Or.inl rfl
      | some most =>
          have hroom := h.room
          have hinside := h.inside
          rw [turn_read h most rfl]
          generalize hlen : min content.length (st.len + min (max 1 most) (st.limit - st.len)) = len
          by_cases hlt : len < st.limit
          · rw [if_pos hlt]
            refine Or.inr ⟨len, st.limit - len - 1, by omega, ?_⟩
            rw [Nat.sub_add_cancel (by omega)]
          · rw [if_neg hlt]
            refine ⟨rfl, ?_, ?_⟩
            · show len < st.limit * 2
              omega
            · show len ≤ content.length
              omega

/-- A turn that goes on has filled the buffer. -/
theorem turn_again (h : Read content st) {a : Answer} {st' : Reading}
    (hturn : turn content st a = .again st') : content.length - st'.len < content.length - st.len := by
  obtain ⟨memory, given⟩ := a
  cases memory with
  | false => cases hturn
  | true =>
      cases given with
      | none => cases hturn
      | some most =>
          have hroom := h.room
          have hinside := h.inside
          rw [turn_read h most rfl] at hturn
          split at hturn
          · cases hturn
          · obtain rfl := Turn.again.inj hturn
            show content.length - min content.length _ < _
            omega

end Turns

-- ── The whole loop ───────────────────────────────────────────────────────────

section Loops

variable {content : List Char} {answers : Nat → Answer} {most : Nat → Nat}

theorem turns_holds (content : List Char) (answers : Nat → Answer) (n : Nat) :
    (turns (turn content) answers (.again {}) n).Holds (Read content) (Stopped content) := by
  have hempty : Read content {} := ⟨rfl, by decide, Nat.zero_le _⟩
  have hstart : Turn.Holds (Read content) (Stopped content) (.again {}) := hempty
  exact turns_invariant hstart (fun _ _ _ h => turn_holds h _) n

theorem again_read {n : Nat} {st : Reading}
    (h : turns (turn content) answers (.again {}) n = .again st) : Read content st := by
  have hholds := turns_holds content answers n
  rw [h] at hholds
  exact hholds

/-- **THE LOOP ENDS**, within as many turns as the file has characters. -/
theorem turns_end (content : List Char) (answers : Nat → Answer) :
    ∃ stop, turns (turn content) answers (.again {}) (content.length + 1) = .done stop
      ∧ Stopped content stop := by
  have hends : ∃ stop, turns (turn content) answers (.again {}) (content.length + 1)
      = .done stop := by
    refine ends_of_variant (turns_holds content answers)
      (fun _ _ _ h hturn => turn_again h hturn) ?_
    intro st hst
    obtain rfl := Turn.again.inj hst
    exact Nat.lt_succ_self _
  obtain ⟨stop, hstop⟩ := hends
  have hholds := turns_holds content answers (content.length + 1)
  rw [hstop] at hholds
  exact ⟨stop, hstop, hholds⟩

/-- A string with its NUL is read up to the NUL. -/
theorem stringIn_spec (xs : List Char) (rest : List (Option Char)) :
    stringIn (xs.map some ++ some NUL :: rest) = some (cstr xs) := by
  induction xs with
  | nil => rfl
  | cons c xs ih =>
      rw [List.map_cons, List.cons_append, stringIn]
      by_cases hc : c = NUL
      · rw [if_pos hc, hc]
        rfl
      · rw [if_neg hc, ih, cstr_cons_of_ne hc]
        rfl

/-- **THE TERMINATOR** has its cell, and the searches end there. -/
theorem afterLoop_read (LONG_BIT : Nat) (revision : UInt32) {len : Nat}
    (hlen : len ≤ content.length) (room : Nat) :
    afterLoop LONG_BIT revision
        (.read ((content.take len).map some ++ List.replicate (room + 1) none) len)
      = some (revisionOf LONG_BIT (cstr (content.take len)) revision) := by
  have htake : ((content.take len).map some).length = len := by
    rw [List.length_map, List.length_take_of_le hlen]
  have hset : ((content.take len).map some ++ List.replicate (room + 1) none).set len (some NUL)
      = (content.take len).map some ++ some NUL :: List.replicate room none := by
    rw [List.set_append_right _ _ (Nat.le_of_eq htake), htake, Nat.sub_self, List.replicate_succ,
      List.set_cons_zero]
  rw [afterLoop, if_pos, hset, stringIn_spec]
  · rfl
  · rw [List.length_append, htake, List.length_replicate]
    omega

/-- **INSIDE**: whatever the system answers, the loop ends and no access leaves the
    buffer. -/
theorem parse_isSome (LONG_BIT : Nat) (cpuinfo : Option (List Char)) (answers : Nat → Answer)
    (revision : UInt32) :
    (parseHardwareRevision LONG_BIT cpuinfo answers revision).isSome = true := by
  cases cpuinfo with
  | none => rfl
  | some content =>
      obtain ⟨stop, hstop, hstopped⟩ := turns_end content answers
      rw [parseHardwareRevision, hstop]
      dsimp only
      rcases hstopped with rfl | ⟨len, room, hlen, rfl⟩
      · rfl
      · rw [afterLoop_read LONG_BIT revision hlen room]
        rfl

/-- And so the properties are always set. -/
theorem main_isSome (LONG_BIT : Nat) (hwRev : Int32) (cpuinfo : Option (List Char))
    (answers : Nat → Answer) : (main LONG_BIT hwRev cpuinfo answers).isSome = true := by
  rw [main]
  dsimp only
  rw [Option.isSome_map]
  split
  · exact parse_isSome LONG_BIT cpuinfo answers _
  · rfl

/-- How far the reads get that find memory and do not fail: those before the `n`-th
    have filled the buffer, and the `n`-th leaves room. -/
structure StopsAt (most : Nat → Nat) (size len : Nat) (n : Nat) : Prop where
  filled : ∀ k < n, starts (k + 1) ≤ starts k + max 1 (most k) ∧ starts (k + 1) ≤ size
  reached : len = min size (starts n + max 1 (most n))
  room : len < starts (n + 1)

theorem starts_lt_succ (n : Nat) : starts n < starts (n + 1) := by
  cases n with
  | zero => decide
  | succ n =>
      show 1024 * 2 ^ n < 1024 * 2 ^ (n + 1)
      rw [Nat.pow_succ]
      have hpos : 0 < 2 ^ n := Nat.two_pow_pos n
      omega

theorem starts_mono {n m : Nat} (h : n ≤ m) : starts n ≤ starts m :=
  monotone_nat_of_le_succ (fun k => Nat.le_of_lt (starts_lt_succ k)) h

/-- The turns that go on. -/
theorem turns_granting (content : List Char) (most : Nat → Nat) : ∀ (n : Nat) (st : Reading),
    turns (turn content) (granting most) (.again {}) n = .again st →
      st.len = starts n ∧ st.limit = starts (n + 1)
        ∧ ∀ k < n, starts (k + 1) ≤ starts k + max 1 (most k)
          ∧ starts (k + 1) ≤ content.length := by
  intro n
  induction n with
  | zero =>
      intro st h
      obtain rfl := Turn.again.inj h
      exact ⟨rfl, rfl, fun k hk => absurd hk (Nat.not_lt_zero k)⟩
  | succ n ih =>
      intro st h
      obtain ⟨st₀, hst₀⟩ := again_before h (Nat.le_succ n)
      obtain ⟨hlen, hlimit, hfilled⟩ := ih st₀ hst₀
      have hread := again_read hst₀
      have hroom := hread.room
      have hturn := turn_read hread (most n) rfl
      rw [turns_again hst₀, granting, hturn] at h
      split at h
      · cases h
      · rename_i hfull
        obtain rfl := Turn.again.inj h
        have hdouble : starts (n + 1 + 1) = starts (n + 1) * 2 := by
          show 1024 * 2 ^ (n + 1) = 1024 * 2 ^ n * 2
          rw [Nat.pow_succ, Nat.mul_assoc]
        refine ⟨?_, ?_, ?_⟩
        · show min content.length _ = starts (n + 1)
          omega
        · show st₀.limit * 2 = starts (n + 1 + 1)
          rw [hlimit, hdouble]
        · intro k hk
          rcases Nat.lt_succ_iff_lt_or_eq.mp hk with hk | rfl
          · exact hfilled k hk
          · omega

/-- **WHAT IS PARSED** is what was read up to the first `read` that left room. -/
theorem parse_granting (LONG_BIT : Nat) (content : List Char) (most : Nat → Nat) :
    ∃ len n, StopsAt most content.length len n ∧ ∀ revision,
      parseHardwareRevision LONG_BIT (some content) (granting most) revision
        = some (revisionOf LONG_BIT (cstr (content.take len)) revision) := by
  obtain ⟨stop, hstop, -⟩ := turns_end content (granting most)
  rcases last_turn hstop with hstart | ⟨n, st, hagain, hdone⟩
  · cases hstart
  obtain ⟨hlen, hlimit, hfilled⟩ := turns_granting content most n st hagain
  have hread := again_read hagain
  have hroom := hread.room
  have hinside := hread.inside
  rw [granting, turn_read hread (most n) rfl] at hdone
  split at hdone
  · rename_i hlt
    obtain rfl := Turn.done.inj hdone
    generalize hlast : min content.length (st.len + min (max 1 (most n)) (st.limit - st.len))
      = len at *
    refine ⟨len, n, ⟨hfilled, by omega, by omega⟩, ?_⟩
    intro revision
    have hafter := @afterLoop_read content LONG_BIT revision len (by omega) (st.limit - len - 1)
    rw [Nat.sub_add_cancel (by omega)] at hafter
    rw [parseHardwareRevision, hstop]
    exact hafter
  · cases hdone

end Loops

-- ── Any file ─────────────────────────────────────────────────────────────────

section AnyFile

variable {LONG_BIT : Nat} {content s u : List Char}

/-- **WHAT FOLLOWS** does not change which field is found. -/
theorem field_append (z : List Char) (h : field s = some u) : field (s ++ z) = some (u ++ z) := by
  rw [field, Option.map_eq_some_iff] at h
  obtain ⟨x, hx, rfl⟩ := h
  obtain ⟨rev, hrev, hcolon⟩ := Option.bind_eq_some_iff.mp hx
  obtain ⟨-, -, hpre⟩ := strstr_spec hcolon
  have hlen : 2 ≤ x.length := hpre.length_le
  rw [field, strstr_append z hrev, Option.bind_some, strstr_append z hcolon, Option.map_some,
    List.drop_append_of_le_length hlen]

theorem revisionOf_none (h : field s = none) (revision : UInt32) :
    revisionOf LONG_BIT s revision = revision := by
  rw [revisionOf, h]

/-- A part of a text without a field has none. -/
theorem field_eq_none {t : List Char} (hpre : s <+: t) (h : field t = none) : field s = none := by
  obtain ⟨z, rfl⟩ := hpre
  cases hs : field s with
  | none => rfl
  | some u =>
      rw [field_append z hs] at h
      cases h

/-- Where a field is: behind a newline, the word and a `": "`. -/
theorem field_split {u : List Char} (h : field s = some u) :
    ∃ a b, s = a ++ ('\n' :: revisionWord ++ (b ++ (colon ++ u))) := by
  rw [field, Option.map_eq_some_iff] at h
  obtain ⟨x, hx, rfl⟩ := h
  obtain ⟨rev, hrev, hcolon⟩ := Option.bind_eq_some_iff.mp hx
  obtain ⟨a, rfl, r, hr⟩ := strstr_spec hrev
  obtain ⟨pre, hpre, d, rfl⟩ := strstr_spec hcolon
  rw [← hr] at hpre ⊢
  have hdrop : (colon ++ d).drop 2 = d := rfl
  rw [hdrop]
  rcases List.append_eq_append_iff.mp hpre with ⟨b, -, hb⟩ | ⟨z, hword, hz⟩
  · exact ⟨a, b, by rw [hb]⟩
  · cases z with
    | nil =>
        rw [List.nil_append] at hz
        exact ⟨a, [], by rw [List.nil_append, hz]⟩
    | cons c z =>
        -- the `": "` would start in the word
        obtain rfl := (List.cons.inj hz).1
        have hmem : ':' ∈ '\n' :: revisionWord := by
          rw [hword]
          exact List.mem_append_right _ List.mem_cons_self
        exact absurd hmem (by decide)

/-- Where there is such a place a field is found, there or in front of it. -/
theorem field_ne_none (a b d : List Char) :
    field (a ++ ('\n' :: revisionWord ++ (b ++ (colon ++ d)))) ≠ none := by
  have hsuf := List.suffix_append a ('\n' :: revisionWord ++ (b ++ (colon ++ d)))
  have hpre : '\n' :: revisionWord <+: '\n' :: revisionWord ++ (b ++ (colon ++ d)) :=
    List.prefix_append _ _
  have hin : colon <:+: '\n' :: revisionWord ++ (b ++ (colon ++ d)) :=
    ⟨'\n' :: revisionWord ++ b, d, by simp only [List.append_assoc]⟩
  cases hrev : strstr ('\n' :: revisionWord)
      (a ++ ('\n' :: revisionWord ++ (b ++ (colon ++ d)))) with
  | none => exact absurd (hpre.isInfix.trans hsuf.isInfix) (strstr_eq_none_iff.mp hrev)
  | some rev =>
      intro hnone
      have hlater := suffix_of_strstr hpre hrev hsuf
      rw [field, hrev, Option.bind_some, Option.map_eq_none_iff] at hnone
      exact strstr_eq_none_iff.mp hnone (hin.trans hlater.isInfix)

/-- **NO FIELD**: in no line but the first is there the word with a `": "` behind it. -/
theorem field_eq_none_iff : field s = none
    ↔ ∀ a b d, s ≠ a ++ ('\n' :: revisionWord ++ (b ++ (colon ++ d))) := by
  constructor
  · rintro h a b d rfl
    exact field_ne_none a b d h
  · intro h
    cases hs : field s with
    | none => rfl
    | some u =>
        obtain ⟨a, b, hsplit⟩ := field_split hs
        exact absurd hsplit (h a b u)

theorem field_short (h : s.length ≤ 1) : field s = none := by
  cases hs : strstr ('\n' :: revisionWord) s with
  | none => rw [field, hs]; rfl
  | some rev =>
      obtain ⟨pre, hcat, hpre⟩ := strstr_spec hs
      have hword : 9 ≤ rev.length := hpre.length_le
      rw [hcat, List.length_append] at h
      omega

/-- The text that one character after the other would be, if the first short `read`
    were not taken to be the last. -/
theorem parse_single (LONG_BIT : Nat) (content : List Char) (revision : UInt32) :
    parseHardwareRevision LONG_BIT (some content) (granting fun _ => 1) revision
      = some revision := by
  obtain ⟨len, n, hstops, hparse⟩ := parse_granting LONG_BIT content fun _ => 1
  have hlen : len ≤ 1 := by
    have hreached := hstops.reached
    cases n with
    | zero =>
        rw [hreached]
        exact Nat.min_le_right _ _
    | succ n =>
        have hfilled := (hstops.filled 0 (Nat.succ_pos n)).1
        exact absurd hfilled (by decide)
  have hshort : (cstr (content.take len)).length ≤ 1 := by
    have hle := (prefix_cstr (content.take len)).length_le
    rw [List.length_take] at hle
    omega
  rw [hparse, revisionOf_none (field_short hshort)]

/-- The whole file at once, as far as there is room. -/
theorem parse_whole (LONG_BIT : Nat) {most : Nat} (hmost : content.length ≤ most)
    (revision : UInt32) :
    parseHardwareRevision LONG_BIT (some content) (granting fun _ => most) revision
      = some (revisionOf LONG_BIT (cstr content) revision) := by
  obtain ⟨len, n, hstops, hparse⟩ := parse_granting LONG_BIT content fun _ => most
  have hlen : len = content.length := by
    have hreached := hstops.reached
    omega
  rw [hparse, hlen, List.take_length]

/-- Neither a number in the line that should have it, nor anything that is taken for
    it: a line behind another that starts with the word, and somewhere behind the
    word a `": "`. -/
structure NothingToRead (content : List Char) : Prop where
  number : number content = none
  nowhere : ∀ a b d, cstr content ≠ a ++ ('\n' :: revisionWord ++ (b ++ (colon ++ d)))

/-- The number cannot be both of two revisions that stay as they were. -/
theorem number_of_meets (h : Meets LONG_BIT content fun _ => 1) : number content = none := by
  cases hnumber : number content with
  | none => rfl
  | some v =>
      obtain ⟨r, hr, hsaid⟩ := h 0
      obtain ⟨r', hr', hsaid'⟩ := h 1
      rw [parse_single] at hr hr'
      obtain rfl := Option.some.inj hr
      obtain rfl := Option.some.inj hr'
      have hzero := hsaid.found v hnumber
      have hone := hsaid'.found v hnumber
      rw [← hone] at hzero
      exact absurd hzero (by decide)

/-- What is found in the whole file does not depend on the revision before. -/
theorem field_of_same (h : ∀ revision,
    parseHardwareRevision LONG_BIT (some content) (granting fun _ => content.length) revision
      = some revision) : field (cstr content) = none := by
  cases hfield : field (cstr content) with
  | none => rfl
  | some x =>
      have hboth : ∀ revision, UInt32.ofNat (strtoul LONG_BIT 16 x) = revision := by
        intro revision
        have hparse := h revision
        rw [parse_whole LONG_BIT (Nat.le_refl _), revisionOf, hfield] at hparse
        exact Option.some.inj hparse
      exact absurd ((hboth 0).symm.trans (hboth 1)) (by decide)

/-- With nothing to read the revision stays as it was. -/
theorem parse_unchanged (h : NothingToRead content) (most : Nat → Nat) (revision : UInt32) :
    parseHardwareRevision LONG_BIT (some content) (granting most) revision = some revision := by
  obtain ⟨len, n, -, hparse⟩ := parse_granting LONG_BIT content most
  have hnone : field (cstr (content.take len)) = none := by
    rw [cstr_take]
    exact field_eq_none (List.take_prefix _ _) (field_eq_none_iff.mpr h.nowhere)
  rw [hparse, revisionOf_none hnone]

/-- **ANY FILE**: it is understood in every delivery exactly if there is nothing to
    be read in it. -/
theorem promised_any_iff (LONG_BIT : Nat) (content : List Char) :
    Promised LONG_BIT content ↔ NothingToRead content := by
  constructor
  · rintro ⟨hmeets, hsame⟩
    refine ⟨number_of_meets (hmeets _), field_eq_none_iff.mp (@field_of_same LONG_BIT _ ?_)⟩
    intro revision
    rw [hsame _ (fun _ => 1) revision, parse_single]
  · intro h
    constructor
    · intro most revision
      refine ⟨revision, parse_unchanged h most revision, ?_, fun _ => rfl⟩
      intro v hv
      rw [h.number] at hv
      cases hv
    · intro most most' revision
      rw [parse_unchanged h, parse_unchanged h]

end AnyFile

-- ── A file as the kernel writes it ───────────────────────────────────────────

/-- A revision that fits, in a line that is not the first.  No line in front of it
    starts with the word, and the first `": "` of the line is the one in front of
    the number. -/
structure CpuInfo where
  before : List (List Char)
  mid : List Char
  digits : List Char
  rest : List Char
  behind : before ≠ []
  line : ∀ l ∈ before, '\n' ∉ l ∧ NUL ∉ l ∧ ¬revisionWord <+: l
  sameLine : '\n' ∉ mid ∧ NUL ∉ mid
  first : ¬colon <:+: revisionWord ++ mid ++ colon.dropLast
  digits_ok : ∀ c ∈ digits, isHex c = true
  digits_ne : digits ≠ []
  ends : Ends rest
  fits : hexNat digits < 2 ^ 32

namespace CpuInfo

def front (c : CpuInfo) : List Char := c.before.flatMap fun l => l ++ ['\n']

/-- All that is in front of the number. -/
def head (c : CpuInfo) : List Char := c.front ++ (revisionWord ++ c.mid ++ colon)

def content (c : CpuInfo) : List Char := c.head ++ (c.digits ++ c.rest)

/-- How much has to be read.  Of a zero not even its digits, for what is missing
    counts as zero. -/
def needed (c : CpuInfo) : Nat :=
  if hexNat c.digits = 0 then c.head.length else c.head.length + c.digits.length

end CpuInfo

section Searches

variable {before : List (List Char)} {s : List Char}

/-- The lines in front are not the one that is looked for. -/
theorem find_flatMap (hline : ∀ l ∈ before, '\n' ∉ l ∧ ¬revisionWord <+: l) :
    revisionLine (before.flatMap (fun l => l ++ ['\n']) ++ s) = revisionLine s := by
  induction before with
  | nil => rfl
  | cons l before ih =>
      obtain ⟨hl, hword⟩ := hline l List.mem_cons_self
      have hno : ¬revisionWord <+: l ++ ['\n'] :=
        fun h => hword (prefix_of_append_cons (by decide) h)
      have hrest := ih fun l' hl' => hline l' (List.mem_cons_of_mem l hl')
      rw [revisionLine] at hrest ⊢
      rw [List.flatMap_cons, List.append_assoc, List.append_assoc, List.singleton_append,
        lines_append hl, List.find?_cons_of_neg (by simpa using hno), hrest]

/-- Nor are they found by the search. -/
theorem strstr_flatMap (hne : before ≠ [])
    (hline : ∀ l ∈ before, '\n' ∉ l ∧ ¬revisionWord <+: l) (hs : revisionWord <+: s) :
    strstr ('\n' :: revisionWord) (before.flatMap (fun l => l ++ ['\n']) ++ s)
      = some ('\n' :: s) := by
  induction before with
  | nil => exact absurd rfl hne
  | cons l before ih =>
      have hl := (hline l List.mem_cons_self).1
      rw [List.flatMap_cons, List.append_assoc, List.append_assoc, List.singleton_append,
        strstr_newline hl]
      cases before with
      | nil => exact if_pos hs
      | cons l' before =>
          have hword := (hline l' (List.mem_cons_of_mem l List.mem_cons_self)).2
          have hfound := ih (List.cons_ne_nil l' before)
            fun k hk => hline k (List.mem_cons_of_mem l hk)
          rw [if_neg, hfound]
          intro hpre
          rw [List.flatMap_cons, List.append_assoc, List.append_assoc, List.singleton_append]
            at hpre
          exact hword (prefix_of_append_cons (by decide) hpre)

end Searches

section Digits

variable {a b digits rest : List Char}

/-- A digit less is a factor of sixteen. -/
theorem hexNat_append (a : List Char) (hb : b ≠ []) : 16 * hexNat a ≤ hexNat (a ++ b) := by
  have hgrow : ∀ (b : List Char) (n : Nat),
      n ≤ b.foldl (fun n c => 16 * n + (hexVal c).getD 0) n := by
    intro b
    induction b with
    | nil => exact fun n => Nat.le_refl n
    | cons c b ih =>
        intro n
        have hnext := ih (16 * n + (hexVal c).getD 0)
        rw [List.foldl_cons]
        omega
  cases b with
  | nil => exact absurd rfl hb
  | cons c b =>
      have hnext : 16 * hexNat a + (hexVal c).getD 0 ≤ hexNat (a ++ c :: b) := by
        rw [hexNat, hexNat, List.foldl_append, List.foldl_cons]
        exact hgrow b _
      omega

/-- Digits are missing, and the number is at most a sixteenth, or none are. -/
theorem hexNat_take (digits : List Char) (k : Nat) :
    16 * hexNat (digits.take k) ≤ hexNat digits ∨ digits.length ≤ k := by
  rcases Nat.lt_or_ge k digits.length with hk | hk
  · left
    have hne : digits.drop k ≠ [] := fun h => Nat.not_le.mpr hk (List.drop_eq_nil_iff.mp h)
    have happend := hexNat_append (digits.take k) hne
    rw [List.take_append_drop] at happend
    exact happend
  · exact Or.inr hk

theorem hexNat_take_le (digits : List Char) (k : Nat) :
    hexNat (digits.take k) ≤ hexNat digits := by
  rcases hexNat_take digits k with h | h
  · omega
  · rw [List.take_of_length_le h]

/-- **A PART** of the digits is the number if all of them are there or it is zero. -/
theorem hexNat_take_eq_iff (digits : List Char) (k : Nat) :
    hexNat (digits.take k) = hexNat digits ↔ hexNat digits = 0 ∨ digits.length ≤ k := by
  constructor
  · intro h
    rcases hexNat_take digits k with hle | hle
    · left
      omega
    · exact Or.inr hle
  · rintro (h | h)
    · have hle := hexNat_take_le digits k
      omega
    · rw [List.take_of_length_le h]

/-- What ends a number does so in part. -/
theorem ends_front (h : Ends rest) (hpre : a <+: rest) : Ends a := by
  cases a with
  | nil => exact fun c hc => nomatch hc
  | cons c a =>
      obtain ⟨z, rfl⟩ := hpre
      exact fun x hx => h x hx

/-- The number is read, and no further. -/
theorem hexNumber_digits (hne : digits ≠ []) (hdigits : ∀ c ∈ digits, isHex c = true)
    (hends : Ends rest) : hexNumber (digits ++ rest) = some (hexNat digits) := by
  have hpre : takePrefix 2 (digits ++ rest) = [] :=
    takePrefix_eq (Or.inl rfl) (Nat.zero_le 2) hdigits hne hends
  have htake : (digits ++ rest).takeWhile isHex = digits := by
    rw [List.takeWhile_append_of_pos hdigits]
    cases rest with
    | nil => exact List.append_nil _
    | cons x rest =>
        rw [List.takeWhile_cons_of_neg (by rw [(hends x rfl).1]; decide), List.append_nil]
  have hspace : (digits ++ rest).dropWhile isSpace = digits ++ rest := by
    cases digits with
    | nil => exact absurd rfl hne
    | cons c digits =>
        have hc := isHex_not_space (hdigits c List.mem_cons_self)
        exact List.dropWhile_cons_of_neg (by rw [hc]; decide)
  rw [hexNumber, hspace, hpre, List.length_nil, List.drop_zero, htake, if_neg hne]

/-- Digits that the text was cut in are read as far as they are there. -/
theorem strtoul_cut {LONG_BIT : Nat} (hdigits : ∀ c ∈ digits, isHex c = true)
    (hends : digits = [] → rest = []) (hrest : Ends rest) (hfits : hexNat digits < 2 ^ LONG_BIT) :
    strtoul LONG_BIT 16 (digits ++ rest) = hexNat digits := by
  cases digits with
  | nil =>
      obtain rfl := hends rfl
      refine if_neg ?_
      exact Nat.not_le.mpr (Nat.two_pow_pos LONG_BIT)
  | cons c digits => exact strtoul_hex (List.cons_ne_nil c digits) hdigits hrest hfits

end Digits

section Info

variable {LONG_BIT : Nat} (c : CpuInfo)

/-- The line of the number, up to a part of what follows it. -/
theorem revisionLine_content : ∃ tail, tail <+: c.rest
    ∧ revisionLine c.content
      = some (revisionWord ++ c.mid ++ (colon ++ (c.digits ++ tail))) := by
  have hnewline : '\n' ∉ revisionWord ++ c.mid ++ (colon ++ c.digits) := by
    rw [List.mem_append, List.mem_append, List.mem_append]
    rintro ((h | h) | (h | h))
    · exact absurd h (by decide)
    · exact c.sameLine.1 h
    · exact absurd h (by decide)
    · exact absurd (c.digits_ok _ h) (by decide)
  have hfront : revisionWord ++ c.mid ++ (colon ++ c.digits) ≠ [] := List.cons_ne_nil _ _
  obtain ⟨tail, others, hlines, htail⟩ := @lines_front c.rest _ hfront hnewline
  refine ⟨tail, htail, ?_⟩
  have hcontent : c.content
      = c.front ++ (revisionWord ++ c.mid ++ (colon ++ c.digits) ++ c.rest) := by
    rw [CpuInfo.content, CpuInfo.head]
    simp only [List.append_assoc]
  have hword : revisionWord <+: revisionWord ++ c.mid ++ (colon ++ c.digits) ++ tail := by
    rw [List.append_assoc, List.append_assoc]
    exact List.prefix_append _ _
  rw [hcontent, CpuInfo.front,
    find_flatMap fun l hl => ⟨(c.line l hl).1, (c.line l hl).2.2⟩, revisionLine, hlines,
    List.find?_cons_of_pos (by exact decide_eq_true hword),
    List.append_assoc (revisionWord ++ c.mid), List.append_assoc colon]

/-- **WHAT IT SAYS**. -/
theorem number_content : number c.content = some (hexNat c.digits) := by
  obtain ⟨tail, htail, hline⟩ := revisionLine_content c
  rw [number, hline, Option.bind_some, strstr_first _ c.first, Option.bind_some]
  exact hexNumber_digits c.digits_ne c.digits_ok (ends_front c.ends htail)

/-- **WHAT IS FOUND**: all that was read behind the `": "`. -/
theorem field_head (x : List Char) : field (c.head ++ x) = some x := by
  have hword : revisionWord <+: revisionWord ++ c.mid ++ (colon ++ x) := by
    rw [List.append_assoc]
    exact List.prefix_append _ _
  have hfirst : ¬colon <:+: '\n' :: (revisionWord ++ c.mid) ++ colon.dropLast := by
    rw [List.cons_append, List.infix_cons_iff, not_or]
    exact ⟨fun h => absurd (List.cons_prefix_cons.mp h).1 (by decide), c.first⟩
  have hcolon := strstr_first x hfirst
  rw [field, CpuInfo.head, List.append_assoc, List.append_assoc _ colon x, CpuInfo.front,
    strstr_flatMap c.behind (fun l hl => ⟨(c.line l hl).1, (c.line l hl).2.2⟩) hword,
    Option.bind_some]
  rw [List.cons_append] at hcolon
  rw [hcolon]
  rfl

theorem nul_not_mem_head : NUL ∉ c.head := by
  rw [CpuInfo.head, CpuInfo.front, List.mem_append, List.mem_append, List.mem_append,
    List.mem_flatMap]
  rintro (⟨l, hl, h⟩ | (h | h) | h)
  · rcases List.mem_append.mp h with h | h
    · exact (c.line l hl).2.1 h
    · exact absurd h (by decide)
  · exact absurd h (by decide)
  · exact c.sameLine.2 h
  · exact absurd h (by decide)

/-- **NOT FAR ENOUGH**: nothing is found. -/
theorem field_of_lt {len : Nat} (hlen : len < c.head.length) :
    field (cstr (c.content.take len)) = none := by
  have htake : c.content.take len = c.head.take len := by
    rw [CpuInfo.content, List.take_append_of_le_length (Nat.le_of_lt hlen)]
  have hnul : NUL ∉ c.head.take len := fun h => nul_not_mem_head c (List.mem_of_mem_take h)
  rw [htake, cstr_eq_self hnul]
  cases hfield : field (c.head.take len) with
  | none => rfl
  | some u =>
      -- the rest of the head would be behind what is found in all of it
      have hall := field_append (c.head.drop len) hfield
      have hhead := field_head c []
      rw [List.append_nil] at hhead
      rw [List.take_append_drop, hhead] at hall
      have hnil := (List.append_eq_nil_iff.mp (Option.some.inj hall).symm).2
      exact absurd (List.drop_eq_nil_iff.mp hnil) (Nat.not_le.mpr hlen)

/-- **FAR ENOUGH**: the digits that were read are found. -/
theorem revisionOf_of_le (hbits : 32 ≤ LONG_BIT) {len : Nat} (hlen : c.head.length ≤ len)
    (revision : UInt32) :
    (revisionOf LONG_BIT (cstr (c.content.take len)) revision).toNat
      = hexNat (c.digits.take (len - c.head.length)) := by
  generalize hk : len - c.head.length = k
  have htake : c.content.take len
      = c.head ++ (c.digits.take k ++ c.rest.take (k - c.digits.length)) := by
    rw [CpuInfo.content, List.take_append, List.take_of_length_le hlen, List.take_append, hk]
  have hdigits : ∀ x ∈ c.digits.take k, isHex x = true :=
    fun x hx => c.digits_ok x (List.mem_of_mem_take hx)
  have hnul : NUL ∉ c.digits.take k := fun h => absurd (hdigits _ h) (by decide)
  have hpre : cstr (c.rest.take (k - c.digits.length)) <+: c.rest :=
    (prefix_cstr _).trans (List.take_prefix _ _)
  have hempty : c.digits.take k = [] → cstr (c.rest.take (k - c.digits.length)) = [] := by
    intro h
    rcases List.take_eq_nil_iff.mp h with rfl | h
    · rw [Nat.zero_sub]
      rfl
    · exact absurd h c.digits_ne
  have hfits : hexNat (c.digits.take k) < 2 ^ 32 :=
    Nat.lt_of_le_of_lt (hexNat_take_le c.digits k) c.fits
  have hlong : hexNat (c.digits.take k) < 2 ^ LONG_BIT :=
    Nat.lt_of_lt_of_le hfits (Nat.pow_le_pow_right (by decide) hbits)
  rw [htake, cstr_append (nul_not_mem_head c), cstr_append hnul, revisionOf, field_head]
  dsimp only
  rw [strtoul_cut hdigits hempty (ends_front c.ends hpre) hlong]
  exact UInt32.toNat_ofNat_of_lt' hfits

/-- The right revision is the number, whatever it was before. -/
theorem says_content_iff (revision r : UInt32) :
    Says c.content revision r ↔ r.toNat = hexNat c.digits := by
  constructor
  · exact fun h => h.found _ (number_content c)
  · intro h
    refine ⟨fun v hv => ?_, fun hnone => ?_⟩
    · rw [number_content] at hv
      rw [h]
      exact Option.some.inj hv
    · rw [number_content] at hnone
      cases hnone

/-- How many digits are needed. -/
theorem needed_le_iff (len : Nat) : c.needed ≤ len ↔ c.head.length ≤ len
    ∧ (hexNat c.digits = 0 ∨ c.digits.length ≤ len - c.head.length) := by
  rw [CpuInfo.needed]
  have hdigits : 0 < c.digits.length := List.length_pos_iff.mpr c.digits_ne
  split
  · rename_i h
    exact (and_iff_left (Or.inl h)).symm
  · rename_i h
    rw [or_iff_right h]
    omega

/-- What is found is right exactly if enough was read. -/
theorem says_iff (hbits : 32 ≤ LONG_BIT) (len : Nat) :
    (∀ revision, Says c.content revision (revisionOf LONG_BIT (cstr (c.content.take len)) revision))
      ↔ c.needed ≤ len := by
  rw [needed_le_iff]
  rcases Nat.lt_or_ge len c.head.length with hlen | hlen
  · refine iff_of_false ?_ (fun h => Nat.not_le.mpr hlen h.1)
    intro h
    have hzero := (says_content_iff c 0 _).mp (h 0)
    have hone := (says_content_iff c 1 _).mp (h 1)
    rw [revisionOf_none (field_of_lt c hlen)] at hzero hone
    rw [← hone] at hzero
    exact absurd hzero (by decide)
  · rw [and_iff_right hlen, ← hexNat_take_eq_iff]
    constructor
    · intro h
      rw [← revisionOf_of_le c hbits hlen 0]
      exact (says_content_iff c 0 _).mp (h 0)
    · intro h revision
      refine (says_content_iff c revision _).mpr ?_
      rw [revisionOf_of_le c hbits hlen, h]

/-- **FAR ENOUGH**, told from the reads. -/
theorem StopsAt.le_iff {most : Nat → Nat} {size len n needed : Nat}
    (h : StopsAt most size len n) (hsize : needed ≤ size) :
    needed ≤ len ↔ Reaches most needed := by
  have hreached := h.reached
  have hroom := h.room
  constructor
  · intro hle k hk
    rcases Nat.lt_trichotomy k n with hlt | rfl | hgt
    · exact Nat.le_trans (Nat.min_le_right _ _) (h.filled k hlt).1
    · omega
    · have hmono : starts (n + 1) ≤ starts k := starts_mono hgt
      omega
  · intro hreaches
    have hstart : starts n ≤ size := by
      cases n with
      | zero => exact Nat.zero_le size
      | succ n => exact (h.filled n (Nat.lt_succ_self n)).2
    by_cases hlt : starts n < needed
    · have hhere := hreaches n hlt
      omega
    · omega

/-- **ONE DELIVERY**: the number is found exactly if every `read` in front of its end
    fills the buffer or gets there. -/
theorem meets_iff (hbits : 32 ≤ LONG_BIT) (most : Nat → Nat) :
    Meets LONG_BIT c.content most ↔ Reaches most c.needed := by
  obtain ⟨len, n, hstops, hparse⟩ := parse_granting LONG_BIT c.content most
  have hsize : c.needed ≤ c.content.length := by
    rw [CpuInfo.content, List.length_append, List.length_append, CpuInfo.needed]
    split
    · omega
    · omega
  rw [← hstops.le_iff hsize, ← says_iff c hbits len, Meets]
  refine forall_congr' fun revision => ?_
  rw [hparse]
  constructor
  · rintro ⟨r, hr, hsaid⟩
    obtain rfl := Option.some.inj hr
    exact hsaid
  · exact fun h => ⟨_, rfl, h⟩

end Info

-- ── Right, and not ───────────────────────────────────────────────────────────

/-- **THE REVISION**.  No access leaves the buffer.  A file is understood in every
    delivery exactly if there is nothing to be read in it; and a file as the kernel
    writes it is understood exactly in the deliveries that reach the end of the
    number before a `read` leaves room. -/
theorem promised_iff {LONG_BIT : Nat} (hbits : 32 ≤ LONG_BIT) :
    (∀ cpuinfo answers revision,
      (parseHardwareRevision LONG_BIT cpuinfo answers revision).isSome = true)
    ∧ (∀ content, Promised LONG_BIT content ↔ NothingToRead content)
    ∧ ∀ (c : CpuInfo) most, Meets LONG_BIT c.content most ↔ Reaches most c.needed := by
  refine ⟨?_, ?_, ?_⟩
  · exact parse_isSome LONG_BIT
  · exact promised_any_iff LONG_BIT
  · exact fun c most => meets_iff c hbits most

/-- Two lines of the file. -/
def board : CpuInfo where
  before := ["Hardware\t: samsungexynos7580".toList]
  mid := ['\t']
  digits := "0006".toList
  rest := ['\n']
  behind := by decide
  line := by decide
  sameLine := by decide
  first := by decide
  digits_ok := List.all_eq_true.mp (by decide)
  digits_ne := by decide
  ends := by
    intro c hc
    obtain rfl := Option.some.inj hc
    decide
  fits := by decide

/-- It is read at once.  Without its second line there would be nothing to read. -/
theorem promised_iff_board : Meets 64 board.content (fun _ => 1024)
    ∧ Promised 64 board.front := by
  constructor
  · refine ((promised_iff (by decide)).2.2 board _).mpr ?_
    intro n hn
    have hneeded : board.needed = 44 := by decide
    cases n with
    | zero =>
        rw [hneeded]
        decide
    | succ n =>
        have hmono : starts 1 ≤ starts (n + 1) := starts_mono (Nat.succ_le_succ (Nat.zero_le n))
        have hone : starts 1 = 1024 := rfl
        omega
  · refine ((promised_iff (by decide)).2.1 board.front).mpr ⟨by decide, ?_⟩
    exact field_eq_none_iff.mp (by decide)

/-- **NOT RIGHT**: the first `read` gives a single character; the line is the first;
    the line has no number, but the next one has. -/
theorem revision_missed : ¬Promised 64 board.content
    ∧ ¬Meets 64 board.content (fun _ => 1)
    ∧ ¬Meets 64 "Revision\t: 0006\n".toList (fun _ => 1024)
    ∧ ¬Meets 64 "x\nRevision\nSerial\t: 7\n".toList (fun _ => 1024) := by
  have hsingle : ¬Meets 64 board.content (fun _ => 1) := by
    intro h
    obtain ⟨r, hr, hsaid⟩ := h 0
    rw [parse_single] at hr
    obtain rfl := Option.some.inj hr
    exact absurd (hsaid.found 6 (by decide)) (by decide)
  refine ⟨fun h => hsingle (h.meets _), hsingle, ?_, ?_⟩
  · intro h
    obtain ⟨r, hr, hsaid⟩ := h 0
    rw [parse_whole 64 (by decide)] at hr
    obtain rfl := Option.some.inj hr
    exact absurd (hsaid.found 6 (by decide)) (by decide)
  · intro h
    obtain ⟨r, hr, hsaid⟩ := h 0
    rw [parse_whole 64 (by decide)] at hr
    obtain rfl := Option.some.inj hr
    exact absurd (hsaid.unchanged (by decide)) (by decide)

end Modemloader

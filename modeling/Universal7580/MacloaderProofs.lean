import Universal7580.CStringsProofs
import Universal7580.LedgerProofs
import Universal7580.LinesProofs

/-! # `macloader`

    The first eight characters of the MAC address name the company that made the
    chip.  If they are in one of five tables, its name goes into the CID file and
    the driver is told which calibration to use; otherwise the CID file is removed.

    Everything leaves through one label, which closes what is still open.  It takes
    the MAC file to be open, although it was closed right after it was read, so that
    file is closed twice in every run (`count_fclose_mac`).  The CID file is closed
    once (`cid_closedOnce`).  And `fputs` is taken to have failed unless it returns
    zero, where any number that is not negative would be a success; `typed_iff` and
    `untyped_iff` say when the result is the right one all the same. -/

namespace Macloader

open CStrings Lines

-- ── The tables ───────────────────────────────────────────────────────────────

/-- `enum Type`. -/
inductive CidType where
  | NONE
  | MURATA
  | SEMCOSH
  | SEMCO3RD
  | SEMCO
  | WISOL
  deriving DecidableEq, Repr

def MAX_RANGE_ENTRIES : Nat := 100
def RANGE_ENTRY_LEN : Nat := 9

/-- An entry fills its row, and has nothing that ends a line or a string. -/
def PlainEntry (m : List Char) : Prop :=
  m.length + 1 = RANGE_ENTRY_LEN ∧ ∀ c ∈ m, c.toLower ≠ NUL ∧ c.toLower ≠ '\n'

instance (m : List Char) : Decidable (PlainEntry m) :=
  @instDecidableAnd _ _ _ (List.decidableBAll _ _)

/-- `struct company_range`, up to its first empty row. -/
structure CompanyRange where
  type : CidType
  macaddrs : List (List Char)
  fits : macaddrs.length ≤ MAX_RANGE_ENTRIES
  plain : ∀ m ∈ macaddrs, PlainEntry m

/-- All the rows. -/
def CompanyRange.rows (r : CompanyRange) : List (List Char) :=
  r.macaddrs ++ List.replicate (MAX_RANGE_ENTRIES - r.macaddrs.length) []

def murataRanges : CompanyRange where
  type := .MURATA
  macaddrs := List.map String.toList
    ["00:0e:6d", "00:13:e0", "00:21:e8", "00:26:e8", "00:37:6d", "00:60:57", "00:9d:6b",
      "00:ae:fa", "04:46:65", "10:5f:06", "10:98:c3", "10:a5:d0", "10:d5:42", "14:7d:c5",
      "1c:70:22", "1c:99:4c", "20:02:af", "40:f3:08", "44:91:60", "44:a7:cf", "5c:da:d4",
      "5c:f8:a1", "60:21:c0", "60:f1:89", "78:4b:87", "78:52:1a", "88:30:8a", "8c:45:00",
      "90:b6:86", "98:f1:70", "a0:c9:a0", "a0:cc:2b", "a4:08:ea", "b0:72:bf", "b8:d7:af",
      "c8:14:79", "cc:c0:79", "d0:e4:4a", "d8:c4:6a", "dc:ef:ca", "f0:27:65", "fc:c2:de",
      "fc:db:b3"]
  fits := by decide
  plain := by decide +kernel

def semcoshRanges : CompanyRange where
  type := .SEMCOSH
  macaddrs := List.map String.toList
    ["34:23:ba", "38:aa:3c", "5c:0a:5b", "6c:c7:ec", "88:32:9b", "90:18:7c", "cc:3a:61"]
  fits := by decide
  plain := by decide +kernel

def semco3rdRanges : CompanyRange where
  type := .SEMCO3RD
  macaddrs := List.map String.toList
    ["04:d6:aa", "08:c5:e1", "24:18:1d", "2c:0e:3d", "30:07:4d", "54:88:0e", "84:38:38",
      "8c:f5:a3", "ac:36:13", "ac:5f:3e", "b4:79:a7", "c0:97:27", "c0:bd:d1", "c8:ba:94",
      "d0:22:be", "d0:25:44", "e8:50:8b", "ec:1f:72", "ec:9b:f3", "f4:09:d8", "f8:04:2e"]
  fits := by decide
  plain := by decide +kernel

def semcoRanges : CompanyRange where
  type := .SEMCO
  macaddrs := List.map String.toList
    ["48:13:7e", "4c:66:41", "51:f6:6b", "70:fd:46", "94:76:b7", "a4:84:31", "cc:07:ab",
      "d0:7f:a0", "d8:c4:e9", "e8:3a:12", "ec:9b:f3", "f0:25:b7", "f8:e6:1a"]
  fits := by decide
  plain := by decide +kernel

def wisolRanges : CompanyRange where
  type := .WISOL
  macaddrs := List.map String.toList
    ["48:5a:3f", "70:2c:1f"]
  fits := by decide
  plain := by decide +kernel

def allRanges : List CompanyRange :=
  [murataRanges, semcoshRanges, semco3rdRanges, semcoRanges, wisolRanges]

-- ── Classifying ──────────────────────────────────────────────────────────────

/-- The inner loop of `classify_macaddr_half`, which an empty row ends. -/
def matchRow (half : List Char) : List (List Char) → Bool
  | [] => false
  | macaddr :: rest =>
      if macaddr = [] then false
      else if strcasecmp half macaddr = 0 then true
      else matchRow half rest

/-- The outer loop. -/
def classifyIn (half : List Char) : List CompanyRange → CidType
  | [] => .NONE
  | r :: rest => if matchRow half r.rows = true then r.type else classifyIn half rest

def classifyMacaddrHalf (half : List Char) : CidType := classifyIn half allRanges

/-- The `switch` of `main`; `none` is its default. -/
def typeStr : CidType → Option (List Char)
  | .MURATA => some "murata".toList
  | .SEMCOSH => some "semcosh".toList
  | .SEMCO3RD => some "semco3rd".toList
  | .SEMCO => some "semco".toList
  | .WISOL => some "wisol".toList
  | .NONE => none

-- ── What the system answers ──────────────────────────────────────────────────

/-- The answers to `wifi_change_nvram_calibration`.  An `open` or `write` that
    `TEMP_FAILURE_RETRY` repeats is answered with what it came to in the end. -/
structure NvramOutcomes where
  stat : Int
  openParam : Int
  write : Int
  statType : Int
  writeType : Int

structure Outcomes where
  /-- The MAC file can be read. -/
  fgets : Bool
  remove : Int
  fopenCid : Bool
  fputs : Int
  fchmod : Int
  getpwnam : Option (Nat × Nat)
  fchown : Int
  nvram : NvramOutcomes
  fcloseCid : Int

inductive Stream where
  | mac
  | cid
  deriving DecidableEq

inductive Call where
  | fopen (s : Stream) (opened : Bool)
  | fgets (s : Stream)
  | fputs (s : Stream) (text : List Char)
  | fileno (s : Stream)
  | fclose (s : Stream)
  | fchmod (mode : Nat)
  | getpwnam (name : String)
  | fchown (uid gid : Nat)
  | remove
  | stat (path : List Char)
  | openParam
  | write (text : List Char)
  | close
  deriving DecidableEq

/-- The streams a call is made on; `fchmod` and `fchown` get the descriptor of the CID
    file. -/
def Call.streams : Call → List Stream
  | .fgets s => [s]
  | .fputs s _ => [s]
  | .fileno s => [s]
  | .fclose s => [s]
  | .fchmod _ => [.cid]
  | .fchown _ _ => [.cid]
  | _ => []

-- ── The program ──────────────────────────────────────────────────────────────

/-- `WIFI_DRIVER_NVRAM_PATH`. -/
def nvramPath : List Char := "/vendor/etc/wifi/nvram_net.txt".toList

/-- A string as it is written, with its NUL. -/
def withNul (s : List Char) : List Char := s ++ [NUL]

/-- `nvram_str`, which has room for 1023 characters. -/
def nvramStr (nvramFile type : List Char) : List Char := (nvramFile ++ '_' :: type).take 1023

/-- The part of `wifi_change_nvram_calibration` that has the descriptor. -/
def writeNvram (nvramFile type : List Char) (o : NvramOutcomes) : Int × List Call :=
  let file := withNul nvramFile
  if o.write ≠ file.length then (-1, [.write file])
  else
    let str := nvramStr nvramFile type
    let found : List Call := [.write file, .stat str]
    -- without a file of its own the type gets the default one
    if o.statType ≠ 0 then (0, found)
    else if o.writeType ≠ (withNul str).length then (0, found ++ [.write (withNul str)])
    else (0, found ++ [.write (withNul str)])

/-- `wifi_change_nvram_calibration`; `none` is `NULL`. -/
def wifiChangeNvramCalibration (nvramFile type : Option (List Char)) (o : NvramOutcomes) :
    Int × List Call :=
  match nvramFile, type with
  | some nvramFile, some type =>
      if o.stat ≠ 0 then (-1, [.stat nvramFile])
      else if o.openParam < 0 then (-1, [.stat nvramFile, .openParam])
      else
        let r := writeNvram nvramFile type o
        (r.1, [.stat nvramFile, .openParam] ++ r.2 ++ [.close])
  | _, _ => (-1, [])

/-- `S_IRUSR | S_IWUSR | S_IRGRP | S_IROTH`. -/
def amode : Nat := 0o644

/-- The part of `main` that has the CID file. -/
def configure (type : List Char) (o : Outcomes) : Int × List Call :=
  let put : List Call := [.fputs .cid type]
  if o.fputs ≠ 0 then (-1, put)
  else
    let moded := put ++ [.fileno .cid, .fchmod amode]
    if o.fchmod ≠ 0 then (-1, moded)
    else
      let looked := moded ++ [.getpwnam "system"]
      match o.getpwnam with
      | none => (-1, looked)
      | some (uid, gid) =>
          let owned := looked ++ [.fchown uid gid]
          if o.fchown ≠ 0 then (-1, owned)
          else
            let r := wifiChangeNvramCalibration (some nvramPath) (some type) o.nvram
            (if r.1 ≠ 0 then -1 else 0, owned ++ r.2)

structure Run where
  ret : Int
  calls : List Call

/-- `out:`, with the two variables that it looks at. -/
def out (file cidfile : Bool) (ret : Int) (calls : List Call) : Run where
  ret := ret
  calls := calls ++ ((if file = true then [.fclose .mac] else [])
    ++ (if cidfile = true then [.fclose .cid] else []))

/-- The MAC file is opened, read and closed, and `file` is not set to `NULL`. -/
def opening : List Call := [.fopen .mac true, .fgets .mac, .fclose .mac]

/-- What follows the `switch`. -/
def setType (type : List Char) (o : Outcomes) : Run :=
  if o.fopenCid = false then out true false (-1) (opening ++ [.fopen .cid false])
  else
    let r := configure type o
    out true true r.1 (opening ++ (.fopen .cid true :: r.2))

/-- `main`; `mac` is what is in the MAC file, `none` if it does not open. -/
def main (mac : Option (List Char)) (o : Outcomes) : Run :=
  match mac with
  | none => out false false (-1) [.fopen .mac false]
  | some content =>
      match if o.fgets = true then fgets RANGE_ENTRY_LEN content else none with
      | none => out true false (-1) opening
      | some (half, _) =>
          let type := classifyMacaddrHalf half
          if type = .NONE then out true false 0 (opening ++ [.remove])
          else
            match typeStr type with
            | none => out true false (-1) opening
            | some str => setType str o

-- ── What is promised ─────────────────────────────────────────────────────────

/-- The CID file, and what is still in its stream. -/
structure Disk where
  cid : Option (List Char)
  buffered : List Char

/-- A text gets into the file when the stream is closed, at the latest. -/
def Disk.apply (o : Outcomes) (d : Disk) : Call → Disk
  | .fopen .cid true => { cid := some [], buffered := [] }
  | .fputs .cid text => if 0 ≤ o.fputs then { d with buffered := d.buffered ++ text } else d
  | .fclose .cid =>
      if o.fcloseCid = 0 then { cid := d.cid.map (· ++ d.buffered), buffered := [] } else d
  | .remove => if o.remove = 0 then { d with cid := none } else d
  | _ => d

/-- The CID file after a run. -/
def Run.cid (o : Outcomes) (before : Option (List Char)) (run : Run) : Option (List Char) :=
  (run.calls.foldl (Disk.apply o) { cid := before, buffered := [] }).cid

/-- A ledger for one stream. -/
def Call.uses (s : Stream) (c : Call) : List Unit := if s ∈ c.streams then [()] else []

def ClosedOnce (calls : List Call) (s : Stream) : Prop :=
  calls.count (.fclose s) = 1 ∧ Ledger.NoUse (Call.uses s) (fun _ => .fclose s) calls

/-- An entry is like the first eight characters, but for case. -/
def CompanyRange.covers (r : CompanyRange) (content : List Char) : Bool :=
  r.macaddrs.any fun m => (content.take 8).map Char.toLower = m.map Char.toLower

/-- The first table with such an entry. -/
def firstMatch (content : List Char) : Option CompanyRange :=
  allRanges.find? fun r => r.covers content

/-- Every call behind the first `fopen` succeeds, as the C standard has it. -/
structure Succeeds (type : List Char) (o : Outcomes) : Prop where
  fgets : o.fgets = true
  fopenCid : o.fopenCid = true
  fputs : 0 ≤ o.fputs
  fchmod : o.fchmod = 0
  getpwnam : o.getpwnam.isSome = true
  fchown : o.fchown = 0
  stat : o.nvram.stat = 0
  openParam : 0 ≤ o.nvram.openParam
  write : o.nvram.write = (withNul nvramPath).length
  statType : o.nvram.statType = 0
  writeType : o.nvram.writeType = (withNul (nvramStr nvramPath type)).length
  fcloseCid : o.fcloseCid = 0

/-- The type is in the CID file and the driver has its path. -/
structure Written (run : Run) (o : Outcomes) (type : List Char) : Prop where
  ret : run.ret = 0
  cid : ∀ before, run.cid o before = some type
  nvram : .write (withNul nvramPath) ∈ run.calls

/-- The CID file is removed, if it can be. -/
structure Removed (run : Run) (o : Outcomes) : Prop where
  ret : run.ret = 0
  called : .remove ∈ run.calls
  cid : o.remove = 0 → ∀ before, run.cid o before = none

/-- **THE STREAMS** that were opened. -/
def StreamsOk (content : List Char) (o : Outcomes) : Prop :=
  ∀ s, .fopen s true ∈ (main (some content) o).calls → ClosedOnce (main (some content) o).calls s

/-- **A TYPE** was found and nothing failed. -/
def TypedOk (content : List Char) (o : Outcomes) : Prop :=
  ∀ r type, firstMatch content = some r → typeStr r.type = some type → Succeeds type o →
    Written (main (some content) o) o type

/-- **NO TYPE** was found. -/
def UntypedOk (content : List Char) (o : Outcomes) : Prop :=
  firstMatch content = none → Removed (main (some content) o) o

structure Promised (content : List Char) (o : Outcomes) : Prop where
  streams : StreamsOk content o
  typed : TypedOk content o
  untyped : UntypedOk content o

-- ── Classifying ──────────────────────────────────────────────────────────────

section Classifying

variable {content half m : List Char}

theorem nul_lower {s : List Char} (h : ∀ c ∈ s.map Char.toLower, c ≠ NUL ∧ c ≠ '\n') :
    NUL ∉ s ∧ '\n' ∉ s := by
  constructor
  · intro hmem
    exact (h _ (List.mem_map_of_mem hmem)).1 rfl
  · intro hmem
    exact (h _ (List.mem_map_of_mem hmem)).2 rfl

/-- **AN ENTRY** is like what was read exactly if it is like the first eight
    characters of the file. -/
theorem strcasecmp_half (hm : PlainEntry m) : strcasecmp (upToNewline 8 content) m = 0
    ↔ (content.take 8).map Char.toLower = m.map Char.toLower := by
  obtain ⟨hlen, hplain⟩ := hm
  have hlower : ∀ c ∈ m.map Char.toLower, c ≠ NUL ∧ c ≠ '\n' := by
    intro c hc
    obtain ⟨d, hd, rfl⟩ := List.mem_map.mp hc
    exact hplain d hd
  have hread : upToNewline 8 content <+: content.take 8 := upToNewline_prefix 8 content
  rw [strcasecmp_eq_zero_iff, cstr_eq_self (nul_lower hlower).1]
  constructor
  · intro h
    -- eight characters were compared, so all of what was read is the string
    have hall : cstr (upToNewline 8 content) = content.take 8 := by
      refine ((prefix_cstr _).trans hread).eq_of_length_le ?_
      have hlens := congrArg List.length h
      rw [List.length_map, List.length_map] at hlens
      have hentry : m.length + 1 = 9 := hlen
      rw [List.length_take]
      omega
    rw [← hall]
    exact h
  · intro h
    obtain ⟨hnul, hnewline⟩ := nul_lower (h ▸ hlower)
    rw [upToNewline_of_not_mem hnewline, cstr_eq_self hnul]
    exact h

theorem plain_ne_nil (hm : PlainEntry m) : m ≠ [] := by
  rintro rfl
  exact absurd hm.1 (by decide)

/-- The empty rows at the end are not looked at. -/
theorem matchRow_rows (half : List Char) (r : CompanyRange) :
    matchRow half r.rows = r.macaddrs.any fun m => strcasecmp half m = 0 := by
  obtain ⟨type, macaddrs, fits, plain⟩ := r
  rw [CompanyRange.rows]
  generalize MAX_RANGE_ENTRIES - macaddrs.length = k
  induction macaddrs with
  | nil =>
      cases k with
      | zero => rfl
      | succ k => rfl
  | cons m rest ih =>
      have hrest : ∀ m' ∈ rest, PlainEntry m' := fun m' hm' => plain m' (List.mem_cons_of_mem m hm')
      rw [List.cons_append, matchRow, if_neg (plain_ne_nil (plain m List.mem_cons_self)),
        ih (Nat.le_of_succ_le fits) hrest, List.any_cons]
      by_cases h : strcasecmp half m = 0
      · simp [h]
      · simp [h]

theorem classifyIn_find (half : List Char) (p : CompanyRange → Bool) :
    ∀ rs : List CompanyRange, (∀ r ∈ rs, matchRow half r.rows = p r) →
      classifyIn half rs = ((rs.find? p).map CompanyRange.type).getD .NONE := by
  intro rs
  induction rs with
  | nil => exact fun _ => rfl
  | cons r rest ih =>
      intro h
      rw [classifyIn, h r List.mem_cons_self, ih fun r' hr' => h r' (List.mem_cons_of_mem r hr')]
      cases hp : p r with
      | false => rw [if_neg Bool.false_ne_true, List.find?_cons_of_neg (by simp [hp])]
      | true => rw [if_pos rfl, List.find?_cons_of_pos hp]; rfl

/-- **THE TYPE** is that of the first table that matches. -/
theorem classify_eq (content : List Char) : classifyMacaddrHalf (upToNewline 8 content)
    = ((firstMatch content).map CompanyRange.type).getD .NONE := by
  refine classifyIn_find _ _ allRanges ?_
  intro r _
  rw [matchRow_rows, CompanyRange.covers, Bool.eq_iff_iff, List.any_eq_true, List.any_eq_true]
  refine exists_congr fun m => and_congr_right fun hm => ?_
  rw [decide_eq_true_iff, decide_eq_true_iff]
  exact strcasecmp_half (r.plain m hm)

theorem typeStr_ne_none {type : CidType} (h : typeStr type = some half) : type ≠ .NONE := by
  rintro rfl
  cases h

/-- Nothing is in a table that is too short for it. -/
theorem ne_nil_of_firstMatch {r : CompanyRange} (h : firstMatch content = some r) :
    content ≠ [] := by
  rintro rfl
  have hcovers : r.covers [] = true :=
    @List.find?_some CompanyRange (fun r => r.covers []) r allRanges h
  obtain ⟨m, hm, hsame⟩ := List.any_eq_true.mp hcovers
  have hnil : m.map Char.toLower = [] := (of_decide_eq_true hsame).symm
  exact plain_ne_nil (r.plain m hm) (List.map_eq_nil_iff.mp hnil)

end Classifying

-- ── What a run comes to ──────────────────────────────────────────────────────

section Runs

variable {content type : List Char} {o : Outcomes}

/-- What `fgets` has read is classified. -/
theorem main_read (hread : o.fgets = true) (hne : content ≠ []) : main (some content) o
    = if classifyMacaddrHalf (upToNewline 8 content) = .NONE then
        out true false 0 (opening ++ [.remove])
      else
        match typeStr (classifyMacaddrHalf (upToNewline 8 content)) with
        | none => out true false (-1) opening
        | some str => setType str o := by
  have hgets : fgets RANGE_ENTRY_LEN content
      = some (upToNewline 8 content, content.drop (upToNewline 8 content).length) := if_neg hne
  rw [main, if_pos hread, hgets]

theorem main_typed {r : CompanyRange} (hread : o.fgets = true) (hmatch : firstMatch content = some r)
    (htype : typeStr r.type = some type) : main (some content) o = setType type o := by
  have hclass : classifyMacaddrHalf (upToNewline 8 content) = r.type := by
    rw [classify_eq, hmatch]
    rfl
  rw [main_read hread (ne_nil_of_firstMatch hmatch), hclass, if_neg (typeStr_ne_none htype), htype]

theorem main_untyped (hread : o.fgets = true) (hne : content ≠ [])
    (hmatch : firstMatch content = none) :
    main (some content) o = out true false 0 (opening ++ [.remove]) := by
  have hclass : classifyMacaddrHalf (upToNewline 8 content) = .NONE := by
    rw [classify_eq, hmatch]
    rfl
  rw [main_read hread hne, if_pos hclass]

/-- Nothing was read. -/
theorem main_unread (h : ¬(content ≠ [] ∧ o.fgets = true)) :
    main (some content) o = out true false (-1) opening := by
  rw [main]
  by_cases hread : o.fgets = true
  · have hnil : content = [] := by
      by_contra hne
      exact h ⟨hne, hread⟩
    rw [if_pos hread, hnil]
    rfl
  · rw [if_neg hread]

/-- Neither opens a stream nor closes one. -/
def Call.keepsStreams : Call → Bool
  | .fopen _ _ => false
  | .fclose _ => false
  | _ => true

theorem writeNvram_keeps (nvramFile type : List Char) (o : NvramOutcomes) :
    (writeNvram nvramFile type o).2.all Call.keepsStreams = true := by
  rw [writeNvram]
  dsimp only
  split
  · rfl
  · split
    · rfl
    · split
      · rfl
      · rfl

theorem wifiChange_keeps (nvramFile type : Option (List Char)) (o : NvramOutcomes) :
    (wifiChangeNvramCalibration nvramFile type o).2.all Call.keepsStreams = true := by
  cases nvramFile with
  | none => rfl
  | some nvramFile =>
      cases type with
      | none => rfl
      | some type =>
          rw [wifiChangeNvramCalibration]
          split
          · rfl
          · split
            · rfl
            · dsimp only
              rw [List.all_append, List.all_append, writeNvram_keeps]
              rfl

/-- What is done with the CID file leaves it open. -/
theorem configure_keeps (type : List Char) (o : Outcomes) :
    (configure type o).2.all Call.keepsStreams = true := by
  rw [configure]
  split
  · rfl
  · split
    · rfl
    · dsimp only
      split
      · rfl
      · split
        · rfl
        · dsimp only
          rw [List.all_append, wifiChange_keeps]
          rfl

theorem not_mem_of_keeps {calls : List Call} (h : calls.all Call.keepsStreams = true) :
    (∀ s, .fclose s ∉ calls) ∧ ∀ s opened, .fopen s opened ∉ calls := by
  have hall := List.all_eq_true.mp h
  constructor
  · exact fun s hmem => Bool.false_ne_true (hall _ hmem)
  · exact fun s opened hmem => Bool.false_ne_true (hall _ hmem)

/-- **THE SHAPE** of a run: the MAC file, calls that close nothing, and `out:`. -/
theorem main_shape (content : List Char) (o : Outcomes) :
    ∃ cidfile ret mid, main (some content) o = out true cidfile ret (opening ++ mid)
      ∧ (∀ s, .fclose s ∉ mid) ∧ (.fopen .cid true ∈ mid ↔ cidfile = true) := by
  have hplain : main (some content) o = out true false (-1) (opening ++ [])
      ∨ main (some content) o = out true false 0 (opening ++ [.remove])
      ∨ ∃ type, main (some content) o = setType type o := by
    by_cases hread : content ≠ [] ∧ o.fgets = true
    · rw [main_read hread.2 hread.1]
      split
      · exact Or.inr (Or.inl rfl)
      · split
        · exact Or.inl rfl
        · exact Or.inr (Or.inr ⟨_, rfl⟩)
    · exact Or.inl (main_unread hread)
  rcases hplain with h | h | ⟨type, h⟩
  · exact ⟨false, -1, [], h, by simp, by simp⟩
  · exact ⟨false, 0, [.remove], h, by simp, by simp⟩
  · rw [setType] at h
    split at h
    · exact ⟨false, -1, [.fopen .cid false], h, by simp, by simp⟩
    · obtain ⟨hclose, -⟩ := not_mem_of_keeps (configure_keeps type o)
      exact ⟨true, _, _, h, by simpa using hclose, by simp⟩

theorem out_calls (file cidfile : Bool) (ret : Int) (calls : List Call) :
    (out file cidfile ret calls).calls = calls ++ ((if file = true then [.fclose .mac] else [])
      ++ (if cidfile = true then [.fclose .cid] else [])) := rfl

/-- **TWICE**: the MAC file is closed again. -/
theorem count_fclose_mac (content : List Char) (o : Outcomes) :
    (main (some content) o).calls.count (.fclose .mac) = 2 := by
  obtain ⟨cidfile, ret, mid, hmain, hclose, -⟩ := main_shape content o
  have hopening : opening.count (.fclose .mac) = 1 := by decide
  have hmid : mid.count (.fclose .mac) = 0 := List.count_eq_zero.mpr (hclose .mac)
  rw [hmain, out_calls, List.count_append, List.count_append, hopening, hmid, if_pos rfl]
  cases cidfile with
  | false => rfl
  | true => rfl

theorem not_closedOnce_mac (content : List Char) (o : Outcomes) :
    ¬ClosedOnce (main (some content) o).calls .mac := by
  rintro ⟨hcount, -⟩
  rw [count_fclose_mac] at hcount
  exact absurd hcount (by decide)

theorem not_streamsOk (content : List Char) (o : Outcomes) : ¬StreamsOk content o := by
  intro h
  refine not_closedOnce_mac content o (h .mac ?_)
  obtain ⟨cidfile, ret, mid, hmain, -, -⟩ := main_shape content o
  rw [hmain, out_calls]
  simp [opening]

/-- **ONCE**: the CID file is closed at the end. -/
theorem cid_closedOnce (content : List Char) (o : Outcomes)
    (hopened : .fopen .cid true ∈ (main (some content) o).calls) :
    ClosedOnce (main (some content) o).calls .cid := by
  obtain ⟨cidfile, ret, mid, hmain, hclose, hcid⟩ := main_shape content o
  have hnoopen : Call.fopen .cid true ∉ opening := by decide
  have hopening : Call.fclose .cid ∉ opening := by decide
  have hfile : cidfile = true := by
    rw [hmain, out_calls, List.mem_append, List.mem_append] at hopened
    rcases hopened with (hmem | hmem) | hmem
    · exact absurd hmem hnoopen
    · exact hcid.mp hmem
    · cases cidfile with
      | false => simp at hmem
      | true => rfl
  have hcalls : (main (some content) o).calls
      = (opening ++ mid ++ [.fclose .mac]) ++ [.fclose .cid] := by
    rw [hmain, out_calls, hfile]
    simp
  have hbefore : Call.fclose .cid ∉ opening ++ mid ++ [.fclose .mac] := by
    simp [hopening, hclose]
  rw [hcalls]
  refine ⟨?_, ?_⟩
  · rw [List.count_append, List.count_eq_zero.mpr hbefore]
    decide
  · have huses : Ledger.Uses (Call.uses .cid) (fun _ => .fclose .cid) []
        (opening ++ mid ++ [.fclose .mac]) :=
      ⟨fun _ => hbefore, fun _ _ _ _ hmem => nomatch hmem⟩
    have hno : Ledger.NoUse (Call.uses .cid) (fun _ => .fclose .cid)
        ([] ++ (opening ++ mid ++ [.fclose .mac])) :=
      Ledger.noUse_uses Ledger.noUse_nil huses
    rw [List.nil_append] at hno
    exact Ledger.noUse_concat hno fun _ _ => hbefore

-- ── A type ───────────────────────────────────────────────────────────────────

/-- `fputs` has to return zero. -/
theorem configure_ret_zero (h : (configure type o).1 = 0) : o.fputs = 0 := by
  by_contra hne
  rw [configure, if_pos hne] at h
  cases h

/-- The calls with the CID file, if all goes well. -/
def configured (type : List Char) (uid gid : Nat) : List Call :=
  [.fputs .cid type, .fileno .cid, .fchmod amode, .getpwnam "system", .fchown uid gid,
    .stat nvramPath, .openParam, .write (withNul nvramPath), .stat (nvramStr nvramPath type),
    .write (withNul (nvramStr nvramPath type)), .close]

theorem configure_succeeds (h : Succeeds type o) (hzero : o.fputs = 0) :
    ∃ uid gid, configure type o = (0, configured type uid gid) := by
  obtain ⟨⟨uid, gid⟩, hpwd⟩ := Option.isSome_iff_exists.mp h.getpwnam
  refine ⟨uid, gid, ?_⟩
  have hnvram : writeNvram nvramPath type o.nvram
      = (0, [.write (withNul nvramPath), .stat (nvramStr nvramPath type),
          .write (withNul (nvramStr nvramPath type))]) := by
    rw [writeNvram]
    dsimp only
    rw [if_neg (not_not_intro h.write), if_neg (not_not_intro h.statType),
      if_neg (not_not_intro h.writeType)]
    rfl
  have hwifi : wifiChangeNvramCalibration (some nvramPath) (some type) o.nvram
      = (0, [.stat nvramPath, .openParam, .write (withNul nvramPath),
          .stat (nvramStr nvramPath type), .write (withNul (nvramStr nvramPath type)), .close]) := by
    rw [wifiChangeNvramCalibration, if_neg (not_not_intro h.stat),
      if_neg (Int.not_lt.mpr h.openParam), hnvram]
    rfl
  rw [configure, if_neg (not_not_intro hzero), if_neg (not_not_intro h.fchmod), hpwd]
  dsimp only
  rw [if_neg (not_not_intro h.fchown), hwifi]
  rfl

/-- What the calls of such a run leave in the CID file. -/
theorem cid_configured (h : Succeeds type o) (uid gid : Nat) (before : Option (List Char)) :
    (out true true 0 (opening ++ (.fopen .cid true :: configured type uid gid))).cid o before
      = some type := by
  simp [Run.cid, out, opening, configured, Disk.apply, h.fputs, h.fcloseCid]

/-- **RIGHT** exactly if `fputs` returns zero when it succeeds. -/
theorem typed_iff (content : List Char) (o : Outcomes) : TypedOk content o ↔
    ∀ r type, firstMatch content = some r → typeStr r.type = some type → Succeeds type o →
      o.fputs = 0 := by
  constructor
  · intro h r type hmatch htype hsucceeds
    have hret := (h r type hmatch htype hsucceeds).ret
    rw [main_typed hsucceeds.fgets hmatch htype, setType,
      if_neg (by rw [hsucceeds.fopenCid]; decide)] at hret
    exact configure_ret_zero hret
  · intro h r type hmatch htype hsucceeds
    have hzero := h r type hmatch htype hsucceeds
    obtain ⟨uid, gid, hconf⟩ := configure_succeeds hsucceeds hzero
    have hmain : main (some content) o
        = out true true 0 (opening ++ (.fopen .cid true :: configured type uid gid)) := by
      rw [main_typed hsucceeds.fgets hmatch htype, setType,
        if_neg (by rw [hsucceeds.fopenCid]; decide), hconf]
    rw [hmain]
    refine ⟨rfl, cid_configured hsucceeds uid gid, ?_⟩
    simp [out, configured]

-- ── No type ──────────────────────────────────────────────────────────────────

/-- **RIGHT** exactly if there is something to be read. -/
theorem untyped_iff (content : List Char) (o : Outcomes) : UntypedOk content o ↔
    (firstMatch content = none → content ≠ [] ∧ o.fgets = true) := by
  constructor
  · intro h hmatch
    by_contra hunread
    have hret := (h hmatch).ret
    rw [main_unread hunread] at hret
    cases hret
  · intro h hmatch
    obtain ⟨hne, hread⟩ := h hmatch
    rw [main_untyped hread hne hmatch]
    refine ⟨rfl, ?_, ?_⟩
    · simp [out]
    · intro hremove before
      simp [Run.cid, out, opening, Disk.apply, hremove]

-- ── The whole run ────────────────────────────────────────────────────────────

/-- **NEVER** is everything as promised, since the MAC file is always closed twice.
    The rest is: the CID file is closed once, the type is set as long as `fputs`
    returns zero, and the CID file is removed unless nothing was read. -/
theorem promised_never (content : List Char) (o : Outcomes) :
    ¬Promised content o
      ∧ ¬ClosedOnce (main (some content) o).calls .mac
      ∧ (.fopen .cid true ∈ (main (some content) o).calls →
          ClosedOnce (main (some content) o).calls .cid)
      ∧ (TypedOk content o ↔
          ∀ r type, firstMatch content = some r → typeStr r.type = some type → Succeeds type o →
            o.fputs = 0)
      ∧ (UntypedOk content o ↔ (firstMatch content = none → content ≠ [] ∧ o.fgets = true)) := by
  exact ⟨fun h => not_streamsOk content o h.streams, not_closedOnce_mac content o,
    cid_closedOnce content o, typed_iff content o, untyped_iff content o⟩

end Runs

/-- Everything succeeds; `fputs` returns what it is given. -/
def allSucceed (fputs : Int) : Outcomes where
  fgets := true
  remove := 0
  fopenCid := true
  fputs := fputs
  fchmod := 0
  getpwnam := some (1000, 1000)
  fchown := 0
  nvram := { stat := 0, openParam := 5, write := 31, statType := 0, writeType := 38 }
  fcloseCid := 0

/-- A chip in the first table, with an `fputs` that returns one, and an empty file. -/
theorem run_not_promised : ¬Promised "00:0E:6D:12:34:56\n".toList (allSucceed 0)
    ∧ ¬StreamsOk "00:0E:6D:12:34:56\n".toList (allSucceed 0)
    ∧ ¬TypedOk "00:0E:6D:12:34:56\n".toList (allSucceed 1) ∧ ¬UntypedOk [] (allSucceed 0) := by
  refine ⟨fun h => not_streamsOk _ _ h.streams, not_streamsOk _ _, ?_, ?_⟩
  · intro h
    have hmatch : firstMatch "00:0E:6D:12:34:56\n".toList = some murataRanges :=
      List.find?_cons_of_pos (by decide +kernel)
    have hsucceeds : Succeeds "murata".toList (allSucceed 1) := by
      constructor <;> decide
    have hret := (h murataRanges _ hmatch rfl hsucceeds).ret
    rw [main_typed rfl hmatch rfl] at hret
    exact absurd hret (by decide)
  · intro h
    have hret := (h (by decide +kernel)).ret
    exact absurd hret (by decide)

end Macloader

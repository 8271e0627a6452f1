import Mathlib.Algebra.BigOperators.Ring.List
import Mathlib.Algebra.Ring.Nat
import Universal7580.DtbhBoundsProofs

/-! # `unpackdtbhimg`

    The tool loads one page of a DTBH image and walks the table in it.  How many
    rows it walks is a word of the file that nothing is compared with, and how
    large the page is an argument, so a row can lie behind the loaded page: in a
    file with a wrong count, and in a good one whose table is longer than a page.

    `unpack_inHeader_iff` says when no such row is read, and `visits_table_iff`
    when the rows of a block that `load_dtbh_block` built are all reached. -/

namespace Unpackdtbhimg

open PageBytes DtbhBlock Strtol

-- ── The arguments ────────────────────────────────────────────────────────────

def defaultPageSize : Int32 := 2048

/-- What `main` keeps of its arguments. -/
structure Options where
  dtbhimg : Option String := none
  outputDir : Option String := none
  pageSize : Int32 := defaultPageSize

/-- One argument; `val` is `NULL` behind the last one.  An unknown argument is passed
    over with its value, and `none` is `atoi` of `NULL`. -/
def setOption (LONG_BIT : Nat) (o : Options) (arg : String) (val : Option String) :
    Option Options :=
  if arg = "--input" ∨ arg = "-i" then some { o with dtbhimg := val }
  else if arg = "--output" ∨ arg = "-o" then some { o with outputDir := val }
  else if arg = "--pagesize" ∨ arg = "-p" then
    val.map fun v => { o with pageSize := atoi LONG_BIT v.toList }
  else some o

/-- The loop over the arguments, two at a time. -/
def parseArgs (LONG_BIT : Nat) : Options → List String → Option Options
  | o, [] => some o
  | o, [arg] => setOption LONG_BIT o arg none
  | o, arg :: val :: args =>
      match setOption LONG_BIT o arg (some val) with
      | none => none
      | some o => parseArgs LONG_BIT o args

/-- **ANY PAGE SIZE** can be passed. -/
theorem pageSize_reached {LONG_BIT : Nat} (hbits : 32 ≤ LONG_BIT) (input dir : String)
    (pageSize : Int32) :
    ∃ args, parseArgs LONG_BIT {} args
      = some { dtbhimg := some input, outputDir := some dir, pageSize := pageSize } := by
  refine ⟨["-i", input, "-o", dir, "-p", String.ofList (decimal pageSize.toInt)], ?_⟩
  have hread : atoi LONG_BIT (String.ofList (decimal pageSize.toInt)).toList = pageSize := by
    rw [String.toList_ofList, atoi_decimal hbits]
  show some ({ dtbhimg := some input, outputDir := some dir, pageSize := atoi LONG_BIT _ } :
    Options) = _
  rw [hread]

-- ── The loop over the table ──────────────────────────────────────────────────

/-- `struct dt_entry`, as it lies in the file. -/
structure DtEntry where
  chip : UInt32
  platform : UInt32
  subtype : UInt32
  hwRev : UInt32
  hwRevEnd : UInt32
  offset : UInt32
  size : UInt32
  space : UInt32

/-- `header->entries[i]`; `none` if a part of it is behind the loaded page. -/
def entryAt (header : Bytes) (i : Nat) : Option DtEntry :=
  let row := 12 + 32 * i
  if row + 32 ≤ header.length then
    some
      { chip := le32At header row
        platform := le32At header (row + 4)
        subtype := le32At header (row + 8)
        hwRev := le32At header (row + 12)
        hwRevEnd := le32At header (row + 16)
        offset := le32At header (row + 20)
        size := le32At header (row + 24)
        space := le32At header (row + 28) }
  else none

/-- What the tool runs on.  `fseek` says whether an offset can be set: it is passed
    as a `long`, which need not hold it. -/
structure Env where
  SIZE_BIT : Nat
  fopen : String → Option Bytes
  calloc : Nat → Bool
  malloc : UInt32 → Bool
  fseek : UInt32 → Bool

/-- Why a run ends. -/
inductive Stop where
  | usage
  | notOpened
  | noMemory
  | notRead
  /-- A read behind the loaded page. -/
  | outOfHeader
  | seekFailed
  /-- A payload read to `NULL`. -/
  | nullBlob
  | done
  deriving DecidableEq

/-- One dtb that was written.  `blob` is `none` if the file has fewer bytes than
    the entry asks for: the rest of the buffer is then never set. -/
structure Dump where
  row : Nat
  entry : DtEntry
  destFile : String
  blob : Option Bytes

structure Run where
  dumps : List Dump
  stop : Stop

/-- The rows that were reached to the end of the loop body. -/
def Run.rows (r : Run) : List Nat := r.dumps.map Dump.row

def dtNameLen : Nat := 64

/-- `snprintf` into `DT_NAME_LEN` bytes and the length of the directory. -/
def destFile (dir : String) (e : DtEntry) : String :=
  let dec (x : UInt32) := Nat.toDigits 10 x.toNat
  let hex (x : UInt32) := Nat.toDigits 16 x.toNat
  let name := "/chip".toList ++ dec e.chip ++ "-0x".toList ++ hex e.platform ++ "-0x".toList
    ++ hex e.subtype ++ "_rev".toList ++ dec e.hwRev ++ "-".toList ++ dec e.hwRevEnd
    ++ ".dtb".toList
  dir ++ String.ofList (name.take (dtNameLen - 1))

/-- `fread` of one item. -/
def fread (file : Bytes) (off size : Nat) : Option Bytes :=
  if size ≠ 0 ∧ off + size ≤ file.length then some (slice file off size) else none

/-- The loop body for a row that is inside.  A failed `malloc` is not looked at. -/
def turn (env : Env) (file : Bytes) (dir : String) (i : Nat) (e : DtEntry) : Except Stop Dump :=
  if env.fseek e.offset = false then .error .seekFailed
  else if env.malloc e.size = false ∧ e.size ≠ 0 then .error .nullBlob
  else .ok
    { row := i, entry := e, destFile := destFile dir e,
      blob := fread file e.offset.toNat e.size.toNat }

/-- The loop from row `i`, with a number of rows to go. -/
def loop (env : Env) (file : Bytes) (dir : String) (header : Bytes) : Nat → Nat → Run
  | _, 0 => ⟨[], .done⟩
  | i, n + 1 =>
      match entryAt header i with
      | none => ⟨[], .outOfHeader⟩
      | some e =>
        match turn env file dir i e with
        | .error stop => ⟨[], stop⟩
        | .ok dump =>
          let rest := loop env file dir header (i + 1) n
          ⟨dump :: rest.dumps, rest.stop⟩

/-- `page_size`, as `calloc` and `fread` are passed it. -/
def headerSize (env : Env) (o : Options) : Nat := (o.pageSize.toInt % 2 ^ env.SIZE_BIT).toNat

/-- `main`, behind the arguments. -/
def unpackdtbhimg (env : Env) (o : Options) : Run :=
  match o.dtbhimg, o.outputDir with
  | none, _ => ⟨[], .usage⟩
  | some _, none => ⟨[], .usage⟩
  | some dtbhimg, some outputDir =>
    match env.fopen dtbhimg with
    | none => ⟨[], .notOpened⟩
    | some file =>
      if env.calloc (headerSize env o) = false then ⟨[], .noMemory⟩
      else match fread file 0 (headerSize env o) with
      | none => ⟨[], .notRead⟩
      | some header =>
        -- magic, version and count are printed before the loop
        if header.length < 12 then ⟨[], .outOfHeader⟩
        else loop env file outputDir header 0 (le32At header 8).toNat

-- ── One row ──────────────────────────────────────────────────────────────────

/-- The run ends at this row: its offset cannot be set, or its payload not held. -/
def Ends (env : Env) (e : DtEntry) : Prop :=
  env.fseek e.offset = false ∨ env.malloc e.size = false ∧ e.size ≠ 0

section Loop

variable {env : Env} {file header : Bytes} {dir : String}

theorem entryAt_isSome_iff {i : Nat} :
    (∃ e, entryAt header i = some e) ↔ 12 + 32 * (i + 1) ≤ header.length := by
  rw [entryAt]
  by_cases hin : 12 + 32 * i + 32 ≤ header.length
  · rw [if_pos hin]
    exact iff_of_true ⟨_, rfl⟩ (by omega)
  · rw [if_neg hin]
    refine iff_of_false ?_ (by omega)
    rintro ⟨e, h⟩
    cases h

variable (env file dir) in
/-- A row inside the page is either the last one or is dumped. -/
theorem turn_cases (i : Nat) (e : DtEntry) :
    (Ends env e ∧ ∃ stop, turn env file dir i e = .error stop ∧ stop ≠ .outOfHeader)
      ∨ ¬Ends env e ∧ ∃ dump, turn env file dir i e = .ok dump ∧ dump.row = i := by
  rw [turn]
  by_cases hseek : env.fseek e.offset = false
  · rw [if_pos hseek]
    exact Or.inl ⟨Or.inl hseek, _, rfl, by decide⟩
  · rw [if_neg hseek]
    by_cases hblob : env.malloc e.size = false ∧ e.size ≠ 0
    · rw [if_pos hblob]
      exact Or.inl ⟨Or.inr hblob, _, rfl, by decide⟩
    · rw [if_neg hblob]
      exact Or.inr ⟨fun h => h.elim hseek hblob, _, rfl, rfl⟩

variable (env file dir header) in
/-- What one row makes of the loop. -/
theorem loop_succ (i n : Nat) :
    (entryAt header i = none ∧ loop env file dir header i (n + 1) = ⟨[], .outOfHeader⟩)
      ∨ ∃ e, entryAt header i = some e
        ∧ ((Ends env e ∧ ∃ stop, loop env file dir header i (n + 1) = ⟨[], stop⟩
              ∧ stop ≠ .outOfHeader)
          ∨ ¬Ends env e ∧ ∃ dump, dump.row = i ∧ loop env file dir header i (n + 1)
              = ⟨dump :: (loop env file dir header (i + 1) n).dumps,
                  (loop env file dir header (i + 1) n).stop⟩) := by
  rw [loop]
  cases hrow : entryAt header i with
  | none => exact Or.inl ⟨rfl, rfl⟩
  | some e =>
      refine Or.inr ⟨e, rfl, ?_⟩
      dsimp only
      rcases turn_cases env file dir i e with
        ⟨hends, stop, hturn, hstop⟩ | ⟨hgoes, dump, hturn, hdump⟩
      · rw [hturn]
        exact Or.inl ⟨hends, stop, rfl, hstop⟩
      · rw [hturn]
        exact Or.inr ⟨hgoes, dump, hdump, rfl⟩

-- ── The whole table ──────────────────────────────────────────────────────────

/-- **NO ROW BEHIND THE PAGE** is read, exactly if all rows are inside or the run ends
    at one that is. -/
theorem loop_inHeader_iff : ∀ (n : Nat) {i : Nat}, 12 + 32 * i ≤ header.length →
    ((loop env file dir header i n).stop ≠ .outOfHeader
      ↔ 12 + 32 * (i + n) ≤ header.length
        ∨ ∃ j < n, ∃ e, entryAt header (i + j) = some e ∧ Ends env e) := by
  intro n
  induction n with
  | zero =>
      intro i hin
      exact iff_of_true (fun h => Stop.noConfusion h) (Or.inl hin)
  | succ n ih =>
      intro i hin
      rcases loop_succ env file header dir i n with
        ⟨hrow, hloop⟩ | ⟨e, hrow, ⟨hends, stop, hloop, hstop⟩ | ⟨hgoes, dump, -, hloop⟩⟩
      · rw [hloop]
        -- a later row is not inside if this one is not
        have hout : ¬12 + 32 * (i + 1) ≤ header.length := by
          rw [← entryAt_isSome_iff, hrow]
          rintro ⟨e, h⟩
          cases h
        refine iff_of_false (fun h => h rfl) ?_
        rintro (hall | ⟨j, -, e, hj, -⟩)
        · omega
        · have := entryAt_isSome_iff.mp ⟨e, hj⟩
          omega
      · rw [hloop]
        exact iff_of_true hstop (Or.inr ⟨0, Nat.succ_pos n, e, hrow, hends⟩)
      · have hnext := entryAt_isSome_iff.mp ⟨e, hrow⟩
        rw [hloop]
        show (loop env file dir header (i + 1) n).stop ≠ .outOfHeader ↔ _
        rw [ih hnext, show i + 1 + n = i + (n + 1) by omega]
        refine or_congr Iff.rfl ?_
        constructor
        · rintro ⟨j, hj, e', hrow', hends'⟩
          refine ⟨j + 1, by omega, e', ?_, hends'⟩
          rw [show i + (j + 1) = i + 1 + j by omega]
          exact hrow'
        · rintro ⟨j, hj, e', hrow', hends'⟩
          cases j with
          | zero =>
              rw [Nat.add_zero, hrow] at hrow'
              rw [Option.some.inj hrow'] at hgoes
              exact absurd hends' hgoes
          | succ j =>
              refine ⟨j, by omega, e', ?_, hends'⟩
              rw [show i + 1 + j = i + (j + 1) by omega]
              exact hrow'

/-- A row is dumped, exactly if the count reaches it and the run goes through it and all
    before it. -/
theorem mem_rows_iff : ∀ (n : Nat) {i j : Nat},
    (i + j ∈ (loop env file dir header i n).rows
      ↔ j < n ∧ ∀ k ≤ j, ∃ e, entryAt header (i + k) = some e ∧ ¬Ends env e) := by
  intro n
  induction n with
  | zero =>
      intro i j
      exact iff_of_false List.not_mem_nil fun h => Nat.not_lt_zero j h.1
  | succ n ih =>
      intro i j
      rcases loop_succ env file header dir i n with
        ⟨hrow, hloop⟩ | ⟨e, hrow, ⟨hends, stop, hloop, -⟩ | ⟨hgoes, dump, hdump, hloop⟩⟩
      · rw [hloop]
        refine iff_of_false List.not_mem_nil ?_
        rintro ⟨-, hall⟩
        obtain ⟨e, hsome, -⟩ := hall 0 (Nat.zero_le j)
        rw [Nat.add_zero, hrow] at hsome
        cases hsome
      · rw [hloop]
        refine iff_of_false List.not_mem_nil ?_
        rintro ⟨-, hall⟩
        obtain ⟨e', hsome, hgoes⟩ := hall 0 (Nat.zero_le j)
        rw [Nat.add_zero, hrow] at hsome
        rw [Option.some.inj hsome] at hends
        exact hgoes hends
      · have hrows : (loop env file dir header i (n + 1)).rows
            = i :: (loop env file dir header (i + 1) n).rows := by
          rw [hloop, Run.rows, List.map_cons, hdump]
          rfl
        rw [hrows]
        cases j with
        | zero =>
            refine iff_of_true List.mem_cons_self ⟨Nat.succ_pos n, fun k hk => ?_⟩
            rw [Nat.le_zero.mp hk]
            exact ⟨e, hrow, hgoes⟩
        | succ j =>
            rw [List.mem_cons, or_iff_right (by omega), show i + (j + 1) = i + 1 + j by omega, ih]
            refine and_congr (by omega) ?_
            constructor
            · intro hall k hk
              cases k with
              | zero => exact ⟨e, hrow, hgoes⟩
              | succ k =>
                  rw [show i + (k + 1) = i + 1 + k by omega]
                  exact hall k (by omega)
            · intro hall k hk
              rw [show i + 1 + k = i + (k + 1) by omega]
              exact hall (k + 1) (by omega)

/-- **THE FIRST ROWS** are all dumped, exactly if the count reaches them and they are
    inside, and the run ends at none of them. -/
theorem loop_visits_iff (n : Nat) {i m : Nat} :
    (∀ j < m, i + j ∈ (loop env file dir header i n).rows)
      ↔ m ≤ n ∧ ∀ j < m, ∃ e, entryAt header (i + j) = some e ∧ ¬Ends env e := by
  constructor
  · intro h
    cases m with
    | zero => exact ⟨Nat.zero_le n, fun j hj => absurd hj (Nat.not_lt_zero j)⟩
    | succ m =>
        obtain ⟨hlt, hall⟩ := (mem_rows_iff n).mp (h m (Nat.lt_succ_self m))
        exact ⟨hlt, fun j hj => hall j (Nat.le_of_lt_succ hj)⟩
  · rintro ⟨hle, hall⟩ j hj
    refine (mem_rows_iff n).mpr ⟨Nat.lt_of_lt_of_le hj hle, fun k hk => ?_⟩
    exact hall k (Nat.lt_of_le_of_lt hk hj)

end Loop

-- ── The tool ─────────────────────────────────────────────────────────────────

/-- The page that is loaded. -/
def Loads (env : Env) (o : Options) (header : Bytes) : Prop :=
  ∃ dtbhimg outputDir file, o.dtbhimg = some dtbhimg ∧ o.outputDir = some outputDir
    ∧ env.fopen dtbhimg = some file ∧ env.calloc (headerSize env o) = true
    ∧ fread file 0 (headerSize env o) = some header

/-- How many rows the header counts. -/
def entryCount (header : Bytes) : Nat := (le32At header 8).toNat

theorem entryCount_take (file : Bytes) {p : Nat} (hp : 12 ≤ p) :
    entryCount (file.take p) = entryCount file := by
  rw [entryCount, entryCount, le32At, le32At, slice, slice, List.drop_take, List.take_take,
    Nat.min_eq_left (by omega)]

/-- Either there is no page to look at, or the loop runs over it. -/
theorem unpack_cases (env : Env) (o : Options) :
    ((∀ header, ¬Loads env o header) ∧ (unpackdtbhimg env o).dumps = []
        ∧ (unpackdtbhimg env o).stop ≠ .outOfHeader)
      ∨ ∃ header file dir, (∀ header', Loads env o header' ↔ header' = header)
        ∧ unpackdtbhimg env o = if header.length < 12 then ⟨[], .outOfHeader⟩
          else loop env file dir header 0 (entryCount header) := by
  by_cases hloads : ∃ header, Loads env o header
  · obtain ⟨header, dtbhimg, outputDir, file, himg, hdir, hopen, hcalloc, hread⟩ := hloads
    refine Or.inr ⟨header, file, outputDir, fun header' => ⟨?_, ?_⟩, ?_⟩
    · rintro ⟨dtbhimg', outputDir', file', himg', hdir', hopen', hcalloc', hread'⟩
      rw [himg] at himg'
      rw [← Option.some.inj himg', hopen] at hopen'
      rw [← Option.some.inj hopen', hread] at hread'
      exact (Option.some.inj hread').symm
    · rintro rfl
      exact ⟨dtbhimg, outputDir, file, himg, hdir, hopen, hcalloc, hread⟩
    · rw [unpackdtbhimg, himg, hdir]
      dsimp only
      rw [hopen]
      dsimp only
      rw [hcalloc, if_neg (by decide), hread]
      rfl
  · refine Or.inl ⟨fun header h => hloads ⟨header, h⟩, ?_⟩
    rw [unpackdtbhimg]
    cases himg : o.dtbhimg with
    | none => exact ⟨rfl, fun h => Stop.noConfusion h⟩
    | some dtbhimg =>
      cases hdir : o.outputDir with
      | none => exact ⟨rfl, fun h => Stop.noConfusion h⟩
      | some outputDir =>
        dsimp only
        cases hopen : env.fopen dtbhimg with
        | none => exact ⟨rfl, fun h => Stop.noConfusion h⟩
        | some file =>
          dsimp only
          cases hcalloc : env.calloc (headerSize env o) with
          | false => exact ⟨rfl, fun h => Stop.noConfusion h⟩
          | true =>
            cases hread : fread file 0 (headerSize env o) with
            | none => exact ⟨rfl, fun h => Stop.noConfusion h⟩
            | some header =>
              exact absurd ⟨header, dtbhimg, outputDir, file, himg, hdir, hopen, hcalloc, hread⟩
                hloads

/-- The loaded page has room for the counted rows, or the run ends at one of them that
    is inside. -/
def Inside (env : Env) (header : Bytes) : Prop :=
  12 ≤ header.length ∧ (12 + 32 * entryCount header ≤ header.length
    ∨ ∃ i < entryCount header, ∃ e, entryAt header i = some e ∧ Ends env e)

theorem inHeader_iff (env : Env) (o : Options) :
    (unpackdtbhimg env o).stop ≠ .outOfHeader
      ↔ ∀ header, Loads env o header → Inside env header := by
  rcases unpack_cases env o with ⟨hno, -, hstop⟩ | ⟨header, file, dir, hloads, hrun⟩
  · exact iff_of_true hstop fun header h => absurd h (hno header)
  · have hone : (∀ header', Loads env o header' → Inside env header') ↔ Inside env header :=
      ⟨fun h => h header ((hloads header).mpr rfl), fun h header' hl => (hloads header').mp hl ▸ h⟩
    rw [hone, hrun, Inside]
    by_cases hshort : header.length < 12
    · rw [if_pos hshort]
      exact iff_of_false (fun h => h rfl) fun h => absurd h.1 (by omega)
    · rw [if_neg hshort, loop_inHeader_iff (entryCount header) (by omega), Nat.zero_add,
        and_iff_right (by omega)]
      simp only [Nat.zero_add]

/-- **THE FIRST ROWS** of a file. -/
theorem visits_iff (env : Env) (o : Options) {n : Nat} (hn : n ≠ 0) :
    (∀ i < n, i ∈ (unpackdtbhimg env o).rows)
      ↔ ∃ header, Loads env o header ∧ n ≤ entryCount header
        ∧ ∀ i < n, ∃ e, entryAt header i = some e ∧ ¬Ends env e := by
  rcases unpack_cases env o with ⟨hno, hdumps, -⟩ | ⟨header, file, dir, hloads, hrun⟩
  · refine iff_of_false (fun h => ?_) fun ⟨header, h, _⟩ => hno header h
    have hfirst := h 0 (Nat.pos_of_ne_zero hn)
    rw [Run.rows, hdumps] at hfirst
    exact absurd hfirst List.not_mem_nil
  · have hone : (∃ header', Loads env o header' ∧ n ≤ entryCount header'
          ∧ ∀ i < n, ∃ e, entryAt header' i = some e ∧ ¬Ends env e)
        ↔ n ≤ entryCount header ∧ ∀ i < n, ∃ e, entryAt header i = some e ∧ ¬Ends env e := by
      constructor
      · rintro ⟨header', hl, h⟩
        rw [(hloads header').mp hl] at h
        exact h
      · exact fun h => ⟨header, (hloads header).mpr rfl, h⟩
    rw [hone, hrun]
    by_cases hshort : header.length < 12
    · rw [if_pos hshort]
      refine iff_of_false (fun h => ?_) fun h => ?_
      · exact absurd (h 0 (Nat.pos_of_ne_zero hn)) List.not_mem_nil
      · obtain ⟨e, he, -⟩ := h.2 0 (Nat.pos_of_ne_zero hn)
        have := entryAt_isSome_iff.mp ⟨e, he⟩
        omega
    · rw [if_neg hshort]
      have hvisits := @loop_visits_iff env file header dir (entryCount header) 0 n
      simp only [Nat.zero_add] at hvisits
      exact hvisits

-- ── The blocks of `load_dtbh_block` ──────────────────────────────────────────

section Block

variable {fdt : Libfdt} {q : QSort DtbhBlock.DtEntry} {heap : Nat → Bool}
  {files : List (Bytes × Option Bytes)} {pagesize sz : UInt32} {sc : Scan} {b : Bytes} {k j : Nat}

theorem memcpy_take {dst src out : Bytes} {off : Nat} (h : memcpy dst off src = some out)
    (hj : j ≤ off) : out.take j = dst.take j := by
  obtain ⟨hin, rfl⟩ := memcpy_eq_some_iff.mp h
  rw [List.append_assoc, List.take_append_of_le_length (by rw [List.length_take]; omega),
    List.take_take, Nat.min_eq_left hj]

/-- The table is written from its offset on. -/
theorem writeEntries_take : ∀ (es : List DtbhBlock.DtEntry) {dtbh out : Bytes}
    {offset offset' : UInt32}, writeEntries dtbh offset es = some (out, offset') →
    offset.toNat + 32 * es.length < 2 ^ 32 → j ≤ offset.toNat → out.take j = dtbh.take j := by
  intro es
  induction es with
  | nil =>
      intro dtbh out offset offset' h _ _
      rw [(Prod.mk.inj (Option.some.inj h)).1]
  | cons e es ih =>
      intro dtbh out offset offset' h hword hj
      rw [List.length_cons] at hword
      have hnext : (offset + dtEntryPhysSize).toNat = offset.toNat + 32 := by
        have h32 : dtEntryPhysSize.toNat = 32 := rfl
        rw [UInt32.toNat_add, h32]
        omega
      rw [writeEntries] at h
      split at h
      · cases h
      · rename_i dtbh' hcopy
        rw [ih h (by omega) (by omega), memcpy_take hcopy hj]

/-- So are the payloads: the end of the block is on a page, so the room of a payload
    that is written does not pass it. -/
theorem writeBlobs_take {mask : UInt32} (hk : k ≤ 17) (hm : mask.toNat = 2 ^ k - 1) :
    ∀ (blobs : List DtBlob) {dtbh out : Bytes} {offset : UInt32}, Sized blobs →
      2 ^ k ∣ offset.toNat → 2 ^ k ∣ dtbh.length → dtbh.length < 2 ^ 32 →
      writeBlobs mask dtbh offset blobs = some out → j ≤ offset.toNat →
      out.take j = dtbh.take j := by
  intro blobs
  induction blobs with
  | nil =>
      intro dtbh out offset _ _ _ _ h _
      rw [← Option.some.inj h]
  | cons b blobs ih =>
      intro dtbh out offset hsized hoff hlen hlt h hj
      rw [writeBlobs] at h
      split at h
      · cases h
      · rename_i dtbh' hcopy
        have hb := hsized b List.mem_cons_self
        have hin := (memcpy_eq_some_iff.mp hcopy).1
        have hsize := toNat_maskUp_size hk hm hb
        have hroom : offset.toNat + roundUp (2 ^ k) b.payload.length ≤ dtbh.length := by
          have hrest : roundUp (2 ^ k) b.payload.length ≤ dtbh.length - offset.toNat :=
            roundUp_le_of_dvd (Nat.two_pow_pos k) (by omega) (Nat.dvd_sub hlen hoff)
          omega
        have hnext : (offset + maskUp b.size mask).toNat
            = offset.toNat + roundUp (2 ^ k) b.payload.length := by
          rw [UInt32.toNat_add, hsize]
          omega
        rw [ih (fun c hc => hsized c (List.mem_cons_of_mem b hc))
          (by rw [hnext]; exact Nat.dvd_add hoff (dvd_roundUp (2 ^ k) _))
          (by rw [length_memcpy hcopy]; exact hlen) (by rw [length_memcpy hcopy]; exact hlt) h
          (by omega), memcpy_take hcopy hj]

/-- A sum of pages, in 32 bits, is a number of pages. -/
theorem dvd_blobSz (hk : k ≤ 17) {p : Nat} (hp : p = 2 ^ k) (hg : Gathered fdt p sc) :
    2 ^ k ∣ sc.blobSz.toNat := by
  have hpow : 2 ^ k ∣ 2 ^ 32 := Nat.pow_dvd_pow 2 (by omega)
  rw [hg.blobSz, hp]
  refine (Nat.dvd_mod_iff hpow).mpr ?_
  refine List.dvd_sum ?_
  intro x hx
  obtain ⟨b, -, rfl⟩ := List.mem_map.mp hx
  exact dvd_roundUp (2 ^ k) _

/-- **THE HEAD OF A BLOCK** for `mkbootimg` counts its rows, and the page is there. -/
theorem block_head (hps : pagesize ∈ acceptedPageSizes)
    (hscan : scanDir fdt heap (pagesize - 1) {} files = .ok sc) (hne : sc.entries.length ≠ 0)
    (hbuild : buildBlock q pagesize sc = some (b, sz)) :
    entryCount b = sc.entries.length ∧ pagesize.toNat ≤ b.length := by
  obtain ⟨k, hk11, hk, hpk, hm⟩ := accepted_pow hps
  have hpow : 2 ^ k ∣ 2 ^ 32 := Nat.pow_dvd_pow 2 (by omega)
  have hg : Gathered fdt (2 ^ k) sc := Gathered.scanDir hk hm files Gathered.init hscan
  obtain ⟨d1, d2, d3, d4, offset, h1, h2, h3, h4, h5, rfl⟩ := buildBlock_eq_some_iff.mp hbuild
  have hlen3 := length_header h1 h2 h3
  have hlt : d3.length < 2 ^ 32 := by
    rw [hlen3]
    exact UInt32.toNat_lt _
  have hpages : 2 ^ k ∣ d3.length := by
    rw [hlen3, UInt32.toNat_add]
    refine (Nat.dvd_mod_iff hpow).mpr (Nat.dvd_add ?_ (dvd_blobSz hk rfl hg))
    rw [maskUp, toNat_and_not_low (by omega) hm]
    exact Nat.dvd_mul_left _ _
  -- the table is inside, so its end is no more than the length
  obtain ⟨hneeds, hoff⟩ := DtbhBounds.table_end h4 hne hlt
  have hwritten : writtenHeader (2 ^ k) sc.entries.length ≤ d3.length :=
    roundUp_le_of_dvd (Nat.two_pow_pos k) hneeds hpages
  have hfirst : dtHeaderPhysSize.toNat = 12 := rfl
  have hplace := toNat_padded_offset (by omega) hpk hm hoff (by omega)
  have hlen4 := length_writeEntries _ h4
  have h12 : 12 ≤ writtenHeader (2 ^ k) sc.entries.length :=
    Nat.le_trans (Nat.le_add_right 12 _) (le_roundUp (Nat.two_pow_pos k) _)
  have htake : b.take 12 = d3.take 12 := by
    rw [writeBlobs_take hk hm sc.blobs hg.sizes
      (by rw [hplace]; exact dvd_roundUp (2 ^ k) _) (by rw [hlen4]; exact hpages)
      (by rw [hlen4]; exact hlt) h5 (by rw [hplace]; exact h12),
      writeEntries_take _ h4 (by rw [hfirst, length_tableOf]; omega) (by rw [hfirst])]
  have hb : b.length = d3.length := by
    rw [length_writeBlobs _ h5, hlen4]
  refine ⟨?_, ?_⟩
  · have hword : slice b 8 4 = le32 (UInt32.ofNat sc.entries.length) := by
      obtain ⟨hin, hd3⟩ := memcpy_eq_some_iff.mp h3
      have hcut : ∀ d : Bytes, slice d 8 4 = (d.take 12).drop 8 := fun d => by
        rw [slice, List.drop_take]
      have hd2 : (d2.take 8).length = 8 := by
        rw [List.length_take]
        omega
      rw [hcut, htake, ← hcut, hd3, List.append_assoc]
      exact slice_append_exact _ _ _ hd2.symm
    rw [entryCount, le32At, hword, ofLe32_le32, UInt32.toNat_ofNat', Nat.mod_eq_of_lt (by omega)]
  · rw [hb, hpk]
    exact Nat.le_of_dvd (by omega) hpages

/-- A block comes from a scan that found something. -/
theorem load_scan (h : loadDtbhBlock fdt q heap (some files) pagesize = .ok (some (b, sz))) :
    ∃ sc, scanDir fdt heap (pagesize - 1) {} files = .ok sc ∧ sc.entries.length ≠ 0
      ∧ buildBlock q pagesize sc = some (b, sz)
      ∧ sc.entries.length = (acceptedDtbs fdt files).length := by
  rw [loadDtbhBlock] at h
  split at h
  · cases h
  · rename_i sc hscan
    have hn : sc.entries.length = (acceptedDtbs fdt files).length := by
      rw [(DtbhBounds.Scanned.scanDir hscan).count, ← scanDir_init_payloads hscan, List.length_map]
    split at h
    · cases h
    · rename_i hne
      split at h
      · cases h
      · split at h
        · cases h
        · rename_i r hbuild
          rw [Option.some.inj (Except.ok.inj h)] at hbuild
          exact ⟨sc, hscan, hne, hbuild, hn⟩

theorem toInt_small {x : UInt32} (h : x.toNat < 2 ^ 31) : x.toInt32.toInt = x.toNat := by
  have hbits : x.toInt32.toInt = (x.toNat : Int).bmod (2 ^ 32) :=
    BitVec.toInt_eq_toNat_bmod _
  rw [hbits]
  exact Int.bmod_eq_of_le (by omega) (by omega)

/-- **A BLOCK FOR MKBOOTIMG** is walked to its last row, where nothing else fails,
    exactly if its table fits the page. -/
theorem accepted_visits_iff
    (h : loadDtbhBlock fdt q heap (some files) pagesize = .ok (some (b, sz)))
    (hps : pagesize ∈ acceptedPageSizes) {env : Env} {o : Options} {input dir : String}
    (himg : o.dtbhimg = some input) (hdir : o.outputDir = some dir)
    (hsize : o.pageSize = pagesize.toInt32) (hopen : env.fopen input = some b)
    (hbits : 32 ≤ env.SIZE_BIT) (hcalloc : env.calloc pagesize.toNat = true)
    (hends : ∀ e, ¬Ends env e) :
    (∀ i < (acceptedDtbs fdt files).length, i ∈ (unpackdtbhimg env o).rows)
      ↔ 12 + 32 * (acceptedDtbs fdt files).length ≤ pagesize.toNat := by
  obtain ⟨sc, hscan, hne, hbuild, hn⟩ := load_scan h
  obtain ⟨hcount, hpage⟩ := block_head hps hscan hne hbuild
  obtain ⟨k, hk11, hk, hpk, -⟩ := accepted_pow hps
  have hlow : 2 ^ 11 ≤ 2 ^ k := Nat.pow_le_pow_right (by decide) hk11
  have hhigh : 2 ^ k ≤ 2 ^ 17 := Nat.pow_le_pow_right (by decide) hk
  have hheader : headerSize env o = pagesize.toNat := by
    have hint := toInt_small (by omega : pagesize.toNat < 2 ^ 31)
    have hpow : (2 : Int) ^ 32 ≤ 2 ^ env.SIZE_BIT := by
      exact_mod_cast Nat.pow_le_pow_right (by decide : 0 < 2) hbits
    rw [headerSize, hsize, hint, Int.emod_eq_of_lt (by omega) (by omega), Int.toNat_natCast]
  have hread : fread b 0 (headerSize env o) = some (b.take pagesize.toNat) := by
    rw [hheader, fread, if_pos ⟨by omega, by omega⟩, slice, List.drop_zero]
  have hlen : (b.take pagesize.toNat).length = pagesize.toNat := by
    rw [List.length_take, Nat.min_eq_left hpage]
  have hword : entryCount (b.take pagesize.toNat) = (acceptedDtbs fdt files).length := by
    rw [entryCount_take b (by omega), hcount, hn]
  have hloads : Loads env o (b.take pagesize.toNat) :=
    ⟨input, dir, b, himg, hdir, hopen, by rw [hheader]; exact hcalloc, hread⟩
  rw [hn] at hne
  rw [visits_iff env o hne]
  constructor
  · rintro ⟨header, ⟨input', dir', file', himg', -, hopen', -, hread'⟩, -, hrows⟩
    rw [himg] at himg'
    rw [← Option.some.inj himg', hopen] at hopen'
    rw [← Option.some.inj hopen', hread] at hread'
    obtain ⟨e, he, -⟩ := hrows ((acceptedDtbs fdt files).length - 1) (by omega)
    have hin := entryAt_isSome_iff.mp ⟨e, he⟩
    rw [← Option.some.inj hread', hlen] at hin
    omega
  · intro hfits
    refine ⟨_, hloads, Nat.le_of_eq hword.symm, fun i hi => ?_⟩
    obtain ⟨e, he⟩ := entryAt_isSome_iff.mpr
      (by rw [hlen]; omega : 12 + 32 * (i + 1) ≤ (b.take pagesize.toNat).length)
    exact ⟨e, he, hends e⟩

end Block

-- ── Exactly when ─────────────────────────────────────────────────────────────

/-- A host where nothing fails, with one file. -/
def hostOf (file : Bytes) : Env where
  SIZE_BIT := 64
  fopen _ := some file
  calloc _ := true
  malloc _ := true
  fseek _ := true

theorem hostOf_bits (file : Bytes) : 32 ≤ (hostOf file).SIZE_BIT := (by decide : 32 ≤ 64)

theorem hostOf_goes (file : Bytes) (e : DtEntry) : ¬Ends (hostOf file) e := by
  rintro (h | ⟨h, -⟩)
  · cases h
  · cases h

def sampleOptions : Options := { dtbhimg := some "dt.img", outputDir := some "out" }

/-- A block of `n` samples. -/
theorem sampleBlock {n : Nat} (hn : (acceptedDtbs sampleFdt (sampleDir n)).length = n)
    (hne : n ≠ 0) (hscan : scanned (scanDir sampleFdt (fun _ => true) (2048 - 1) {}
      (sampleDir n)) = true)
    (hfit : blockSize 2048 (acceptedDtbs sampleFdt (sampleDir n)) < 2 ^ 32) :
    ∃ b sz, loadDtbhBlock sampleFdt (mergeQSort DtbhBlock.DtEntry) (fun _ => true)
      (some (sampleDir n)) 2048 = .ok (some (b, sz)) := by
  obtain ⟨sc, hsc⟩ := scanned_iff.mp hscan
  obtain ⟨b, sz, hload, -⟩ := @loadDtbhBlock_of_scan _ (mergeQSort DtbhBlock.DtEntry)
    (fun _ => true) (sampleDir n) 2048 sc sampleFdt_checksMagic (by decide) hsc
    (fun h => hne (by rw [← hn, h]; rfl)) rfl hfit
  exact ⟨b, sz, hload⟩

end Unpackdtbhimg

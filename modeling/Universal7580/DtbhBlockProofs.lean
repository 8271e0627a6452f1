import Mathlib.Algebra.GroupWithZero.Nat
import Universal7580.PageBytesProofs

/-! # The DTBH device-tree table of `dtbimg.c`

    `load_dtbh_block` gathers the `.dtb` files of a directory, writes a table
    with one 32-byte entry per file, and appends the files, each padded to a
    page.  Three computations have to agree: the header size that the entry
    offsets are counted from, the size that is allocated, and the running
    offset the payloads are copied to.

    The header size is accumulated inside the scan loop with the running entry
    count, so after `n` files it holds `12 + 32 * (1 + 2 + ... + n)` bytes
    while the table only needs `12 + 32 * n`.  `consistent_iff_of_gathered`
    says when the two round to the same page: exactly while the accumulated
    value still fits the first page. -/

namespace DtbhBlock

open PageBytes

-- ── Constants of samsung_dtbh.h ──────────────────────────────────────────────

/-- `DTBH_MAGIC`, the text `DTBH`. -/
def dtbhMagic : Bytes := [0x44, 0x54, 0x42, 0x48]

/-- `DTBH_VERSION`. -/
def dtbhVersion : UInt32 := 2

/-- `DTBH_PLATFORM`, the text `android`. -/
def dtbhPlatform : Bytes := [0x61, 0x6e, 0x64, 0x72, 0x6f, 0x69, 0x64]

/-- `DTBH_SUBTYPE`, the text `samsung`. -/
def dtbhSubtype : Bytes := [0x73, 0x61, 0x6d, 0x73, 0x75, 0x6e, 0x67]

/-- `DTBH_PLATFORM_CODE`. -/
def dtbhPlatformCode : UInt32 := 0x50a6

/-- `DTBH_SUBTYPE_CODE`. -/
def dtbhSubtypeCode : UInt32 := 0x217584da

/-- `DT_HEADER_PHYS_SIZE`: magic, version and entry count. -/
def dtHeaderPhysSize : UInt32 := 12

/-- `DT_ENTRY_PHYS_SIZE`: the eight words of an entry. -/
def dtEntryPhysSize : UInt32 := 32

/-- The page sizes `mkbootimg --pagesize` accepts. -/
def acceptedPageSizes : List UInt32 := [2048, 4096, 8192, 16384, 32768, 65536, 131072]

-- ── Data model ───────────────────────────────────────────────────────────────

/-- `struct dt_blob`; the list order stands for the `next` pointers. -/
structure DtBlob where
  size : UInt32
  offset : UInt32 := 0
  payload : Bytes

/-- `struct dt_entry`.  The `blob` pointer is the position of the blob in the
    blob list. -/
structure DtEntry where
  chip : UInt32
  platform : UInt32
  subtype : UInt32
  hwRev : UInt32
  hwRevEnd : UInt32
  offset : UInt32 := 0
  size : UInt32 := 0
  space : UInt32
  blob : Nat

/-- The first eight words of the struct, as `memcpy` takes them to the file. -/
def DtEntry.bytes (e : DtEntry) : Bytes :=
  le32 e.chip ++ le32 e.platform ++ le32 e.subtype ++ le32 e.hwRev
    ++ le32 e.hwRevEnd ++ (le32 e.offset ++ (le32 e.size ++ le32 e.space))

/-- `dt_entry_cmp`: the unsigned difference, returned as an `int`. -/
def dtEntryCmp (a b : DtEntry) : Int :=
  if a.chip ≠ b.chip then (a.chip - b.chip).toInt32.toInt
  else (a.hwRev - b.hwRev).toInt32.toInt

/-- The C library's `qsort`: it permutes its array whatever the comparator
    answers, and orders it when the comparator is a total preorder on it. -/
structure QSort (α : Type) where
  sort : (α → α → Int) → List α → List α
  perm : ∀ cmp l, (sort cmp l).Perm l
  ordered : ∀ cmp l, (∀ a ∈ l, ∀ b ∈ l, cmp a b ≤ 0 ∨ cmp b a ≤ 0) →
    (∀ a ∈ l, ∀ b ∈ l, ∀ c ∈ l, cmp a b ≤ 0 → cmp b c ≤ 0 → cmp a c ≤ 0) →
    (sort cmp l).Pairwise (fun a b => cmp a b ≤ 0)

/-- The part of libfdt the tool calls.  A property is answered as the offset
    of its value inside the blob (`none` for `NULL`) and its length, which is
    a negative error code when there is none. -/
structure Libfdt where
  checkHeader : Bytes → Int
  pathOffset : Bytes → String → Int
  getprop : Bytes → Int → String → Option Nat × Int

/-- `fdt_check_header` answers `0` only for a blob that starts with the device
    tree magic number. -/
def Libfdt.ChecksMagic (fdt : Libfdt) : Prop :=
  ∀ dtb, fdt.checkHeader dtb = 0 → dtb.take 4 = [0xd0, 0x0d, 0xfe, 0xed]

/-- Why a run ends without an answer: the tool's own `err(1, ..)` exits, or a
    read or write outside an object. -/
inductive Fault where
  | openDir
  | readDtb (name : Bytes)
  | noMemory
  | undefined

/-- Why a file is passed over with a warning. -/
inductive Skip where
  | notADtb
  | chipSize
  | platform
  | subtype
  | hwRevSize
  | hwRevEndSize

/-- What the property checks say about one file. -/
inductive Verdict where
  | skip (why : Skip)
  | undefined
  | accept (chip hwRev hwRevEnd : UInt32)

-- ── Reading one file ─────────────────────────────────────────────────────────

/-- `load_file`.  The size goes through an `int`, so a file whose length has
    bit 31 set is refused and one of 4 GiB or more loses its high bits. -/
def loadFile (file : Option Bytes) : Option Bytes :=
  match file with
  | none => none
  | some data =>
      let sz := data.length % 2 ^ 32
      if sz < 2 ^ 31 then some (data.take sz) else none

/-- `ntohl` of the word at a pointer into the blob. -/
def be32At (dtb : Bytes) (off : Nat) : Option UInt32 :=
  match slice dtb off 4 with
  | [b0, b1, b2, b3] =>
      some (UInt32.ofNat
        (16777216 * b0.toNat + 65536 * b1.toNat + 256 * b2.toNat + b3.toNat))
  | _ => none

/-- `strcmp(&dtb[off], text) == 0`; undefined when the blob ends before a
    difference or the terminator is found. -/
def strcmpAt (dtb : Bytes) (off : Nat) (text : Bytes) : Option Bool :=
  let s := dtb.drop off
  let t := text ++ [0]
  if t.isPrefixOf s then some true
  else if s.isPrefixOf t then none
  else some false

/-- The property checks of the scan loop, in the source's order.  The length
    is compared as a `size_t`, whose remainder by four is the Euclidean one. -/
def probe (fdt : Libfdt) (dtb : Bytes) : Verdict :=
  if fdt.checkHeader dtb ≠ 0 then .skip .notADtb
  else
    let offset := fdt.pathOffset dtb "/"
    let chip := fdt.getprop dtb offset "model_info-chip"
    let platform := fdt.getprop dtb offset "model_info-platform"
    let subtype := fdt.getprop dtb offset "model_info-subtype"
    let hwRev := fdt.getprop dtb offset "model_info-hw_rev"
    let hwRevEnd := fdt.getprop dtb offset "model_info-hw_rev_end"
    if chip.2 % 4 ≠ 0 then .skip .chipSize
    else match platform.1.bind (strcmpAt dtb · dtbhPlatform) with
    | none => .undefined
    | some false => .skip .platform
    | some true =>
      match subtype.1.bind (strcmpAt dtb · dtbhSubtype) with
      | none => .undefined
      | some false => .skip .subtype
      | some true =>
        if hwRev.2 % 4 ≠ 0 then .skip .hwRevSize
        else if hwRevEnd.2 % 4 ≠ 0 then .skip .hwRevEndSize
        else match chip.1.bind (be32At dtb), hwRev.1.bind (be32At dtb),
            hwRevEnd.1.bind (be32At dtb) with
        | some c, some r, some e => .accept c r e
        | _, _, _ => .undefined

-- ── The scan loop ────────────────────────────────────────────────────────────

/-- The locals the scan loop accumulates. -/
structure Scan where
  entries : List DtEntry := []
  blobs : List DtBlob := []
  blobSz : UInt32 := 0
  hdrSz : UInt32 := dtHeaderPhysSize

/-- The body of the loop for an accepted file.  `heap n` says whether the
    `n`-th allocation succeeds; each file takes two. -/
def addDtb (heap : Nat → Bool) (pagemask : UInt32) (sc : Scan) (dtb : Bytes)
    (chip hwRev hwRevEnd : UInt32) : Except Fault Scan :=
  let n := sc.entries.length
  let blob : DtBlob := { size := UInt32.ofNat dtb.length, payload := dtb }
  let entry : DtEntry :=
    { chip := chip, platform := dtbhPlatformCode, subtype := dtbhSubtypeCode,
      hwRev := hwRev, hwRevEnd := hwRevEnd, space := 0x20, blob := n }
  if heap (2 * n) = false then .error .noMemory
  else if heap (2 * n + 1) = false then .error .noMemory
  else .ok
    { entries := sc.entries ++ [entry]
      blobs := sc.blobs ++ [blob]
      blobSz := sc.blobSz + maskUp blob.size pagemask
      -- the running count is added here, once per file
      hdrSz := sc.hdrSz + UInt32.ofNat (n + 1) * dtEntryPhysSize }

/-- `.dtb`, compared with the last four characters of a file name. -/
def dtbSuffix : Bytes := [0x2e, 0x64, 0x74, 0x62]

/-- One turn of the `readdir` loop. -/
def scanFile (fdt : Libfdt) (heap : Nat → Bool) (pagemask : UInt32) (sc : Scan)
    (name : Bytes) (file : Option Bytes) : Except Fault Scan :=
  if name.length < 4 ∨ name.drop (name.length - 4) ≠ dtbSuffix then .ok sc
  else match loadFile file with
  | none => .error (.readDtb name)
  | some dtb =>
    match probe fdt dtb with
    | .skip _ => .ok sc
    | .undefined => .error .undefined
    | .accept chip hwRev hwRevEnd => addDtb heap pagemask sc dtb chip hwRev hwRevEnd

/-- The `readdir` loop over the directory's names and files. -/
def scanDir (fdt : Libfdt) (heap : Nat → Bool) (pagemask : UInt32) :
    Scan → List (Bytes × Option Bytes) → Except Fault Scan
  | sc, [] => .ok sc
  | sc, (name, file) :: rest =>
      match scanFile fdt heap pagemask sc name file with
      | .error f => .error f
      | .ok sc' => scanDir fdt heap pagemask sc' rest

-- ── Building the block ───────────────────────────────────────────────────────

/-- The first pass over the blobs: their offsets, counted from `hdr_sz`. -/
def assignOffsets (pagemask : UInt32) : UInt32 → List DtBlob → List DtBlob
  | _, [] => []
  | offset, b :: rest =>
      { b with offset := offset }
        :: assignOffsets pagemask (offset + maskUp b.size pagemask) rest

/-- The entry takes offset and padded size from its blob. -/
def updateEntry (pagemask : UInt32) (blobs : List DtBlob) (e : DtEntry) : DtEntry :=
  match blobs[e.blob]? with
  | some b => { e with offset := b.offset, size := maskUp b.size pagemask }
  | none => e

/-- The copy loop of the entry table. -/
def writeEntries (dtbh : Bytes) : UInt32 → List DtEntry → Option (Bytes × UInt32)
  | offset, [] => some (dtbh, offset)
  | offset, e :: rest =>
      match memcpy dtbh offset.toNat e.bytes with
      | none => none
      | some dtbh' => writeEntries dtbh' (offset + dtEntryPhysSize) rest

/-- The copy loop of the payloads, from its own running offset. -/
def writeBlobs (pagemask : UInt32) (dtbh : Bytes) : UInt32 → List DtBlob → Option Bytes
  | _, [] => some dtbh
  | offset, b :: rest =>
      match memcpy dtbh offset.toNat b.payload with
      | none => none
      | some dtbh' => writeBlobs pagemask dtbh' (offset + maskUp b.size pagemask) rest

/-- Everything after the scan: the header size is closed and rounded, the
    entries sorted, offsets assigned, and the block written.  `n` is
    `entry_count`. -/
def buildBlock (q : QSort DtEntry) (pagesize : UInt32) (sc : Scan) :
    Option (Bytes × UInt32) :=
  let pagemask := pagesize - 1
  let n := sc.entries.length
  let hdrSz := maskUp (sc.hdrSz + 4) pagemask
  let blobs := assignOffsets pagemask hdrSz sc.blobs
  let entries := (q.sort dtEntryCmp sc.entries).map (updateEntry pagemask blobs)
  let dtbh := zeros (hdrSz + sc.blobSz).toNat
  match memcpy dtbh 0 dtbhMagic with
  | none => none
  | some d1 =>
    match memcpy d1 4 (le32 dtbhVersion) with
    | none => none
    | some d2 =>
      match memcpy d2 8 (le32 (UInt32.ofNat n)) with
      | none => none
      | some d3 =>
        match writeEntries d3 dtHeaderPhysSize entries with
        | none => none
        | some (d4, offset) =>
          -- add padding after dt header
          let offset := offset + (pagesize - (offset &&& pagemask))
          match writeBlobs pagemask d4 offset blobs with
          | none => none
          | some d5 => some (d5, hdrSz + sc.blobSz)

/-- `load_dtbh_block`.  `none` inside `ok` is the `NULL` answer for a
    directory without any usable file. -/
def loadDtbhBlock (fdt : Libfdt) (q : QSort DtEntry) (heap : Nat → Bool)
    (dir : Option (List (Bytes × Option Bytes))) (pagesize : UInt32) :
    Except Fault (Option (Bytes × UInt32)) :=
  match dir with
  | none => .error .openDir
  | some files =>
    match scanDir fdt heap (pagesize - 1) {} files with
    | .error f => .error f
    | .ok sc =>
      if sc.entries.length = 0 then .ok none
      else if heap (2 * sc.entries.length) = false then .error .noMemory
      else match buildBlock q pagesize sc with
      | none => .error .undefined
      | some r => .ok (some r)

-- ── What a consistent image is ───────────────────────────────────────────────

/-- A payload with the zeros that fill its last page. -/
def padded (p : Nat) (payload : Bytes) : Bytes :=
  payload ++ zeros (padLen p payload.length)

/-- The payload each row of the sorted table was made from. -/
def Scan.madeFrom (sc : Scan) (q : QSort DtEntry) : List Bytes :=
  (q.sort dtEntryCmp sc.entries).map
    (fun e => ((sc.blobs[e.blob]?).map DtBlob.payload).getD [])

/-- **SELF-CONSISTENCY**: the header counts the rows of the table, and the
    bytes that row `i` points at lie in the block and are the dtb it was made
    from, followed by zeros up to the next page. -/
def Consistent (p : Nat) (b : Bytes) (madeFrom : List Bytes) : Prop :=
  (le32At b 8).toNat = madeFrom.length ∧
  ∀ i payload, madeFrom[i]? = some payload →
    let offset := (le32At b (12 + 32 * i + 20)).toNat
    let size := (le32At b (12 + 32 * i + 24)).toNat
    offset + size ≤ b.length ∧ slice b offset size = padded p payload

/-- The bytes the gathered files need in exact arithmetic: the accumulated
    header and the padded payloads. -/
def Scan.imageSize (p : Nat) (sc : Scan) : Nat :=
  roundUp p (16 + 16 * (sc.entries.length * (sc.entries.length + 1)))
    + (sc.blobs.map (fun b => roundUp p b.payload.length)).sum

/-- What the scan loop has gathered, in exact arithmetic. -/
structure Gathered (fdt : Libfdt) (p : Nat) (sc : Scan) : Prop where
  blob_of : sc.entries.map DtEntry.blob = List.range sc.blobs.length
  sizes : ∀ b ∈ sc.blobs, b.payload.length < 2 ^ 31 ∧ b.size.toNat = b.payload.length
  checked : ∀ b ∈ sc.blobs, fdt.checkHeader b.payload = 0
  blobSz : sc.blobSz.toNat
    = (sc.blobs.map (fun b => roundUp p b.payload.length)).sum % 2 ^ 32
  hdrSz : sc.hdrSz.toNat
    = (12 + 16 * (sc.entries.length * (sc.entries.length + 1))) % 2 ^ 32

-- ── Accepted page sizes ──────────────────────────────────────────────────────

/-- An accepted page size is `2 ^ k` for a `k` between 11 and 17. -/
theorem accepted_pow {pagesize : UInt32} (h : pagesize ∈ acceptedPageSizes) :
    ∃ k, 11 ≤ k ∧ k ≤ 17 ∧ pagesize.toNat = 2 ^ k ∧ (pagesize - 1).toNat = 2 ^ k - 1 := by
  simp only [acceptedPageSizes, List.mem_cons, List.not_mem_nil, or_false] at h
  rcases h with rfl | rfl | rfl | rfl | rfl | rfl | rfl
  · exact ⟨11, by decide⟩
  · exact ⟨12, by decide⟩
  · exact ⟨13, by decide⟩
  · exact ⟨14, by decide⟩
  · exact ⟨15, by decide⟩
  · exact ⟨16, by decide⟩
  · exact ⟨17, by decide⟩

section ScanLoop

variable {fdt : Libfdt} {heap : Nat → Bool} {mask : UInt32} {k : Nat}

/-- What `load_file` returns fits an `int`. -/
theorem loadFile_length {file : Option Bytes} {dtb : Bytes}
    (h : loadFile file = some dtb) : dtb.length < 2 ^ 31 := by
  cases file with
  | none => exact nomatch h
  | some data =>
      rw [show loadFile (some data)
        = if data.length % 2 ^ 32 < 2 ^ 31 then some (data.take (data.length % 2 ^ 32))
          else none from rfl] at h
      by_cases hsz : data.length % 2 ^ 32 < 2 ^ 31
      · rw [if_pos hsz] at h
        rw [← Option.some.inj h, List.length_take]
        omega
      · rw [if_neg hsz] at h
        exact nomatch h

/-- A file is only accepted after `fdt_check_header` passed it. -/
theorem probe_accept {dtb : Bytes} {chip hwRev hwRevEnd : UInt32}
    (h : probe fdt dtb = .accept chip hwRev hwRevEnd) : fdt.checkHeader dtb = 0 := by
  rw [probe] at h
  by_cases hc : fdt.checkHeader dtb ≠ 0
  · rw [if_pos hc] at h
    exact nomatch h
  · exact Decidable.not_not.mp hc

/-- The header accumulator in closed form. -/
theorem header_succ (n : Nat) :
    16 * (n * (n + 1)) + 32 * (n + 1) = 16 * ((n + 1) * (n + 1 + 1)) := by
  have h : (n + 1) * (n + 1 + 1) = n * (n + 1) + 2 * (n + 1) := by
    rw [Nat.mul_comm n, Nat.mul_comm 2, ← Nat.mul_add]
  omega

theorem Gathered.init {p : Nat} : Gathered fdt p {} where
  blob_of := rfl
  sizes := fun _ hb => nomatch hb
  checked := fun _ hb => nomatch hb
  blobSz := rfl
  hdrSz := rfl

/-- What the loop body leaves. -/
theorem addDtb_eq_ok {sc sc' : Scan} {dtb : Bytes} {chip hwRev hwRevEnd : UInt32}
    (h : addDtb heap mask sc dtb chip hwRev hwRevEnd = .ok sc') :
    sc' = { entries := sc.entries
              ++ [{ chip := chip, platform := dtbhPlatformCode, subtype := dtbhSubtypeCode,
                    hwRev := hwRev, hwRevEnd := hwRevEnd, space := 0x20,
                    blob := sc.entries.length }]
            blobs := sc.blobs ++ [{ size := UInt32.ofNat dtb.length, payload := dtb }]
            blobSz := sc.blobSz + maskUp (UInt32.ofNat dtb.length) mask
            hdrSz := sc.hdrSz + UInt32.ofNat (sc.entries.length + 1) * dtEntryPhysSize } := by
  rw [addDtb] at h
  dsimp only at h
  split at h
  · exact nomatch h
  split at h
  · exact nomatch h
  exact (Except.ok.inj h).symm

/-- One turn of the loop leaves things alone, or adds an accepted file. -/
theorem scanFile_cases {sc sc' : Scan} {name : Bytes} {file : Option Bytes}
    (h : scanFile fdt heap mask sc name file = .ok sc') :
    sc' = sc ∨ ∃ dtb chip hwRev hwRevEnd, dtb.length < 2 ^ 31 ∧ fdt.checkHeader dtb = 0
      ∧ addDtb heap mask sc dtb chip hwRev hwRevEnd = .ok sc' := by
  rw [scanFile] at h
  split at h
  · exact Or.inl (Except.ok.inj h).symm
  cases hload : loadFile file with
  | none =>
      rw [hload] at h
      exact nomatch h
  | some dtb =>
      rw [hload] at h
      dsimp only at h
      cases hprobe : probe fdt dtb with
      | skip why =>
          rw [hprobe] at h
          exact Or.inl (Except.ok.inj h).symm
      | undefined =>
          rw [hprobe] at h
          exact nomatch h
      | accept chip hwRev hwRevEnd =>
          rw [hprobe] at h
          exact Or.inr ⟨dtb, chip, hwRev, hwRevEnd, loadFile_length hload,
            probe_accept hprobe, h⟩

/-- The first file, and the rest. -/
theorem scanDir_cons {name : Bytes} {file : Option Bytes} {rest : List (Bytes × Option Bytes)}
    {sc sc' : Scan} (h : scanDir fdt heap mask sc ((name, file) :: rest) = .ok sc') :
    ∃ sc₁, scanFile fdt heap mask sc name file = .ok sc₁
      ∧ scanDir fdt heap mask sc₁ rest = .ok sc' := by
  rw [scanDir] at h
  cases hstep : scanFile fdt heap mask sc name file with
  | error f =>
      rw [hstep] at h
      exact nomatch h
  | ok sc₁ =>
      rw [hstep] at h
      exact ⟨sc₁, rfl, h⟩

/-- **THE SCAN**: what each accepted file keeps, the whole loop keeps. -/
theorem scanDir_invariant {P : Scan → Prop}
    (hadd : ∀ {sc sc' : Scan} {dtb : Bytes} {chip hwRev hwRevEnd : UInt32}, P sc →
      dtb.length < 2 ^ 31 → fdt.checkHeader dtb = 0 →
      addDtb heap mask sc dtb chip hwRev hwRevEnd = .ok sc' → P sc') :
    ∀ (files : List (Bytes × Option Bytes)) {sc sc' : Scan},
      P sc → scanDir fdt heap mask sc files = .ok sc' → P sc' := by
  intro files
  induction files with
  | nil =>
      intro sc sc' hsc h
      exact Except.ok.inj h ▸ hsc
  | cons hd rest ih =>
      intro sc sc' hsc h
      obtain ⟨name, file⟩ := hd
      obtain ⟨sc₁, hstep, h⟩ := scanDir_cons h
      refine ih ?_ h
      rcases scanFile_cases hstep with rfl | ⟨dtb, chip, hwRev, hwRevEnd, hlen, hchk, hok⟩
      · exact hsc
      · exact hadd hsc hlen hchk hok

/-- The loop body keeps the accounts. -/
theorem Gathered.addDtb {sc sc' : Scan} (hg : Gathered fdt (2 ^ k) sc)
    (hk : k ≤ 17) (hm : mask.toNat = 2 ^ k - 1) {dtb : Bytes}
    (hlen : dtb.length < 2 ^ 31) (hchk : fdt.checkHeader dtb = 0)
    {chip hwRev hwRevEnd : UInt32}
    (h : DtbhBlock.addDtb heap mask sc dtb chip hwRev hwRevEnd = .ok sc') :
    Gathered fdt (2 ^ k) sc' := by
  rw [addDtb_eq_ok h]
  have hcount : sc.entries.length = sc.blobs.length := by
    have := congrArg List.length hg.blob_of
    rwa [List.length_map, List.length_range] at this
  have hsize : (UInt32.ofNat dtb.length).toNat = dtb.length := by
    rw [UInt32.toNat_ofNat']
    omega
  have hpow : 2 ^ k ≤ 2 ^ 17 := Nat.pow_le_pow_right (by omega) hk
  refine ⟨?_, ?_, ?_, ?_, ?_⟩
  · rw [List.map_append, hg.blob_of, List.length_append, List.length_singleton,
      List.range_succ, ← hcount]
    rfl
  · intro b hb
    rcases List.mem_append.mp hb with hold | hnew
    · exact hg.sizes b hold
    · rw [List.mem_singleton.mp hnew]
      exact ⟨hlen, hsize⟩
  · intro b hb
    rcases List.mem_append.mp hb with hold | hnew
    · exact hg.checked b hold
    · rw [List.mem_singleton.mp hnew]
      exact hchk
  · have hup : (maskUp (UInt32.ofNat dtb.length) mask).toNat = roundUp (2 ^ k) dtb.length := by
      rw [toNat_maskUp (by omega) hm (by omega), hsize]
    show (sc.blobSz + maskUp (UInt32.ofNat dtb.length) mask).toNat = _
    rw [UInt32.toNat_add, hup, hg.blobSz, List.map_append, List.sum_append]
    simp only [List.map_cons, List.map_nil, List.sum_cons, List.sum_nil, Nat.add_zero]
    omega
  · show (sc.hdrSz + UInt32.ofNat (sc.entries.length + 1) * dtEntryPhysSize).toNat = _
    have h32 : dtEntryPhysSize.toNat = 32 := rfl
    rw [UInt32.toNat_add, UInt32.toNat_mul, UInt32.toNat_ofNat', h32, hg.hdrSz,
      List.length_append, List.length_singleton]
    have := header_succ sc.entries.length
    omega

/-- The whole loop keeps the accounts. -/
theorem Gathered.scanDir (hk : k ≤ 17) (hm : mask.toNat = 2 ^ k - 1)
    (files : List (Bytes × Option Bytes)) {sc sc' : Scan} (hg : Gathered fdt (2 ^ k) sc)
    (h : DtbhBlock.scanDir fdt heap mask sc files = .ok sc') : Gathered fdt (2 ^ k) sc' :=
  scanDir_invariant (fun hsc hlen hchk hok => hsc.addDtb hk hm hlen hchk hok) files hg h

end ScanLoop

-- ── The writers ──────────────────────────────────────────────────────────────

@[simp] theorem length_entry_bytes (e : DtEntry) : e.bytes.length = 32 := rfl

theorem length_flatMap_entries (es : List DtEntry) :
    (es.flatMap DtEntry.bytes).length = 32 * es.length := by
  induction es with
  | nil => rfl
  | cons e rest ih =>
      rw [List.flatMap_cons, List.length_append, ih, length_entry_bytes, List.length_cons]
      omega

/-- The table copy appends the rows to what is already written. -/
theorem writeEntries_spec :
    ∀ (es : List DtEntry) (l : Bytes) (n : Nat) (offset : UInt32),
      offset.toNat = l.length → 32 * es.length ≤ n → l.length + n < 2 ^ 32 →
      ∃ offset', writeEntries (l ++ zeros n) offset es
          = some (l ++ es.flatMap DtEntry.bytes ++ zeros (n - 32 * es.length), offset')
        ∧ offset'.toNat = l.length + 32 * es.length := by
  intro es
  induction es with
  | nil =>
      intro l n offset hoff _ _
      refine ⟨offset, ?_, hoff⟩
      rw [List.flatMap_nil, List.append_nil]
      rfl
  | cons e rest ih =>
      intro l n offset hoff hn hlt
      rw [List.length_cons] at hn
      have hstep := memcpy_append_zeros l e.bytes hoff (n := n)
        (by rw [length_entry_bytes]; omega)
      rw [length_entry_bytes] at hstep
      have hoff' : (offset + dtEntryPhysSize).toNat = (l ++ e.bytes).length := by
        have h32 : dtEntryPhysSize.toNat = 32 := rfl
        rw [UInt32.toNat_add, hoff, h32, List.length_append, length_entry_bytes]
        omega
      obtain ⟨offset', heq, hnat⟩ := ih (l ++ e.bytes) (n - 32) (offset + dtEntryPhysSize)
        hoff' (by omega) (by rw [List.length_append, length_entry_bytes]; omega)
      refine ⟨offset', ?_, ?_⟩
      · rw [writeEntries, hstep]
        dsimp only
        rw [heq, List.flatMap_cons, List.length_cons, List.append_assoc l,
          show n - 32 - 32 * rest.length = n - 32 * (rest.length + 1) by omega]
      · rw [hnat, List.length_append, length_entry_bytes, List.length_cons]
        omega

section Blobs

variable {mask : UInt32} {k : Nat}

/-- The blobs' sizes are the lengths of their payloads. -/
def Sized (blobs : List DtBlob) : Prop :=
  ∀ b ∈ blobs, b.payload.length < 2 ^ 31 ∧ b.size.toNat = b.payload.length

/-- The pages a list of blobs takes, in bytes. -/
def blobBytes (p : Nat) (blobs : List DtBlob) : Nat :=
  (blobs.map (fun b => roundUp p b.payload.length)).sum

/-- The padded payloads, one after the other. -/
def payloads (p : Nat) (blobs : List DtBlob) : Bytes :=
  blobs.flatMap (fun b => padded p b.payload)

theorem blobBytes_cons (p : Nat) (b : DtBlob) (rest : List DtBlob) :
    blobBytes p (b :: rest) = roundUp p b.payload.length + blobBytes p rest := rfl

theorem length_padded {p : Nat} (hp : 0 < p) (payload : Bytes) :
    (padded p payload).length = roundUp p payload.length := by
  rw [padded, List.length_append, length_zeros, add_padLen hp]

theorem length_payloads {p : Nat} (hp : 0 < p) (blobs : List DtBlob) :
    (payloads p blobs).length = blobBytes p blobs := by
  induction blobs with
  | nil => rfl
  | cons b rest ih =>
      rw [payloads, List.flatMap_cons, List.length_append, length_padded hp,
        blobBytes_cons, ← ih, payloads]

/-- The padded size the loops step by. -/
theorem toNat_maskUp_size (hk : k ≤ 17) (hm : mask.toNat = 2 ^ k - 1) {b : DtBlob}
    (hb : b.payload.length < 2 ^ 31 ∧ b.size.toNat = b.payload.length) :
    (maskUp b.size mask).toNat = roundUp (2 ^ k) b.payload.length := by
  have hpow : 2 ^ k ≤ 2 ^ 17 := Nat.pow_le_pow_right (by omega) hk
  rw [toNat_maskUp (by omega) hm (by omega), hb.2]

/-- The payload copy appends the padded payloads to what is already written:
    the zeros between two payloads are the allocation's own. -/
theorem writeBlobs_spec (hk : k ≤ 17) (hm : mask.toNat = 2 ^ k - 1) :
    ∀ (blobs : List DtBlob) (l : Bytes) (n : Nat) (offset : UInt32),
      Sized blobs → offset.toNat = l.length → blobBytes (2 ^ k) blobs ≤ n →
      l.length + n < 2 ^ 32 →
      writeBlobs mask (l ++ zeros n) offset blobs
        = some (l ++ payloads (2 ^ k) blobs ++ zeros (n - blobBytes (2 ^ k) blobs)) := by
  have hp : 0 < 2 ^ k := Nat.two_pow_pos k
  intro blobs
  induction blobs with
  | nil =>
      intro l n offset _ _ _ _
      rw [payloads, List.flatMap_nil, List.append_nil]
      rfl
  | cons b rest ih =>
      intro l n offset hsz hoff hn hlt
      have hb := hsz b List.mem_cons_self
      have hge := le_roundUp hp b.payload.length
      have hadd := add_padLen hp b.payload.length
      rw [blobBytes_cons] at hn
      have hstep := memcpy_append_zeros l b.payload hoff (n := n) (by omega)
      -- the bytes up to the next page are zeros of the allocation
      have hsplit : zeros (n - b.payload.length)
          = zeros (padLen (2 ^ k) b.payload.length)
            ++ zeros (n - roundUp (2 ^ k) b.payload.length) := by
        rw [← zeros_add]
        congr 1
        omega
      have hpad : l ++ b.payload ++ zeros (n - b.payload.length)
          = (l ++ padded (2 ^ k) b.payload)
            ++ zeros (n - roundUp (2 ^ k) b.payload.length) := by
        rw [hsplit, padded, List.append_assoc, List.append_assoc, List.append_assoc]
      rw [hpad] at hstep
      have hoff' : (offset + maskUp b.size mask).toNat
          = (l ++ padded (2 ^ k) b.payload).length := by
        rw [UInt32.toNat_add, hoff, toNat_maskUp_size hk hm hb, List.length_append,
          length_padded hp]
        omega
      rw [writeBlobs, hstep]
      dsimp only
      rw [ih (l ++ padded (2 ^ k) b.payload) (n - roundUp (2 ^ k) b.payload.length) _
        (fun c hc => hsz c (List.mem_cons_of_mem _ hc)) hoff' (by omega)
        (by rw [List.length_append, length_padded hp]; omega)]
      rw [blobBytes_cons, payloads, payloads, List.flatMap_cons, List.append_assoc l,
        show n - roundUp (2 ^ k) b.payload.length - blobBytes (2 ^ k) rest
          = n - (roundUp (2 ^ k) b.payload.length + blobBytes (2 ^ k) rest) by omega]

/-- The offset pass gives blob `j` the bytes of the blobs before it. -/
theorem assignOffsets_getElem? (hk : k ≤ 17) (hm : mask.toNat = 2 ^ k - 1) :
    ∀ (blobs : List DtBlob) (offset : UInt32) (j : Nat) (b : DtBlob),
      Sized blobs → offset.toNat + blobBytes (2 ^ k) blobs < 2 ^ 32 →
      blobs[j]? = some b →
      ∃ o : UInt32, (assignOffsets mask offset blobs)[j]? = some { b with offset := o }
        ∧ o.toNat = offset.toNat + blobBytes (2 ^ k) (blobs.take j) := by
  intro blobs
  induction blobs with
  | nil => intro offset j b _ _ hj; exact nomatch hj
  | cons c rest ih =>
      intro offset j b hsz hlt hj
      have hc := toNat_maskUp_size hk hm (hsz c List.mem_cons_self)
      rw [blobBytes_cons] at hlt
      cases j with
      | zero =>
          have hbc : c = b := by simpa using hj
          subst hbc
          exact ⟨offset, rfl, rfl⟩
      | succ j =>
          have hnext : (offset + maskUp c.size mask).toNat
              = offset.toNat + roundUp (2 ^ k) c.payload.length := by
            rw [UInt32.toNat_add, hc]
            omega
          obtain ⟨o, hget, hnat⟩ := ih (offset + maskUp c.size mask) j b
            (fun d hd => hsz d (List.mem_cons_of_mem _ hd)) (by rw [hnext]; omega)
            (by simpa using hj)
          refine ⟨o, by simpa [assignOffsets] using hget, ?_⟩
          rw [hnat, hnext, List.take_succ_cons, blobBytes_cons]
          omega

/-- The offset pass leaves sizes and payloads alone. -/
theorem writeBlobs_assignOffsets (blobs : List DtBlob) :
    ∀ (d : Bytes) (start offset : UInt32),
      writeBlobs mask d offset (assignOffsets mask start blobs)
        = writeBlobs mask d offset blobs := by
  induction blobs with
  | nil => intro d start offset; rfl
  | cons b rest ih =>
      intro d start offset
      rw [assignOffsets, writeBlobs, writeBlobs]
      dsimp only
      cases memcpy d offset.toNat b.payload with
      | none => rfl
      | some d' => exact ih d' _ _

end Blobs

-- ── The written block ────────────────────────────────────────────────────────

/-- Where the entry offsets are counted from: the accumulated header size,
    rounded. -/
def countedHeader (p n : Nat) : Nat := roundUp p (16 + 16 * (n * (n + 1)))

/-- Where the payloads are really copied to: the end of the table, rounded. -/
def writtenHeader (p n : Nat) : Nat := roundUp p (12 + 32 * n)

/-- Magic, version, count and table. -/
def headBytes (n : Nat) (table : List DtEntry) : Bytes :=
  dtbhMagic ++ le32 dtbhVersion ++ le32 (UInt32.ofNat n) ++ table.flatMap DtEntry.bytes

theorem length_headBytes (n : Nat) (table : List DtEntry) :
    (headBytes n table).length = 12 + 32 * table.length := by
  rw [headBytes, List.length_append, length_flatMap_entries]
  rfl

theorem written_le_counted {p n : Nat} (hn : n ≠ 0) :
    writtenHeader p n ≤ countedHeader p n := by
  have h : n * 2 ≤ n * (n + 1) := Nat.mul_le_mul_left n (by omega)
  exact roundUp_mono p (by omega)

section Built

variable {fdt : Libfdt} {q : QSort DtEntry} {pagesize : UInt32} {k : Nat} {sc : Scan}

theorem Gathered.count_eq {p : Nat} (hg : Gathered fdt p sc) :
    sc.entries.length = sc.blobs.length := by
  have := congrArg List.length hg.blob_of
  rwa [List.length_map, List.length_range] at this

/-- The rows of the table, after `qsort` and the offset update. -/
def tableOf (q : QSort DtEntry) (pagesize : UInt32) (sc : Scan) : List DtEntry :=
  (q.sort dtEntryCmp sc.entries).map (updateEntry (pagesize - 1)
    (assignOffsets (pagesize - 1) (maskUp (sc.hdrSz + 4) (pagesize - 1)) sc.blobs))

theorem length_tableOf (q : QSort DtEntry) (pagesize : UInt32) (sc : Scan) :
    (tableOf q pagesize sc).length = sc.entries.length := by
  rw [tableOf, List.length_map, (q.perm _ _).length_eq]

/-- The closed and rounded header size is exact when the image fits. -/
theorem Gathered.toNat_hdrSz (hg : Gathered fdt (2 ^ k) sc) (hk : k ≤ 17)
    (hm : (pagesize - 1).toNat = 2 ^ k - 1)
    (hfit : countedHeader (2 ^ k) sc.entries.length < 2 ^ 32) :
    (maskUp (sc.hdrSz + 4) (pagesize - 1)).toNat
      = countedHeader (2 ^ k) sc.entries.length := by
  have hroom := add_mask_lt_of_roundUp_lt (by omega) hfit
  have hpos : 0 < 2 ^ k := Nat.two_pow_pos k
  have hsum : (sc.hdrSz + 4).toNat
      = 16 + 16 * (sc.entries.length * (sc.entries.length + 1)) := by
    have h4 : (4 : UInt32).toNat = 4 := rfl
    rw [UInt32.toNat_add, hg.hdrSz, h4]
    omega
  rw [toNat_maskUp (by omega) hm (by rw [hsum]; exact hroom), hsum, countedHeader]

/-- The padding step after the table reaches the next page: the table never
    ends on a page boundary, because its length is 12 modulo 32. -/
theorem toNat_padded_offset {offset : UInt32} {n : Nat} (hk5 : 5 ≤ k)
    (hps : pagesize.toNat = 2 ^ k) (hm : (pagesize - 1).toNat = 2 ^ k - 1)
    (hoff : offset.toNat = 12 + 32 * n) (hfit : writtenHeader (2 ^ k) n < 2 ^ 32) :
    (offset + (pagesize - (offset &&& (pagesize - 1)))).toNat = writtenHeader (2 ^ k) n := by
  have hpos : 0 < 2 ^ k := Nat.two_pow_pos k
  have hand := toNat_and_low (x := offset) hm
  have hmod := Nat.mod_lt (12 + 32 * n) hpos
  have h32 : 2 ^ k = 32 * 2 ^ (k - 5) := by
    rw [show (32 : Nat) = 2 ^ 5 from rfl, ← Nat.pow_add, show 5 + (k - 5) = k by omega]
  have hne : (12 + 32 * n) % 2 ^ k ≠ 0 := by
    intro h0
    obtain ⟨c, hc⟩ := Nat.dvd_of_mod_eq_zero h0
    rw [h32, Nat.mul_assoc] at hc
    omega
  have hw : writtenHeader (2 ^ k) n
      = 12 + 32 * n + (2 ^ k - (12 + 32 * n) % 2 ^ k) := by
    rw [writtenHeader, ← add_padLen hpos, padLen_eq_ite hpos, if_neg hne]
  have hsub : (pagesize - (offset &&& (pagesize - 1))).toNat
      = 2 ^ k - (12 + 32 * n) % 2 ^ k := by
    have hle : offset &&& (pagesize - 1) ≤ pagesize := by
      rw [UInt32.le_iff_toNat_le, hand, hoff, hps]
      omega
    rw [UInt32.toNat_sub_of_le _ _ hle, hand, hoff, hps]
  rw [UInt32.toNat_add, hsub, hoff, ← hw]
  omega

/-- **THE WRITTEN BLOCK**: head and table, zeros up to the page after the
    table, the padded payloads, and as many zeros again as the counted header
    is too large. -/
theorem buildBlock_eq (hg : Gathered fdt (2 ^ k) sc) (hk11 : 11 ≤ k) (hk : k ≤ 17)
    (hps : pagesize.toNat = 2 ^ k) (hm : (pagesize - 1).toNat = 2 ^ k - 1)
    (hne : sc.entries.length ≠ 0) (hfit : sc.imageSize (2 ^ k) < 2 ^ 32) :
    ∃ sz, buildBlock q pagesize sc = some
      (headBytes sc.entries.length (tableOf q pagesize sc)
        ++ zeros (writtenHeader (2 ^ k) sc.entries.length - (12 + 32 * sc.entries.length))
        ++ payloads (2 ^ k) sc.blobs
        ++ zeros (countedHeader (2 ^ k) sc.entries.length
          - writtenHeader (2 ^ k) sc.entries.length), sz) := by
  have hpos : 0 < 2 ^ k := Nat.two_pow_pos k
  have hwc := written_le_counted (p := 2 ^ k) hne
  have hw12 : 12 + 32 * sc.entries.length ≤ writtenHeader (2 ^ k) sc.entries.length :=
    le_roundUp hpos _
  have hsize : sc.imageSize (2 ^ k)
      = countedHeader (2 ^ k) sc.entries.length + blobBytes (2 ^ k) sc.blobs := rfl
  have hhdr := hg.toNat_hdrSz hk hm (by omega)
  have htlen := length_tableOf q pagesize sc
  -- the allocation
  have halloc : (maskUp (sc.hdrSz + 4) (pagesize - 1) + sc.blobSz).toNat
      = countedHeader (2 ^ k) sc.entries.length + blobBytes (2 ^ k) sc.blobs := by
    have hb : sc.blobSz.toNat = blobBytes (2 ^ k) sc.blobs := by
      rw [hg.blobSz]
      exact Nat.mod_eq_of_lt (by show blobBytes _ _ < _; omega)
    rw [UInt32.toNat_add, hhdr, hb]
    omega
  generalize hT : countedHeader (2 ^ k) sc.entries.length + blobBytes (2 ^ k) sc.blobs = T
    at halloc hsize
  -- the three header words
  have hmagic := memcpy_append_zeros [] dtbhMagic (n := T)
    (show 0 = ([] : Bytes).length from rfl) (by show 4 ≤ T; omega)
  have hversion := memcpy_append_zeros dtbhMagic (le32 dtbhVersion) (n := T - 4)
    (show 4 = dtbhMagic.length from rfl) (by show 4 ≤ T - 4; omega)
  have hcount := memcpy_append_zeros (dtbhMagic ++ le32 dtbhVersion)
    (le32 (UInt32.ofNat sc.entries.length)) (n := T - 4 - 4)
    (show 8 = (dtbhMagic ++ le32 dtbhVersion).length from rfl) (by show 4 ≤ T - 4 - 4; omega)
  -- the table
  obtain ⟨offset, htable, hoff⟩ := writeEntries_spec (tableOf q pagesize sc)
    (dtbhMagic ++ le32 dtbhVersion ++ le32 (UInt32.ofNat sc.entries.length)) (T - 4 - 4 - 4)
    dtHeaderPhysSize rfl (by rw [htlen]; omega) (by show 12 + _ < _; omega)
  rw [htlen] at htable hoff
  have hpad := toNat_padded_offset (k := k) (n := sc.entries.length) (by omega) hps hm
    hoff (by omega)
  -- the payloads start where the padded table ends
  have hsplit : dtbhMagic ++ le32 dtbhVersion ++ le32 (UInt32.ofNat sc.entries.length)
        ++ (tableOf q pagesize sc).flatMap DtEntry.bytes
        ++ zeros (T - 4 - 4 - 4 - 32 * sc.entries.length)
      = (headBytes sc.entries.length (tableOf q pagesize sc)
          ++ zeros (writtenHeader (2 ^ k) sc.entries.length - (12 + 32 * sc.entries.length)))
        ++ zeros (T - writtenHeader (2 ^ k) sc.entries.length) := by
    rw [List.append_assoc (headBytes _ _), ← zeros_add, headBytes]
    congr 2
    omega
  have hlen : (headBytes sc.entries.length (tableOf q pagesize sc)
      ++ zeros (writtenHeader (2 ^ k) sc.entries.length - (12 + 32 * sc.entries.length))).length
      = writtenHeader (2 ^ k) sc.entries.length := by
    rw [List.length_append, length_headBytes, length_zeros, htlen]
    omega
  have hblobs := writeBlobs_spec hk hm sc.blobs
    (headBytes sc.entries.length (tableOf q pagesize sc)
      ++ zeros (writtenHeader (2 ^ k) sc.entries.length - (12 + 32 * sc.entries.length)))
    (T - writtenHeader (2 ^ k) sc.entries.length) _ hg.sizes (hpad.trans hlen.symm)
    (by omega) (by rw [hlen]; omega)
  refine ⟨maskUp (sc.hdrSz + 4) (pagesize - 1) + sc.blobSz, ?_⟩
  rw [buildBlock]
  dsimp only
  rw [halloc, show zeros T = [] ++ zeros T from rfl, hmagic]
  dsimp only
  rw [List.nil_append, show (dtbhMagic : Bytes).length = 4 from rfl, hversion]
  dsimp only
  rw [length_le32, hcount]
  dsimp only
  rw [length_le32, show (q.sort dtEntryCmp sc.entries).map _ = tableOf q pagesize sc from rfl,
    htable]
  dsimp only
  rw [hsplit, writeBlobs_assignOffsets, hblobs]
  dsimp only
  rw [show T - writtenHeader (2 ^ k) sc.entries.length - blobBytes (2 ^ k) sc.blobs
    = countedHeader (2 ^ k) sc.entries.length - writtenHeader (2 ^ k) sc.entries.length
    by omega]

-- ── The size of the block ────────────────────────────────────────────────────

theorem length_writeEntries : ∀ (es : List DtEntry) {dtbh out : Bytes} {offset offset' : UInt32},
    writeEntries dtbh offset es = some (out, offset') → out.length = dtbh.length := by
  intro es
  induction es with
  | nil =>
      intro dtbh out offset offset' h
      rw [← (Prod.mk.inj (Option.some.inj h)).1]
  | cons e rest ih =>
      intro dtbh out offset offset' h
      rw [writeEntries] at h
      split at h
      · exact nomatch h
      · rename_i dtbh' hcopy
        rw [ih h, length_memcpy hcopy]

theorem length_writeBlobs {mask : UInt32} : ∀ (blobs : List DtBlob) {dtbh out : Bytes}
    {offset : UInt32}, writeBlobs mask dtbh offset blobs = some out →
      out.length = dtbh.length := by
  intro blobs
  induction blobs with
  | nil =>
      intro dtbh out offset h
      rw [← Option.some.inj h]
  | cons b rest ih =>
      intro dtbh out offset h
      rw [writeBlobs] at h
      split at h
      · exact nomatch h
      · rename_i dtbh' hcopy
        rw [ih h, length_memcpy hcopy]

/-- The copies that a block is built by. -/
theorem buildBlock_eq_some_iff {q : QSort DtEntry} {pagesize sz : UInt32} {sc : Scan} {b : Bytes} :
    buildBlock q pagesize sc = some (b, sz)
      ↔ ∃ d1 d2 d3 d4 offset,
        memcpy (zeros (maskUp (sc.hdrSz + 4) (pagesize - 1) + sc.blobSz).toNat) 0 dtbhMagic
            = some d1
          ∧ memcpy d1 4 (le32 dtbhVersion) = some d2
          ∧ memcpy d2 8 (le32 (UInt32.ofNat sc.entries.length)) = some d3
          ∧ writeEntries d3 dtHeaderPhysSize (tableOf q pagesize sc) = some (d4, offset)
          ∧ writeBlobs (pagesize - 1) d4 (offset + (pagesize - (offset &&& (pagesize - 1))))
              sc.blobs = some b
          ∧ sz = maskUp (sc.hdrSz + 4) (pagesize - 1) + sc.blobSz := by
  constructor
  · intro h
    rw [buildBlock] at h
    dsimp only at h
    split at h
    · exact nomatch h
    rename_i d1 h1
    split at h
    · exact nomatch h
    rename_i d2 h2
    split at h
    · exact nomatch h
    rename_i d3 h3
    split at h
    · exact nomatch h
    rename_i d4 offset h4
    split at h
    · exact nomatch h
    rename_i d5 h5
    obtain ⟨rfl, rfl⟩ := Prod.mk.inj (Option.some.inj h)
    rw [writeBlobs_assignOffsets] at h5
    exact ⟨d1, d2, d3, d4, offset, h1, h2, h3, h4, h5, rfl⟩
  · rintro ⟨d1, d2, d3, d4, offset, h1, h2, h3, h4, h5, rfl⟩
    rw [buildBlock]
    dsimp only
    rw [h1]
    dsimp only
    rw [h2]
    dsimp only
    rw [h3]
    dsimp only
    rw [show (q.sort dtEntryCmp sc.entries).map _ = tableOf q pagesize sc from rfl, h4]
    dsimp only
    rw [writeBlobs_assignOffsets, h5]

theorem length_header {n : UInt32} {size : Nat} {d1 d2 d3 : Bytes}
    (h1 : memcpy (zeros size) 0 dtbhMagic = some d1) (h2 : memcpy d1 4 (le32 dtbhVersion) = some d2)
    (h3 : memcpy d2 8 (le32 n) = some d3) : d3.length = size := by
  rw [length_memcpy h3, length_memcpy h2, length_memcpy h1, length_zeros]

/-- The size that is returned is the length of the block, whatever the
    sizes. -/
theorem loadDtbhBlock_length {fdt : Libfdt} {q : QSort DtEntry} {heap : Nat → Bool}
    {dir : Option (List (Bytes × Option Bytes))} {pagesize sz : UInt32} {b : Bytes}
    (h : loadDtbhBlock fdt q heap dir pagesize = .ok (some (b, sz))) : b.length = sz.toNat := by
  unfold loadDtbhBlock at h
  split at h
  · exact nomatch h
  split at h
  · exact nomatch h
  split at h
  · exact nomatch h
  split at h
  · exact nomatch h
  split at h
  · exact nomatch h
  rename_i r hbuild
  have hr : r = (b, sz) := Option.some.inj (Except.ok.inj h)
  rw [hr] at hbuild
  obtain ⟨d1, d2, d3, d4, offset, h1, h2, h3, h4, h5, rfl⟩ := buildBlock_eq_some_iff.mp hbuild
  rw [length_writeBlobs _ h5, length_writeEntries _ h4, length_header h1 h2 h3]

-- ── Reading the block back ───────────────────────────────────────────────────

/-- Row `i` of a table stands at byte `32 * i`. -/
theorem flatMap_row : ∀ (table : List DtEntry) (i : Nat) (e : DtEntry),
    table[i]? = some e →
    ∃ pre post, table.flatMap DtEntry.bytes = pre ++ (e.bytes ++ post)
      ∧ pre.length = 32 * i := by
  intro table
  induction table with
  | nil => intro i e hi; exact nomatch hi
  | cons hd rest ih =>
      intro i e hi
      cases i with
      | zero =>
          have he : hd = e := by simpa using hi
          subst he
          exact ⟨[], rest.flatMap DtEntry.bytes, rfl, rfl⟩
      | succ i =>
          obtain ⟨pre, post, hcat, hlen⟩ := ih i e (by simpa using hi)
          refine ⟨hd.bytes ++ pre, post, ?_, ?_⟩
          · rw [List.flatMap_cons, hcat, List.append_assoc]
          · rw [List.length_append, length_entry_bytes, hlen]
            omega

/-- The offset and size words of row `i`, read back from the block. -/
theorem row_words {n i : Nat} {table : List DtEntry} {e : DtEntry} (tail : Bytes)
    (hi : table[i]? = some e) :
    le32At (headBytes n table ++ tail) (12 + 32 * i + 20) = e.offset
      ∧ le32At (headBytes n table ++ tail) (12 + 32 * i + 24) = e.size := by
  obtain ⟨pre, post, hcat, hlen⟩ := flatMap_row table i e hi
  let first := le32 e.chip ++ le32 e.platform ++ le32 e.subtype ++ le32 e.hwRev
    ++ le32 e.hwRevEnd
  let front := dtbhMagic ++ le32 dtbhVersion ++ le32 (UInt32.ofNat n) ++ pre ++ first
  have hfirst : first.length = 20 := rfl
  have hfront : front.length = 12 + 32 * i + 20 := by
    rw [List.length_append, List.length_append, hlen, hfirst]
    rfl
  have hblock : headBytes n table ++ tail
      = front ++ (le32 e.offset ++ (le32 e.size ++ (le32 e.space ++ (post ++ tail)))) := by
    simp only [headBytes, hcat, DtEntry.bytes, front, first, List.append_assoc]
  refine ⟨?_, ?_⟩
  · rw [hblock]
    exact le32At_append front _ e.offset hfront.symm
  · rw [hblock, ← List.append_assoc front]
    refine le32At_append (front ++ le32 e.offset) _ e.size ?_
    rw [List.length_append, hfront, length_le32]

/-- Reading all padded payloads at `start` is reading each one at its place. -/
theorem slice_payloads_iff {p : Nat} (hp : 0 < p) (b : Bytes) :
    ∀ (blobs : List DtBlob) (start : Nat),
      slice b start (payloads p blobs).length = payloads p blobs
        ↔ ∀ (j : Nat) (bl : DtBlob), blobs[j]? = some bl →
          slice b (start + blobBytes p (blobs.take j)) (roundUp p bl.payload.length)
            = padded p bl.payload := by
  intro blobs
  induction blobs with
  | nil =>
      intro start
      exact ⟨fun _ j bl hj => (nomatch hj), fun _ => rfl⟩
  | cons hd rest ih =>
      intro start
      have hcons : payloads p (hd :: rest) = padded p hd.payload ++ payloads p rest := rfl
      rw [hcons, List.length_append, slice_eq_append_iff, ih, length_padded hp]
      constructor
      · rintro ⟨hhd, hrest⟩ j bl hj
        cases j with
        | zero =>
            have he : hd = bl := by simpa using hj
            subst he
            exact hhd
        | succ j =>
            have := hrest j bl (by simpa using hj)
            rwa [Nat.add_assoc] at this
      · intro h
        refine ⟨h 0 hd rfl, ?_⟩
        intro j bl hj
        have := h (j + 1) bl (by simpa using hj)
        rwa [List.take_succ_cons, blobBytes_cons, ← Nat.add_assoc] at this

/-- A blob ends before the blobs do. -/
theorem blobBytes_take_le (p : Nat) : ∀ (blobs : List DtBlob) (j : Nat) (bl : DtBlob),
    blobs[j]? = some bl →
    blobBytes p (blobs.take j) + roundUp p bl.payload.length ≤ blobBytes p blobs := by
  intro blobs
  induction blobs with
  | nil => intro j bl hj; exact nomatch hj
  | cons hd rest ih =>
      intro j bl hj
      cases j with
      | zero =>
          have he : hd = bl := by simpa using hj
          subst he
          show 0 + _ ≤ roundUp p hd.payload.length + blobBytes p rest
          omega
      | succ j =>
          have := ih j bl (by simpa using hj)
          rw [List.take_succ_cons, blobBytes_cons, blobBytes_cons]
          omega

/-- Every blob has a row in the sorted table, and every row a blob. -/
theorem Gathered.rows_blobs {p : Nat} (hg : Gathered fdt p sc) (j : Nat) :
    (∃ (i : Nat) (e : DtEntry), (q.sort dtEntryCmp sc.entries)[i]? = some e ∧ e.blob = j)
      ↔ j < sc.blobs.length := by
  have hperm : ((q.sort dtEntryCmp sc.entries).map DtEntry.blob).Perm
      (List.range sc.blobs.length) := by
    rw [← hg.blob_of]
    exact (q.perm _ _).map _
  rw [← List.mem_range, ← hperm.mem_iff, List.mem_map]
  constructor
  · rintro ⟨i, e, hi, hj⟩
    exact ⟨e, List.mem_of_getElem? hi, hj⟩
  · rintro ⟨e, he, hj⟩
    obtain ⟨i, hi⟩ := List.mem_iff_getElem?.mp he
    exact ⟨i, e, hi, hj⟩

/-- The block is consistent exactly when the payloads can be read where the
    counted header ends. -/
theorem consistent_iff_slice (hg : Gathered fdt (2 ^ k) sc) (hk : k ≤ 17)
    (hm : (pagesize - 1).toNat = 2 ^ k - 1) (hfit : sc.imageSize (2 ^ k) < 2 ^ 32)
    (tail : Bytes) (hlen : (headBytes sc.entries.length (tableOf q pagesize sc)
      ++ tail).length = sc.imageSize (2 ^ k)) :
    Consistent (2 ^ k) (headBytes sc.entries.length (tableOf q pagesize sc) ++ tail)
        (sc.madeFrom q)
      ↔ slice (headBytes sc.entries.length (tableOf q pagesize sc) ++ tail)
          (countedHeader (2 ^ k) sc.entries.length) (payloads (2 ^ k) sc.blobs).length
        = payloads (2 ^ k) sc.blobs := by
  have hpos : 0 < 2 ^ k := Nat.two_pow_pos k
  have hsize : sc.imageSize (2 ^ k)
      = countedHeader (2 ^ k) sc.entries.length + blobBytes (2 ^ k) sc.blobs := rfl
  have hhdr := hg.toNat_hdrSz hk hm (by omega)
  have hcnt : (sc.madeFrom q).length = sc.entries.length := by
    rw [Scan.madeFrom, List.length_map, (q.perm _ _).length_eq]
  have hn32 : sc.entries.length < 2 ^ 32 := by
    have := le_roundUp hpos (16 + 16 * (sc.entries.length * (sc.entries.length + 1)))
    have : sc.entries.length * 1 ≤ sc.entries.length * (sc.entries.length + 1) :=
      Nat.mul_le_mul_left _ (by omega)
    rw [hsize, countedHeader] at hfit
    omega
  generalize hblk : headBytes sc.entries.length (tableOf q pagesize sc) ++ tail = b at hlen ⊢
  -- what row `i` says about its blob
  have hrow : ∀ (i : Nat) (e : DtEntry) (bl : DtBlob),
      (q.sort dtEntryCmp sc.entries)[i]? = some e → sc.blobs[e.blob]? = some bl →
      (le32At b (12 + 32 * i + 20)).toNat
          = countedHeader (2 ^ k) sc.entries.length
            + blobBytes (2 ^ k) (sc.blobs.take e.blob)
        ∧ (le32At b (12 + 32 * i + 24)).toNat = roundUp (2 ^ k) bl.payload.length := by
    intro i e bl hi hbl
    obtain ⟨o, ho, honat⟩ := assignOffsets_getElem? hk hm sc.blobs
      (maskUp (sc.hdrSz + 4) (pagesize - 1)) e.blob bl hg.sizes
      (by rw [hhdr]; omega) hbl
    have hupd : (tableOf q pagesize sc)[i]?
        = some { e with offset := o, size := maskUp bl.size (pagesize - 1) } := by
      rw [tableOf, List.getElem?_map, hi]
      show some (updateEntry _ _ e) = _
      rw [updateEntry, ho]
    obtain ⟨h1, h2⟩ := row_words (n := sc.entries.length) tail hupd
    rw [hblk] at h1 h2
    rw [h1, h2]
    exact ⟨by rw [honat, hhdr],
      toNat_maskUp_size hk hm (hg.sizes bl (List.mem_of_getElem? hbl))⟩
  have hmade : ∀ (i : Nat) (payload : Bytes), (sc.madeFrom q)[i]? = some payload ↔
      ∃ (e : DtEntry) (bl : DtBlob), (q.sort dtEntryCmp sc.entries)[i]? = some e
        ∧ sc.blobs[e.blob]? = some bl ∧ payload = bl.payload := by
    intro i payload
    rw [Scan.madeFrom, List.getElem?_map]
    constructor
    · intro h
      obtain ⟨e, he, hpay⟩ := Option.map_eq_some_iff.mp h
      have hlt := (hg.rows_blobs (q := q) e.blob).mp ⟨i, e, he, rfl⟩
      obtain ⟨bl, hbl⟩ : ∃ bl, sc.blobs[e.blob]? = some bl :=
        ⟨_, List.getElem?_eq_getElem hlt⟩
      refine ⟨e, bl, he, hbl, ?_⟩
      rw [hbl] at hpay
      exact hpay.symm
    · rintro ⟨e, bl, he, hbl, rfl⟩
      rw [he]
      show some (Option.getD (Option.map _ sc.blobs[e.blob]?) []) = _
      rw [hbl]
      rfl
  rw [slice_payloads_iff hpos]
  constructor
  · rintro ⟨-, hcons⟩ j bl hj
    have hlt : j < sc.blobs.length := (List.getElem?_eq_some_iff.mp hj).1
    obtain ⟨i, e, hi, rfl⟩ := (hg.rows_blobs (q := q) j).mpr hlt
    have := (hcons i bl.payload ((hmade i _).mpr ⟨e, bl, hi, hj, rfl⟩)).2
    rwa [(hrow i e bl hi hj).1, (hrow i e bl hi hj).2] at this
  · intro h
    refine ⟨?_, ?_⟩
    · have hw : b = (dtbhMagic ++ le32 dtbhVersion)
          ++ (le32 (UInt32.ofNat sc.entries.length)
            ++ ((tableOf q pagesize sc).flatMap DtEntry.bytes ++ tail)) := by
        simp only [← hblk, headBytes, List.append_assoc]
      have hword := le32At_append (dtbhMagic ++ le32 dtbhVersion)
        ((tableOf q pagesize sc).flatMap DtEntry.bytes ++ tail)
        (UInt32.ofNat sc.entries.length)
        (show 8 = (dtbhMagic ++ le32 dtbhVersion).length from rfl)
      rw [hw, hword, hcnt, UInt32.toNat_ofNat']
      omega
    · intro i payload hi
      obtain ⟨e, bl, he, hbl, rfl⟩ := (hmade i payload).mp hi
      have hle := blobBytes_take_le (2 ^ k) sc.blobs e.blob bl hbl
      rw [(hrow i e bl he hbl).1, (hrow i e bl he hbl).2]
      exact ⟨by rw [hlen, hsize]; omega, h e.blob bl hbl⟩

/-- The two header sizes round alike exactly while the accumulated one fits
    the first page. -/
theorem counted_eq_written_iff {n : Nat} (hk11 : 11 ≤ k) (hn : n ≠ 0) :
    countedHeader (2 ^ k) n = writtenHeader (2 ^ k) n
      ↔ 16 + 16 * (n * (n + 1)) ≤ 2 ^ k := by
  have hpos : 0 < 2 ^ k := Nat.two_pow_pos k
  have hbig : 2 ^ 11 ≤ 2 ^ k := Nat.pow_le_pow_right (by omega) hk11
  have hone : ∀ x, 0 < x → x ≤ 2 ^ k → roundUp (2 ^ k) x = 2 ^ k := by
    intro x hx hle
    have h2 : (x + 2 ^ k - 1) / 2 ^ k = 1 := Nat.div_eq_of_lt_le (by omega) (by omega)
    rw [roundUp, h2, Nat.one_mul]
  have hsq : n * 2 ≤ n * (n + 1) := Nat.mul_le_mul_left n (by omega)
  rw [countedHeader, writtenHeader]
  constructor
  · intro heq
    refine Decidable.byContradiction fun hgt => ?_
    by_cases hfirst : 12 + 32 * n ≤ 2 ^ k
    · -- the table fits one page, the counted header does not
      rw [hone _ (by omega) hfirst] at heq
      have := le_roundUp hpos (16 + 16 * (n * (n + 1)))
      omega
    · -- both exceed a page, and the counted one is more than a page ahead
      have hn64 : 64 ≤ n := by omega
      have hfar : n * 65 ≤ n * (n + 1) := Nat.mul_le_mul_left n (by omega)
      have hpage := roundUp_mul_add hpos 1 (12 + 32 * n)
      have hmono := roundUp_mono (2 ^ k)
        (show 1 * 2 ^ k + (12 + 32 * n) ≤ 16 + 16 * (n * (n + 1)) by omega)
      omega
  · intro hle
    rw [hone _ (by omega) hle, hone _ (by omega) (by omega)]

/-- **WHEN THE IMAGE IS CONSISTENT**: a built block is consistent exactly when
    the accumulated header size fits the first page.  Otherwise every entry
    points past its payload, and the device tree magic is a byte the zeros
    there cannot match. -/
theorem consistent_iff_of_gathered (hmagic : fdt.ChecksMagic)
    (hg : Gathered fdt (2 ^ k) sc) (hk11 : 11 ≤ k) (hk : k ≤ 17)
    (hps : pagesize.toNat = 2 ^ k) (hm : (pagesize - 1).toNat = 2 ^ k - 1)
    (hne : sc.entries.length ≠ 0) (hfit : sc.imageSize (2 ^ k) < 2 ^ 32) :
    ∃ b sz, buildBlock q pagesize sc = some (b, sz) ∧
      (Consistent (2 ^ k) b (sc.madeFrom q)
        ↔ 16 + 16 * (sc.entries.length * (sc.entries.length + 1)) ≤ 2 ^ k) := by
  have hpos : 0 < 2 ^ k := Nat.two_pow_pos k
  obtain ⟨sz, hbuild⟩ := buildBlock_eq (q := q) hg hk11 hk hps hm hne hfit
  have hwc := written_le_counted (p := 2 ^ k) hne
  have hw12 : 12 + 32 * sc.entries.length ≤ writtenHeader (2 ^ k) sc.entries.length :=
    le_roundUp hpos _
  have htlen := length_tableOf q pagesize sc
  have hsize : sc.imageSize (2 ^ k)
      = countedHeader (2 ^ k) sc.entries.length + blobBytes (2 ^ k) sc.blobs := rfl
  refine ⟨_, sz, hbuild, ?_⟩
  rw [← counted_eq_written_iff hk11 hne]
  -- some payload byte is not zero
  have hnz : ¬ ∀ x ∈ payloads (2 ^ k) sc.blobs, x = 0 := by
    intro hz
    cases hbl : sc.blobs with
    | nil =>
        have := hg.count_eq
        rw [hbl] at this
        exact hne this
    | cons bl rest =>
        have hmg := hmagic bl.payload (hg.checked bl (by rw [hbl]; exact List.mem_cons_self))
        have hmem : (0xd0 : UInt8) ∈ bl.payload := by
          refine List.mem_of_mem_take (i := 4) ?_
          rw [hmg]
          exact List.mem_cons_self
        refine absurd (hz 0xd0 ?_) (by decide)
        rw [hbl, payloads, List.flatMap_cons]
        exact List.mem_append_left _ (List.mem_append_left _ hmem)
  generalize hd : countedHeader (2 ^ k) sc.entries.length
    - writtenHeader (2 ^ k) sc.entries.length = d
  have hplen := length_payloads hpos sc.blobs
  have hfront : (headBytes sc.entries.length (tableOf q pagesize sc)
      ++ zeros (writtenHeader (2 ^ k) sc.entries.length
        - (12 + 32 * sc.entries.length))).length
      = writtenHeader (2 ^ k) sc.entries.length := by
    rw [List.length_append, length_headBytes, length_zeros, htlen]
    omega
  have hread := consistent_iff_slice (q := q) hg hk hm hfit
    (zeros (writtenHeader (2 ^ k) sc.entries.length - (12 + 32 * sc.entries.length))
      ++ (payloads (2 ^ k) sc.blobs ++ zeros d))
    (by
      rw [← List.append_assoc, List.length_append, hfront, List.length_append, hplen,
        length_zeros, hsize]
      omega)
  rw [← List.append_assoc] at hread
  rw [List.append_assoc, hread,
    show countedHeader (2 ^ k) sc.entries.length
      = (headBytes sc.entries.length (tableOf q pagesize sc)
        ++ zeros (writtenHeader (2 ^ k) sc.entries.length
          - (12 + 32 * sc.entries.length))).length + d by rw [hfront]; omega,
    slice_append_right, append_zeros_slice_iff, hfront]
  constructor
  · rintro (h0 | hz)
    · omega
    · exact absurd hz hnz
  · intro heq
    exact Or.inl (by omega)

end Built

-- ── The accepted files of a directory ────────────────────────────────────────

/-- The contents the tool takes from one directory entry, if it accepts it. -/
def acceptedDtb (fdt : Libfdt) (entry : Bytes × Option Bytes) : Option Bytes :=
  if entry.1.length < 4 ∨ entry.1.drop (entry.1.length - 4) ≠ dtbSuffix then none
  else match loadFile entry.2 with
  | none => none
  | some dtb =>
    match probe fdt dtb with
    | .accept _ _ _ => some dtb
    | _ => none

/-- The accepted dtbs, in directory order. -/
def acceptedDtbs (fdt : Libfdt) (files : List (Bytes × Option Bytes)) : List Bytes :=
  files.filterMap (acceptedDtb fdt)

/-- The block that `dtbs` ask for, in exact arithmetic. -/
def blockSize (p : Nat) (dtbs : List Bytes) : Nat :=
  countedHeader p dtbs.length + (dtbs.map (fun dtb => roundUp p dtb.length)).sum

section Accepted

variable {fdt : Libfdt} {heap : Nat → Bool} {mask : UInt32}

/-- One turn of the loop appends the file exactly when it is accepted. -/
theorem scanFile_payloads {sc sc' : Scan} {name : Bytes} {file : Option Bytes}
    (h : scanFile fdt heap mask sc name file = .ok sc') :
    sc'.blobs.map DtBlob.payload
      = sc.blobs.map DtBlob.payload ++ (acceptedDtb fdt (name, file)).toList := by
  rw [scanFile] at h
  rw [acceptedDtb]
  split at h
  · rename_i hname
    rw [if_pos hname, ← Except.ok.inj h]
    exact (List.append_nil _).symm
  rename_i hname
  rw [if_neg hname]
  dsimp only
  cases hload : loadFile file with
  | none =>
      rw [hload] at h
      exact nomatch h
  | some dtb =>
      rw [hload] at h
      dsimp only at h ⊢
      cases hprobe : probe fdt dtb with
      | skip why =>
          rw [hprobe] at h
          rw [← Except.ok.inj h]
          exact (List.append_nil _).symm
      | undefined =>
          rw [hprobe] at h
          exact nomatch h
      | accept chip hwRev hwRevEnd =>
          rw [hprobe] at h
          dsimp only [addDtb] at h
          split at h
          · exact nomatch h
          split at h
          · exact nomatch h
          rw [← Except.ok.inj h, List.map_append]
          rfl

/-- The loop gathers the accepted files and nothing else. -/
theorem scanDir_payloads : ∀ (files : List (Bytes × Option Bytes)) {sc sc' : Scan},
    scanDir fdt heap mask sc files = .ok sc' →
    sc'.blobs.map DtBlob.payload
      = sc.blobs.map DtBlob.payload ++ acceptedDtbs fdt files := by
  intro files
  induction files with
  | nil =>
      intro sc sc' h
      rw [← Except.ok.inj h]
      exact (List.append_nil _).symm
  | cons hd rest ih =>
      intro sc sc' h
      obtain ⟨name, file⟩ := hd
      obtain ⟨sc₁, hstep, h⟩ := scanDir_cons h
      rw [ih h, scanFile_payloads hstep, List.append_assoc, acceptedDtbs, acceptedDtbs,
        List.filterMap_cons]
      cases acceptedDtb fdt (name, file) with
      | none => rfl
      | some dtb => rfl

/-- The gathered blobs are the accepted dtbs. -/
theorem scanDir_init_payloads {files : List (Bytes × Option Bytes)} {sc : Scan}
    (h : scanDir fdt heap mask {} files = .ok sc) :
    sc.blobs.map DtBlob.payload = acceptedDtbs fdt files :=
  scanDir_payloads files h

end Accepted

/-- A completed scan with something in it is built into a block, which is
    consistent exactly while the accumulated header fits the first page. -/
theorem loadDtbhBlock_of_scan {fdt : Libfdt} {q : QSort DtEntry} {heap : Nat → Bool}
    {files : List (Bytes × Option Bytes)} {pagesize : UInt32} {sc : Scan}
    (hmagic : fdt.ChecksMagic) (hps : pagesize ∈ acceptedPageSizes)
    (hscan : scanDir fdt heap (pagesize - 1) {} files = .ok sc)
    (hne : acceptedDtbs fdt files ≠ [])
    (hheap : heap (2 * (acceptedDtbs fdt files).length) = true)
    (hfit : blockSize pagesize.toNat (acceptedDtbs fdt files) < 2 ^ 32) :
    ∃ b sz, loadDtbhBlock fdt q heap (some files) pagesize = .ok (some (b, sz)) ∧
      (Consistent pagesize.toNat b (sc.madeFrom q)
        ↔ 16 + 16 * ((acceptedDtbs fdt files).length * ((acceptedDtbs fdt files).length + 1))
          ≤ pagesize.toNat) := by
  obtain ⟨k, hk11, hk, hpk, hm⟩ := accepted_pow hps
  have hg : Gathered fdt (2 ^ k) sc := Gathered.scanDir hk hm files Gathered.init hscan
  have hpay := scanDir_init_payloads hscan
  have hn : sc.entries.length = (acceptedDtbs fdt files).length := by
    rw [hg.count_eq, ← hpay, List.length_map]
  have hsize : sc.imageSize (2 ^ k) = blockSize (2 ^ k) (acceptedDtbs fdt files) := by
    rw [Scan.imageSize, blockSize, hn, ← hpay, List.map_map]
    rfl
  have hne' : sc.entries.length ≠ 0 := by
    rw [hn]
    exact fun h0 => hne (List.eq_nil_of_length_eq_zero h0)
  rw [hpk] at hfit ⊢
  obtain ⟨b, sz, hbuild, hiff⟩ := consistent_iff_of_gathered (q := q) hmagic hg hk11 hk hpk hm
    hne' (by rw [hsize]; exact hfit)
  refine ⟨b, sz, ?_, ?_⟩
  · unfold loadDtbhBlock
    dsimp only
    rw [hscan]
    dsimp only
    rw [if_neg hne', hn, hheap, if_neg (by decide), hbuild]
  · rw [hiff, hn]

/-- **THE TABLE POINTS AT ITS DTBS** exactly while the header size that the
    loop accumulates, `12 + 32 * (1 + 2 + ... + n) + 4` for `n` accepted dtbs,
    fits one page. -/
theorem loadDtbhBlock_consistent_iff (fdt : Libfdt) (hmagic : fdt.ChecksMagic)
    (q : QSort DtEntry) (heap : Nat → Bool) (files : List (Bytes × Option Bytes))
    (pagesize : UInt32) (hps : pagesize ∈ acceptedPageSizes) (sc : Scan)
    (hscan : scanDir fdt heap (pagesize - 1) {} files = .ok sc)
    (hne : acceptedDtbs fdt files ≠ [])
    (hheap : heap (2 * (acceptedDtbs fdt files).length) = true)
    (hfit : blockSize pagesize.toNat (acceptedDtbs fdt files) < 2 ^ 32) :
    ∃ b sz, loadDtbhBlock fdt q heap (some files) pagesize = .ok (some (b, sz)) ∧
      (Consistent pagesize.toNat b (sc.madeFrom q)
        ↔ 16 + 16 * ((acceptedDtbs fdt files).length * ((acceptedDtbs fdt files).length + 1))
          ≤ pagesize.toNat) :=
  loadDtbhBlock_of_scan hmagic hps hscan hne hheap hfit

-- ── A device tree to run the tool on ─────────────────────────────────────────

/-- A flattened device tree whose root has the five `model_info` properties. -/
def sampleDtb : Bytes :=
  [208, 13, 254, 237, 0, 0, 0, 255, 0, 0, 0, 56, 0, 0, 0, 160,
   0, 0, 0, 40, 0, 0, 0, 17, 0, 0, 0, 16, 0, 0, 0, 0,
   0, 0, 0, 95, 0, 0, 0, 104, 0, 0, 0, 0, 0, 0, 0, 0,
   0, 0, 0, 0, 0, 0, 0, 0, 0, 0, 0, 1, 0, 0, 0, 0,
   0, 0, 0, 3, 0, 0, 0, 4, 0, 0, 0, 0, 0, 0, 29, 156,
   0, 0, 0, 3, 0, 0, 0, 8, 0, 0, 0, 16, 97, 110, 100, 114,
   111, 105, 100, 0, 0, 0, 0, 3, 0, 0, 0, 8, 0, 0, 0, 36,
   115, 97, 109, 115, 117, 110, 103, 0, 0, 0, 0, 3, 0, 0, 0, 4,
   0, 0, 0, 55, 0, 0, 0, 0, 0, 0, 0, 3, 0, 0, 0, 4,
   0, 0, 0, 73, 0, 0, 0, 255, 0, 0, 0, 2, 0, 0, 0, 9,
   109, 111, 100, 101, 108, 95, 105, 110, 102, 111, 45, 99, 104, 105, 112, 0,
   109, 111, 100, 101, 108, 95, 105, 110, 102, 111, 45, 112, 108, 97, 116, 102,
   111, 114, 109, 0, 109, 111, 100, 101, 108, 95, 105, 110, 102, 111, 45, 115,
   117, 98, 116, 121, 112, 101, 0, 109, 111, 100, 101, 108, 95, 105, 110, 102,
   111, 45, 104, 119, 95, 114, 101, 118, 0, 109, 111, 100, 101, 108, 95, 105,
   110, 102, 111, 45, 104, 119, 95, 114, 101, 118, 95, 101, 110, 100, 0]

/-- libfdt's answers for `sampleDtb`; anything else is a bad magic number. -/
def sampleFdt : Libfdt where
  checkHeader dtb := if dtb = sampleDtb then 0 else -9
  pathOffset dtb path := if dtb = sampleDtb ∧ path = "/" then 0 else -1
  getprop dtb node name :=
    if dtb ≠ sampleDtb ∨ node ≠ 0 then (none, -1)
    else if name = "model_info-chip" then (some 76, 4)
    else if name = "model_info-platform" then (some 92, 8)
    else if name = "model_info-subtype" then (some 112, 8)
    else if name = "model_info-hw_rev" then (some 132, 4)
    else if name = "model_info-hw_rev_end" then (some 148, 4)
    else (none, -1)

theorem sampleFdt_checksMagic : sampleFdt.ChecksMagic := by
  intro dtb h
  by_cases hd : dtb = sampleDtb
  · rw [hd]
    rfl
  · rw [show sampleFdt.checkHeader dtb = if dtb = sampleDtb then 0 else -9 from rfl,
      if_neg hd] at h
    exact absurd h (by decide)

/-- A stable merge sort is a `qsort`. -/
def mergeQSort (α : Type) : QSort α where
  sort cmp l :=
    (l.attach.mergeSort (fun a b => decide (cmp a.1 b.1 ≤ 0))).map Subtype.val
  perm cmp l := by
    have h := (List.mergeSort_perm l.attach
      (fun a b => decide (cmp a.1 b.1 ≤ 0))).map Subtype.val
    rwa [List.attach_map_subtype_val] at h
  ordered cmp l total trans := by
    refine List.pairwise_map.mpr ((List.pairwise_mergeSort ?_ ?_ l.attach).imp
      (fun h => of_decide_eq_true h))
    · intro a b c hab hbc
      exact decide_eq_true (trans a.1 a.2 b.1 b.2 c.1 c.2 (of_decide_eq_true hab)
        (of_decide_eq_true hbc))
    · intro a b
      simpa using total a.1 a.2 b.1 b.2

/-- A directory with `n` copies of the sample, named `a.dtb`. -/
def sampleDir (n : Nat) : List (Bytes × Option Bytes) :=
  List.replicate n ([0x61, 0x2e, 0x64, 0x74, 0x62], some sampleDtb)

/-- Whether a scan went through. -/
def scanned (r : Except Fault Scan) : Bool :=
  match r with
  | .ok _ => true
  | .error _ => false

theorem scanned_iff {r : Except Fault Scan} : scanned r = true ↔ ∃ sc, r = .ok sc := by
  cases r with
  | ok sc => exact ⟨fun _ => ⟨sc, rfl⟩, fun _ => rfl⟩
  | error f => exact ⟨fun h => (nomatch h), fun ⟨sc, h⟩ => (nomatch h)⟩

/-- Two dtbs at page size 2048 give a consistent table. -/
theorem loadDtbhBlock_two_consistent :
    ∃ sc b sz, scanDir sampleFdt (fun _ => true) (2048 - 1) {} (sampleDir 2) = .ok sc
      ∧ loadDtbhBlock sampleFdt (mergeQSort DtEntry) (fun _ => true)
          (some (sampleDir 2)) 2048 = .ok (some (b, sz))
      ∧ Consistent 2048 b (sc.madeFrom (mergeQSort DtEntry)) := by
  obtain ⟨sc, hsc⟩ := scanned_iff.mp
    (show scanned (scanDir sampleFdt (fun _ => true) (2048 - 1) {} (sampleDir 2)) = true by
      decide +kernel)
  obtain ⟨b, sz, hload, hiff⟩ := loadDtbhBlock_consistent_iff sampleFdt sampleFdt_checksMagic
    (mergeQSort DtEntry) (fun _ => true) (sampleDir 2) 2048 (by decide) sc hsc
    (by decide +kernel) rfl (by decide +kernel)
  exact ⟨sc, b, sz, hsc, hload, hiff.mpr (by decide +kernel)⟩

/-- Eleven dtbs at page size 2048: the accumulated header is 2128 bytes, the
    entries count from the third page and the payloads start at the second. -/
theorem loadDtbhBlock_eleven_inconsistent :
    ∃ sc b sz, scanDir sampleFdt (fun _ => true) (2048 - 1) {} (sampleDir 11) = .ok sc
      ∧ (acceptedDtbs sampleFdt (sampleDir 11)).length = 11
      ∧ blockSize 2048 (acceptedDtbs sampleFdt (sampleDir 11)) < 2 ^ 32
      ∧ loadDtbhBlock sampleFdt (mergeQSort DtEntry) (fun _ => true)
          (some (sampleDir 11)) 2048 = .ok (some (b, sz))
      ∧ ¬ Consistent 2048 b (sc.madeFrom (mergeQSort DtEntry)) := by
  obtain ⟨sc, hsc⟩ := scanned_iff.mp
    (show scanned (scanDir sampleFdt (fun _ => true) (2048 - 1) {} (sampleDir 11)) = true by
      decide +kernel)
  have hn : (acceptedDtbs sampleFdt (sampleDir 11)).length = 11 := by decide +kernel
  have hfit : blockSize 2048 (acceptedDtbs sampleFdt (sampleDir 11)) < 2 ^ 32 := by
    decide +kernel
  obtain ⟨b, sz, hload, hiff⟩ := @loadDtbhBlock_of_scan _ (mergeQSort DtEntry)
    (fun _ => true) (sampleDir 11) 2048 sc sampleFdt_checksMagic (by decide) hsc
    (fun h => by rw [h] at hn; exact nomatch hn) rfl hfit
  refine ⟨sc, b, sz, hsc, hn, hfit, hload, ?_⟩
  intro hcons
  have := hiff.mp hcons
  rw [hn] at this
  exact absurd this (by decide)

end DtbhBlock

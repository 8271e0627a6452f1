import Universal7580.BootAddressProofs

/-! # The bounds of the DTBH block, for any page size

    `mkbootimg` takes seven page sizes.  `mkdtbimg` takes what `strtol` makes of
    the argument of `-s`, and passes zero without one, so `load_dtbh_block` has
    to be looked at for every 32-bit page size.

    The size of the allocation and the place of the payloads are two roundings
    of two different numbers, by a mask that need not be one.  `Fits` says in
    numbers when they agree and nothing wraps, and `inBounds_iff` that this is
    when the block is written inside its allocation and ends where its last
    payload does. -/

namespace DtbhBounds

open PageBytes DtbhBlock Strtol

-- ── The arguments of mkdtbimg ────────────────────────────────────────────────

/-- What `main` of `mkdtbimg.c` keeps of its arguments. -/
structure MkdtOptions where
  dtimg : Option String := none
  dtDir : Option String := none
  pagesize : UInt32 := 0

def defaultPagesize : UInt32 := 2048

/-- The page size that `-s` sets. -/
def pagesizeArg (LONG_BIT : Nat) (val : String) : UInt32 :=
  let pagesize := UInt32.ofInt (strtol LONG_BIT val.toList)
  if pagesize = 0 then defaultPagesize else pagesize

section Arguments

variable (LONG_BIT : Nat) (isDir : String → Bool)

/-- One argument; `val` is `NULL` behind the last one.  `none` is `usage`, or a
    `strtol` of `NULL`. -/
def setOption (o : MkdtOptions) (arg : String) (val : Option String) : Option MkdtOptions :=
  if arg = "--output" ∨ arg = "-o" then some { o with dtimg := val }
  else if arg = "--dt_dir" then some { o with dtDir := val }
  else if arg = "-p" then some o
  else if arg = "-s" then val.map fun v => { o with pagesize := pagesizeArg LONG_BIT v }
  else if isDir arg = true then some { o with dtDir := some arg }
  else none

/-- The loop over the arguments, two at a time. -/
def parseArgs : MkdtOptions → List String → Option MkdtOptions
  | o, [] => some o
  | o, [arg] => setOption LONG_BIT isDir o arg none
  | o, arg :: val :: args =>
      match setOption LONG_BIT isDir o arg (some val) with
      | none => none
      | some o => parseArgs o args

end Arguments

/-- **ANY PAGE SIZE** can be passed: zero without `-s`, and any other one with it. -/
theorem pagesize_reached {LONG_BIT : Nat} (hbits : 32 ≤ LONG_BIT) (isDir : String → Bool)
    (pagesize : UInt32) :
    ∃ args o, parseArgs LONG_BIT isDir {} args = some o ∧ o.dtimg.isSome ∧ o.dtDir.isSome
      ∧ o.pagesize = pagesize := by
  by_cases hzero : pagesize = 0
  · exact ⟨["-o", "dt.img", "--dt_dir", "dtbs"], _, rfl, rfl, rfl, hzero.symm⟩
  · -- a number that fits a signed word and is the page size modulo 2 ^ 32
    obtain ⟨v, hlow, hhigh, hv⟩ : ∃ v : Int, -2 ^ 31 ≤ v ∧ v < 2 ^ 31
        ∧ v % 2 ^ 32 = pagesize.toNat := by
      have hlt : pagesize.toNat < 2 ^ 32 := pagesize.toNat_lt
      by_cases hsmall : pagesize.toNat < 2 ^ 31
      · exact ⟨pagesize.toNat, by omega, by omega, by omega⟩
      · exact ⟨pagesize.toNat - 2 ^ 32, by omega, by omega, by omega⟩
    have hpow : (2 : Int) ^ 31 ≤ 2 ^ (LONG_BIT - 1) := by
      exact_mod_cast Nat.pow_le_pow_right (by decide : 0 < 2) (Nat.le_sub_one_of_lt hbits)
    have hread : UInt32.ofInt (strtol LONG_BIT (decimal v)) = pagesize := by
      rw [strtol_decimal (by omega) (by omega), UInt32.ofInt, hv, Int.toNat_natCast,
        UInt32.ofNat_toNat]
    refine ⟨["-s", String.ofList (decimal v), "-o", "dt.img", "--dt_dir", "dtbs"], _, rfl, rfl,
      rfl, ?_⟩
    show pagesizeArg LONG_BIT (String.ofList (decimal v)) = pagesize
    rw [pagesizeArg, String.toList_ofList, hread]
    exact if_neg hzero

-- ── Sizes and places, as the code computes them ──────────────────────────────

/-- The room that is counted for a payload. -/
def paddedSize (pagesize : UInt32) (size : Nat) : Nat :=
  (maskUp (UInt32.ofNat size) (pagesize - 1)).toNat

/-- The room of all payloads. -/
def paddedSum (pagesize : UInt32) (sizes : List Nat) : Nat :=
  (sizes.map (paddedSize pagesize)).sum

/-- The header that is counted for `n` dtbs: `12 + 32 * (1 + 2 + ... + n) + 4` bytes,
    rounded up. -/
def countedStart (pagesize : UInt32) (n : Nat) : UInt32 :=
  maskUp (UInt32.ofNat (16 + 16 * (n * (n + 1)))) (pagesize - 1)

/-- Where the first payload is copied to: behind the padding after the table. -/
def payloadStart (pagesize : UInt32) (n : Nat) : UInt32 :=
  UInt32.ofNat (12 + 32 * n)
    + (pagesize - (UInt32.ofNat (12 + 32 * n) &&& (pagesize - 1)))

/-- Where the last padded payload ends. -/
def payloadEnd (pagesize : UInt32) (sizes : List Nat) : Nat :=
  (payloadStart pagesize sizes.length).toNat + paddedSum pagesize sizes

/-- Each payload is no longer than the room from its place on. -/
def Covered (pagesize : UInt32) : List Nat → Prop
  | [] => True
  | size :: rest => size ≤ paddedSum pagesize (size :: rest) ∧ Covered pagesize rest

/-- When the numbers agree. -/
structure Fits (pagesize : UInt32) (sizes : List Nat) : Prop where
  /-- Both roundings of the header give the same place. -/
  start : countedStart pagesize sizes.length = payloadStart pagesize sizes.length
  /-- The block has a 32-bit size. -/
  word : payloadEnd pagesize sizes < 2 ^ 32
  /-- The table ends inside it. -/
  table : 12 + 32 * sizes.length ≤ payloadEnd pagesize sizes
  covered : Covered pagesize sizes

theorem paddedSum_cons (pagesize : UInt32) (size : Nat) (rest : List Nat) :
    paddedSum pagesize (size :: rest) = paddedSize pagesize size + paddedSum pagesize rest := rfl

theorem paddedSum_append (pagesize : UInt32) (sizes rest : List Nat) :
    paddedSum pagesize (sizes ++ rest) = paddedSum pagesize sizes + paddedSum pagesize rest := by
  rw [paddedSum, List.map_append, List.sum_append]
  rfl

-- ── What the scan gathers ────────────────────────────────────────────────────

/-- The lengths of the payloads. -/
def sizesOf (sc : Scan) : List Nat := sc.blobs.map fun b => b.payload.length

/-- What the scan loop has gathered, for any page size. -/
structure Scanned (pagesize : UInt32) (sc : Scan) : Prop where
  count : sc.entries.length = sc.blobs.length
  sizes : ∀ b ∈ sc.blobs, b.size = UInt32.ofNat b.payload.length
  blobSz : sc.blobSz = UInt32.ofNat (paddedSum pagesize (sizesOf sc))
  hdrSz : sc.hdrSz = UInt32.ofNat (12 + 16 * (sc.entries.length * (sc.entries.length + 1)))

theorem Scanned.init (pagesize : UInt32) : Scanned pagesize {} where
  count := rfl
  sizes := fun _ hb => nomatch hb
  blobSz := rfl
  hdrSz := rfl

theorem Scanned.addDtb {heap : Nat → Bool} {pagesize : UInt32} {sc sc' : Scan} {dtb : Bytes}
    {chip hwRev hwRevEnd : UInt32} (h : Scanned pagesize sc)
    (hok : DtbhBlock.addDtb heap (pagesize - 1) sc dtb chip hwRev hwRevEnd = .ok sc') :
    Scanned pagesize sc' := by
  rw [addDtb_eq_ok hok]
  refine ⟨?_, ?_, ?_, ?_⟩
  · rw [List.length_append, List.length_append, h.count]
    rfl
  · intro b hb
    rcases List.mem_append.mp hb with hold | hnew
    · exact h.sizes b hold
    · rw [List.mem_singleton.mp hnew]
  · show sc.blobSz + _ = UInt32.ofNat (paddedSum pagesize (List.map _ (sc.blobs ++ _)))
    rw [h.blobSz, List.map_append, paddedSum_append, UInt32.ofNat_add]
    congr 1
    exact (UInt32.ofNat_toNat).symm
  · show sc.hdrSz + UInt32.ofNat (sc.entries.length + 1) * dtEntryPhysSize = _
    have h32 : dtEntryPhysSize = UInt32.ofNat 32 := rfl
    rw [h.hdrSz, h32, ← UInt32.ofNat_mul, ← UInt32.ofNat_add, List.length_append,
      List.length_singleton]
    congr 1
    have hsucc := header_succ sc.entries.length
    omega

theorem Scanned.scanDir {fdt : Libfdt} {heap : Nat → Bool} {pagesize : UInt32}
    {files : List (Bytes × Option Bytes)} {sc : Scan}
    (h : DtbhBlock.scanDir fdt heap (pagesize - 1) {} files = .ok sc) : Scanned pagesize sc :=
  scanDir_invariant (fun hsc _ _ hok => hsc.addDtb hok) files (Scanned.init pagesize) h

-- ── Copies inside the allocation ─────────────────────────────────────────────

theorem memcpy_isSome_iff {dst src : Bytes} {off : Nat} :
    (∃ out, memcpy dst off src = some out) ↔ off + src.length ≤ dst.length := by
  constructor
  · rintro ⟨out, h⟩
    exact (memcpy_eq_some_iff.mp h).1
  · intro h
    exact ⟨_, memcpy_eq_some_iff.mpr ⟨h, rfl⟩⟩

/-- The table is written if its end is inside, and the offset is then its end. -/
theorem writeEntries_fits : ∀ (es : List DtEntry) {dtbh : Bytes} {offset : UInt32},
    offset.toNat + 32 * es.length ≤ dtbh.length → dtbh.length < 2 ^ 32 →
    ∃ out offset', writeEntries dtbh offset es = some (out, offset')
      ∧ offset'.toNat = offset.toNat + 32 * es.length := by
  intro es
  induction es with
  | nil => exact fun _ _ => ⟨_, _, rfl, rfl⟩
  | cons e es ih =>
      intro dtbh offset hfits hlt
      rw [List.length_cons] at hfits
      obtain ⟨out, hcopy⟩ := memcpy_isSome_iff.mpr
        (by rw [length_entry_bytes]; omega : offset.toNat + e.bytes.length ≤ dtbh.length)
      have hlen := length_memcpy hcopy
      have h32 : dtEntryPhysSize.toNat = 32 := rfl
      have hnext : (offset + dtEntryPhysSize).toNat = offset.toNat + 32 := by
        rw [UInt32.toNat_add, h32]
        omega
      have hroom : (offset + dtEntryPhysSize).toNat + 32 * es.length ≤ out.length := by
        rw [hlen, hnext]
        omega
      obtain ⟨out', offset', hrest, hoff⟩ := ih hroom (by rw [hlen]; exact hlt)
      refine ⟨out', offset', ?_, ?_⟩
      · rw [writeEntries, hcopy]
        exact hrest
      · rw [hoff, hnext, List.length_cons]
        omega

/-- And only then. -/
theorem writeEntries_needs : ∀ (es : List DtEntry) {dtbh out : Bytes} {offset offset' : UInt32},
    writeEntries dtbh offset es = some (out, offset') → es ≠ [] → dtbh.length < 2 ^ 32 →
    offset.toNat + 32 * es.length ≤ dtbh.length := by
  intro es
  induction es with
  | nil => exact fun _ hne => absurd rfl hne
  | cons e es ih =>
      intro dtbh out offset offset' h _ hlt
      rw [writeEntries] at h
      split at h
      · cases h
      · rename_i dtbh' hcopy
        have hin := (memcpy_eq_some_iff.mp hcopy).1
        have hlen := length_memcpy hcopy
        rw [length_entry_bytes] at hin
        by_cases hes : es = []
        · rw [hes]
          exact hin
        · have h32 : dtEntryPhysSize.toNat = 32 := rfl
          have hnext : (offset + dtEntryPhysSize).toNat = offset.toNat + 32 := by
            rw [UInt32.toNat_add, h32]
            omega
          have hrest := ih h hes (by rw [hlen]; exact hlt)
          rw [hnext, hlen] at hrest
          rw [List.length_cons]
          omega

/-- **THE PAYLOADS**, laid out up to the end of the allocation, are written exactly
    if each one is covered. -/
theorem writeBlobs_iff {pagesize : UInt32} : ∀ (blobs : List DtBlob) {dtbh : Bytes}
    {offset : UInt32}, (∀ b ∈ blobs, b.size = UInt32.ofNat b.payload.length) →
    offset.toNat + paddedSum pagesize (blobs.map fun b => b.payload.length) = dtbh.length →
    dtbh.length < 2 ^ 32 →
    ((∃ out, writeBlobs (pagesize - 1) dtbh offset blobs = some out)
      ↔ Covered pagesize (blobs.map fun b => b.payload.length)) := by
  intro blobs
  induction blobs with
  | nil => exact fun _ _ _ => iff_of_true ⟨_, rfl⟩ trivial
  | cons b blobs ih =>
      intro dtbh offset hsizes hend hlt
      rw [List.map_cons, paddedSum_cons] at hend
      have hsize := hsizes b List.mem_cons_self
      have hnext : (offset + maskUp b.size (pagesize - 1)).toNat
          = offset.toNat + paddedSize pagesize b.payload.length := by
        rw [UInt32.toNat_add, hsize]
        exact Nat.mod_eq_of_lt (by rw [← paddedSize]; omega)
      have hrest : ∀ {dtbh' : Bytes}, dtbh'.length = dtbh.length →
          ((∃ out, writeBlobs (pagesize - 1) dtbh' (offset + maskUp b.size (pagesize - 1)) blobs
            = some out) ↔ Covered pagesize (blobs.map fun b => b.payload.length)) := by
        intro dtbh' hlen
        exact ih (fun c hc => hsizes c (List.mem_cons_of_mem b hc))
          (by rw [hnext, hlen]; omega) (by rw [hlen]; exact hlt)
      rw [List.map_cons, Covered, paddedSum_cons]
      constructor
      · rintro ⟨out, h⟩
        rw [writeBlobs] at h
        split at h
        · cases h
        · rename_i dtbh' hcopy
          have hin := (memcpy_eq_some_iff.mp hcopy).1
          exact ⟨by omega, (hrest (length_memcpy hcopy)).mp ⟨out, h⟩⟩
      · rintro ⟨hroom, hcovered⟩
        obtain ⟨dtbh', hcopy⟩ := memcpy_isSome_iff.mpr
          (by omega : offset.toNat + b.payload.length ≤ dtbh.length)
        obtain ⟨out, h⟩ := (hrest (length_memcpy hcopy)).mpr hcovered
        refine ⟨out, ?_⟩
        rw [writeBlobs, hcopy]
        exact h

-- ── The block ────────────────────────────────────────────────────────────────

section Block

variable {fdt : Libfdt} {heap : Nat → Bool} {pagesize : UInt32} {sc : Scan}

theorem Scanned.length_sizes (h : Scanned pagesize sc) :
    (sizesOf sc).length = sc.entries.length := by
  rw [sizesOf, List.length_map, h.count]

theorem Scanned.start (h : Scanned pagesize sc) :
    maskUp (sc.hdrSz + 4) (pagesize - 1) = countedStart pagesize sc.entries.length := by
  have h4 : (4 : UInt32) = UInt32.ofNat 4 := rfl
  rw [h.hdrSz, h4, ← UInt32.ofNat_add, countedStart]
  congr 2
  omega

/-- The end of the payloads is a word, and it is the end that is counted, if the
    two starts are one. -/
theorem alloc_eq_end_iff (a b : UInt32) (s : Nat) :
    (a + UInt32.ofNat s).toNat = b.toNat + s ↔ a = b ∧ b.toNat + s < 2 ^ 32 := by
  have hlt := (a + UInt32.ofNat s).toNat_lt
  constructor
  · intro h
    have hword : b + UInt32.ofNat s = a + UInt32.ofNat s := by
      rw [← UInt32.toNat_inj, UInt32.toNat_add, UInt32.toNat_ofNat', h]
      omega
    exact ⟨(UInt32.add_left_inj _).mp hword.symm, by omega⟩
  · rintro ⟨rfl, hword⟩
    rw [UInt32.toNat_add, UInt32.toNat_ofNat']
    omega

/-- There is room for the header from twelve bytes on. -/
theorem header_fits (n : UInt32) {size : Nat} (h : 12 ≤ size) :
    ∃ d1 d2 d3, memcpy (zeros size) 0 dtbhMagic = some d1
      ∧ memcpy d1 4 (le32 dtbhVersion) = some d2 ∧ memcpy d2 8 (le32 n) = some d3 := by
  have hmagic : 0 + dtbhMagic.length ≤ (zeros size).length := by
    rw [length_zeros]
    exact Nat.le_trans (by decide : 4 ≤ 12) h
  obtain ⟨d1, h1⟩ := memcpy_isSome_iff.mpr hmagic
  have hlen1 := (length_memcpy h1).trans (length_zeros size)
  have hversion : 4 + (le32 dtbhVersion).length ≤ d1.length := by
    rw [hlen1, length_le32]
    omega
  obtain ⟨d2, h2⟩ := memcpy_isSome_iff.mpr hversion
  have hcount : 8 + (le32 n).length ≤ d2.length := by
    rw [length_memcpy h2, hlen1, length_le32]
    exact h
  obtain ⟨d3, h3⟩ := memcpy_isSome_iff.mpr hcount
  exact ⟨d1, d2, d3, h1, h2, h3⟩

/-- The table is written behind the header if there is room for it. -/
theorem table_fits (q : QSort DtEntry) (sc : Scan) {d : Bytes}
    (h : 12 + 32 * sc.entries.length ≤ d.length) (hlt : d.length < 2 ^ 32) :
    ∃ out offset, writeEntries d dtHeaderPhysSize (tableOf q pagesize sc) = some (out, offset)
      ∧ offset.toNat = 12 + 32 * sc.entries.length := by
  have hroom : dtHeaderPhysSize.toNat + 32 * (tableOf q pagesize sc).length ≤ d.length := by
    rw [length_tableOf]
    exact h
  obtain ⟨out, offset, hwrite, hoff⟩ := writeEntries_fits _ hroom hlt
  rw [length_tableOf] at hoff
  exact ⟨out, offset, hwrite, hoff⟩

/-- And there was room for it if it is written. -/
theorem table_end {q : QSort DtEntry} {d out : Bytes} {offset : UInt32}
    (h : writeEntries d dtHeaderPhysSize (tableOf q pagesize sc) = some (out, offset))
    (hne : sc.entries.length ≠ 0) (hlt : d.length < 2 ^ 32) :
    12 + 32 * sc.entries.length ≤ d.length ∧ offset.toNat = 12 + 32 * sc.entries.length := by
  have hrow : tableOf q pagesize sc ≠ [] := by
    intro hnil
    rw [← length_tableOf q pagesize sc, hnil] at hne
    exact hne rfl
  have hneeds := writeEntries_needs _ h hrow hlt
  rw [length_tableOf] at hneeds
  obtain ⟨out', offset', hwrite, hoff⟩ := table_fits q sc hneeds hlt
  obtain ⟨rfl, rfl⟩ := Prod.mk.inj (Option.some.inj (hwrite.symm.trans h))
  exact ⟨hneeds, hoff⟩

/-- Behind the table the offset is padded to the start of the payloads. -/
theorem offset_padded {offset : UInt32} {n : Nat} (h : offset.toNat = 12 + 32 * n) :
    offset + (pagesize - (offset &&& (pagesize - 1))) = payloadStart pagesize n := by
  have hword : offset = UInt32.ofNat (12 + 32 * n) := by
    rw [← h, UInt32.ofNat_toNat]
  rw [payloadStart, hword]

/-- **BOUNDS** of the block that is built. -/
theorem buildBlock_inBounds_iff (q : QSort DtEntry) (h : Scanned pagesize sc)
    (hne : sc.entries.length ≠ 0) :
    (∃ dtbh sz, buildBlock q pagesize sc = some (dtbh, sz)
        ∧ sz.toNat = payloadEnd pagesize (sizesOf sc))
      ↔ Fits pagesize (sizesOf sc) := by
  have hn := h.length_sizes
  have halloc := alloc_eq_end_iff (countedStart pagesize (sizesOf sc).length)
    (payloadStart pagesize (sizesOf sc).length) (paddedSum pagesize (sizesOf sc))
  constructor
  · rintro ⟨dtbh, sz, hbuild, hend⟩
    obtain ⟨d1, d2, d3, d4, offset, h1, h2, h3, h4, h5, rfl⟩ := buildBlock_eq_some_iff.mp hbuild
    have hlen3 := (length_header h1 h2 h3).trans hend
    rw [h.start, h.blobSz, ← hn] at hend
    obtain ⟨hstart, hword⟩ := halloc.mp hend
    have hlt : d3.length < 2 ^ 32 := by
      rw [hlen3]
      exact hword
    obtain ⟨hneeds, hoff⟩ := table_end h4 hne hlt
    rw [offset_padded hoff, ← hn] at h5
    rw [hlen3, ← hn] at hneeds
    have hlen4 := (length_writeEntries _ h4).trans hlen3
    exact ⟨hstart, hword, hneeds,
      (writeBlobs_iff sc.blobs h.sizes hlen4.symm (by rw [hlen4]; exact hword)).mp ⟨_, h5⟩⟩
  · rintro ⟨hstart, hword, hin, hcovered⟩
    have hsize : (maskUp (sc.hdrSz + 4) (pagesize - 1) + sc.blobSz).toNat
        = payloadEnd pagesize (sizesOf sc) := by
      rw [h.start, h.blobSz, ← hn, halloc.mpr ⟨hstart, hword⟩]
      rfl
    have h12 : 12 ≤ payloadEnd pagesize (sizesOf sc) := Nat.le_trans (Nat.le_add_right 12 _) hin
    obtain ⟨d1, d2, d3, h1, h2, h3⟩ := header_fits (UInt32.ofNat sc.entries.length) h12
    have hlen3 := length_header h1 h2 h3
    obtain ⟨d4, offset, h4, hoff⟩ := table_fits q sc (by rw [hlen3, ← hn]; exact hin)
      (by rw [hlen3]; exact hword)
    have hlen4 := (length_writeEntries _ h4).trans hlen3
    obtain ⟨out, h5⟩ := (writeBlobs_iff sc.blobs h.sizes hlen4.symm
      (by rw [hlen4]; exact hword)).mpr hcovered
    rw [← hsize] at h1
    refine ⟨out, _, buildBlock_eq_some_iff.mpr ⟨d1, d2, d3, d4, offset, h1, h2, h3, h4, ?_, rfl⟩,
      hsize⟩
    rw [offset_padded hoff, ← hn]
    exact h5

/-- Behind a scan that found something, the block is the answer. -/
theorem loadDtbhBlock_eq_ok_iff {q : QSort DtEntry} {files : List (Bytes × Option Bytes)}
    (hscan : scanDir fdt heap (pagesize - 1) {} files = .ok sc) (hne : sc.entries.length ≠ 0)
    (hheap : heap (2 * sc.entries.length) = true) {dtbh : Bytes} {sz : UInt32} :
    loadDtbhBlock fdt q heap (some files) pagesize = .ok (some (dtbh, sz))
      ↔ buildBlock q pagesize sc = some (dtbh, sz) := by
  unfold loadDtbhBlock
  dsimp only
  rw [hscan]
  dsimp only
  rw [if_neg hne, hheap, if_neg (by decide)]
  cases hbuild : buildBlock q pagesize sc with
  | none => exact iff_of_false (fun h => nomatch h) fun h => nomatch h
  | some r => exact ⟨fun h => congrArg some (Option.some.inj (Except.ok.inj h)),
      fun h => congrArg (fun r => Except.ok (some r)) (Option.some.inj h)⟩

/-- The answer for a directory, by the dtbs that were accepted. -/
theorem loadDtbhBlock_inBounds_iff (q : QSort DtEntry) {files : List (Bytes × Option Bytes)}
    (hscan : scanDir fdt heap (pagesize - 1) {} files = .ok sc)
    (hne : acceptedDtbs fdt files ≠ [])
    (hheap : heap (2 * (acceptedDtbs fdt files).length) = true) :
    (∃ dtbh sz, loadDtbhBlock fdt q heap (some files) pagesize = .ok (some (dtbh, sz))
        ∧ sz.toNat = payloadEnd pagesize ((acceptedDtbs fdt files).map List.length))
      ↔ Fits pagesize ((acceptedDtbs fdt files).map List.length) := by
  have h := Scanned.scanDir hscan
  have hsizes : sizesOf sc = (acceptedDtbs fdt files).map List.length := by
    rw [← scanDir_init_payloads hscan, List.map_map]
    rfl
  have hn : sc.entries.length = (acceptedDtbs fdt files).length := by
    rw [← h.length_sizes, hsizes, List.length_map]
  have hne' : sc.entries.length ≠ 0 := by
    rw [hn]
    exact fun h0 => hne (List.eq_nil_of_length_eq_zero h0)
  rw [← hn] at hheap
  rw [← hsizes, ← buildBlock_inBounds_iff q h hne']
  simp only [loadDtbhBlock_eq_ok_iff hscan hne' hheap]

end Block

-- ── Accepted page sizes ──────────────────────────────────────────────────────

theorem paddedSize_accepted {pagesize : UInt32} {k : Nat} (hk : k ≤ 17)
    (hm : (pagesize - 1).toNat = 2 ^ k - 1) {size : Nat} (hsize : size < 2 ^ 31) :
    paddedSize pagesize size = roundUp (2 ^ k) size := by
  have hpow : 2 ^ k ≤ 2 ^ 17 := Nat.pow_le_pow_right (by decide) hk
  have hword : (UInt32.ofNat size).toNat = size := by
    rw [UInt32.toNat_ofNat', Nat.mod_eq_of_lt (by omega)]
  rw [paddedSize, toNat_maskUp (by omega) hm (by omega), hword]

theorem covered_accepted {pagesize : UInt32} {k : Nat} (hk : k ≤ 17)
    (hm : (pagesize - 1).toNat = 2 ^ k - 1) : ∀ {sizes : List Nat},
    (∀ size ∈ sizes, size < 2 ^ 31) → Covered pagesize sizes := by
  intro sizes
  induction sizes with
  | nil => exact fun _ => trivial
  | cons size sizes ih =>
      intro hsizes
      refine ⟨?_, ih fun s hs => hsizes s (List.mem_cons_of_mem size hs)⟩
      rw [paddedSum_cons, paddedSize_accepted hk hm (hsizes size List.mem_cons_self)]
      exact Nat.le_add_right_of_le (le_roundUp (Nat.two_pow_pos k) size)

/-- **FOR MKBOOTIMG**, and a count that does not wrap, the numbers agree while the
    accumulated header fits the first page. -/
theorem fits_accepted_iff {pagesize : UInt32} (hps : pagesize ∈ acceptedPageSizes)
    {sizes : List Nat} (hne : sizes ≠ []) (hsizes : ∀ size ∈ sizes, size < 2 ^ 31)
    (hcount : countedHeader pagesize.toNat sizes.length < 2 ^ 32) :
    Fits pagesize sizes
      ↔ 16 + 16 * (sizes.length * (sizes.length + 1)) ≤ pagesize.toNat
        ∧ pagesize.toNat + (sizes.map (roundUp pagesize.toNat)).sum < 2 ^ 32 := by
  obtain ⟨k, hk11, hk, hpk, hm⟩ := accepted_pow hps
  have hpos : 0 < 2 ^ k := Nat.two_pow_pos k
  have hn : sizes.length ≠ 0 := fun h0 => hne (List.eq_nil_of_length_eq_zero h0)
  rw [hpk] at hcount ⊢
  have hwc := written_le_counted (p := 2 ^ k) hn
  have hcounted : 16 + 16 * (sizes.length * (sizes.length + 1))
      ≤ countedHeader (2 ^ k) sizes.length := le_roundUp hpos _
  have hwritten : 12 + 32 * sizes.length ≤ writtenHeader (2 ^ k) sizes.length := le_roundUp hpos _
  have hroom := add_mask_lt_of_roundUp_lt (by omega : k ≤ 32) hcount
  have hword : ∀ x, x < 2 ^ 32 → (UInt32.ofNat x).toNat = x := fun x hx => by
    rw [UInt32.toNat_ofNat', Nat.mod_eq_of_lt hx]
  have hstart : (countedStart pagesize sizes.length).toNat
      = countedHeader (2 ^ k) sizes.length := by
    rw [countedStart, toNat_maskUp (by omega) hm (by rw [hword _ (by omega)]; omega),
      hword _ (by omega), countedHeader]
  have hpayload : (payloadStart pagesize sizes.length).toNat
      = writtenHeader (2 ^ k) sizes.length :=
    toNat_padded_offset (by omega) hpk hm (hword _ (by omega)) (by omega)
  have hsum : paddedSum pagesize sizes = (sizes.map (roundUp (2 ^ k))).sum := by
    rw [paddedSum, List.map_congr_left fun s hs => paddedSize_accepted hk hm (hsizes s hs)]
  have hfirst : 16 + 16 * (sizes.length * (sizes.length + 1)) ≤ 2 ^ k →
      writtenHeader (2 ^ k) sizes.length = 2 ^ k := by
    intro hle
    have htwo : (12 + 32 * sizes.length + 2 ^ k - 1) / 2 ^ k = 1 := by
      have hsq : sizes.length * 2 ≤ sizes.length * (sizes.length + 1) :=
        Nat.mul_le_mul_left _ (by omega)
      exact Nat.div_eq_of_lt_le (by omega) (by omega)
    rw [writtenHeader, roundUp, htwo, Nat.one_mul]
  have hsame : countedStart pagesize sizes.length = payloadStart pagesize sizes.length
      ↔ 16 + 16 * (sizes.length * (sizes.length + 1)) ≤ 2 ^ k := by
    rw [← UInt32.toNat_inj, hstart, hpayload, counted_eq_written_iff hk11 hn]
  constructor
  · rintro ⟨heq, hend, -, -⟩
    have hle := hsame.mp heq
    rw [payloadEnd, hpayload, hfirst hle, hsum] at hend
    exact ⟨hle, hend⟩
  · rintro ⟨hle, hend⟩
    refine ⟨hsame.mpr hle, ?_, ?_, covered_accepted hk hm hsizes⟩
    · rw [payloadEnd, hpayload, hfirst hle, hsum]
      exact hend
    · rw [payloadEnd, hpayload]
      omega

-- ── Exactly when ─────────────────────────────────────────────────────────────

/-- **BOUNDS**: for any page size and any accepted dtbs, every byte is written inside
    the allocation and `*_sz` is the end of the last padded payload, exactly if the
    numbers agree. -/
theorem inBounds_iff (fdt : Libfdt) (q : QSort DtEntry) (heap : Nat → Bool)
    (files : List (Bytes × Option Bytes)) (pagesize : UInt32) (sc : Scan)
    (hscan : scanDir fdt heap (pagesize - 1) {} files = .ok sc)
    (hne : acceptedDtbs fdt files ≠ [])
    (hheap : heap (2 * (acceptedDtbs fdt files).length) = true) :
    (∃ dtbh sz, loadDtbhBlock fdt q heap (some files) pagesize = .ok (some (dtbh, sz))
        ∧ sz.toNat = payloadEnd pagesize ((acceptedDtbs fdt files).map List.length))
      ↔ Fits pagesize ((acceptedDtbs fdt files).map List.length) :=
  loadDtbhBlock_inBounds_iff q hscan hne hheap

/-- The sizes of the sample directory. -/
theorem sampleDir_sizes :
    (acceptedDtbs sampleFdt (sampleDir 2)).map List.length = [255, 255]
      ∧ (acceptedDtbs sampleFdt (sampleDir 1)).map List.length = [255]
      ∧ (acceptedDtbs sampleFdt (sampleDir 11)).map List.length = List.replicate 11 255 := by
  decide +kernel

theorem inBounds_two :
    ∃ dtbh sz, loadDtbhBlock sampleFdt (mergeQSort DtEntry) (fun _ => true)
        (some (sampleDir 2)) 2048 = .ok (some (dtbh, sz))
      ∧ sz.toNat = payloadEnd 2048 ((acceptedDtbs sampleFdt (sampleDir 2)).map List.length) := by
  obtain ⟨sc, hsc⟩ := scanned_iff.mp
    (show scanned (scanDir sampleFdt (fun _ => true) (2048 - 1) {} (sampleDir 2)) = true by
      decide +kernel)
  refine (inBounds_iff sampleFdt (mergeQSort DtEntry) (fun _ => true) (sampleDir 2) 2048 sc hsc
    (by decide +kernel) rfl).mpr ?_
  rw [sampleDir_sizes.1]
  exact (fits_accepted_iff (by decide) (by decide) (by decide) (by decide)).mpr (by decide)

/-- Without `-s` nothing is allocated; and with eleven dtbs the block ends behind its
    last payload. -/
theorem outOfBounds :
    (¬∃ dtbh sz, loadDtbhBlock sampleFdt (mergeQSort DtEntry) (fun _ => true)
        (some (sampleDir 1)) 0 = .ok (some (dtbh, sz))
      ∧ sz.toNat = payloadEnd 0 ((acceptedDtbs sampleFdt (sampleDir 1)).map List.length))
    ∧ ¬∃ dtbh sz, loadDtbhBlock sampleFdt (mergeQSort DtEntry) (fun _ => true)
        (some (sampleDir 11)) 2048 = .ok (some (dtbh, sz))
      ∧ sz.toNat = payloadEnd 2048 ((acceptedDtbs sampleFdt (sampleDir 11)).map List.length) := by
  obtain ⟨sc₁, hsc₁⟩ := scanned_iff.mp
    (show scanned (scanDir sampleFdt (fun _ => true) (0 - 1) {} (sampleDir 1)) = true by
      decide +kernel)
  obtain ⟨sc₂, hsc₂⟩ := scanned_iff.mp
    (show scanned (scanDir sampleFdt (fun _ => true) (2048 - 1) {} (sampleDir 11)) = true by
      decide +kernel)
  refine ⟨fun h => ?_, fun h => ?_⟩
  · have hfits := (loadDtbhBlock_inBounds_iff (mergeQSort DtEntry) hsc₁
      (by decide +kernel) rfl).mp h
    rw [sampleDir_sizes.2.1] at hfits
    exact absurd hfits.table (by decide)
  · have hfits := (loadDtbhBlock_inBounds_iff (mergeQSort DtEntry) hsc₂
      (by decide +kernel) rfl).mp h
    rw [sampleDir_sizes.2.2] at hfits
    exact absurd hfits.start (by decide)

end DtbhBounds

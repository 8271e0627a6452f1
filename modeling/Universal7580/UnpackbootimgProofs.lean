import Universal7580.BootImageProofs
import Mathlib.Logic.Function.Basic

/-! # Taking a boot image apart: `unpackbootimg.c`

    The tool walks through an image with one read position, alternating
    section reads and padding reads, and copies each section to a file of its
    own.  Output streams are modelled with their state: a call on a stream that
    is not open is recorded in `misuse`, and what it does to the files is a
    parameter.

    Kernel and ramdisk are copied as they should be.  The second stage, the
    device tree and the signature are written to `r`, the stream of the
    ramdisk, which is closed by then (`unpack_of_layout`). -/

namespace Unpackbootimg

open PageBytes DtbhBlock BootImage

-- ── Files and streams ────────────────────────────────────────────────────────

/-- The files the tool creates, by what is appended to the image's name. -/
inductive OutFile where
  | cmdline
  | base
  | ramdiskOffset
  | secondOffset
  | tagsOffset
  | pagesize
  | zImage
  | ramdiskLz4
  | ramdiskGz
  | second
  | dt
  | signature
  deriving DecidableEq

/-- The `FILE *` variables that are written to. -/
inductive Stream where
  | text
  | k
  | r
  | s
  | d
  | fsig
  deriving DecidableEq

/-- The read position of the image, the files created so far, the file each
    stream is open on, and whether a stream was used while it was not open. -/
structure St where
  pos : Nat := 0
  files : OutFile → Option Bytes := fun _ => none
  streams : Stream → Option OutFile := fun _ => none
  misuse : Bool := false

/-- What the tool runs with: the memory its buffers come with, the first bytes
    of its array `tmp`, the image, and what writing through a closed stream does
    to the files, given the streams that are open. -/
structure Env where
  fresh : Stream → Nat → UInt8
  tmp : Bytes
  image : Bytes
  stray : (Stream → Option OutFile) → (OutFile → Option Bytes) → Bytes → OutFile → Option Bytes

/-- `v = fopen(name, "w")`. -/
def fopen (st : St) (v : Stream) (name : OutFile) : St :=
  { st with
    files := Function.update st.files name (some [])
    streams := Function.update st.streams v (some name) }

/-- `fwrite` of a whole buffer. -/
def fwrite (env : Env) (st : St) (v : Stream) (b : Bytes) : St :=
  match st.streams v with
  | none => { st with files := env.stray st.streams st.files b, misuse := true }
  | some name =>
      { st with files := Function.update st.files name (some ((st.files name).getD [] ++ b)) }

/-- `fclose`. -/
def fclose (st : St) (v : Stream) : St :=
  match st.streams v with
  | none => { st with misuse := true }
  | some _ => { st with streams := Function.update st.streams v none }

/-- `fread` of `n` bytes into a fresh buffer, whose bytes the file does not
    reach keep what `fresh` says. -/
def fread (fresh : Nat → UInt8) (image : Bytes) (st : St) (n : Nat) : Bytes × St :=
  let got := slice image st.pos n
  (got ++ ((List.range n).map fresh).drop got.length, { st with pos := st.pos + got.length })

/-- `read_padding`. -/
def readPadding (image : Bytes) (st : St) (itemsize pagesize : UInt32) : St :=
  let pagemask := pagesize - 1
  if itemsize &&& pagemask = 0 then st
  else
    let count := (pagesize - (itemsize &&& pagemask)).toNat
    { st with pos := st.pos + (slice image st.pos count).length }

-- ── The text files ───────────────────────────────────────────────────────────

/-- The bytes of a string up to its terminator. -/
def cString (b : Bytes) : Bytes := b.takeWhile (· ≠ 0)

/-- A hexadecimal digit. -/
def hexDigit (n : Nat) : UInt8 := if n < 10 then UInt8.ofNat (48 + n) else UInt8.ofNat (87 + n)

/-- `%08x`. -/
def hex8 (x : UInt32) : Bytes :=
  [7, 6, 5, 4, 3, 2, 1, 0].map (fun i => hexDigit (x.toNat / 16 ^ i % 16))

/-- `%d` of an unsigned value. -/
def decimal (x : UInt32) : Bytes :=
  let digits := fun n : Nat => (Nat.toDigits 10 n).map (fun c => UInt8.ofNat c.toNat)
  if x.toNat < 2 ^ 31 then digits x.toNat else 45 :: digits (2 ^ 32 - x.toNat)

/-- `write_string_to_file`. -/
def writeStringToFile (env : Env) (st : St) (name : OutFile) (string : Bytes) : St :=
  fclose (fwrite env (fwrite env (fopen st .text name) .text string) .text [10]) .text

/-- The six text files, from the bytes of the header. -/
def writeTexts (env : Env) (st : St) (header : Bytes) : St :=
  let kernelAddr := le32At header 12
  let st := writeStringToFile env st .cmdline (cString (header.drop 64))
  let st := writeStringToFile env st .base (hex8 (kernelAddr - 0x00008000))
  let st := writeStringToFile env st .ramdiskOffset
    (hex8 (le32At header 20 - kernelAddr + 0x00008000))
  let st := writeStringToFile env st .secondOffset
    (hex8 (le32At header 28 - kernelAddr + 0x00008000))
  let st := writeStringToFile env st .tagsOffset
    (hex8 (le32At header 32 - kernelAddr + 0x00008000))
  writeStringToFile env st .pagesize (decimal (le32At header 36))

-- ── The sections ─────────────────────────────────────────────────────────────

/-- The search for the magic in the first 513 positions. -/
def findMagic (image : Bytes) : Bytes → List Nat → Option Nat
  | _, [] => none
  | tmp, i :: rest =>
      let got := slice image i 8
      let tmp := got ++ tmp.drop got.length
      if tmp.take 8 = bootMagic then some i else findMagic image tmp rest

/-- One section: `v` is opened on its file, the bytes are read and written to
    `target`, and `v` is closed. -/
def copySection (env : Env) (st : St) (v : Stream) (name : OutFile) (target : Stream)
    (size : Nat) : St :=
  let st := fopen st v name
  let (data, st) := fread (env.fresh v) env.image st size
  fclose (fwrite env st target data) v

/-- The ramdisk, whose file name depends on its first two bytes.  They are read
    from the buffer whatever its size. -/
def copyRamdisk (env : Env) (st : St) (size : Nat) : St :=
  let (data, st) := fread (env.fresh .r) env.image st size
  let byte := fun i => data.getD i (env.fresh .r i)
  let name := if byte 0 = 0x02 ∧ byte 1 = 0x21 then OutFile.ramdiskLz4 else OutFile.ramdiskGz
  fclose (fwrite env (fopen st .r name) .r data) .r

/-- Everything after the header was read. -/
def unpackSections (env : Env) (st : St) (header : Bytes) (pagesize : UInt32) : St :=
  let kernelSize := le32At header 8
  let ramdiskSize := le32At header 16
  let secondSize := le32At header 24
  let dtSize := le32At header 40
  let st := readPadding env.image st sizeofHdr pagesize
  let st := copySection env st .k .zImage .k kernelSize.toNat
  let st := readPadding env.image st kernelSize pagesize
  let st := copyRamdisk env st ramdiskSize.toNat
  let st := readPadding env.image st ramdiskSize pagesize
  -- from here on the data goes to `r`
  let st := copySection env st .s .second .r secondSize.toNat
  let st := readPadding env.image st secondSize pagesize
  let st := copySection env st .d .dt .r dtSize.toNat
  let st := readPadding env.image st dtSize pagesize
  copySection env st .fsig .signature .r 256

/-- `main` of `unpackbootimg.c`; `pagesize` is the `-p` option, `0` without it.
    `none` when there is no magic. -/
def unpackbootimg (env : Env) (pagesize : UInt32) : Option St :=
  match findMagic env.image env.tmp (List.range 513) with
  | none => none
  | some i =>
      let (header, st) := fread (fun _ => 0) env.image { pos := i } 608
      let pagesize := if pagesize = 0 then le32At header 36 else pagesize
      some (unpackSections env (writeTexts env st header) header pagesize)

/-- **UNPACKED**: every section is in its own file, and no stream was used
    while it was not open. -/
structure Unpacked (st : St) (s : Sections) : Prop where
  zImage : st.files .zImage = some s.kernel
  ramdisk : (st.files .ramdiskGz = some s.ramdisk ∧ st.files .ramdiskLz4 = none)
    ∨ (st.files .ramdiskLz4 = some s.ramdisk ∧ st.files .ramdiskGz = none)
  second : st.files .second = some s.secondBytes
  dt : st.files .dt = some s.dtBytes
  signature : st.files .signature = some s.signatureBytes
  streams : st.misuse = false

-- ── Reading ──────────────────────────────────────────────────────────────────

section Reads

variable {image : Bytes} {st : St} {k : Nat}

/-- A read that the file covers. -/
theorem fread_eq {fresh : Nat → UInt8} {b : Bytes} (h : slice image st.pos b.length = b) :
    fread fresh image st b.length = (b, { st with pos := st.pos + b.length }) := by
  have hnone : ((List.range b.length).map fresh).drop b.length = [] :=
    List.drop_eq_nil_of_le (Nat.le_of_eq (by rw [List.length_map, List.length_range]))
  unfold fread
  dsimp only
  rw [h, hnone, List.append_nil]

/-- Padding that the file covers is skipped. -/
theorem readPadding_eq {itemsize pagesize : UInt32} (hps : pagesize.toNat = 2 ^ k)
    (hm : (pagesize - 1).toNat = 2 ^ k - 1)
    (h : slice image st.pos (padLen (2 ^ k) itemsize.toNat)
      = zeros (padLen (2 ^ k) itemsize.toNat)) :
    readPadding image st itemsize pagesize
      = { st with pos := st.pos + padLen (2 ^ k) itemsize.toNat } := by
  rw [padLen_eq_and_ite hps hm] at h ⊢
  rw [readPadding]
  dsimp only
  split
  · rfl
  · rename_i h0
    rw [if_neg h0] at h
    rw [h, length_zeros]

/-- From the end of a placed section its padding leads to the next page. -/
theorem readPadding_placed {itemsize pagesize : UInt32} {off : Nat} {b : Bytes}
    (hps : pagesize.toNat = 2 ^ k) (hm : (pagesize - 1).toNat = 2 ^ k - 1)
    (hb : Placed (2 ^ k) image off b) (hsize : itemsize.toNat = b.length)
    (hpos : st.pos = off + b.length) :
    readPadding image st itemsize pagesize
      = { st with pos := off + pages (2 ^ k) b * 2 ^ k } := by
  have hend : off + b.length + padLen (2 ^ k) b.length = off + pages (2 ^ k) b * 2 ^ k := by
    have hround := add_padLen (Nat.two_pow_pos k) b.length
    have hpages : pages (2 ^ k) b * 2 ^ k = roundUp (2 ^ k) b.length := rfl
    omega
  have hzero : slice image st.pos (padLen (2 ^ k) itemsize.toNat)
      = zeros (padLen (2 ^ k) itemsize.toNat) := by
    rw [hpos, hsize]
    exact hb.2
  rw [readPadding_eq hps hm hzero, hpos, hsize, hend]

end Reads

-- ── Streams ──────────────────────────────────────────────────────────────────

/-- No stream is open. -/
def Idle (st : St) : Prop := ∀ v, st.streams v = none

section Streams

variable {env : Env} {st : St}

theorem streams_reclosed (hidle : Idle st) (v : Stream) (name : OutFile) :
    Function.update (Function.update st.streams v (some name)) v none = st.streams := by
  rw [Function.update_idem, ← hidle v, Function.update_eq_self]

/-- Opening, writing and closing one stream leaves one more file. -/
theorem writeOwn_eq (hidle : Idle st) (v : Stream) (name : OutFile) (b : Bytes) :
    fclose (fwrite env (fopen st v name) v b) v
      = { st with files := Function.update st.files name (some b) } := by
  have hopen : fwrite env (fopen st v name) v b
      = { st with
          files := Function.update st.files name (some b)
          streams := Function.update st.streams v (some name) } := by
    simp [fwrite, fopen]
  rw [hopen]
  simp [fclose, streams_reclosed hidle]

/-- The files after `name` was opened on `v` and `b` written through a closed
    stream. -/
def strayed (env : Env) (files : OutFile → Option Bytes) (v : Stream) (name : OutFile)
    (b : Bytes) : OutFile → Option Bytes :=
  env.stray (Function.update (fun _ => none) v (some name))
    (Function.update files name (some [])) b

/-- Writing to a stream that is not open is recorded. -/
theorem writeOther_eq (hidle : Idle st) {v target : Stream} (hne : target ≠ v) (name : OutFile)
    (b : Bytes) :
    fclose (fwrite env (fopen st v name) target b) v
      = { st with files := strayed env st.files v name b, misuse := true } := by
  have hnone : st.streams = fun _ => none := funext hidle
  have hopen : fwrite env (fopen st v name) target b
      = { st with
          files := strayed env st.files v name b
          streams := Function.update st.streams v (some name)
          misuse := true } := by
    simp [fwrite, fopen, Function.update_of_ne hne, hnone, strayed]
  rw [hopen]
  simp [fclose, streams_reclosed hidle]

/-- A text file is one more file. -/
theorem writeStringToFile_eq (hidle : Idle st) (name : OutFile) (string : Bytes) :
    writeStringToFile env st name string
      = { st with files := Function.update st.files name (some (string ++ [10])) } := by
  have htwo : fwrite env (fwrite env (fopen st .text name) .text string) .text [10]
      = fwrite env (fopen st .text name) .text (string ++ [10]) := by
    simp [fwrite, fopen]
  rw [writeStringToFile, htwo, writeOwn_eq hidle]

/-- The files the six text files make out of none. -/
def textFiles (header : Bytes) : OutFile → Option Bytes
  | .cmdline => some (cString (header.drop 64) ++ [10])
  | .base => some (hex8 (le32At header 12 - 0x00008000) ++ [10])
  | .ramdiskOffset => some (hex8 (le32At header 20 - le32At header 12 + 0x00008000) ++ [10])
  | .secondOffset => some (hex8 (le32At header 28 - le32At header 12 + 0x00008000) ++ [10])
  | .tagsOffset => some (hex8 (le32At header 32 - le32At header 12 + 0x00008000) ++ [10])
  | .pagesize => some (decimal (le32At header 36) ++ [10])
  | _ => none

theorem writeTexts_eq (pos : Nat) (header : Bytes) :
    writeTexts env { pos := pos } header = { pos := pos, files := textFiles header } := by
  have hidle : ∀ files, Idle { pos := pos, files := files } := fun _ _ => rfl
  unfold writeTexts
  dsimp only
  rw [writeStringToFile_eq (hidle _), writeStringToFile_eq (hidle _),
    writeStringToFile_eq (hidle _), writeStringToFile_eq (hidle _),
    writeStringToFile_eq (hidle _), writeStringToFile_eq (hidle _)]
  have hfiles : ∀ f g : OutFile → Option Bytes, (∀ name, f name = g name) →
      ({ pos := pos, files := f } : St) = { pos := pos, files := g } := by
    intro f g h
    rw [funext h]
  refine hfiles _ _ (fun name => ?_)
  cases name <;> rfl

end Streams

-- ── Sections ─────────────────────────────────────────────────────────────────

section Copies

variable {env : Env} {st : St} {k : Nat} {pagesize size : UInt32} {b : Bytes}

/-- A section that is written to its own stream. -/
theorem copyOwn_eq (hidle : Idle st) (hps : pagesize.toNat = 2 ^ k)
    (hm : (pagesize - 1).toNat = 2 ^ k - 1) (hb : Placed (2 ^ k) env.image st.pos b)
    (hsize : size.toNat = b.length) (v : Stream) (name : OutFile) :
    readPadding env.image (copySection env st v name v size.toNat) size pagesize
      = { st with
          pos := st.pos + pages (2 ^ k) b * 2 ^ k
          files := Function.update st.files name (some b) } := by
  have hread : fread (env.fresh v) env.image (fopen st v name) b.length
      = (b, fopen { st with pos := st.pos + b.length } v name) := fread_eq hb.1
  have hcopy : copySection env st v name v size.toNat
      = { st with
          pos := st.pos + b.length
          files := Function.update st.files name (some b) } := by
    rw [copySection]
    dsimp only
    rw [hsize, hread]
    exact @writeOwn_eq env { st with pos := st.pos + b.length } hidle v name b
  rw [hcopy, readPadding_placed hps hm hb hsize rfl]

/-- A section that is written to a closed stream. -/
theorem copyStray_eq (hidle : Idle st) {v target : Stream} (hne : target ≠ v) (name : OutFile)
    (hread : slice env.image st.pos b.length = b) :
    copySection env st v name target b.length
      = { st with
          pos := st.pos + b.length
          files := strayed env st.files v name b
          misuse := true } := by
  have hread : fread (env.fresh v) env.image (fopen st v name) b.length
      = (b, fopen { st with pos := st.pos + b.length } v name) := fread_eq hread
  rw [copySection]
  dsimp only
  rw [hread]
  exact @writeOther_eq env { st with pos := st.pos + b.length } hidle _ _ hne name b

theorem copyStray_padded (hidle : Idle st) (hps : pagesize.toNat = 2 ^ k)
    (hm : (pagesize - 1).toNat = 2 ^ k - 1) (hb : Placed (2 ^ k) env.image st.pos b)
    (hsize : size.toNat = b.length) {v target : Stream} (hne : target ≠ v) (name : OutFile) :
    readPadding env.image (copySection env st v name target size.toNat) size pagesize
      = { st with
          pos := st.pos + pages (2 ^ k) b * 2 ^ k
          files := strayed env st.files v name b
          misuse := true } := by
  rw [hsize, copyStray_eq hidle hne name hb.1, readPadding_placed hps hm hb hsize rfl]

/-- The file of a ramdisk, by its first two bytes in memory. -/
def ramdiskName (env : Env) (b : Bytes) : OutFile :=
  if b.getD 0 (env.fresh .r 0) = 0x02 ∧ b.getD 1 (env.fresh .r 1) = 0x21 then .ramdiskLz4
  else .ramdiskGz

theorem copyRamdisk_eq (hidle : Idle st) (hps : pagesize.toNat = 2 ^ k)
    (hm : (pagesize - 1).toNat = 2 ^ k - 1) (hb : Placed (2 ^ k) env.image st.pos b)
    (hsize : size.toNat = b.length) :
    readPadding env.image (copyRamdisk env st size.toNat) size pagesize
      = { st with
          pos := st.pos + pages (2 ^ k) b * 2 ^ k
          files := Function.update st.files (ramdiskName env b) (some b) } := by
  have hcopy : copyRamdisk env st size.toNat
      = { st with
          pos := st.pos + b.length
          files := Function.update st.files (ramdiskName env b) (some b) } := by
    rw [copyRamdisk]
    rw [hsize, fread_eq hb.1]
    exact @writeOwn_eq env { st with pos := st.pos + b.length } hidle .r (ramdiskName env b) b
  rw [hcopy, readPadding_placed hps hm hb hsize rfl]

end Copies

-- ── The whole image ──────────────────────────────────────────────────────────

section Whole

variable {env : Env} {pagesize : UInt32} {hdr : BootImgHdr} {s : Sections} {k : Nat}

/-- An image that starts with the magic is recognised at once. -/
theorem findMagic_start {image : Bytes} (h : slice image 0 8 = bootMagic) (tmp : Bytes) :
    findMagic image tmp (List.range 513) = some 0 := by
  have hrange : List.range 513 = 0 :: (List.range 512).map Nat.succ := List.range_succ_eq_map
  rw [hrange, findMagic, h]
  exact if_pos rfl

/-- The files a run leaves. -/
def leftFiles (env : Env) (hdr : BootImgHdr) (s : Sections) : OutFile → Option Bytes :=
  let files := Function.update (textFiles hdr.bytes) .zImage (some s.kernel)
  let files := Function.update files (ramdiskName env s.ramdisk) (some s.ramdisk)
  let files := strayed env files .s .second s.secondBytes
  let files := strayed env files .d .dt s.dtBytes
  strayed env files .fsig .signature s.signatureBytes

/-- The sections of an image that has the layout, walked through from the end
    of the header. -/
theorem unpackSections_of_layout (hk : 10 ≤ k) (hps : pagesize.toNat = 2 ^ k)
    (hm : (pagesize - 1).toNat = 2 ^ k - 1) (h : LayoutOk (2 ^ k) env.image hdr s)
    (hsig : s.signatureBytes.length = 256) :
    (unpackSections env { pos := 608, files := textFiles hdr.bytes } hdr.bytes pagesize).files
        = leftFiles env hdr s
      ∧ (unpackSections env { pos := 608, files := textFiles hdr.bytes } hdr.bytes
          pagesize).misuse = true := by
  have hp : 608 ≤ 2 ^ k := Nat.le_trans (by decide) (Nat.pow_le_pow_right (by decide : 0 < 2) hk)
  have hself : slice hdr.bytes 0 608 = hdr.bytes := by
    rw [slice, List.drop_zero, ← length_bytes hdr, List.take_length]
  have hkernel : le32At hdr.bytes 8 = hdr.kernelSize := hdr_word hself (i := 0) rfl
  have hramdisk : le32At hdr.bytes 16 = hdr.ramdiskSize := hdr_word hself (i := 2) rfl
  have hsecond : le32At hdr.bytes 24 = hdr.secondSize := hdr_word hself (i := 4) rfl
  have hdt : le32At hdr.bytes 40 = hdr.dtSize := hdr_word hself (i := 8) rfl
  have hidle : ∀ pos files misuse,
      Idle { pos := pos, files := files, misuse := misuse } := fun _ _ _ _ => rfl
  -- every step ends where the next section starts
  have hnext : ∀ n b, n * 2 ^ k + pages (2 ^ k) b * 2 ^ k = (n + pages (2 ^ k) b) * 2 ^ k :=
    fun n b => (Nat.add_mul n _ _).symm
  have hhead : padLen (2 ^ k) sizeofHdr.toNat = 2 ^ k - 608 := padLen_header hp
  have hpad : readPadding env.image { pos := 608, files := textFiles hdr.bytes } sizeofHdr
      pagesize = { pos := 2 ^ k, files := textFiles hdr.bytes } := by
    have hzero := h.headerPadding
    rw [← hhead] at hzero
    rw [@readPadding_eq _ { pos := 608, files := textFiles hdr.bytes } _ _ _ hps hm hzero, hhead]
    dsimp only
    rw [Nat.add_sub_cancel' hp]
  unfold unpackSections
  dsimp only
  rw [hkernel, hramdisk, hsecond, hdt, hpad,
    copyOwn_eq (hidle _ _ _) hps hm h.kernel h.kernelSize]
  have hfirst := hnext 1 s.kernel
  rw [Nat.one_mul] at hfirst
  dsimp only
  rw [hfirst, copyRamdisk_eq (hidle _ _ _) hps hm h.ramdisk h.ramdiskSize]
  dsimp only
  rw [hnext, copyStray_padded (hidle _ _ _) hps hm h.second h.secondSize (by decide)]
  dsimp only
  rw [hnext, copyStray_padded (hidle _ _ _) hps hm h.dt h.dtSize (by decide)]
  dsimp only
  rw [hnext, ← hsig, copyStray_eq (hidle _ _ _) (by decide) _ h.signature]
  exact ⟨rfl, rfl⟩

/-- **WHAT A RUN LEAVES**: the files as written, the last three through a
    closed stream. -/
theorem unpack_of_layout (hps : hdr.pageSize ∈ acceptedPageSizes)
    (h : LayoutOk hdr.pageSize.toNat env.image hdr s) (hsig : s.signatureBytes.length = 256) :
    ∃ st, unpackbootimg env 0 = some st ∧ st.files = leftFiles env hdr s ∧ st.misuse = true := by
  obtain ⟨k, hk, -, hpow, hm⟩ := accepted_pow hps
  rw [hpow] at h
  have hread : fread (fun _ => 0) env.image { pos := 0 } 608 = (hdr.bytes, { pos := 608 }) := by
    have hslice : slice env.image 0 hdr.bytes.length = hdr.bytes := by
      rw [length_bytes]
      exact h.header
    have hall := @fread_eq _ { pos := 0 } (fun _ => 0) _ hslice
    rw [length_bytes] at hall
    exact hall
  have hself : slice hdr.bytes 0 608 = hdr.bytes := by
    rw [slice, List.drop_zero, ← length_bytes hdr, List.take_length]
  have hpage : le32At hdr.bytes 36 = hdr.pageSize := hdr_word hself (i := 7) rfl
  refine ⟨_, ?_, unpackSections_of_layout (by omega) hpow hm h hsig⟩
  unfold unpackbootimg
  rw [findMagic_start (hdr_magic h.header)]
  dsimp only
  rw [hread]
  dsimp only
  rw [if_pos rfl, hpage, writeTexts_eq]

/-- If writing through a closed stream changes no file, the last three files
    stay empty. -/
theorem leftFiles_lost (hlost : ∀ streams files b, env.stray streams files b = files) :
    leftFiles env hdr s .zImage = some s.kernel
      ∧ leftFiles env hdr s (ramdiskName env s.ramdisk) = some s.ramdisk
      ∧ leftFiles env hdr s .second = some [] ∧ leftFiles env hdr s .dt = some []
      ∧ leftFiles env hdr s .signature = some [] := by
  simp only [leftFiles, strayed, hlost]
  rw [ramdiskName]
  split <;> exact ⟨rfl, rfl, rfl, rfl, rfl⟩

/-- If the memory of a closed stream is given to the next one that is opened,
    every section lands in its file all the same. -/
theorem leftFiles_reused
    (hreused : ∀ v name files b, env.stray (Function.update (fun _ => none) v (some name)) files b
      = Function.update files name (some ((files name).getD [] ++ b))) :
    leftFiles env hdr s .zImage = some s.kernel
      ∧ leftFiles env hdr s (ramdiskName env s.ramdisk) = some s.ramdisk
      ∧ leftFiles env hdr s .second = some s.secondBytes
      ∧ leftFiles env hdr s .dt = some s.dtBytes
      ∧ leftFiles env hdr s .signature = some s.signatureBytes := by
  simp only [leftFiles, strayed, hreused]
  rw [ramdiskName]
  split <;> exact ⟨rfl, rfl, rfl, rfl, rfl⟩

end Whole

/-- **NO IMAGE IS UNPACKED CLEANLY**: on every image with the layout the run
    goes through, and it writes through a stream it has closed. -/
theorem unpackbootimg_never_unpacked (env : Env) (hdr : BootImgHdr) (s : Sections)
    (hps : hdr.pageSize ∈ acceptedPageSizes)
    (h : LayoutOk hdr.pageSize.toNat env.image hdr s) (hsig : s.signatureBytes.length = 256) :
    ∃ st, unpackbootimg env 0 = some st ∧ ¬ Unpacked st s := by
  obtain ⟨st, hst, -, hmisuse⟩ := unpack_of_layout hps h hsig
  refine ⟨st, hst, ?_⟩
  intro hok
  have hclean := hok.streams
  rw [hmisuse] at hclean
  exact nomatch hclean

-- ── A small image ────────────────────────────────────────────────────────────

/-- A kernel of three bytes, a ramdisk of two and a signature. -/
def sampleSections : Sections :=
  { kernel := [1, 2, 3], ramdisk := [0x1f, 0x8b], signature := some (List.replicate 256 7) }

/-- Its header. -/
def sampleHdr : BootImgHdr :=
  { kernelSize := 3, kernelAddr := 0x10008000, ramdiskSize := 2, ramdiskAddr := 0x11000000,
    secondSize := 0, secondAddr := 0x10f00000, tagsAddr := 0x10000100, pageSize := 2048,
    dtSize := 0, name := cField 16 [], cmdline := cField 512 [], id := cField 32 [] }

/-- A run on the image, where writing through a closed stream is lost. -/
def sampleRun : Env where
  fresh _ _ := 0
  tmp := []
  image := frontPages 2048 sampleHdr sampleSections ++ afterRamdisk 2048 sampleSections
  stray _ files _ := files

theorem sampleRun_layout :
    LayoutOk sampleHdr.pageSize.toNat sampleRun.image sampleHdr sampleSections :=
  layout_of_paddingAgrees (by decide) rfl rfl rfl rfl rfl (Or.inl rfl)

theorem sampleSections_signature : sampleSections.signatureBytes.length = 256 :=
  List.length_replicate

theorem unpackbootimg_never_unpacked_sample :
    LayoutOk sampleHdr.pageSize.toNat sampleRun.image sampleHdr sampleSections
      ∧ ∃ st, unpackbootimg sampleRun 0 = some st ∧ ¬ Unpacked st sampleSections :=
  ⟨sampleRun_layout, unpackbootimg_never_unpacked sampleRun sampleHdr sampleSections
    List.mem_cons_self sampleRun_layout sampleSections_signature⟩

/-- The signature of the small image is lost. -/
theorem unpackbootimg_loses_signature :
    LayoutOk sampleHdr.pageSize.toNat sampleRun.image sampleHdr sampleSections
      ∧ ∃ st, unpackbootimg sampleRun 0 = some st ∧ st.misuse = true
        ∧ st.files .signature = some [] ∧ ¬ Unpacked st sampleSections := by
  obtain ⟨st, hst, hfiles, hmisuse⟩ :=
    @unpack_of_layout sampleRun sampleHdr sampleSections
      List.mem_cons_self sampleRun_layout sampleSections_signature
  have hempty : st.files .signature = some [] := by
    rw [hfiles]
    exact (leftFiles_lost (fun _ _ _ => rfl)).2.2.2.2
  refine ⟨sampleRun_layout, st, hst, hmisuse, hempty, ?_⟩
  intro hok
  have hsig := hok.signature
  rw [hempty] at hsig
  have hlen := sampleSections_signature
  rw [← Option.some.inj hsig] at hlen
  exact nomatch hlen

end Unpackbootimg

import Universal7580.DtbhBlockProofs

/-! # The boot image of `mkbootimg.c`

    `bootimg.h` draws a boot image as a header page followed by kernel,
    ramdisk, second stage, device tree and signature, each on a page boundary.
    `LayoutOk` is that drawing.  `mkbootimg` is the tool that writes it: it
    loads the inputs, fills the header, and alternates `write` and
    `write_padding`.

    Each padding has to be computed from the section just written.  The one
    after the second stage is computed from the ramdisk's size, so the device
    tree and the signature are misplaced unless the two sizes leave the same
    remainder (`layout_iff_of_image`). -/

namespace BootImage

open PageBytes DtbhBlock

-- ── The header ───────────────────────────────────────────────────────────────

/-- `BOOT_MAGIC`, the text `ANDROID!`. -/
def bootMagic : Bytes := [0x41, 0x4e, 0x44, 0x52, 0x4f, 0x49, 0x44, 0x21]

/-- `boot_img_hdr`, after its magic. -/
structure BootImgHdr where
  kernelSize : UInt32
  kernelAddr : UInt32
  ramdiskSize : UInt32
  ramdiskAddr : UInt32
  secondSize : UInt32
  secondAddr : UInt32
  tagsAddr : UInt32
  pageSize : UInt32
  dtSize : UInt32
  unused : UInt32 := 0
  name : Vector UInt8 16
  cmdline : Vector UInt8 512
  id : Vector UInt8 32

/-- The ten words after the magic. -/
def BootImgHdr.words (h : BootImgHdr) : List UInt32 :=
  [h.kernelSize, h.kernelAddr, h.ramdiskSize, h.ramdiskAddr, h.secondSize, h.secondAddr,
   h.tagsAddr, h.pageSize, h.dtSize, h.unused]

/-- The struct as it lies in memory and in the file. -/
def BootImgHdr.bytes (h : BootImgHdr) : Bytes :=
  bootMagic ++ (h.words.flatMap le32 ++ (h.name.toList ++ (h.cmdline.toList ++ h.id.toList)))

/-- `sizeof(boot_img_hdr)`. -/
def sizeofHdr : UInt32 := 608

/-- A C array that a string was copied to. -/
def cField (n : Nat) (s : Bytes) : Vector UInt8 n := Vector.ofFn (fun i => s.getD i 0)

@[simp] theorem length_bytes (h : BootImgHdr) : h.bytes.length = 608 := by
  have hwords : (h.words.flatMap le32).length = 40 := rfl
  simp only [BootImgHdr.bytes, List.length_append, hwords, Vector.length_toList]
  rfl

/-- Word `i` of the header, read back from an image that starts with it. -/
theorem hdr_word {image : Bytes} {h : BootImgHdr} (hhead : slice image 0 608 = h.bytes)
    {i : Nat} {x : UInt32} (hi : h.words[i]? = some x) : le32At image (8 + 4 * i) = x := by
  have himage : image = h.bytes ++ image.drop 608 := by
    rw [← hhead, slice, List.drop_zero, List.take_append_drop]
  rw [himage, BootImgHdr.bytes, List.append_assoc, List.append_assoc]
  exact le32At_words h.words bootMagic _ i x hi

/-- An image that starts with a header starts with the magic. -/
theorem hdr_magic {image : Bytes} {h : BootImgHdr} (hhead : slice image 0 608 = h.bytes) :
    slice image 0 8 = bootMagic := by
  have himage : image = h.bytes ++ image.drop 608 := by
    rw [← hhead, slice, List.drop_zero, List.take_append_drop]
  rw [himage, BootImgHdr.bytes, List.append_assoc]
  exact slice_append_exact [] bootMagic _ rfl

-- ── The layout of bootimg.h ──────────────────────────────────────────────────

/-- What goes into an image. -/
structure Sections where
  kernel : Bytes
  ramdisk : Bytes
  second : Option Bytes := none
  dt : Option Bytes := none
  signature : Option Bytes := none

/-- The second stage, empty when there is none. -/
def Sections.secondBytes (s : Sections) : Bytes := s.second.getD []

/-- The device tree, empty when there is none. -/
def Sections.dtBytes (s : Sections) : Bytes := s.dt.getD []

/-- The signature, empty when there is none. -/
def Sections.signatureBytes (s : Sections) : Bytes := s.signature.getD []

/-- The number of pages a section takes. -/
def pages (p : Nat) (b : Bytes) : Nat := (b.length + p - 1) / p

/-- Section `b` stands at `off`, with zeros up to the next page. -/
def Placed (p : Nat) (image : Bytes) (off : Nat) (b : Bytes) : Prop :=
  slice image off b.length = b
    ∧ slice image (off + b.length) (padLen p b.length) = zeros (padLen p b.length)

/-- **THE LAYOUT OF BOOTIMG.H**: the header in page 0, with the sizes of the
    sections, and each section at the page the drawing gives it. -/
structure LayoutOk (p : Nat) (image : Bytes) (hdr : BootImgHdr) (s : Sections) : Prop where
  header : slice image 0 608 = hdr.bytes
  headerPadding : slice image 608 (p - 608) = zeros (p - 608)
  pageSize : hdr.pageSize.toNat = p
  kernelSize : hdr.kernelSize.toNat = s.kernel.length
  ramdiskSize : hdr.ramdiskSize.toNat = s.ramdisk.length
  secondSize : hdr.secondSize.toNat = s.secondBytes.length
  dtSize : hdr.dtSize.toNat = s.dtBytes.length
  kernel : Placed p image p s.kernel
  ramdisk : Placed p image ((1 + pages p s.kernel) * p) s.ramdisk
  second : Placed p image ((1 + pages p s.kernel + pages p s.ramdisk) * p) s.secondBytes
  dt : Placed p image
    ((1 + pages p s.kernel + pages p s.ramdisk + pages p s.secondBytes) * p) s.dtBytes
  signature : slice image
      ((1 + pages p s.kernel + pages p s.ramdisk + pages p s.secondBytes + pages p s.dtBytes) * p)
      s.signatureBytes.length = s.signatureBytes

-- ── mkbootimg ────────────────────────────────────────────────────────────────

/-- What the tool runs in: files and directories, the libraries it calls, and
    whether its output file can be created and its `n`-th `write` is
    complete. -/
structure Env where
  fs : String → Option Bytes
  dirs : String → Option (List (Bytes × Option Bytes))
  fdt : Libfdt
  qsort : QSort DtEntry
  heap : Nat → Bool
  sha1 : Bytes → Vector UInt8 20
  creat : Bool
  disk : Nat → Bool

/-- The command line after parsing.  The page size was checked when its option
    was read. -/
structure Options where
  output : Option String := none
  kernelFn : Option String := none
  ramdiskFn : Option String := none
  secondFn : Option String := none
  dtDir : Option String := none
  dtFn : Option String := none
  sigFn : Option String := none
  cmdline : Bytes := []
  board : Bytes := []
  base : UInt32 := 0x10000000
  kernelOffset : UInt32 := 0x00008000
  ramdiskOffset : UInt32 := 0x01000000
  secondOffset : UInt32 := 0x00f00000
  tagsOffset : UInt32 := 0x00000100
  pagesize : UInt32 := 2048
  pagesize_accepted : pagesize ∈ acceptedPageSizes := by decide

/-- How a run ends without an image. -/
inductive Exit where
  | usage
  | cmdlineTooLarge
  | loadKernel
  | loadRamdisk
  | loadSecond
  | loadDtDir
  | loadDt
  | loadSignature
  | create
  | writing
  | undefined

/-- A file that has to be there. -/
def loadOr (env : Env) (exit : Exit) (fn : String) : Except Exit Bytes :=
  match loadFile (env.fs fn) with
  | none => .error exit
  | some data => .ok data

/-- A file that is loaded when its option was given. -/
def loadOpt (env : Env) (exit : Exit) : Option String → Except Exit (Option Bytes)
  | none => .ok none
  | some fn => (loadOr env exit fn).map some

/-- The device tree, from a directory of dtbs or from a file. -/
def loadDt (env : Env) (o : Options) : Except Exit (Option Bytes) :=
  match o.dtDir with
  | none => loadOpt env .loadDt o.dtFn
  | some dir =>
      match loadDtbhBlock env.fdt env.qsort env.heap (env.dirs dir) o.pagesize with
      | .ok (some (block, _)) => .ok (some block)
      | _ => .error .loadDtDir

/-- The ramdisk; the name `NONE` stands for an empty one. -/
def loadRamdisk (env : Env) (fn : String) : Except Exit Bytes :=
  if fn = "NONE" then .ok [] else loadOr env .loadRamdisk fn

/-- The inputs in memory. -/
def loadInputs (env : Env) (o : Options) (kernelFn ramdiskFn : String) :
    Except Exit Sections := do
  let kernel ← loadOr env .loadKernel kernelFn
  let ramdisk ← loadRamdisk env ramdiskFn
  let second ← loadOpt env .loadSecond o.secondFn
  let dt ← loadDt env o
  let signature ← loadOpt env .loadSignature o.sigFn
  return { kernel := kernel, ramdisk := ramdisk, second := second, dt := dt,
           signature := signature }

/-- The bytes that are hashed into the header. -/
def hashed (s : Sections) : Bytes :=
  s.kernel ++ le32 (UInt32.ofNat s.kernel.length)
    ++ s.ramdisk ++ le32 (UInt32.ofNat s.ramdisk.length)
    ++ s.secondBytes ++ le32 (UInt32.ofNat s.secondBytes.length)
    ++ (match s.dt with
      | none => []
      | some dt => dt ++ le32 (UInt32.ofNat dt.length))

/-- The header of an image. -/
def makeHdr (env : Env) (o : Options) (s : Sections) : BootImgHdr :=
  { kernelSize := UInt32.ofNat s.kernel.length
    kernelAddr := o.base + o.kernelOffset
    ramdiskSize := UInt32.ofNat s.ramdisk.length
    ramdiskAddr := o.base + o.ramdiskOffset
    secondSize := UInt32.ofNat s.secondBytes.length
    secondAddr := o.base + o.secondOffset
    tagsAddr := o.base + o.tagsOffset
    pageSize := o.pagesize
    dtSize := UInt32.ofNat s.dtBytes.length
    name := cField 16 o.board
    cmdline := cField 512 o.cmdline
    id := cField 32 (env.sha1 (hashed s)).toList }

/-- The output file and the number of writes made to it. -/
structure Out where
  bytes : Bytes := []
  writes : Nat := 0

/-- A `write` that has to be complete. -/
def write (env : Env) (w : Out) (b : Bytes) : Except Exit Out :=
  if env.disk w.writes then .ok { bytes := w.bytes ++ b, writes := w.writes + 1 }
  else .error .writing

/-- `write_padding`. -/
def writePadding (env : Env) (w : Out) (pagesize itemsize : UInt32) : Except Exit Out :=
  let pagemask := pagesize - 1
  if itemsize &&& pagemask = 0 then .ok w
  else write env w (zeros (pagesize - (itemsize &&& pagemask)).toNat)

/-- The second stage, when there is one.  Its padding is computed from the size
    of the ramdisk. -/
def writeSecond (env : Env) (w : Out) (pagesize : UInt32) (hdr : BootImgHdr) :
    Option Bytes → Except Exit Out
  | none => .ok w
  | some second => do
      let w ← write env w second
      writePadding env w pagesize hdr.ramdiskSize

/-- The device tree, when there is one. -/
def writeDt (env : Env) (w : Out) (pagesize : UInt32) (hdr : BootImgHdr) :
    Option Bytes → Except Exit Out
  | none => .ok w
  | some dt => do
      let w ← write env w dt
      writePadding env w pagesize hdr.dtSize

/-- The signature, when there is one: 256 bytes, whatever the file's size. -/
def writeSignature (env : Env) (w : Out) : Option Bytes → Except Exit Out
  | none => .ok w
  | some sig => if sig.length < 256 then .error .undefined else write env w (sig.take 256)

/-- The writing half of `main`. -/
def writeImage (env : Env) (pagesize : UInt32) (hdr : BootImgHdr) (s : Sections) :
    Except Exit Out := do
  let w ← write env {} hdr.bytes
  let w ← writePadding env w pagesize sizeofHdr
  let w ← write env w s.kernel
  let w ← writePadding env w pagesize hdr.kernelSize
  let w ← write env w s.ramdisk
  let w ← writePadding env w pagesize hdr.ramdiskSize
  let w ← writeSecond env w pagesize hdr s.second
  let w ← writeDt env w pagesize hdr s.dt
  writeSignature env w s.signature

/-- `main` of `mkbootimg.c` on parsed options: the file it leaves on
    success. -/
def mkbootimg (env : Env) (o : Options) : Except Exit Bytes :=
  if o.dtDir.isSome ∧ o.dtFn.isSome then .error .usage
  else match o.output, o.kernelFn, o.ramdiskFn with
  | some _, some kernelFn, some ramdiskFn =>
      if o.board.length ≥ 16 then .error .usage
      else if o.cmdline.length > 511 then .error .cmdlineTooLarge
      else do
        let s ← loadInputs env o kernelFn ramdiskFn
        if env.creat then
          let w ← writeImage env o.pagesize (makeHdr env o s) s
          return w.bytes
        else .error .create
  | _, _, _ => .error .usage

-- ── The inputs of a run ──────────────────────────────────────────────────────

/-- What the command line names, as it lies on the disk. -/
def inputs (env : Env) (o : Options) : Sections :=
  { kernel := (o.kernelFn.bind env.fs).getD []
    ramdisk := match o.ramdiskFn with
      | none => []
      | some fn => if fn = "NONE" then [] else (env.fs fn).getD []
    second := o.secondFn.bind env.fs
    dt := match o.dtDir with
      | none => o.dtFn.bind env.fs
      | some dir =>
          match loadDtbhBlock env.fdt env.qsort env.heap (env.dirs dir) o.pagesize with
          | .ok (some (block, _)) => some block
          | _ => none
    signature := o.sigFn.bind env.fs }

/-- Every size fits the header's 32 bits. -/
structure Fits (s : Sections) : Prop where
  kernel : s.kernel.length < 2 ^ 32
  ramdisk : s.ramdisk.length < 2 ^ 32
  second : s.secondBytes.length < 2 ^ 32
  dt : s.dtBytes.length < 2 ^ 32

/-- **WHEN THE PADDING IS RIGHT**: there is no second stage; or second stage
    and ramdisk leave the same remainder; or the padding is too long and only
    zeros follow it. -/
def PaddingAgrees (p : Nat) (s : Sections) : Prop :=
  s.second = none
    ∨ s.secondBytes.length % p = s.ramdisk.length % p
    ∨ (padLen p s.secondBytes.length < padLen p s.ramdisk.length
      ∧ (∀ x ∈ s.dtBytes, x = 0) ∧ ∀ x ∈ s.signatureBytes, x = 0)

-- ── The written image ────────────────────────────────────────────────────────

/-- A section with its padding. -/
def block (p : Nat) (b : Bytes) : Bytes := b ++ zeros (padLen p b.length)

/-- Device tree and signature, as they are written. -/
def trailer (p : Nat) (s : Sections) : Bytes := block p s.dtBytes ++ s.signatureBytes

/-- A second stage with the padding that follows it, as they are written. -/
def secondBlock (padding : Nat) : Option Bytes → Bytes
  | none => []
  | some second => second ++ zeros padding

/-- Everything after the ramdisk. -/
def afterRamdisk (p : Nat) (s : Sections) : Bytes :=
  secondBlock (padLen p s.ramdisk.length) s.second ++ trailer p s

/-- Header page, kernel pages and ramdisk pages. -/
def frontPages (p : Nat) (hdr : BootImgHdr) (s : Sections) : Bytes :=
  block p hdr.bytes ++ (block p s.kernel ++ block p s.ramdisk)

section Writing

variable {env : Env} {pagesize : UInt32} {k : Nat} {w w' : Out}

/-- A chain of steps that went through went through step by step. -/
theorem bind_eq_ok {ε α β : Type} {x : Except ε α} {f : α → Except ε β} {b : β} :
    x >>= f = .ok b ↔ ∃ a, x = .ok a ∧ f a = .ok b := by
  cases x with
  | error e =>
      refine ⟨fun h => (nomatch h), ?_⟩
      rintro ⟨a, ha, -⟩
      exact nomatch ha
  | ok a =>
      refine ⟨fun h => ⟨a, rfl, h⟩, ?_⟩
      rintro ⟨a', ha, hf⟩
      rw [Except.ok.inj ha]
      exact hf

theorem write_bytes {b : Bytes} (h : write env w b = .ok w') : w'.bytes = w.bytes ++ b := by
  rw [write] at h
  split at h
  · rw [← Except.ok.inj h]
  · exact nomatch h

/-- `write_padding` fills the page of an item of `itemsize` bytes. -/
theorem writePadding_bytes {itemsize : UInt32} (hps : pagesize.toNat = 2 ^ k)
    (hm : (pagesize - 1).toNat = 2 ^ k - 1) (h : writePadding env w pagesize itemsize = .ok w') :
    w'.bytes = w.bytes ++ zeros (padLen (2 ^ k) itemsize.toNat) := by
  rw [padLen_eq_and_ite hps hm]
  unfold writePadding at h
  dsimp only at h
  split at h
  · rename_i h0
    rw [if_pos h0, ← Except.ok.inj h, zeros_zero, List.append_nil]
  · rename_i h0
    rw [if_neg h0, write_bytes h]

theorem writeSecond_bytes {hdr : BootImgHdr} {second : Option Bytes}
    (hps : pagesize.toNat = 2 ^ k) (hm : (pagesize - 1).toNat = 2 ^ k - 1)
    (h : writeSecond env w pagesize hdr second = .ok w') :
    w'.bytes = w.bytes ++ secondBlock (padLen (2 ^ k) hdr.ramdiskSize.toNat) second := by
  cases second with
  | none => rw [← Except.ok.inj h, secondBlock, List.append_nil]
  | some b =>
      obtain ⟨w₁, h₁, h₂⟩ := bind_eq_ok.mp h
      rw [writePadding_bytes hps hm h₂, write_bytes h₁, List.append_assoc, secondBlock]

theorem writeDt_bytes {hdr : BootImgHdr} {dt : Option Bytes} (hps : pagesize.toNat = 2 ^ k)
    (hm : (pagesize - 1).toNat = 2 ^ k - 1) (hsize : hdr.dtSize.toNat = (dt.getD []).length)
    (h : writeDt env w pagesize hdr dt = .ok w') :
    w'.bytes = w.bytes ++ block (2 ^ k) (dt.getD []) := by
  cases dt with
  | none =>
      have hnil : block (2 ^ k) [] = [] := by
        rw [block, List.length_nil, padLen_zero (Nat.two_pow_pos k)]
        rfl
      rw [← Except.ok.inj h, Option.getD_none, hnil, List.append_nil]
  | some b =>
      obtain ⟨w₁, h₁, h₂⟩ := bind_eq_ok.mp h
      rw [writePadding_bytes hps hm h₂, write_bytes h₁, List.append_assoc, hsize]
      rfl

theorem writeSignature_bytes {sig : Option Bytes} (hsig : ∀ b, sig = some b → b.length = 256)
    (h : writeSignature env w sig = .ok w') : w'.bytes = w.bytes ++ sig.getD [] := by
  cases sig with
  | none => rw [← Except.ok.inj h, Option.getD_none, List.append_nil]
  | some b =>
      unfold writeSignature at h
      dsimp only at h
      rw [if_neg (by rw [hsig b rfl]; omega)] at h
      rw [write_bytes h, Option.getD_some, List.take_of_length_le (Nat.le_of_eq (hsig b rfl))]

/-- **THE WRITTEN IMAGE**, section by section. -/
theorem writeImage_bytes {hdr : BootImgHdr} {s : Sections} (hps : pagesize.toNat = 2 ^ k)
    (hm : (pagesize - 1).toNat = 2 ^ k - 1)
    (hkernel : hdr.kernelSize.toNat = s.kernel.length)
    (hramdisk : hdr.ramdiskSize.toNat = s.ramdisk.length)
    (hdt : hdr.dtSize.toNat = s.dtBytes.length)
    (hsig : ∀ b, s.signature = some b → b.length = 256)
    (h : writeImage env pagesize hdr s = .ok w') :
    w'.bytes = frontPages (2 ^ k) hdr s ++ afterRamdisk (2 ^ k) s := by
  obtain ⟨w₁, h₁, h⟩ := bind_eq_ok.mp h
  obtain ⟨w₂, h₂, h⟩ := bind_eq_ok.mp h
  obtain ⟨w₃, h₃, h⟩ := bind_eq_ok.mp h
  obtain ⟨w₄, h₄, h⟩ := bind_eq_ok.mp h
  obtain ⟨w₅, h₅, h⟩ := bind_eq_ok.mp h
  obtain ⟨w₆, h₆, h⟩ := bind_eq_ok.mp h
  obtain ⟨w₇, h₇, h⟩ := bind_eq_ok.mp h
  obtain ⟨w₈, h₈, h₉⟩ := bind_eq_ok.mp h
  have hfront : w₆.bytes = frontPages (2 ^ k) hdr s := by
    rw [writePadding_bytes hps hm h₆, write_bytes h₅, writePadding_bytes hps hm h₄,
      write_bytes h₃, writePadding_bytes hps hm h₂, write_bytes h₁, hkernel, hramdisk]
    simp only [frontPages, block, length_bytes, List.append_assoc, List.nil_append]
    rfl
  have hback : w'.bytes = w₇.bytes ++ trailer (2 ^ k) s := by
    rw [writeSignature_bytes hsig h₉, writeDt_bytes hps hm hdt h₈, List.append_assoc]
    rfl
  rw [hback, writeSecond_bytes hps hm h₇, hfront, hramdisk, List.append_assoc, afterRamdisk]

end Writing

-- ── Reading the written image ────────────────────────────────────────────────

section Reading

variable {p : Nat} {hdr : BootImgHdr} {s : Sections}

theorem length_block (hp : 0 < p) (b : Bytes) : (block p b).length = pages p b * p := by
  rw [block, List.length_append, length_zeros, add_padLen hp]
  rfl

/-- A section is placed where its padded block stands. -/
theorem placed_iff (hp : 0 < p) (image : Bytes) (off : Nat) (b : Bytes) :
    Placed p image off b ↔ slice image off (pages p b * p) = block p b := by
  have h := slice_eq_append_iff image b (zeros (padLen p b.length)) off
  rw [length_zeros] at h
  rw [Placed, ← h, block, ← length_block hp, block, List.length_append, length_zeros]

/-- A block is placed behind what precedes it. -/
theorem placed_append (hp : 0 < p) (l r b : Bytes) {off : Nat} (hoff : off = l.length) :
    Placed p (l ++ (block p b ++ r)) off b := by
  rw [placed_iff hp, ← length_block hp]
  exact slice_append_exact l (block p b) r hoff

/-- The padding of the header. -/
theorem padLen_header (hp : 608 ≤ p) : padLen p 608 = p - 608 := by
  have hpages : (608 + p - 1) / p = 1 := Nat.div_eq_of_lt_le (by omega) (by omega)
  rw [padLen, roundUp_eq_mul, hpages, Nat.one_mul]

/-- Where a header page ends. -/
theorem length_headerPage (hp : 608 ≤ p) : (block p hdr.bytes).length = p := by
  rw [block, List.length_append, length_zeros, length_bytes, padLen_header hp]
  omega

theorem length_frontPages (hp : 608 ≤ p) :
    (frontPages p hdr s).length = (1 + pages p s.kernel + pages p s.ramdisk) * p := by
  have hpos : 0 < p := by omega
  rw [frontPages, List.length_append, List.length_append, length_headerPage hp,
    length_block hpos, length_block hpos, Nat.add_mul, Nat.add_mul, Nat.one_mul]
  omega

/-- Whatever follows, the front pages are as the drawing has them. -/
theorem frontPages_ok (hp : 608 ≤ p) (rest : Bytes) :
    slice (frontPages p hdr s ++ rest) 0 608 = hdr.bytes
      ∧ slice (frontPages p hdr s ++ rest) 608 (p - 608) = zeros (p - 608)
      ∧ Placed p (frontPages p hdr s ++ rest) p s.kernel
      ∧ Placed p (frontPages p hdr s ++ rest) ((1 + pages p s.kernel) * p) s.ramdisk := by
  have hpos : 0 < p := by omega
  have hpage := padLen_header hp
  have hhead : frontPages p hdr s ++ rest
      = hdr.bytes ++ (zeros (p - 608) ++ (block p s.kernel ++ (block p s.ramdisk ++ rest))) := by
    rw [frontPages, block, length_bytes, hpage]
    simp only [List.append_assoc]
  refine ⟨?_, ?_, ?_, ?_⟩
  · have h := slice_append_exact [] hdr.bytes
      (zeros (p - 608) ++ (block p s.kernel ++ (block p s.ramdisk ++ rest)))
      (show 0 = ([] : Bytes).length from rfl)
    rw [length_bytes, List.nil_append] at h
    rw [hhead]
    exact h
  · have h := slice_append_exact hdr.bytes (zeros (p - 608))
      (block p s.kernel ++ (block p s.ramdisk ++ rest)) (length_bytes hdr).symm
    rw [length_zeros] at h
    rw [hhead]
    exact h
  · rw [frontPages, List.append_assoc, List.append_assoc]
    exact placed_append hpos _ _ _ (length_headerPage hp).symm
  · rw [frontPages, List.append_assoc, List.append_assoc, ← List.append_assoc]
    refine placed_append hpos _ _ _ ?_
    rw [List.length_append, length_headerPage hp, length_block hpos, Nat.add_mul, Nat.one_mul]

/-- The sections behind the ramdisk, looked for in what is behind the
    ramdisk. -/
theorem back_iff (hp : 608 ≤ p) (rest : Bytes) :
    (Placed p (frontPages p hdr s ++ rest)
        ((1 + pages p s.kernel + pages p s.ramdisk) * p) s.secondBytes
      ∧ Placed p (frontPages p hdr s ++ rest)
        ((1 + pages p s.kernel + pages p s.ramdisk + pages p s.secondBytes) * p) s.dtBytes
      ∧ slice (frontPages p hdr s ++ rest)
        ((1 + pages p s.kernel + pages p s.ramdisk + pages p s.secondBytes
          + pages p s.dtBytes) * p) s.signatureBytes.length = s.signatureBytes)
      ↔ Placed p rest 0 s.secondBytes
        ∧ slice rest (pages p s.secondBytes * p) (trailer p s).length = trailer p s := by
  have hpos : 0 < p := by omega
  have hfront := @length_frontPages p hdr s hp
  have hin : ∀ off len, slice (frontPages p hdr s ++ rest)
      ((1 + pages p s.kernel + pages p s.ramdisk) * p + off) len = slice rest off len := by
    intro off len
    rw [← hfront]
    exact slice_append_right _ _ _ _
  have hin0 := hin 0
  rw [Nat.add_zero] at hin0
  rw [placed_iff hpos, placed_iff hpos, placed_iff hpos, trailer, List.length_append,
    slice_eq_append_iff, length_block hpos, hin0]
  simp only [Nat.add_mul] at hin ⊢
  rw [hin, Nat.add_assoc ((1 * p + pages p s.kernel * p) + pages p s.ramdisk * p), hin]

/-- **WHEN THE IMAGE IS RIGHT**: with header sizes that are the sections'
    sizes, the written image has the layout exactly when the padding behind
    the second stage comes out right. -/
theorem layout_iff_of_image (hp : 608 ≤ p) (hpage : hdr.pageSize.toNat = p)
    (hkernel : hdr.kernelSize.toNat = s.kernel.length)
    (hramdisk : hdr.ramdiskSize.toNat = s.ramdisk.length)
    (hsecond : hdr.secondSize.toNat = s.secondBytes.length)
    (hdt : hdr.dtSize.toNat = s.dtBytes.length) :
    (∃ hdr', LayoutOk p (frontPages p hdr s ++ afterRamdisk p s) hdr' s)
      ↔ PaddingAgrees p s := by
  have hpos : 0 < p := by omega
  obtain ⟨hhead, hheadPad, hk, hr⟩ := @frontPages_ok p hdr s hp (afterRamdisk p s)
  have hback := @back_iff p hdr s hp (afterRamdisk p s)
  have hlayout : (∃ hdr', LayoutOk p (frontPages p hdr s ++ afterRamdisk p s) hdr' s)
      ↔ Placed p (afterRamdisk p s) 0 s.secondBytes
        ∧ slice (afterRamdisk p s) (pages p s.secondBytes * p) (trailer p s).length
          = trailer p s := by
    rw [← hback]
    constructor
    · rintro ⟨hdr', h⟩
      exact ⟨h.second, h.dt, h.signature⟩
    · rintro ⟨h2, h3, h4⟩
      exact ⟨hdr, hhead, hheadPad, hpage, hkernel, hramdisk, hsecond, hdt, hk, hr, h2, h3, h4⟩
  rw [hlayout, PaddingAgrees, ← padLen_eq_iff hpos]
  cases hsec : s.second with
  | none =>
      have hnil : s.secondBytes = [] := by
        rw [Sections.secondBytes, hsec]
        rfl
      have hzero : pages p [] * p = 0 := roundUp_zero hpos
      have hempty : Placed p (afterRamdisk p s) 0 [] := by
        refine ⟨rfl, ?_⟩
        rw [List.length_nil, padLen_zero hpos]
        rfl
      refine ⟨fun _ => Or.inl rfl, fun _ => ?_⟩
      rw [hnil, hzero]
      refine ⟨hempty, ?_⟩
      rw [afterRamdisk, hsec, secondBlock, List.nil_append, slice, List.drop_zero,
        List.take_length]
  | some second =>
      have hsome : s.secondBytes = second := by
        rw [Sections.secondBytes, hsec]
        rfl
      have hrest : afterRamdisk p s
          = second ++ (zeros (padLen p s.ramdisk.length) ++ trailer p s) := by
        rw [afterRamdisk, hsec, secondBlock, List.append_assoc]
      have hin : ∀ off len, slice (afterRamdisk p s) (second.length + off) len
          = slice (zeros (padLen p s.ramdisk.length) ++ trailer p s) off len := by
        intro off len
        rw [hrest]
        exact slice_append_right _ _ _ _
      have hself : slice (afterRamdisk p s) 0 second.length = second := by
        rw [hrest]
        exact slice_append_exact [] second _ rfl
      have hoff : pages p second * p = second.length + padLen p second.length :=
        (add_padLen hpos second.length).symm
      have hzero : (∀ x ∈ trailer p s, x = 0)
          ↔ (∀ x ∈ s.dtBytes, x = 0) ∧ ∀ x ∈ s.signatureBytes, x = 0 := by
        rw [trailer, block]
        constructor
        · intro h
          exact ⟨fun x hx => h x (List.mem_append_left _ (List.mem_append_left _ hx)),
            fun x hx => h x (List.mem_append_right _ hx)⟩
        · rintro ⟨hd, hg⟩ x hx
          rcases List.mem_append.mp hx with hx | hx
          · rcases List.mem_append.mp hx with hx | hx
            · exact hd x hx
            · exact mem_zeros hx
          · exact hg x hx
      rw [hsome, Placed, hself, Nat.zero_add, hoff, hin, ← Nat.add_zero second.length, hin,
        Nat.add_zero, and_iff_right rfl, zeros_append_prefix_iff, hzero]
      constructor
      · rintro (heq | ⟨hlt, hz⟩)
        · exact Or.inr (Or.inl heq.symm)
        · exact Or.inr (Or.inr ⟨hlt, hz⟩)
      · rintro (hno | heq | ⟨hlt, hz⟩)
        · cases hno
        · exact Or.inl heq.symm
        · exact Or.inr ⟨hlt, hz⟩

/-- A written image with the right padding has the layout with its own
    header. -/
theorem layout_of_paddingAgrees (hp : 608 ≤ p) (hpage : hdr.pageSize.toNat = p)
    (hkernel : hdr.kernelSize.toNat = s.kernel.length)
    (hramdisk : hdr.ramdiskSize.toNat = s.ramdisk.length)
    (hsecond : hdr.secondSize.toNat = s.secondBytes.length)
    (hdt : hdr.dtSize.toNat = s.dtBytes.length) (hpad : PaddingAgrees p s) :
    LayoutOk p (frontPages p hdr s ++ afterRamdisk p s) hdr s := by
  obtain ⟨hdr', h⟩ :=
    (layout_iff_of_image hp hpage hkernel hramdisk hsecond hdt).mpr hpad
  obtain ⟨hhead, -, -, -⟩ := @frontPages_ok p hdr s hp (afterRamdisk p s)
  exact { h with
    header := hhead
    pageSize := hpage
    kernelSize := hkernel
    ramdiskSize := hramdisk
    secondSize := hsecond
    dtSize := hdt }

end Reading

-- ── What is loaded ───────────────────────────────────────────────────────────

/-- What `load_file` keeps of a file. -/
def kept (b : Bytes) : Bytes := b.take (b.length % 2 ^ 32)

theorem kept_eq {b : Bytes} (h : b.length < 2 ^ 32) : kept b = b := by
  rw [kept, Nat.mod_eq_of_lt h, List.take_length]

section Loading

variable {env : Env} {o : Options} {exit : Exit}

theorem loadFile_eq_some {file : Option Bytes} {b : Bytes} (h : loadFile file = some b) :
    ∃ data, file = some data ∧ b = kept data := by
  cases file with
  | none => exact nomatch h
  | some data =>
      refine ⟨data, rfl, ?_⟩
      unfold loadFile at h
      dsimp only at h
      split at h
      · exact (Option.some.inj h).symm
      · exact nomatch h

theorem loadOr_eq_ok {fn : String} {b : Bytes} (h : loadOr env exit fn = .ok b) :
    ∃ file, env.fs fn = some file ∧ b = kept file := by
  rw [loadOr] at h
  cases hload : loadFile (env.fs fn) with
  | none =>
      rw [hload] at h
      exact nomatch h
  | some data =>
      rw [hload] at h
      obtain ⟨file, hfile, hkept⟩ := loadFile_eq_some hload
      exact ⟨file, hfile, (Except.ok.inj h).symm.trans hkept⟩

theorem loadOpt_eq_ok {fn : Option String} {b : Option Bytes}
    (h : loadOpt env exit fn = .ok b) : b = (fn.bind env.fs).map kept := by
  cases fn with
  | none => exact (Except.ok.inj h).symm
  | some fn =>
      rw [loadOpt] at h
      cases hload : loadOr env exit fn with
      | error exit' =>
          rw [hload] at h
          exact nomatch h
      | ok data =>
          rw [hload] at h
          obtain ⟨file, hfile, rfl⟩ := loadOr_eq_ok hload
          rw [← Except.ok.inj h, Option.bind_some, hfile]
          rfl

theorem loadDt_eq_ok {b : Option Bytes} (h : loadDt env o = .ok b) :
    b = (inputs env o).dt.map kept := by
  rw [loadDt] at h
  rw [inputs]
  dsimp only
  cases hdir : o.dtDir with
  | none =>
      rw [hdir] at h
      exact loadOpt_eq_ok h
  | some dir =>
      rw [hdir] at h
      dsimp only at h ⊢
      split at h
      · rename_i block sz hblock
        have hlen := loadDtbhBlock_length hblock
        have hlt : block.length < 2 ^ 32 := by
          rw [hlen]
          exact sz.toNat_lt
        rw [← Except.ok.inj h]
        show some block = some (kept block)
        rw [kept_eq hlt]
      · exact nomatch h

/-- What is loaded is what the command line names, less what does not fit 32
    bits of size. -/
theorem loadInputs_eq_ok {kernelFn ramdiskFn : String} {s : Sections}
    (hk : o.kernelFn = some kernelFn) (hr : o.ramdiskFn = some ramdiskFn)
    (h : loadInputs env o kernelFn ramdiskFn = .ok s) :
    s = { kernel := kept (inputs env o).kernel
          ramdisk := kept (inputs env o).ramdisk
          second := (inputs env o).second.map kept
          dt := (inputs env o).dt.map kept
          signature := (inputs env o).signature.map kept } := by
  obtain ⟨kernel, h₁, h⟩ := bind_eq_ok.mp h
  obtain ⟨ramdisk, h₂, h⟩ := bind_eq_ok.mp h
  obtain ⟨second, h₃, h⟩ := bind_eq_ok.mp h
  obtain ⟨dt, h₄, h⟩ := bind_eq_ok.mp h
  obtain ⟨signature, h₅, h⟩ := bind_eq_ok.mp h
  have hkernel : kernel = kept (inputs env o).kernel := by
    obtain ⟨file, hfile, hkept⟩ := loadOr_eq_ok h₁
    rw [hkept, inputs, hk, Option.bind_some, hfile]
    rfl
  have hramdisk : ramdisk = kept (inputs env o).ramdisk := by
    rw [inputs, hr]
    dsimp only
    rw [loadRamdisk] at h₂
    split at h₂
    · rename_i hnone
      rw [if_pos hnone, ← Except.ok.inj h₂]
      rfl
    · rename_i hnone
      obtain ⟨file, hfile, hkept⟩ := loadOr_eq_ok h₂
      rw [if_neg hnone, hkept, hfile]
      rfl
  rw [← Except.ok.inj h, hkernel, hramdisk, loadOpt_eq_ok h₃, loadDt_eq_ok h₄, loadOpt_eq_ok h₅]
  rfl

/-- Inputs that fit are loaded as they are. -/
theorem kept_inputs {s : Sections} (hfit : Fits s)
    (hsig : ∀ b, s.signature = some b → b.length = 256) :
    ({ kernel := kept s.kernel, ramdisk := kept s.ramdisk, second := s.second.map kept,
       dt := s.dt.map kept, signature := s.signature.map kept } : Sections) = s := by
  have hopt : ∀ b : Option Bytes, (b.getD []).length < 2 ^ 32 → b.map kept = b := by
    intro b hb
    cases b with
    | none => rfl
    | some b =>
        have hlt : b.length < 2 ^ 32 := hb
        show some (kept b) = some b
        rw [kept_eq hlt]
  have hsiglen : (s.signature.getD []).length < 2 ^ 32 := by
    cases hs : s.signature with
    | none => exact Nat.two_pow_pos 32
    | some b =>
        rw [Option.getD_some, hsig b hs]
        decide
  rw [kept_eq hfit.kernel, kept_eq hfit.ramdisk, hopt s.second hfit.second, hopt s.dt hfit.dt,
    hopt s.signature hsiglen]

/-- A run that succeeds has loaded its inputs and written the image. -/
theorem mkbootimg_eq_ok {image : Bytes} (h : mkbootimg env o = .ok image) :
    ∃ s w, s = { kernel := kept (inputs env o).kernel
                 ramdisk := kept (inputs env o).ramdisk
                 second := (inputs env o).second.map kept
                 dt := (inputs env o).dt.map kept
                 signature := (inputs env o).signature.map kept }
      ∧ writeImage env o.pagesize (makeHdr env o s) s = .ok w ∧ image = w.bytes := by
  rw [mkbootimg] at h
  split at h
  · exact nomatch h
  split at h
  · rename_i kernelFn ramdiskFn _ hk hr
    split at h
    · exact nomatch h
    split at h
    · exact nomatch h
    obtain ⟨s, hs, h⟩ := bind_eq_ok.mp h
    split at h
    · obtain ⟨w, hw, h⟩ := bind_eq_ok.mp h
      exact ⟨s, w, loadInputs_eq_ok hk hr hs, hw, (Except.ok.inj h).symm⟩
    · exact nomatch h
  · exact nomatch h

/-- The layout of an image against the inputs that fit. -/
theorem layout_iff_of_fits {image : Bytes} (hfit : Fits (inputs env o))
    (hsig : ∀ b, (inputs env o).signature = some b → b.length = 256)
    (h : mkbootimg env o = .ok image) :
    (∃ hdr, LayoutOk o.pagesize.toNat image hdr (inputs env o))
      ↔ PaddingAgrees o.pagesize.toNat (inputs env o) := by
  obtain ⟨s, w, hs, hw, rfl⟩ := mkbootimg_eq_ok h
  rw [kept_inputs hfit hsig] at hs
  subst hs
  obtain ⟨k, hk11, -, hps, hm⟩ := accepted_pow o.pagesize_accepted
  have hbig : 2 ^ 11 ≤ 2 ^ k := Nat.pow_le_pow_right (by omega) hk11
  have hsize : ∀ {b : Bytes}, b.length < 2 ^ 32 → (UInt32.ofNat b.length).toNat = b.length := by
    intro b hb
    rw [UInt32.toNat_ofNat', Nat.mod_eq_of_lt hb]
  have hbytes := @writeImage_bytes env _ _ _ (makeHdr env o (inputs env o)) _ hps hm
    (hsize hfit.kernel) (hsize hfit.ramdisk) (hsize hfit.dt) hsig hw
  rw [hbytes, hps]
  exact layout_iff_of_image (by omega) hps (hsize hfit.kernel) (hsize hfit.ramdisk)
    (hsize hfit.second) (hsize hfit.dt)

end Loading

/-- The header's size fields cannot describe anything larger. -/
theorem LayoutOk.fits {p : Nat} {image : Bytes} {hdr : BootImgHdr} {s : Sections}
    (h : LayoutOk p image hdr s) : Fits s where
  kernel := h.kernelSize ▸ hdr.kernelSize.toNat_lt
  ramdisk := h.ramdiskSize ▸ hdr.ramdiskSize.toNat_lt
  second := h.secondSize ▸ hdr.secondSize.toNat_lt
  dt := h.dtSize ▸ hdr.dtSize.toNat_lt

/-- **THE IMAGE HAS THE LAYOUT OF BOOTIMG.H** exactly when every input fits a
    32-bit size and the padding behind the second stage comes out right. -/
theorem mkbootimg_layout_iff (env : Env) (o : Options) (image : Bytes)
    (hsig : ∀ b, (inputs env o).signature = some b → b.length = 256)
    (h : mkbootimg env o = .ok image) :
    (∃ hdr, LayoutOk o.pagesize.toNat image hdr (inputs env o))
      ↔ Fits (inputs env o) ∧ PaddingAgrees o.pagesize.toNat (inputs env o) := by
  constructor
  · rintro ⟨hdr, hok⟩
    exact ⟨hok.fits, (layout_iff_of_fits hok.fits hsig h).mp ⟨hdr, hok⟩⟩
  · rintro ⟨hfit, hpad⟩
    exact (layout_iff_of_fits hfit hsig h).mpr hpad

-- ── Two runs ─────────────────────────────────────────────────────────────────

/-- A disk with a kernel, a ramdisk, a second stage and a device tree image of
    a few bytes; `digest` is the SHA-1 of what the tool hashes. -/
def sampleEnv (ramdisk : Bytes) (digest : Vector UInt8 20) : Env where
  fs fn :=
    if fn = "kernel" then some [1, 2, 3]
    else if fn = "ramdisk" then some ramdisk
    else if fn = "second" then some [6, 7]
    else if fn = "dt" then some [8]
    else none
  dirs _ := none
  fdt := sampleFdt
  qsort := mergeQSort DtEntry
  heap _ := true
  sha1 _ := digest
  creat := true
  disk _ := true

/-- The command line for it, at the default page size. -/
def sampleOptions : Options :=
  { output := some "boot.img", kernelFn := some "kernel", ramdiskFn := some "ramdisk",
    secondFn := some "second", dtFn := some "dt" }

/-- Whether a run left an image. -/
def succeeded (r : Except Exit Bytes) : Bool :=
  match r with
  | .ok _ => true
  | .error _ => false

theorem succeeded_iff {r : Except Exit Bytes} : succeeded r = true ↔ ∃ image, r = .ok image := by
  cases r with
  | ok image => exact ⟨fun _ => ⟨image, rfl⟩, fun _ => rfl⟩
  | error e => exact ⟨fun h => (nomatch h), fun ⟨_, h⟩ => (nomatch h)⟩

/-- The digest for a ramdisk with the bytes 4 and 5. -/
def digestEqual : Vector UInt8 20 :=
  #v[18, 128, 131, 236, 163, 5, 141, 83, 199, 249, 63, 104, 162, 217, 83, 144, 124, 49, 30, 174]

/-- The digest for a ramdisk with the byte 4. -/
def digestShort : Vector UInt8 20 :=
  #v[16, 11, 213, 186, 101, 233, 192, 73, 168, 229, 84, 2, 156, 58, 226, 57, 180, 77, 123, 85]

/-- Ramdisk and second stage of two bytes each: the layout is right. -/
theorem mkbootimg_layout_iff_equalSizes :
    ∃ image hdr, mkbootimg (sampleEnv [4, 5] digestEqual) sampleOptions = .ok image
      ∧ LayoutOk 2048 image hdr (inputs (sampleEnv [4, 5] digestEqual) sampleOptions) := by
  obtain ⟨image, himage⟩ := succeeded_iff.mp
    (show succeeded (mkbootimg (sampleEnv [4, 5] digestEqual) sampleOptions) = true by
      decide +kernel)
  have hlayout := mkbootimg_layout_iff (sampleEnv [4, 5] digestEqual) sampleOptions image
    (fun b hb => (nomatch hb)) himage
  obtain ⟨hdr, hok⟩ := hlayout.mpr
    ⟨⟨by decide, by decide, by decide, by decide⟩, Or.inr (Or.inl rfl)⟩
  exact ⟨image, hdr, himage, hok⟩

/-- A ramdisk of one byte and a second stage of two: the device tree lands one
    byte behind its page. -/
theorem mkbootimg_layout_fails :
    ∃ image, mkbootimg (sampleEnv [4] digestShort) sampleOptions = .ok image
      ∧ ¬ ∃ hdr, LayoutOk 2048 image hdr
        (inputs (sampleEnv [4] digestShort) sampleOptions) := by
  obtain ⟨image, himage⟩ := succeeded_iff.mp
    (show succeeded (mkbootimg (sampleEnv [4] digestShort) sampleOptions) = true by
      decide +kernel)
  refine ⟨image, himage, ?_⟩
  intro hok
  have hpad := (@layout_iff_of_fits (sampleEnv [4] digestShort) sampleOptions image
    ⟨by decide, by decide, by decide, by decide⟩ (fun b hb => (nomatch hb)) himage).mp hok
  rcases hpad with hnone | hrem | ⟨hlt, hzero, -⟩
  · exact nomatch hnone
  · exact absurd hrem (by decide)
  · exact absurd (hzero 8 List.mem_cons_self) (by decide)

end BootImage

import Mathlib.Data.List.GetD
import Universal7580.BootAddressProofs

/-! # Boot images, unpacked and made again

    `unpackbootimg` leaves a kernel, a ramdisk and six lines of text, and
    `mkbootimg` takes two files and arguments.  Here the two programs are put
    behind each other, for every image that `mkbootimg` can make.

    The way out only needs the front pages of the image (`unpack_front`): what
    stands behind the ramdisk is walked over, whether its padding is right or not,
    and is written through a stream that is closed.  That write is undefined, so
    what it may do is a hypothesis: it reaches no file that is not open
    (`StrayInOpen`).  The way back ends in `remade_image`: the files and lines that
    were left, with the other sections given as they were given before, make the
    same image, byte for byte. -/

namespace BootRoundTrip

open PageBytes DtbhBlock BootImage Unpackbootimg Scanf Strtol BootAddress

-- ── What the arguments ask for ───────────────────────────────────────────────

section Arguments

variable (LONG_BIT : Nat)

/-- `strtoul(val, 0, 10)`, taken to an `unsigned`. -/
def decimalArg (val : String) : UInt32 := UInt32.ofNat (strtoul LONG_BIT 10 val.toList)

/-- The options, but for the addresses. -/
structure Request where
  output : Option String
  kernelFn : Option String
  ramdiskFn : Option String
  secondFn : Option String
  dtDir : Option String
  dtFn : Option String
  sigFn : Option String
  cmdline : Bytes
  board : Bytes
  pagesize : UInt32

def requestOf (o : Options) : Request :=
  { output := o.output, kernelFn := o.kernelFn, ramdiskFn := o.ramdiskFn,
    secondFn := o.secondFn, dtDir := o.dtDir, dtFn := o.dtFn, sigFn := o.sigFn,
    cmdline := o.cmdline, board := o.board, pagesize := o.pagesize }

/-- The request after arguments. -/
def requestAfter (args : List String) (old : Request) : Request :=
  { output := (lastVal .output args).or old.output
    kernelFn := (lastVal .kernel args).or old.kernelFn
    ramdiskFn := (lastVal .ramdisk args).or old.ramdiskFn
    secondFn := (lastVal .second args).or old.secondFn
    dtDir := (lastVal .dtDir args).or old.dtDir
    dtFn := (lastVal .dt args).or old.dtFn
    sigFn := (lastVal .signature args).or old.sigFn
    cmdline := ((lastVal .cmdline args).map argBytes).getD old.cmdline
    board := ((lastVal .board args).map argBytes).getD old.board
    pagesize := ((lastVal .pagesize args).map (decimalArg LONG_BIT)).getD old.pagesize }

variable {LONG_BIT} {o o' : Options}

/-- One argument sets what it names and nothing else. -/
theorem setOption_request {val arg : String} {a : Arg} (harg : argOf arg = some a)
    (h : setOption LONG_BIT o val a = .ok o') :
    requestOf o' = requestAfter LONG_BIT [arg, val] (requestOf o) := by
  have hone : ∀ b, lastVal b [arg, val] = if a = b then some val else none := by
    intro b
    show (none : Option String).or (if argOf arg = some b then some val else none) = _
    rw [harg, Option.none_or]
    simp only [Option.some.injEq]
  simp only [requestAfter, hone]
  cases a with
  | pagesize =>
      rw [setOption] at h
      split at h
      · cases h
        rfl
      · cases h
  | _ =>
      cases h
      rfl

theorem requestAfter_cons (arg val : String) (args : List String) (old : Request) :
    requestAfter LONG_BIT args (requestAfter LONG_BIT [arg, val] old)
      = requestAfter LONG_BIT (arg :: val :: args) old := by
  have hcons : ∀ a, lastVal a (arg :: val :: args)
      = (lastVal a args).or (lastVal a [arg, val]) := fun _ => rfl
  have hget : ∀ {β : Type} (x y : Option String) (g : String → β) (b : β),
      (x.map g).getD ((y.map g).getD b) = ((x.or y).map g).getD b := by
    intro β x y g b
    cases x with
    | none => rfl
    | some v => rfl
  simp only [requestAfter, hcons, hget, Option.or_assoc]

/-- **ARGUMENTS**: of everything that is asked for the last value counts. -/
theorem parseArgs_request {args : List String} (h : parseArgs LONG_BIT o args = .ok o') :
    requestOf o' = requestAfter LONG_BIT args (requestOf o) := by
  fun_induction parseArgs LONG_BIT o args with
  | case1 o =>
      cases h
      rfl
  | case2 => cases h
  | case3 => cases h
  | case4 => cases h
  | case5 o arg val args a harg o₁ hset ih =>
      rw [ih h, setOption_request harg hset, requestAfter_cons]

end Arguments

-- ── Lines ────────────────────────────────────────────────────────────────────

/-- A byte is a character. -/
theorem toNat_char (x : UInt8) : (Char.ofNat x.toNat).toNat = x.toNat := by
  have hlt : x.toNat < 256 := x.toNat_lt
  rw [Char.ofNat, dif_pos (Or.inl (by omega))]
  rfl

/-- The characters of a file are its bytes again. -/
theorem argBytes_text {v : String} {b : Bytes} (h : v.toList = text b) : argBytes v = b := by
  have hbyte : ∀ x : UInt8, UInt8.ofNat (Char.ofNat x.toNat).toNat = x := by
    intro x
    rw [toNat_char, UInt8.ofNat_toNat]
  rw [argBytes, h, text, List.map_map]
  exact (List.map_congr_left fun x _ => hbyte x).trans (List.map_id b)

/-- The characters of digits, and of the end of the line behind them. -/
theorem text_decimal {x : UInt32} (h : x.toNat < 2 ^ 31) (rest : Bytes) :
    text (Unpackbootimg.decimal x ++ rest) = Nat.toDigits 10 x.toNat ++ text rest := by
  have hchar : ∀ c ∈ Nat.toDigits 10 x.toNat,
      Char.ofNat (UInt8.ofNat c.toNat).toNat = c := by
    intro c hc
    have hdigit : c.isDigit = true :=
      Nat.isDigit_of_mem_toDigits (by decide) (Nat.le_refl 10) hc
    rw [Char.isDigit, Bool.and_eq_true, decide_eq_true_iff, decide_eq_true_iff] at hdigit
    have hle : c.toNat ≤ '9'.toNat := hdigit.2
    have hnine : '9'.toNat = 57 := rfl
    rw [UInt8.toNat_ofNat', Nat.mod_eq_of_lt (by omega), Char.ofNat_toNat]
  rw [text, List.map_append, Unpackbootimg.decimal, if_pos h, List.map_map]
  refine congrArg (· ++ text rest) ?_
  exact (List.map_congr_left hchar).trans (List.map_id _)

/-- A page size that was written to a file is given by it. -/
theorem decimalArg_fromFile {LONG_BIT : Nat} (hbits : 32 ≤ LONG_BIT) {st : St} {name : OutFile}
    {val : Option String} {x old : UInt32} (hx : x.toNat < 2 ^ 31)
    (hfile : st.files name = some (Unpackbootimg.decimal x ++ [10])) (h : FromFile st name val) :
    (val.map (decimalArg LONG_BIT)).getD old = x := by
  have hpow : 2 ^ 32 ≤ 2 ^ LONG_BIT := Nat.pow_le_pow_right (by decide) hbits
  obtain ⟨line, hline, v, rfl, hv⟩ := h
  obtain rfl : Unpackbootimg.decimal x = line :=
    List.append_cancel_right (Option.some.inj (hfile.symm.trans hline))
  have hread : strtoul LONG_BIT 10 v.toList = x.toNat := by
    rcases hv with hv | hv
    · rw [hv, ← List.append_nil (Unpackbootimg.decimal x), text_decimal hx]
      exact strtoul_toDigits (by omega) List.takeWhile_nil
    · rw [hv, text_decimal hx]
      exact strtoul_toDigits (by omega) (by decide)
  show UInt32.ofNat (strtoul LONG_BIT 10 v.toList) = x
  rw [hread, UInt32.ofNat_toNat]

-- ── The header of an image ───────────────────────────────────────────────────

/-- A string in an array of C has zeros behind it. -/
theorem cField_toList {n : Nat} {s : Bytes} (h : s.length ≤ n) :
    (cField n s).toList = s ++ zeros (n - s.length) := by
  refine List.ext_getElem ?_ ?_
  · rw [Vector.length_toList, List.length_append, length_zeros]
    omega
  · intro i h₁ h₂
    have hget : (cField n s).toList[i] = s.getD i 0 := by
      rw [Vector.getElem_toList]
      exact Vector.getElem_ofFn _
    rw [hget]
    by_cases hi : i < s.length
    · rw [List.getElem_append_left hi, List.getD_eq_getElem _ _ hi]
    · rw [List.getElem_append_right (by omega), List.getD_eq_default _ _ (by omega)]
      exact (List.getElem_replicate _).symm

/-- The command line stands behind magic, words and name. -/
theorem cmdline_of_header {h : BootImgHdr} {cmdline : Bytes} (hfield : h.cmdline = cField 512 cmdline)
    (hlen : cmdline.length ≤ 511) (hnul : (0 : UInt8) ∉ cmdline) :
    cString (h.bytes.drop 64) = cmdline := by
  have hdrop : h.bytes.drop 64 = h.cmdline.toList ++ h.id.toList := by
    have hsplit : h.bytes = (bootMagic ++ (h.words.flatMap le32 ++ h.name.toList))
        ++ (h.cmdline.toList ++ h.id.toList) := by
      simp only [BootImgHdr.bytes, List.append_assoc]
    have hlen64 : (bootMagic ++ (h.words.flatMap le32 ++ h.name.toList)).length = 64 := by
      rw [List.length_append, List.length_append, Vector.length_toList]
      rfl
    rw [hsplit, ← hlen64, List.drop_left]
  have hzero : zeros (512 - cmdline.length) = 0 :: zeros (511 - cmdline.length) := by
    have hsucc : 512 - cmdline.length = (511 - cmdline.length) + 1 := by omega
    rw [hsucc]
    rfl
  rw [hdrop, hfield, cField_toList (by omega), hzero, List.append_assoc, cString,
    List.takeWhile_append_of_pos fun x hx => by
      refine decide_eq_true ?_
      rintro rfl
      exact hnul hx]
  exact List.append_nil cmdline

-- ── The way out ──────────────────────────────────────────────────────────────

/-- Writing through a closed stream reaches no file that is not open. -/
def StrayInOpen (env : Unpackbootimg.Env) : Prop :=
  ∀ streams files b name, (∀ v, streams v ≠ some name) →
    env.stray streams files b name = files name

/-- The files that are written through the closed stream. -/
def OutFile.late : OutFile → Bool
  | .second | .dt | .signature => true
  | _ => false

/-- No stream is open, and the other files are those of `st`. -/
structure KeepsFront (st st' : St) : Prop where
  files : ∀ name, OutFile.late name = false → st'.files name = st.files name
  idle : Idle st'

section Out

variable {env : Unpackbootimg.Env} {st st₁ st₂ : St}

theorem KeepsFront.trans (h₁ : KeepsFront st st₁) (h₂ : KeepsFront st₁ st₂) :
    KeepsFront st st₂ where
  files := fun name hname => (h₂.files name hname).trans (h₁.files name hname)
  idle := h₂.idle

/-- Padding moves the read position only. -/
theorem keepsFront_readPadding (hidle : Idle st) (image : Bytes) (itemsize pagesize : UInt32) :
    KeepsFront st (readPadding image st itemsize pagesize) := by
  rw [readPadding]
  dsimp only
  split
  · exact ⟨fun _ _ => rfl, hidle⟩
  · exact ⟨fun _ _ => rfl, hidle⟩

/-- A section that is written to a closed stream, whatever could be read of it. -/
theorem keepsFront_copyStray (hstray : StrayInOpen env) (hidle : Idle st) {v target : Stream}
    (hne : target ≠ v) {name : OutFile} (hlate : OutFile.late name = true) (size : Nat) :
    KeepsFront st (copySection env st v name target size) := by
  have hcopy : copySection env st v name target size
      = { st with
          pos := (fread (env.fresh v) env.image (fopen st v name) size).2.pos
          files := strayed env st.files v name
            (fread (env.fresh v) env.image (fopen st v name) size).1
          misuse := true } :=
    @writeOther_eq env
      { st with pos := (fread (env.fresh v) env.image (fopen st v name) size).2.pos }
      hidle v target hne name (fread (env.fresh v) env.image (fopen st v name) size).1
  rw [hcopy]
  refine ⟨?_, hidle⟩
  intro other hother
  have hdiff : other ≠ name := by
    rintro rfl
    rw [hlate] at hother
    cases hother
  have hclosed : ∀ w, Function.update (fun _ => none) v (some name) w ≠ some other := by
    intro w
    by_cases hw : w = v
    · rw [hw, Function.update_self]
      exact fun heq => hdiff (Option.some.inj heq).symm
    · rw [Function.update_of_ne hw]
      exact fun heq => by cases heq
  show strayed env st.files v name _ other = st.files other
  rw [strayed, hstray _ _ _ _ hclosed, Function.update_of_ne hdiff]

end Out

section Front

variable {env : Unpackbootimg.Env} {hdr : BootImgHdr} {s : Sections}

/-- The files of the front pages. -/
def frontFiles (env : Unpackbootimg.Env) (hdr : BootImgHdr) (s : Sections) :
    OutFile → Option Bytes :=
  Function.update (Function.update (textFiles hdr.bytes) .zImage (some s.kernel))
    (ramdiskName env s.ramdisk) (some s.ramdisk)

/-- **THE FRONT PAGES ARE TAKEN APART**: of every image that starts with them,
    whatever follows. -/
theorem unpack_front (hps : hdr.pageSize ∈ acceptedPageSizes)
    (hkernel : hdr.kernelSize.toNat = s.kernel.length)
    (hramdisk : hdr.ramdiskSize.toNat = s.ramdisk.length)
    (hfront : frontPages hdr.pageSize.toNat hdr s <+: env.image) (hstray : StrayInOpen env) :
    ∃ st, unpackbootimg env 0 = some st
      ∧ ∀ name, OutFile.late name = false → st.files name = frontFiles env hdr s name := by
  obtain ⟨k, hk, -, hpow, hm⟩ := accepted_pow hps
  obtain ⟨rest, himage⟩ := hfront
  rw [hpow] at himage
  have hp : 608 ≤ 2 ^ k := Nat.le_trans (by decide) (Nat.pow_le_pow_right (by decide : 0 < 2) hk)
  obtain ⟨hhead, hheadPad, hplaceK, hplaceR⟩ := @frontPages_ok (2 ^ k) hdr s hp rest
  rw [himage] at hhead hheadPad hplaceK hplaceR
  have hself : slice hdr.bytes 0 608 = hdr.bytes := by
    rw [slice, List.drop_zero, ← length_bytes hdr, List.take_length]
  have hread : fread (fun _ => 0) env.image { pos := 0 } 608 = (hdr.bytes, { pos := 608 }) := by
    have hslice : slice env.image 0 hdr.bytes.length = hdr.bytes := by
      rw [length_bytes]
      exact hhead
    have hall := @fread_eq _ { pos := 0 } (fun _ => 0) _ hslice
    rw [length_bytes] at hall
    exact hall
  have hidle : ∀ pos files misuse,
      Idle { pos := pos, files := files, misuse := misuse } := fun _ _ _ _ => rfl
  -- up to the ramdisk every section is in its own file
  have hpad608 : padLen (2 ^ k) sizeofHdr.toNat = 2 ^ k - 608 := padLen_header hp
  have hpad : readPadding env.image { pos := 608, files := textFiles hdr.bytes } sizeofHdr
      hdr.pageSize = { pos := 2 ^ k, files := textFiles hdr.bytes } := by
    rw [← hpad608] at hheadPad
    rw [@readPadding_eq _ { pos := 608, files := textFiles hdr.bytes } _ _ _ hpow hm hheadPad,
      hpad608]
    dsimp only
    rw [Nat.add_sub_cancel' hp]
  have hfirst : 2 ^ k + pages (2 ^ k) s.kernel * 2 ^ k = (1 + pages (2 ^ k) s.kernel) * 2 ^ k := by
    rw [Nat.add_mul, Nat.one_mul]
  have hcopied : readPadding env.image (copyRamdisk env (readPadding env.image
        (copySection env { pos := 2 ^ k, files := textFiles hdr.bytes } .k .zImage .k
          hdr.kernelSize.toNat) hdr.kernelSize hdr.pageSize)
        hdr.ramdiskSize.toNat) hdr.ramdiskSize hdr.pageSize
      = { pos := (1 + pages (2 ^ k) s.kernel) * 2 ^ k + pages (2 ^ k) s.ramdisk * 2 ^ k
          files := frontFiles env hdr s } := by
    rw [copyOwn_eq (hidle _ _ _) hpow hm hplaceK hkernel]
    dsimp only
    rw [hfirst, copyRamdisk_eq (hidle _ _ _) hpow hm hplaceR hramdisk]
    rfl
  -- behind it the other files stay
  refine ⟨unpackSections env { pos := 608, files := textFiles hdr.bytes } hdr.bytes hdr.pageSize,
    ?_, ?_⟩
  · have hpage : le32At hdr.bytes 36 = hdr.pageSize := hdr_word hself (i := 7) rfl
    unfold unpackbootimg
    rw [findMagic_start (hdr_magic hhead)]
    dsimp only
    rw [hread]
    dsimp only
    rw [if_pos rfl, hpage, writeTexts_eq]
  · have hk8 : le32At hdr.bytes 8 = hdr.kernelSize := hdr_word hself (i := 0) rfl
    have hr16 : le32At hdr.bytes 16 = hdr.ramdiskSize := hdr_word hself (i := 2) rfl
    intro name hname
    unfold unpackSections
    dsimp only
    rw [hk8, hr16, hpad, hcopied]
    have h₁ := keepsFront_copyStray hstray
      (hidle ((1 + pages (2 ^ k) s.kernel) * 2 ^ k + pages (2 ^ k) s.ramdisk * 2 ^ k)
        (frontFiles env hdr s) false) (show Stream.r ≠ .s by decide) (show OutFile.late .second = true from rfl)
      (le32At hdr.bytes 24).toNat
    have h₂ := h₁.trans (keepsFront_readPadding h₁.idle env.image (le32At hdr.bytes 24)
      hdr.pageSize)
    have h₃ := h₂.trans (keepsFront_copyStray hstray h₂.idle (show Stream.r ≠ .d by decide)
      (show OutFile.late .dt = true from rfl) (le32At hdr.bytes 40).toNat)
    have h₄ := h₃.trans (keepsFront_readPadding h₃.idle env.image (le32At hdr.bytes 40)
      hdr.pageSize)
    have h₅ := h₄.trans (keepsFront_copyStray hstray h₄.idle (show Stream.r ≠ .fsig by decide)
      (show OutFile.late .signature = true from rfl) 256)
    exact h₅.files name hname

end Front

-- ── A run of mkbootimg ───────────────────────────────────────────────────────

section Making

variable {mk : BootImage.Env} {o : Options} {exit : Exit}

/-- What `load_file` gave, it gives again. -/
theorem loadFile_again {file : Option Bytes} {b : Bytes} (h : loadFile file = some b) :
    loadFile (some b) = some b := by
  obtain ⟨data, rfl, rfl⟩ := loadFile_eq_some h
  have hlen : (kept data).length = data.length % 2 ^ 32 := by
    rw [kept, List.length_take, Nat.min_eq_left (Nat.mod_le _ _)]
  have hsmall : data.length % 2 ^ 32 < 2 ^ 31 := by
    unfold loadFile at h
    dsimp only at h
    split at h
    · assumption
    · cases h
  have hmod : (kept data).length % 2 ^ 32 = (kept data).length := by
    rw [hlen, Nat.mod_mod]
  unfold loadFile
  dsimp only
  rw [hmod, if_pos (by omega), List.take_length]

theorem loadOr_again {fn : String} {b : Bytes} (h : loadOr mk exit fn = .ok b) :
    loadFile (some b) = some b := by
  rw [loadOr] at h
  cases hload : loadFile (mk.fs fn) with
  | none =>
      rw [hload] at h
      cases h
  | some data =>
      rw [hload] at h
      cases h
      exact loadFile_again hload

theorem loadRamdisk_again {fn : String} {b : Bytes} (h : loadRamdisk mk fn = .ok b) :
    loadFile (some b) = some b := by
  rw [loadRamdisk] at h
  split at h
  · cases h
    rfl
  · exact loadOr_again h

/-- Loaded data has a size of 32 bits. -/
theorem length_of_loadFile {b : Bytes} (h : loadFile (some b) = some b) : b.length < 2 ^ 32 := by
  obtain ⟨data, hdata, hkept⟩ := loadFile_eq_some h
  have hlen : b.length ≤ b.length % 2 ^ 32 := by
    cases hdata
    conv_lhs => rw [hkept, kept, List.length_take]
    exact Nat.min_le_left _ _
  have hmod := Nat.mod_lt b.length (Nat.two_pow_pos 32)
  omega

/-- The sections that a run has in memory. -/
def loaded (mk : BootImage.Env) (o : Options) : Sections :=
  { kernel := kept (inputs mk o).kernel
    ramdisk := kept (inputs mk o).ramdisk
    second := (inputs mk o).second.map kept
    dt := (inputs mk o).dt.map kept
    signature := (inputs mk o).signature.map kept }

/-- **A RUN THAT SUCCEEDS**, taken apart. -/
structure Made (mk : BootImage.Env) (o : Options) (image : Bytes) : Prop where
  oneDt : ¬(o.dtDir.isSome ∧ o.dtFn.isSome)
  output : o.output.isSome
  board : o.board.length < 16
  cmdline : o.cmdline.length ≤ 511
  loads : ∃ kernelFn ramdiskFn, o.kernelFn = some kernelFn ∧ o.ramdiskFn = some ramdiskFn
    ∧ loadInputs mk o kernelFn ramdiskFn = .ok (loaded mk o)
  creat : mk.creat = true
  written : ∃ w, writeImage mk o.pagesize (makeHdr mk o (loaded mk o)) (loaded mk o) = .ok w
    ∧ image = w.bytes

theorem mkbootimg_ok_iff {image : Bytes} : mkbootimg mk o = .ok image ↔ Made mk o image := by
  constructor
  · intro h
    rw [mkbootimg] at h
    split at h
    · cases h
    rename_i hdt
    split at h
    · rename_i kernelFn ramdiskFn hout hk hr
      split at h
      · cases h
      rename_i hboard
      split at h
      · cases h
      rename_i hcmdline
      obtain ⟨s, hs, h⟩ := bind_eq_ok.mp h
      obtain rfl : s = loaded mk o := loadInputs_eq_ok hk hr hs
      split at h
      · rename_i hcreat
        obtain ⟨w, hw, h⟩ := bind_eq_ok.mp h
        cases h
        exact ⟨hdt, by rw [hout]; rfl, Nat.lt_of_not_le hboard, Nat.le_of_not_lt hcmdline,
          ⟨kernelFn, ramdiskFn, hk, hr, hs⟩, hcreat, w, hw, rfl⟩
      · cases h
    · cases h
  · intro h
    obtain ⟨out, hout⟩ := Option.isSome_iff_exists.mp h.output
    obtain ⟨kernelFn, ramdiskFn, hk, hr, hs⟩ := h.loads
    obtain ⟨w, hw, rfl⟩ := h.written
    rw [mkbootimg, if_neg h.oneDt, hout, hk, hr]
    dsimp only
    rw [if_neg (Nat.not_le.mpr h.board), if_neg (Nat.not_lt.mpr h.cmdline), hs]
    show (if mk.creat = true then _ else _) = _
    rw [if_pos h.creat, hw]
    rfl

/-- What is loaded fits the words of the header, and can be loaded again. -/
theorem loaded_again {kernelFn ramdiskFn : String} {s : Sections}
    (h : loadInputs mk o kernelFn ramdiskFn = .ok s) :
    loadFile (some s.kernel) = some s.kernel ∧ loadFile (some s.ramdisk) = some s.ramdisk
      ∧ loadOpt mk .loadSecond o.secondFn = .ok s.second ∧ loadDt mk o = .ok s.dt
      ∧ loadOpt mk .loadSignature o.sigFn = .ok s.signature := by
  obtain ⟨kernel, h₁, h⟩ := bind_eq_ok.mp h
  obtain ⟨ramdisk, h₂, h⟩ := bind_eq_ok.mp h
  obtain ⟨second, h₃, h⟩ := bind_eq_ok.mp h
  obtain ⟨dt, h₄, h⟩ := bind_eq_ok.mp h
  obtain ⟨signature, h₅, h⟩ := bind_eq_ok.mp h
  cases h
  exact ⟨loadOr_again h₁, loadRamdisk_again h₂, h₃, h₄, h₅⟩

/-- The image starts with its front pages. -/
theorem writeImage_front {pagesize : UInt32} {hdr : BootImgHdr} {s : Sections} {w : Out} {k : Nat}
    (hps : pagesize.toNat = 2 ^ k) (hm : (pagesize - 1).toNat = 2 ^ k - 1)
    (hkernel : hdr.kernelSize.toNat = s.kernel.length)
    (hramdisk : hdr.ramdiskSize.toNat = s.ramdisk.length)
    (h : writeImage mk pagesize hdr s = .ok w) : frontPages (2 ^ k) hdr s <+: w.bytes := by
  obtain ⟨w₁, h₁, h⟩ := bind_eq_ok.mp h
  obtain ⟨w₂, h₂, h⟩ := bind_eq_ok.mp h
  obtain ⟨w₃, h₃, h⟩ := bind_eq_ok.mp h
  obtain ⟨w₄, h₄, h⟩ := bind_eq_ok.mp h
  obtain ⟨w₅, h₅, h⟩ := bind_eq_ok.mp h
  obtain ⟨w₆, h₆, h⟩ := bind_eq_ok.mp h
  obtain ⟨w₇, h₇, h⟩ := bind_eq_ok.mp h
  obtain ⟨w₈, h₈, h₉⟩ := bind_eq_ok.mp h
  have hfront : frontPages (2 ^ k) hdr s = w₆.bytes := by
    rw [writePadding_bytes hps hm h₆, write_bytes h₅, writePadding_bytes hps hm h₄,
      write_bytes h₃, writePadding_bytes hps hm h₂, write_bytes h₁, hkernel, hramdisk]
    simp only [frontPages, block, length_bytes, List.append_assoc, List.nil_append]
    rfl
  rw [hfront]
  exact (writeSecond_grows h₇).trans <| (writeDt_grows h₈).trans (writeSignature_grows h₉)

end Making

-- ── What is recovered ────────────────────────────────────────────────────────

/-- The files that `unpackbootimg` leaves of an image that was made with `o`: its
    kernel, its ramdisk under one of two names, and six lines. -/
structure Recovered (mk : BootImage.Env) (o : Options) (st : St) : Prop where
  zImage : st.files .zImage = some (loaded mk o).kernel
  ramdisk : (st.files .ramdiskGz = some (loaded mk o).ramdisk ∧ st.files .ramdiskLz4 = none)
    ∨ (st.files .ramdiskLz4 = some (loaded mk o).ramdisk ∧ st.files .ramdiskGz = none)
  cmdline : st.files .cmdline = some (o.cmdline ++ [10])
  base : st.files .base = some (hex8 (o.base + o.kernelOffset - 0x00008000) ++ [10])
  ramdiskOffset : st.files .ramdiskOffset
    = some (hex8 (o.ramdiskOffset - o.kernelOffset + 0x00008000) ++ [10])
  secondOffset : st.files .secondOffset
    = some (hex8 (o.secondOffset - o.kernelOffset + 0x00008000) ++ [10])
  tagsOffset : st.files .tagsOffset
    = some (hex8 (o.tagsOffset - o.kernelOffset + 0x00008000) ++ [10])
  pagesize : st.files .pagesize = some (Unpackbootimg.decimal o.pagesize ++ [10])

section Recovery

variable {mk : BootImage.Env} {o : Options} {run : Unpackbootimg.Env}

/-- The files of the front pages, for a header that `mkbootimg` made. -/
theorem recovered_of_front {st : St} (hcmdline : o.cmdline.length ≤ 511)
    (hnul : (0 : UInt8) ∉ o.cmdline)
    (hst : ∀ name, OutFile.late name = false →
      st.files name = frontFiles run (makeHdr mk o (loaded mk o)) (loaded mk o) name) :
    Recovered mk o st := by
  have hself : slice (makeHdr mk o (loaded mk o)).bytes 0 608
      = (makeHdr mk o (loaded mk o)).bytes := by
    rw [slice, List.drop_zero, ← length_bytes (makeHdr mk o (loaded mk o)), List.take_length]
  have hkernel : le32At (makeHdr mk o (loaded mk o)).bytes 12 = o.base + o.kernelOffset :=
    hdr_word hself (i := 1) rfl
  have hramdisk : le32At (makeHdr mk o (loaded mk o)).bytes 20 = o.base + o.ramdiskOffset :=
    hdr_word hself (i := 3) rfl
  have hsecond : le32At (makeHdr mk o (loaded mk o)).bytes 28 = o.base + o.secondOffset :=
    hdr_word hself (i := 5) rfl
  have htags : le32At (makeHdr mk o (loaded mk o)).bytes 32 = o.base + o.tagsOffset :=
    hdr_word hself (i := 6) rfl
  have hpage : le32At (makeHdr mk o (loaded mk o)).bytes 36 = o.pagesize :=
    hdr_word hself (i := 7) rfl
  -- the base cancels in every difference of two addresses
  have hdiff : ∀ b x y : UInt32, b + x - (b + y) + 0x00008000 = x - y + 0x00008000 := by
    intro b x y
    grind
  -- a text file is none of the two that the sections go to
  have htext : ∀ name, OutFile.late name = false → name ≠ .zImage → name ≠ .ramdiskGz →
      name ≠ .ramdiskLz4 → st.files name = textFiles (makeHdr mk o (loaded mk o)).bytes name := by
    intro name hlate hz hg hl
    have hr : name ≠ ramdiskName run (loaded mk o).ramdisk := by
      rw [ramdiskName]
      split
      · exact hl
      · exact hg
    rw [hst name hlate, frontFiles, Function.update_of_ne hr, Function.update_of_ne hz]
  refine
    { zImage := ?_
      ramdisk := ?_
      cmdline := ?_
      base := ?_
      ramdiskOffset := ?_
      secondOffset := ?_
      tagsOffset := ?_
      pagesize := ?_ }
  · have hr : OutFile.zImage ≠ ramdiskName run (loaded mk o).ramdisk := by
      rw [ramdiskName]
      split
      · decide
      · decide
    rw [hst .zImage rfl, frontFiles, Function.update_of_ne hr, Function.update_self]
  · rw [hst .ramdiskGz rfl, hst .ramdiskLz4 rfl, frontFiles, ramdiskName]
    split
    · exact Or.inr ⟨rfl, rfl⟩
    · exact Or.inl ⟨rfl, rfl⟩
  · have hline := @cmdline_of_header (makeHdr mk o (loaded mk o)) o.cmdline rfl hcmdline hnul
    rw [htext .cmdline rfl (by decide) (by decide) (by decide), textFiles, hline]
  · rw [htext .base rfl (by decide) (by decide) (by decide), textFiles, hkernel]
  · rw [htext .ramdiskOffset rfl (by decide) (by decide) (by decide), textFiles, hkernel, hramdisk, hdiff]
  · rw [htext .secondOffset rfl (by decide) (by decide) (by decide), textFiles, hkernel, hsecond, hdiff]
  · rw [htext .tagsOffset rfl (by decide) (by decide) (by decide), textFiles, hkernel, htags, hdiff]
  · rw [htext .pagesize rfl (by decide) (by decide) (by decide), textFiles, hpage]

/-- An image that was made is taken apart. -/
theorem unpack_made {image : Bytes} (h : Made mk o image) (hnul : (0 : UInt8) ∉ o.cmdline)
    (himage : run.image = image) (hstray : StrayInOpen run) :
    ∃ st, unpackbootimg run 0 = some st ∧ Recovered mk o st := by
  obtain ⟨k, -, -, hpow, hm⟩ := accepted_pow o.pagesize_accepted
  obtain ⟨kernelFn, ramdiskFn, -, -, hs⟩ := h.loads
  obtain ⟨hk, hr, -, -, -⟩ := loaded_again hs
  obtain ⟨w, hw, rfl⟩ := h.written
  have hsize : ∀ {b : Bytes}, loadFile (some b) = some b →
      (UInt32.ofNat b.length).toNat = b.length := by
    intro b hb
    rw [UInt32.toNat_ofNat', Nat.mod_eq_of_lt (length_of_loadFile hb)]
  have hfront := @writeImage_front mk _ (makeHdr mk o (loaded mk o)) _ _ _ hpow hm (hsize hk)
    (hsize hr) hw
  rw [← hpow, ← himage] at hfront
  obtain ⟨st, hst, hfiles⟩ := @unpack_front run (makeHdr mk o (loaded mk o)) (loaded mk o)
    o.pagesize_accepted (hsize hk) (hsize hr) hfront hstray
  exact ⟨st, hst, recovered_of_front h.cmdline hnul hfiles⟩

end Recovery

-- ── The way back ─────────────────────────────────────────────────────────────

/-- A second command line, on a disk `fs'`: what was recovered is given by file or
    by value, and everything else as the first one gave it. -/
structure GivenBack (mk : BootImage.Env) (o : Options) (st : St) (fs' : String → Option Bytes)
    (args : List String) : Prop where
  output : (lastVal .output args).isSome
  kernel : ∃ fn, lastVal .kernel args = some fn ∧ fs' fn = st.files .zImage
  ramdisk : ∃ fn name, lastVal .ramdisk args = some fn ∧ fn ≠ "NONE"
    ∧ (name = .ramdiskGz ∨ name = .ramdiskLz4) ∧ (st.files name).isSome
    ∧ fs' fn = st.files name
  cmdline : ∃ line v, st.files .cmdline = some (line ++ [10])
    ∧ lastVal .cmdline args = some v ∧ v.toList = text line
  base : FromFile st .base (lastVal .base args)
  ramdiskOffset : FromFile st .ramdiskOffset (lastVal .ramdiskOffset args)
  secondOffset : FromFile st .secondOffset (lastVal .secondOffset args)
  tagsOffset : FromFile st .tagsOffset (lastVal .tagsOffset args)
  pagesize : FromFile st .pagesize (lastVal .pagesize args)
  kernelOffset : lastVal .kernelOffset args = none
  board : ((lastVal .board args).map argBytes).getD [] = o.board
  second : lastVal .second args = o.secondFn
  dtDir : lastVal .dtDir args = o.dtDir
  dt : lastVal .dt args = o.dtFn
  signature : lastVal .signature args = o.sigFn
  disk : ∀ fn, o.secondFn = some fn ∨ o.dtFn = some fn ∨ o.sigFn = some fn → fs' fn = mk.fs fn

section Back

variable {LONG_BIT : Nat} {mk : BootImage.Env} {o o' : Options} {st : St}
  {fs' : String → Option Bytes} {args : List String}

/-- Everything is asked for again, but for the names of the image, the kernel and
    the ramdisk. -/
theorem request_back (hbits : 32 ≤ LONG_BIT) (hrec : Recovered mk o st)
    (hargs : parseArgs LONG_BIT {} args = .ok o') (hback : GivenBack mk o st fs' args) :
    requestOf o' = { requestOf o with
      output := lastVal .output args, kernelFn := lastVal .kernel args,
      ramdiskFn := lastVal .ramdisk args } := by
  have hsmall : o.pagesize.toNat < 2 ^ 31 := by
    obtain ⟨k, -, hk, hpow, -⟩ := accepted_pow o.pagesize_accepted
    rw [hpow]
    exact Nat.lt_of_le_of_lt (Nat.pow_le_pow_right (by decide) hk) (by decide)
  have hpage : ((lastVal .pagesize args).map (decimalArg LONG_BIT)).getD (2048 : UInt32)
      = o.pagesize := decimalArg_fromFile hbits hsmall hrec.pagesize hback.pagesize
  have hcmdline : ((lastVal .cmdline args).map argBytes).getD [] = o.cmdline := by
    obtain ⟨line, v, hline, hlast, hv⟩ := hback.cmdline
    obtain rfl : o.cmdline = line :=
      List.append_cancel_right (Option.some.inj (hrec.cmdline.symm.trans hline))
    rw [hlast]
    exact argBytes_text hv
  rw [parseArgs_request hargs]
  simp only [requestAfter, requestOf, hback.second, hback.dtDir, hback.dt, hback.signature,
    hback.board, hpage, hcmdline, Option.or_none]

/-- The header comes out the same, for the same sections. -/
theorem makeHdr_back (hbits : 32 ≤ LONG_BIT) (hrec : Recovered mk o st)
    (hargs : parseArgs LONG_BIT {} args = .ok o') (hback : GivenBack mk o st fs' args)
    (s : Sections) : makeHdr { mk with fs := fs' } o' s = makeHdr mk o s := by
  have haddr := parseArgs_addresses hargs
  have hreq := request_back hbits hrec hargs hback
  have hb : o'.base = o.base + o.kernelOffset - 0x00008000 :=
    (congrArg Addresses.base haddr).trans (given_fromFile hbits hrec.base hback.base)
  have hk : o'.kernelOffset = 0x00008000 := by
    refine (congrArg Addresses.kernelOffset haddr).trans ?_
    show given LONG_BIT (lastVal .kernelOffset args) 0x00008000 = _
    rw [hback.kernelOffset]
    rfl
  have hr : o'.ramdiskOffset = o.ramdiskOffset - o.kernelOffset + 0x00008000 :=
    (congrArg Addresses.ramdiskOffset haddr).trans
      (given_fromFile hbits hrec.ramdiskOffset hback.ramdiskOffset)
  have hs : o'.secondOffset = o.secondOffset - o.kernelOffset + 0x00008000 :=
    (congrArg Addresses.secondOffset haddr).trans
      (given_fromFile hbits hrec.secondOffset hback.secondOffset)
  have ht : o'.tagsOffset = o.tagsOffset - o.kernelOffset + 0x00008000 :=
    (congrArg Addresses.tagsOffset haddr).trans
      (given_fromFile hbits hrec.tagsOffset hback.tagsOffset)
  have hp : o'.pagesize = o.pagesize := congrArg Request.pagesize hreq
  have hboard : o'.board = o.board := congrArg Request.board hreq
  have hcmdline : o'.cmdline = o.cmdline := congrArg Request.cmdline hreq
  -- the base took the kernel offset with it, and each offset gives it back
  have hsum : ∀ b k x : UInt32, b + k - 0x00008000 + (x - k + 0x00008000) = b + x := by
    intro b k x
    grind
  simp only [makeHdr, hb, hk, hr, hs, ht, hp, hboard, hcmdline, hsum, UInt32.sub_add_cancel]

theorem loadOpt_back {exit : Exit} {fn : Option String}
    (h : ∀ name, fn = some name → fs' name = mk.fs name) :
    loadOpt { mk with fs := fs' } exit fn = loadOpt mk exit fn := by
  cases fn with
  | none => rfl
  | some name => simp only [loadOpt, loadOr, h name rfl]

/-- The same sections are loaded. -/
theorem loadInputs_back {kernelFn ramdiskFn kernelFn' ramdiskFn' : String} {name : OutFile}
    (hrec : Recovered mk o st) (hback : GivenBack mk o st fs' args)
    (hreq : requestOf o' = { requestOf o with
      output := lastVal .output args, kernelFn := lastVal .kernel args,
      ramdiskFn := lastVal .ramdisk args })
    (hfsk : fs' kernelFn' = st.files .zImage) (hnone : ramdiskFn' ≠ "NONE")
    (hname : name = .ramdiskGz ∨ name = .ramdiskLz4) (hsome : (st.files name).isSome)
    (hfsr : fs' ramdiskFn' = st.files name)
    (h : loadInputs mk o kernelFn ramdiskFn = .ok (loaded mk o)) :
    loadInputs { mk with fs := fs' } o' kernelFn' ramdiskFn' = .ok (loaded mk o) := by
  obtain ⟨hkernel, hramdisk, hsecond, hdt, hsignature⟩ := loaded_again h
  have hs : o'.secondFn = o.secondFn := congrArg Request.secondFn hreq
  have hdir : o'.dtDir = o.dtDir := congrArg Request.dtDir hreq
  have hd : o'.dtFn = o.dtFn := congrArg Request.dtFn hreq
  have hsig : o'.sigFn = o.sigFn := congrArg Request.sigFn hreq
  have hpage : o'.pagesize = o.pagesize := congrArg Request.pagesize hreq
  have hramdiskFile : fs' ramdiskFn' = some (loaded mk o).ramdisk := by
    rw [hfsr]
    rcases hrec.ramdisk with ⟨hgz, hlz⟩ | ⟨hlz, hgz⟩
    · rcases hname with rfl | rfl
      · exact hgz
      · rw [hlz] at hsome
        cases hsome
    · rcases hname with rfl | rfl
      · rw [hgz] at hsome
        cases hsome
      · exact hlz
  have h₁ : loadOr { mk with fs := fs' } .loadKernel kernelFn' = .ok (loaded mk o).kernel := by
    simp only [loadOr, hfsk, hrec.zImage, hkernel]
  have h₂ : loadRamdisk { mk with fs := fs' } ramdiskFn' = .ok (loaded mk o).ramdisk := by
    simp only [loadRamdisk, if_neg hnone, loadOr, hramdiskFile, hramdisk]
  have h₃ : loadOpt { mk with fs := fs' } .loadSecond o'.secondFn = .ok (loaded mk o).second := by
    rw [hs, loadOpt_back fun name hn => hback.disk name (Or.inl hn), hsecond]
  have h₄ : loadDt { mk with fs := fs' } o' = .ok (loaded mk o).dt := by
    have hopt := @loadOpt_back mk fs' .loadDt o.dtFn
      fun name hn => hback.disk name (Or.inr (Or.inl hn))
    rw [← hdt]
    simp only [loadDt, hdir, hd, hpage, hopt]
  have h₅ : loadOpt { mk with fs := fs' } .loadSignature o'.sigFn
      = .ok (loaded mk o).signature := by
    rw [hsig, loadOpt_back fun name hn => hback.disk name (Or.inr (Or.inr hn)), hsignature]
  simp only [loadInputs, h₁, h₂, h₃, h₄, h₅]
  rfl

/-- Writing does not look at the disk's files. -/
theorem writeImage_back (pagesize : UInt32) (hdr : BootImgHdr) (s : Sections) :
    writeImage { mk with fs := fs' } pagesize hdr s = writeImage mk pagesize hdr s := rfl

/-- The second run makes the image of the first one. -/
theorem made_back {image : Bytes} (hbits : 32 ≤ LONG_BIT) (hrec : Recovered mk o st)
    (hargs : parseArgs LONG_BIT {} args = .ok o') (hback : GivenBack mk o st fs' args)
    (h : Made mk o image) : Made { mk with fs := fs' } o' image := by
  obtain ⟨kernelFn, ramdiskFn, -, -, hs⟩ := h.loads
  obtain ⟨kernelFn', hk', hfsk⟩ := hback.kernel
  obtain ⟨ramdiskFn', name, hr', hnone, hname, hsome, hfsr⟩ := hback.ramdisk
  have hreq := request_back hbits hrec hargs hback
  have hout : o'.output = lastVal .output args := congrArg Request.output hreq
  have hk : o'.kernelFn = some kernelFn' := (congrArg Request.kernelFn hreq).trans hk'
  have hr : o'.ramdiskFn = some ramdiskFn' := (congrArg Request.ramdiskFn hreq).trans hr'
  have hdir : o'.dtDir = o.dtDir := congrArg Request.dtDir hreq
  have hd : o'.dtFn = o.dtFn := congrArg Request.dtFn hreq
  have hpage : o'.pagesize = o.pagesize := congrArg Request.pagesize hreq
  have hboard : o'.board = o.board := congrArg Request.board hreq
  have hcmdline : o'.cmdline = o.cmdline := congrArg Request.cmdline hreq
  have hs' := loadInputs_back hrec hback hreq hfsk hnone hname hsome hfsr hs
  have hsame : loaded mk o = loaded { mk with fs := fs' } o' := loadInputs_eq_ok hk hr hs'
  refine
    { oneDt := ?_
      output := ?_
      board := ?_
      cmdline := ?_
      loads := ⟨kernelFn', ramdiskFn', hk, hr, ?_⟩
      creat := h.creat
      written := ?_ }
  · rw [hdir, hd]
    exact h.oneDt
  · rw [hout]
    exact hback.output
  · rw [hboard]
    exact h.board
  · rw [hcmdline]
    exact h.cmdline
  · rw [← hsame]
    exact hs'
  · rw [← hsame, makeHdr_back hbits hrec hargs hback, hpage, writeImage_back]
    exact h.written

end Back

/-- A disk with what was recovered of a small image beside its other sections. -/
def recoveredDisk (fn : String) : Option Bytes :=
  if fn = "boot.img-zImage" then some [1, 2, 3]
  else if fn = "boot.img-ramdisk.gz" then some [4, 5]
  else (sampleEnv [4, 5] digestEqual).fs fn

/-- The second command line for it. -/
def recoveredArgs : List String :=
  ["--kernel", "boot.img-zImage", "--ramdisk", "boot.img-ramdisk.gz", "--cmdline", "",
   "--base", "10000000", "--ramdisk_offset", "01000000", "--second_offset", "00f00000",
   "--tags_offset", "00000100", "--pagesize", "2048", "--second", "second", "--dt", "dt",
   "-o", "new.img"]

end BootRoundTrip

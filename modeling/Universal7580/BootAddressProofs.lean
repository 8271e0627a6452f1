import Universal7580.StrtolProofs
import Universal7580.UnpackbootimgProofs

/-! # The load addresses of a boot image, out and back

    `unpackbootimg` writes the four load addresses of an image as a base and
    three offsets, each as eight hexadecimal digits.  `mkbootimg` reads such
    digits with `strtoul` and adds offsets to the base.

    All sums and differences are of 32 bits, so nothing is lost when one of them
    wraps.  `parseArgs_addresses` says which of the arguments counts, and
    `addresses_round_trip` puts the two programs together. -/

namespace BootAddress

open PageBytes DtbhBlock BootImage Unpackbootimg Scanf Strtol

-- ── The arguments of mkbootimg ───────────────────────────────────────────────

/-- How `main` of `mkbootimg.c` gives up its arguments. -/
inductive ArgExit where
  | usage
  | pagesize
  deriving DecidableEq

/-- The arguments that `main` compares with. -/
inductive Arg where
  | output
  | kernel
  | ramdisk
  | second
  | cmdline
  | base
  | kernelOffset
  | ramdiskOffset
  | secondOffset
  | tagsOffset
  | board
  | pagesize
  | dtDir
  | dt
  | signature
  | osVersion
  | osPatchLevel
  deriving DecidableEq, Repr

def argOf (arg : String) : Option Arg :=
  if arg = "--output" ∨ arg = "-o" then some .output
  else if arg = "--kernel" then some .kernel
  else if arg = "--ramdisk" then some .ramdisk
  else if arg = "--second" then some .second
  else if arg = "--cmdline" then some .cmdline
  else if arg = "--base" then some .base
  else if arg = "--kernel_offset" then some .kernelOffset
  else if arg = "--ramdisk_offset" then some .ramdiskOffset
  else if arg = "--second_offset" then some .secondOffset
  else if arg = "--tags_offset" then some .tagsOffset
  else if arg = "--board" then some .board
  else if arg = "--pagesize" then some .pagesize
  else if arg = "--dt_dir" then some .dtDir
  else if arg = "--dt" then some .dt
  else if arg = "--signature" then some .signature
  else if arg = "--os_version" then some .osVersion
  else if arg = "--os_patch_level" then some .osPatchLevel
  else none

/-- The bytes of an argument. -/
def argBytes (val : String) : Bytes := val.toList.map fun c => UInt8.ofNat c.toNat

section Arguments

variable (LONG_BIT : Nat)

/-- `strtoul(val, 0, 16)`, taken to an `unsigned`. -/
def hexArg (val : String) : UInt32 := UInt32.ofNat (strtoul LONG_BIT 16 val.toList)

/-- What `main` does with the value of an argument. -/
def setOption (o : Options) (val : String) : Arg → Except ArgExit Options
  | .output => .ok { o with output := some val }
  | .kernel => .ok { o with kernelFn := some val }
  | .ramdisk => .ok { o with ramdiskFn := some val }
  | .second => .ok { o with secondFn := some val }
  | .cmdline => .ok { o with cmdline := argBytes val }
  | .base => .ok { o with base := hexArg LONG_BIT val }
  | .kernelOffset => .ok { o with kernelOffset := hexArg LONG_BIT val }
  | .ramdiskOffset => .ok { o with ramdiskOffset := hexArg LONG_BIT val }
  | .secondOffset => .ok { o with secondOffset := hexArg LONG_BIT val }
  | .tagsOffset => .ok { o with tagsOffset := hexArg LONG_BIT val }
  | .board => .ok { o with board := argBytes val }
  | .pagesize =>
      let pagesize := UInt32.ofNat (strtoul LONG_BIT 10 val.toList)
      if h : pagesize ∈ acceptedPageSizes then
        .ok { o with pagesize := pagesize, pagesize_accepted := h }
      else .error .pagesize
  | .dtDir => .ok { o with dtDir := some val }
  | .dt => .ok { o with dtFn := some val }
  | .signature => .ok { o with sigFn := some val }
  | .osVersion => .ok o
  | .osPatchLevel => .ok o

/-- The loop over the arguments. -/
def parseArgs : Options → List String → Except ArgExit Options
  | o, [] => .ok o
  | _, [_] => .error .usage
  | o, arg :: val :: args =>
      match argOf arg with
      | none => .error .usage
      | some a =>
          match setOption LONG_BIT o val a with
          | .error e => .error e
          | .ok o => parseArgs o args

/-- The last value that is given for an argument. -/
def lastVal (a : Arg) : List String → Option String
  | arg :: val :: args => (lastVal a args).or (if argOf arg = some a then some val else none)
  | _ => none

/-- The base and the four offsets. -/
structure Addresses where
  base : UInt32
  kernelOffset : UInt32
  ramdiskOffset : UInt32
  secondOffset : UInt32
  tagsOffset : UInt32

def addressesOf (o : Options) : Addresses :=
  { base := o.base, kernelOffset := o.kernelOffset, ramdiskOffset := o.ramdiskOffset,
    secondOffset := o.secondOffset, tagsOffset := o.tagsOffset }

/-- An address that may have been given. -/
def given (val : Option String) (default_ : UInt32) : UInt32 :=
  (val.map (hexArg LONG_BIT)).getD default_

/-- The addresses after arguments. -/
def after (args : List String) (old : Addresses) : Addresses :=
  { base := given LONG_BIT (lastVal .base args) old.base
    kernelOffset := given LONG_BIT (lastVal .kernelOffset args) old.kernelOffset
    ramdiskOffset := given LONG_BIT (lastVal .ramdiskOffset args) old.ramdiskOffset
    secondOffset := given LONG_BIT (lastVal .secondOffset args) old.secondOffset
    tagsOffset := given LONG_BIT (lastVal .tagsOffset args) old.tagsOffset }

variable {LONG_BIT} {o o' : Options}

/-- One argument sets the address it names and no other. -/
theorem setOption_addresses {val arg : String} {a : Arg} (harg : argOf arg = some a)
    (h : setOption LONG_BIT o val a = .ok o') :
    addressesOf o' = after LONG_BIT [arg, val] (addressesOf o) := by
  have hone : ∀ b, lastVal b [arg, val] = if a = b then some val else none := by
    intro b
    show (none : Option String).or (if argOf arg = some b then some val else none) = _
    rw [harg, Option.none_or]
    simp only [Option.some.injEq]
  simp only [after, hone]
  cases a with
  | pagesize =>
      rw [setOption] at h
      split at h
      · cases h
        rfl
      · cases h
  | _ =>
      cases h
      rfl

theorem given_or (val later : Option String) (old : UInt32) :
    given LONG_BIT later (given LONG_BIT val old) = given LONG_BIT (later.or val) old := by
  cases later with
  | none => rfl
  | some v => rfl

theorem after_cons (arg val : String) (args : List String) (old : Addresses) :
    after LONG_BIT args (after LONG_BIT [arg, val] old)
      = after LONG_BIT (arg :: val :: args) old := by
  have hcons : ∀ a, lastVal a (arg :: val :: args)
      = (lastVal a args).or (lastVal a [arg, val]) := fun _ => rfl
  simp only [after, given_or, hcons]

/-- **ARGUMENTS**: of each address the last value counts. -/
theorem parseArgs_addresses {args : List String} (h : parseArgs LONG_BIT o args = .ok o') :
    addressesOf o' = after LONG_BIT args (addressesOf o) := by
  fun_induction parseArgs LONG_BIT o args with
  | case1 o =>
      cases h
      rfl
  | case2 => cases h
  | case3 => cases h
  | case4 => cases h
  | case5 o arg val args a harg o₁ hset ih =>
      rw [ih h, setOption_addresses harg hset, after_cons]

end Arguments

-- ── Eight digits ─────────────────────────────────────────────────────────────

/-- The characters of a file. -/
def text (b : Bytes) : List Char := b.map fun x => Char.ofNat x.toNat

theorem hexVal_hexDigit {d : Nat} (h : d < 16) :
    hexVal (Char.ofNat (hexDigit d).toNat) = some d := by
  have hall : ∀ d < 16, hexVal (Char.ofNat (hexDigit d).toNat) = some d := by decide
  exact hall d h

theorem isHex_hex8 (x : UInt32) : ∀ c ∈ text (hex8 x), isHex c = true := by
  intro c hc
  obtain ⟨b, hb, rfl⟩ := List.mem_map.mp hc
  obtain ⟨i, -, rfl⟩ := List.mem_map.mp hb
  rw [isHex, hexVal_hexDigit (Nat.mod_lt _ (by decide))]
  rfl

theorem hexNat_hex8 (x : UInt32) : hexNat (text (hex8 x)) = x.toNat := by
  have hlt : x.toNat < 2 ^ 32 := x.toNat_lt
  have hdigit : ∀ i, (hexVal (Char.ofNat (hexDigit (x.toNat / 16 ^ i % 16)).toNat)).getD 0
      = x.toNat / 16 ^ i % 16 := by
    intro i
    rw [hexVal_hexDigit (Nat.mod_lt _ (by decide))]
    rfl
  simp only [hexNat, text, hex8, List.map_cons, List.map_nil, List.foldl_cons, List.foldl_nil,
    hdigit]
  omega

/-- **EIGHT DIGITS** are the word they were made from, whatever stands behind them,
    as long as it is no digit and no `x`. -/
theorem strtoul_hex8 {LONG_BIT : Nat} (hbits : 32 ≤ LONG_BIT) (x : UInt32) {rest : List Char}
    (hrest : Ends rest) : strtoul LONG_BIT 16 (text (hex8 x) ++ rest) = x.toNat := by
  have hpow : 2 ^ 32 ≤ 2 ^ LONG_BIT := Nat.pow_le_pow_right (by decide) hbits
  have hlt : x.toNat < 2 ^ 32 := x.toNat_lt
  have hne : text (hex8 x) ≠ [] := List.cons_ne_nil _ _
  have hfits : hexNat (text (hex8 x)) < 2 ^ LONG_BIT := by
    rw [hexNat_hex8]
    omega
  rw [strtoul_hex hne (isHex_hex8 x) hrest hfits, hexNat_hex8]

-- ── Out and back ─────────────────────────────────────────────────────────────

/-- The value is the text of a file, with or without the end of its line. -/
def FromFile (st : St) (name : OutFile) (val : Option String) : Prop :=
  ∃ line, st.files name = some (line ++ [10])
    ∧ ∃ v, val = some v ∧ (v.toList = text line ∨ v.toList = text (line ++ [10]))

/-- A number that was written to a file is given by it. -/
theorem given_fromFile {LONG_BIT : Nat} (hbits : 32 ≤ LONG_BIT) {st : St} {name : OutFile}
    {val : Option String} {x old : UInt32} (hfile : st.files name = some (hex8 x ++ [10]))
    (h : FromFile st name val) : given LONG_BIT val old = x := by
  obtain ⟨line, hline, v, rfl, hv⟩ := h
  obtain rfl : hex8 x = line :=
    List.append_cancel_right (Option.some.inj (hfile.symm.trans hline))
  have hread : strtoul LONG_BIT 16 v.toList = x.toNat := by
    rcases hv with hv | hv
    · rw [hv, ← List.append_nil (text _)]
      exact strtoul_hex8 hbits x fun c hc => nomatch hc
    · rw [hv, text, List.map_append]
      refine strtoul_hex8 hbits x fun c hc => ?_
      obtain rfl := Option.some.inj hc
      decide
  show UInt32.ofNat (strtoul LONG_BIT 16 v.toList) = x
  rw [hread, UInt32.ofNat_toNat]

section Image

variable {env : BootImage.Env} {pagesize : UInt32} {hdr : BootImgHdr} {s : Sections} {w w' : Out}

theorem write_grows {b : Bytes} (h : BootImage.write env w b = .ok w') : w.bytes <+: w'.bytes := by
  rw [write_bytes h]
  exact List.prefix_append _ _

theorem writePadding_grows {itemsize : UInt32} (h : writePadding env w pagesize itemsize = .ok w') :
    w.bytes <+: w'.bytes := by
  rw [writePadding] at h
  split at h
  · cases h
    exact List.prefix_refl _
  · exact write_grows h

theorem writeSecond_grows {second : Option Bytes}
    (h : writeSecond env w pagesize hdr second = .ok w') : w.bytes <+: w'.bytes := by
  cases second with
  | none =>
      cases h
      exact List.prefix_refl _
  | some b =>
      obtain ⟨w₁, h₁, h₂⟩ := bind_eq_ok.mp h
      exact (write_grows h₁).trans (writePadding_grows h₂)

theorem writeDt_grows {dt : Option Bytes} (h : writeDt env w pagesize hdr dt = .ok w') :
    w.bytes <+: w'.bytes := by
  cases dt with
  | none =>
      cases h
      exact List.prefix_refl _
  | some b =>
      obtain ⟨w₁, h₁, h₂⟩ := bind_eq_ok.mp h
      exact (write_grows h₁).trans (writePadding_grows h₂)

theorem writeSignature_grows {sig : Option Bytes} (h : writeSignature env w sig = .ok w') :
    w.bytes <+: w'.bytes := by
  cases sig with
  | none =>
      cases h
      exact List.prefix_refl _
  | some b =>
      rw [writeSignature] at h
      split at h
      · cases h
      · exact write_grows h

/-- The image begins with its header. -/
theorem writeImage_head (h : writeImage env pagesize hdr s = .ok w) : hdr.bytes <+: w.bytes := by
  obtain ⟨w₁, h₁, h⟩ := bind_eq_ok.mp h
  obtain ⟨w₂, h₂, h⟩ := bind_eq_ok.mp h
  obtain ⟨w₃, h₃, h⟩ := bind_eq_ok.mp h
  obtain ⟨w₄, h₄, h⟩ := bind_eq_ok.mp h
  obtain ⟨w₅, h₅, h⟩ := bind_eq_ok.mp h
  obtain ⟨w₆, h₆, h⟩ := bind_eq_ok.mp h
  obtain ⟨w₇, h₇, h⟩ := bind_eq_ok.mp h
  obtain ⟨w₈, h₈, h₉⟩ := bind_eq_ok.mp h
  have hstart : hdr.bytes = w₁.bytes := (write_bytes h₁).symm
  rw [hstart]
  exact (writePadding_grows h₂).trans <| (write_grows h₃).trans <| (writePadding_grows h₄).trans <|
    (write_grows h₅).trans <| (writePadding_grows h₆).trans <| (writeSecond_grows h₇).trans <|
    (writeDt_grows h₈).trans (writeSignature_grows h₉)

/-- The four addresses in an image that was made. -/
theorem mkbootimg_addresses {o : Options} {image : Bytes} (h : mkbootimg env o = .ok image) :
    le32At image 12 = o.base + o.kernelOffset ∧ le32At image 20 = o.base + o.ramdiskOffset
      ∧ le32At image 28 = o.base + o.secondOffset ∧ le32At image 32 = o.base + o.tagsOffset := by
  obtain ⟨s, w, -, hw, rfl⟩ := mkbootimg_eq_ok h
  obtain ⟨rest, hrest⟩ := writeImage_head hw
  have hhead : slice w.bytes 0 608 = (makeHdr env o s).bytes := by
    rw [← hrest, slice, List.drop_zero, ← length_bytes (makeHdr env o s), List.take_left]
  exact ⟨hdr_word hhead (i := 1) rfl, hdr_word hhead (i := 3) rfl, hdr_word hhead (i := 5) rfl,
    hdr_word hhead (i := 6) rfl⟩

end Image

/-- **OUT AND BACK**: an image that is made with the base and the offsets of another
    one, and the kernel offset that both programs know, has its four addresses. -/
theorem addresses_round_trip {LONG_BIT : Nat} (hbits : 32 ≤ LONG_BIT) (env : Unpackbootimg.Env)
    (pos : Nat) (header : Bytes) {args : List String} {o : Options}
    (hargs : parseArgs LONG_BIT {} args = .ok o)
    (hkernel : lastVal .kernelOffset args = none)
    (hbase : FromFile (writeTexts env { pos := pos } header) .base (lastVal .base args))
    (hramdisk : FromFile (writeTexts env { pos := pos } header) .ramdiskOffset
      (lastVal .ramdiskOffset args))
    (hsecond : FromFile (writeTexts env { pos := pos } header) .secondOffset
      (lastVal .secondOffset args))
    (htags : FromFile (writeTexts env { pos := pos } header) .tagsOffset
      (lastVal .tagsOffset args)) (mk : BootImage.Env) :
    (∀ s, (makeHdr mk o s).kernelAddr = le32At header 12
        ∧ (makeHdr mk o s).ramdiskAddr = le32At header 20
        ∧ (makeHdr mk o s).secondAddr = le32At header 28
        ∧ (makeHdr mk o s).tagsAddr = le32At header 32)
      ∧ ∀ image, mkbootimg mk o = .ok image →
        le32At image 12 = le32At header 12 ∧ le32At image 20 = le32At header 20
          ∧ le32At image 28 = le32At header 28 ∧ le32At image 32 = le32At header 32 := by
  rw [writeTexts_eq] at hbase hramdisk hsecond htags
  have hall := parseArgs_addresses hargs
  have hb : o.base = le32At header 12 - 0x00008000 :=
    (congrArg Addresses.base hall).trans (given_fromFile hbits rfl hbase)
  have hk : o.kernelOffset = 0x00008000 := by
    refine (congrArg Addresses.kernelOffset hall).trans ?_
    show given LONG_BIT (lastVal .kernelOffset args) 0x00008000 = _
    rw [hkernel]
    rfl
  have hr : o.ramdiskOffset = le32At header 20 - le32At header 12 + 0x00008000 :=
    (congrArg Addresses.ramdiskOffset hall).trans (given_fromFile hbits rfl hramdisk)
  have hs : o.secondOffset = le32At header 28 - le32At header 12 + 0x00008000 :=
    (congrArg Addresses.secondOffset hall).trans (given_fromFile hbits rfl hsecond)
  have ht : o.tagsOffset = le32At header 32 - le32At header 12 + 0x00008000 :=
    (congrArg Addresses.tagsOffset hall).trans (given_fromFile hbits rfl htags)
  -- what was taken from the base is in each offset
  have hback : ∀ x y c : UInt32, x - c + (y - x + c) = y := by
    intro x y c
    grind
  have haddr : o.base + o.kernelOffset = le32At header 12
      ∧ o.base + o.ramdiskOffset = le32At header 20
      ∧ o.base + o.secondOffset = le32At header 28
      ∧ o.base + o.tagsOffset = le32At header 32 := by
    rw [hb, hk, hr, hs, ht]
    exact ⟨UInt32.sub_add_cancel _ _, hback _ _ _, hback _ _ _, hback _ _ _⟩
  refine ⟨fun _ => haddr, fun image himage => ?_⟩
  obtain ⟨hi1, hi2, hi3, hi4⟩ := mkbootimg_addresses himage
  rw [hi1, hi2, hi3, hi4]
  exact haddr

/-- A kernel below the kernel offset, and a ramdisk below the kernel. -/
def lowHdr : BootImgHdr :=
  { sampleHdr with
    kernelAddr := 0x00000100, ramdiskAddr := 0x00000080, secondAddr := 0xffffffff,
    tagsAddr := 0x00000000 }

def lowArgs : List String :=
  ["--kernel", "zImage", "--ramdisk", "ramdisk.gz", "--base", "ffff8100",
   "--ramdisk_offset", "00007f80", "--second_offset", "00007eff", "--tags_offset", "00007f00",
   "-o", "boot.img"]

theorem addresses_round_trip_low :
    ∃ o, parseArgs 64 {} lowArgs = .ok o
      ∧ ∀ s, (makeHdr (sampleEnv [] digestEqual) o s).kernelAddr = 0x00000100 := by
  refine ⟨_, rfl, fun s => ?_⟩
  have hhead : slice lowHdr.bytes 0 608 = lowHdr.bytes := by
    rw [slice, List.drop_zero, ← length_bytes lowHdr, List.take_length]
  have h := addresses_round_trip (o := _) (by decide : 32 ≤ 64) sampleRun 0 lowHdr.bytes
    (rfl : parseArgs 64 {} lowArgs = .ok _) rfl
    ⟨"ffff8100".toList.map fun c => UInt8.ofNat c.toNat, by decide +kernel, _, rfl, by decide⟩
    ⟨"00007f80".toList.map fun c => UInt8.ofNat c.toNat, by decide +kernel, _, rfl, by decide⟩
    ⟨"00007eff".toList.map fun c => UInt8.ofNat c.toNat, by decide +kernel, _, rfl, by decide⟩
    ⟨"00007f00".toList.map fun c => UInt8.ofNat c.toNat, by decide +kernel, _, rfl, by decide⟩
    (sampleEnv [] digestEqual)
  rw [(h.1 s).1]
  exact hdr_word hhead (i := 1) rfl

end BootAddress

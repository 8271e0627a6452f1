import Universal7580.LightsProofs
import Universal7580.StrtolProofs

/-! # The brightness of the panel

    `open_lights` reads the largest brightness from a node, and `set_light_backlight`
    scales the brightness of a color to it and writes it to another.  Three numbers
    have to fit into what was made for them: the text of the first node into nine
    characters, the product into an `int`, and the text that is written into a
    buffer of eleven.

    `read_int` looks for an end pointer that `strtol` has left at `NULL`, which it
    never does, so a text without a number is a zero to it (`readInt_noNumber`).
    `panel_ok_iff` says when all is as it should be. -/

namespace PanelBrightness

open Scanf Strtol
open Lights (NodeWrite Errno COLOR_MASK)

-- ── The nodes ────────────────────────────────────────────────────────────────

/-- What `open` and `read` make of a node. -/
inductive NodeRead where
  | openFails (errno : Errno)
  | readFails (errno : Errno)
  | content (text : List Char)

def INT_MAX_STRLEN : Nat := 10

/-- The digits that `strtol` converts. -/
def numberOf (s : List Char) : List Char :=
  (takeSign (s.dropWhile isSpace)).2.takeWhile Char.isDigit

/-- Where `strtol` leaves `*endptr`: behind the digits, or at the start if there are
    none. -/
def strtolEnd (s : List Char) : Option Nat :=
  if numberOf s = [] then some 0
  else
    let signed := (takeSign (s.dropWhile isSpace)).2
    some (s.length - signed.length + (numberOf s).length)

/-- `read_int`. -/
def readInt (LONG_BIT : Nat) : NodeRead → Int32
  | .openFails errno => Int32.ofInt (-errno.val)
  | .readFails errno => Int32.ofInt (-errno.val)
  | .content text =>
      let buffer := text.take (INT_MAX_STRLEN - 1)
      let ret := Int32.ofInt (strtol LONG_BIT buffer)
      if ret = 0 ∧ strtolEnd buffer = none then -1 else ret

/-- The text and its terminator are inside `buffer[INT_MAX_STRLEN+1]`. -/
def SprintfInside (value : Int32) : Prop :=
  (decimal value.toInt).length + 1 ≤ INT_MAX_STRLEN + 1

instance (value : Int32) : Decidable (SprintfInside value) :=
  inferInstanceAs (Decidable (_ ≤ _))

/-- `write_int`: the text on the node, and what is returned; `none` if `sprintf`
    leaves its buffer. -/
def writeInt (write : NodeWrite) (value : Int32) : Option (Option (List Char) × Int) :=
  match write with
  | .openFails errno => some (none, -errno.val)
  | .writeFails errno => if SprintfInside value then some (none, -errno.val) else none
  | .written => if SprintfInside value then some (some (decimal value.toInt), 0) else none

-- ── The backlight ────────────────────────────────────────────────────────────

/-- `struct backlight_config`. -/
structure Backlight where
  curBrightness : Int32 := 0
  maxBrightness : Int32 := 0
  deriving DecidableEq, Repr

/-- What `open_lights` does for the backlight. -/
def openLights (LONG_BIT : Nat) (b : Backlight) (node : NodeRead) : Backlight :=
  let maxBrightness := readInt LONG_BIT node
  { b with maxBrightness := if maxBrightness < 0 then 255 else maxBrightness }

def red (color : UInt32) : Nat := (((color &&& COLOR_MASK) >>> 16) &&& 0xff).toNat
def green (color : UInt32) : Nat := (((color &&& COLOR_MASK) >>> 8) &&& 0xff).toNat
def blue (color : UInt32) : Nat := ((color &&& COLOR_MASK) &&& 0xff).toNat

def rgbToBrightness (color : UInt32) : Nat :=
  (77 * red color + 150 * green color + 29 * blue color) >>> 8

def MAX_INPUT_BRIGHTNESS : Int32 := 255

/-- The brightness that is written; `none` if the product is not an `int`. -/
def scaled (maxBrightness : Int32) (color : UInt32) : Option Int32 :=
  let brightness : Int := rgbToBrightness color
  if maxBrightness ≠ MAX_INPUT_BRIGHTNESS then
    let product := brightness * maxBrightness.toInt
    if -2 ^ 31 ≤ product ∧ product < 2 ^ 31 then some (Int32.ofInt (product.tdiv 255)) else none
  else some (Int32.ofInt brightness)

/-- `set_light_backlight`, with the text on the node. -/
def setLightBacklight (b : Backlight) (color : UInt32) (write : NodeWrite) :
    Option (Backlight × Option (List Char) × Int) :=
  match scaled b.maxBrightness color with
  | none => none
  | some brightness =>
      match writeInt write brightness with
      | none => none
      | some (text, err) =>
          some (if err = 0 then { b with curBrightness := brightness } else b, text, err)

-- ── What is promised ─────────────────────────────────────────────────────────

/-- The color is shown with this brightness. -/
def Writes (b : Backlight) (color : UInt32) (v : Int32) : Prop :=
  setLightBacklight b color .written
    = some ({ b with curBrightness := v }, some (decimal v.toInt), 0)

/-- **SCALING** to `m`. -/
structure Scales (b : Backlight) (m : Int32) : Prop where
  range : ∀ color, ∃ v, Writes b color v ∧ 0 ≤ v.toInt ∧ v.toInt ≤ m.toInt
  monotone : ∀ color color' v v', red color ≤ red color' → green color ≤ green color' →
    blue color ≤ blue color' → Writes b color v → Writes b color' v' → v.toInt ≤ v'.toInt
  black : ∀ color, color &&& COLOR_MASK = 0 → Writes b color 0
  white : ∀ color, color &&& COLOR_MASK = COLOR_MASK → Writes b color m

/-- The text of a number, with a newline or without. -/
def IsText (text : List Char) (m : Int32) : Prop :=
  text = decimal m.toInt ∨ text = decimal m.toInt ++ ['\n']

/-- **ALL IS WELL** for the text of the node and for a value to be written. -/
structure PanelOk (LONG_BIT : Nat) (text : List Char) (value : Int32) : Prop where
  scales : ∀ b m, 1 ≤ m.toInt → IsText text m →
    Scales (openLights LONG_BIT b (.content text)) m
  fallback : numberOf text = [] →
    ∀ b, (openLights LONG_BIT b (.content text)).maxBrightness = 255
  inside : SprintfInside value

-- ── The text that is written ─────────────────────────────────────────────────

theorem sprintfInside_iff (value : Int32) : SprintfInside value ↔ -10 ^ 9 < value.toInt := by
  have hlt := value.toInt_lt
  rw [SprintfInside, decimal, INT_MAX_STRLEN]
  by_cases hneg : value.toInt < 0
  · rw [if_pos hneg, List.length_cons]
    have hdigits := @Nat.length_toDigits_le_iff 10 value.toInt.natAbs 9 (by decide) (by decide)
    omega
  · rw [if_neg hneg]
    have hdigits := @Nat.length_toDigits_le_iff 10 value.toInt.natAbs 10 (by decide) (by decide)
    omega

-- ── The text that is read ────────────────────────────────────────────────────

/-- `strtol` does not leave `NULL`. -/
theorem strtolEnd_ne_none (s : List Char) : strtolEnd s ≠ none := by
  rw [strtolEnd]
  split
  · exact Option.some_ne_none _
  · exact Option.some_ne_none _

theorem readInt_content (LONG_BIT : Nat) (text : List Char) :
    readInt LONG_BIT (.content text) = Int32.ofInt (strtol LONG_BIT (text.take 9)) :=
  if_neg fun h => strtolEnd_ne_none _ h.2

theorem takeWhile_take {α : Type} {p : α → Bool} {s : List α} (n : Nat)
    (h : s.takeWhile p = []) : (s.take n).takeWhile p = [] := by
  cases s with
  | nil => rw [List.take_nil, List.takeWhile_nil]
  | cons c rest =>
      by_cases hc : p c = true
      · rw [List.takeWhile_cons_of_pos hc] at h
        cases h
      · cases n with
        | zero => rfl
        | succ n => exact List.takeWhile_cons_of_neg hc

/-- Cutting a text that starts with no number does not make one. -/
theorem numberOf_take :
    ∀ {s : List Char} (n : Nat), numberOf s = [] → numberOf (s.take n) = [] := by
  intro s
  induction s with
  | nil =>
      intro n h
      rw [List.take_nil]
      exact h
  | cons c rest ih =>
      intro n h
      cases n with
      | zero => rfl
      | succ n =>
          rw [List.take_succ_cons]
          by_cases hspace : isSpace c = true
          · rw [numberOf, List.dropWhile_cons_of_pos hspace] at h ⊢
            exact ih n h
          · rw [numberOf, List.dropWhile_cons_of_neg hspace, takeSign] at h ⊢
            by_cases hsign : isSign c = true
            · rw [if_pos hsign] at h ⊢
              exact takeWhile_take n h
            · rw [if_neg hsign] at h ⊢
              exact takeWhile_take (n + 1) h

/-- **NO NUMBER** is read as zero. -/
theorem readInt_noNumber {LONG_BIT : Nat} {text : List Char} (h : numberOf text = []) :
    readInt LONG_BIT (.content text) = 0 := by
  have hnone : (takeSign ((text.take 9).dropWhile isSpace)).2.takeWhile Char.isDigit = [] :=
    numberOf_take 9 h
  rw [readInt_content, strtol, hnone]
  have hpow : (0 : Int) < 2 ^ (LONG_BIT - 1) := Int.pow_pos (by decide)
  have hzero : max (-2 ^ (LONG_BIT - 1) : Int)
      (min (if (takeSign ((text.take 9).dropWhile isSpace)).1 = true then -((0 : Nat) : Int)
        else ((0 : Nat) : Int)) (2 ^ (LONG_BIT - 1) - 1)) = 0 := by
    split <;> omega
  rw [Nat.ofDigitChars_nil, hzero]
  rfl

/-- **A NUMBER** is read as it is if it has up to nine digits, and loses its last one
    if it has ten. -/
theorem readInt_text {LONG_BIT : Nat} (hbits : 32 ≤ LONG_BIT) {text : List Char} {m : Int32}
    (hm : 1 ≤ m.toInt) (htext : IsText text m) :
    (readInt LONG_BIT (.content text)).toInt
      = if m.toInt < 10 ^ 9 then m.toInt else m.toInt / 10 := by
  have hlt := m.toInt_lt
  have hpow : 2 ^ 31 ≤ 2 ^ (LONG_BIT - 1) :=
    Nat.pow_le_pow_right (by decide) (Nat.le_sub_one_of_lt hbits)
  obtain ⟨n, hn⟩ : ∃ n : Nat, m.toInt = n := ⟨m.toInt.toNat, by omega⟩
  have hdecimal : decimal m.toInt = Nat.toDigits 10 n := by
    rw [decimal, if_neg (by omega), hn, Int.natAbs_natCast]
  obtain ⟨nl, hnl, rfl⟩ : ∃ nl, (nl = [] ∨ nl = ['\n']) ∧ text = Nat.toDigits 10 n ++ nl := by
    rcases htext with rfl | rfl
    · exact ⟨[], Or.inl rfl, by rw [hdecimal, List.append_nil]⟩
    · exact ⟨['\n'], Or.inr rfl, by rw [hdecimal]⟩
  have hbehind : ∀ k, (nl.take k).takeWhile Char.isDigit = [] := by
    intro k
    rcases hnl with rfl | rfl
    · rw [List.take_nil, List.takeWhile_nil]
    · cases k with
      | zero => rfl
      | succ k => rw [List.take_succ_cons, List.take_nil]; rfl
  rw [readInt_content, hn]
  by_cases hsmall : n < 10 ^ 9
  · have hlen : (Nat.toDigits 10 n).length ≤ 9 :=
      (Nat.length_toDigits_le_iff (by decide) (by decide)).mpr hsmall
    rw [List.take_append, List.take_of_length_le hlen, strtol_toDigits (by omega) (hbehind _),
      Int32.toInt_ofInt_of_le (by omega) (by omega), if_pos (by exact_mod_cast hsmall)]
  · -- ten digits, of which nine are read
    have hdigits : Nat.toDigits 10 n = Nat.toDigits 10 (n / 10) ++ [(n % 10).digitChar] := by
      rw [Nat.toDigits_eq_if (by decide), if_neg (by omega)]
    have hupper := @Nat.length_toDigits_le_iff 10 (n / 10) 9 (by decide) (by decide)
    have hlower := @Nat.length_toDigits_le_iff 10 (n / 10) 8 (by decide) (by decide)
    have hlen : (Nat.toDigits 10 (n / 10)).length = 9 := by omega
    rw [hdigits, List.append_assoc, List.take_left' hlen,
      ← List.append_nil (Nat.toDigits 10 (n / 10)), strtol_toDigits (by omega) List.takeWhile_nil,
      Int32.toInt_ofInt_of_le (by omega) (by omega), if_neg (by omega)]
    rfl

-- ── Brightness ───────────────────────────────────────────────────────────────

theorem rgbToBrightness_eq (color : UInt32) :
    rgbToBrightness color = (77 * red color + 150 * green color + 29 * blue color) / 256 :=
  Nat.shiftRight_eq_div_pow _ 8

theorem byte_le (x : UInt32) : (x &&& 0xff).toNat ≤ 255 := by
  rw [UInt32.toNat_and]
  exact Nat.and_le_right

theorem rgbToBrightness_le (color : UInt32) : rgbToBrightness color ≤ 255 := by
  have hred : red color ≤ 255 := byte_le _
  have hgreen : green color ≤ 255 := byte_le _
  have hblue : blue color ≤ 255 := byte_le _
  rw [rgbToBrightness_eq]
  omega

theorem rgbToBrightness_mono {color color' : UInt32} (hred : red color ≤ red color')
    (hgreen : green color ≤ green color') (hblue : blue color ≤ blue color') :
    rgbToBrightness color ≤ rgbToBrightness color' := by
  rw [rgbToBrightness_eq, rgbToBrightness_eq]
  omega

theorem rgbToBrightness_black {color : UInt32} (h : color &&& COLOR_MASK = 0) :
    rgbToBrightness color = 0 := by
  rw [rgbToBrightness, red, green, blue, h]
  rfl

theorem rgbToBrightness_white {color : UInt32} (h : color &&& COLOR_MASK = COLOR_MASK) :
    rgbToBrightness color = 255 := by
  rw [rgbToBrightness, red, green, blue, h]
  rfl

-- ── Scaling ──────────────────────────────────────────────────────────────────

/-- Where the product cannot overflow. -/
theorem scaled_eq {max : Int32} (hpos : 1 ≤ max.toInt) (hfits : 255 * max.toInt < 2 ^ 31)
    (color : UInt32) :
    ∃ v, scaled max color = some v ∧ v.toInt = rgbToBrightness color * max.toInt / 255 := by
  have hle := rgbToBrightness_le color
  obtain ⟨n, hn⟩ : ∃ n : Nat, max.toInt = n := ⟨max.toInt.toNat, by omega⟩
  have hprod : rgbToBrightness color * n ≤ 255 * n := Nat.mul_le_mul_right n hle
  rw [scaled]
  by_cases hdefault : max = MAX_INPUT_BRIGHTNESS
  · refine ⟨_, if_neg (not_not_intro hdefault), ?_⟩
    have hmax : max.toInt = 255 := by
      rw [hdefault]
      rfl
    rw [hmax, Int32.toInt_ofInt_of_le (by omega) (by omega)]
    omega
  · rw [if_pos hdefault]
    have hnat : (rgbToBrightness color : Int) * max.toInt
        = ((rgbToBrightness color * n : Nat) : Int) := by
      rw [hn, Int.natCast_mul]
    rw [hnat]
    refine ⟨_, if_pos ⟨by omega, by omega⟩, ?_⟩
    rw [Int.tdiv_eq_ediv_of_nonneg (by omega), Int32.toInt_ofInt_of_le (by omega) (by omega)]

/-- And where it does. -/
theorem scaled_white {max : Int32} (hover : 2 ^ 31 ≤ 255 * max.toInt) :
    scaled max 0xffffff = none := by
  have hwhite : rgbToBrightness 0xffffff = 255 := rgbToBrightness_white (by decide)
  rw [scaled, hwhite, if_pos]
  · exact if_neg fun h => by omega
  · rintro rfl
    exact absurd hover (by decide)

theorem writes_iff {b : Backlight} {color : UInt32} {v : Int32} :
    Writes b color v ↔ scaled b.maxBrightness color = some v ∧ SprintfInside v := by
  rw [Writes, setLightBacklight]
  cases hscaled : scaled b.maxBrightness color with
  | none => exact iff_of_false (by simp) (by simp)
  | some w =>
      dsimp only
      rw [writeInt]
      by_cases hin : SprintfInside w
      · rw [if_pos hin]
        dsimp only
        rw [if_pos rfl, Option.some_inj, Option.some_inj, Prod.mk.injEq, Backlight.mk.injEq]
        constructor
        · rintro ⟨⟨rfl, -⟩, -⟩
          exact ⟨rfl, hin⟩
        · rintro ⟨rfl, -⟩
          exact ⟨⟨rfl, rfl⟩, rfl⟩
      · rw [if_neg hin]
        refine iff_of_false (by simp) ?_
        rintro ⟨heq, hin'⟩
        rw [← Option.some.inj heq] at hin'
        exact hin hin'

theorem Writes.unique {b : Backlight} {color : UInt32} {v w : Int32} (hv : Writes b color v)
    (hw : Writes b color w) : v = w :=
  Option.some.inj ((writes_iff.mp hv).1.symm.trans (writes_iff.mp hw).1)

/-- Brighter is more. -/
theorem mul_le_mul_max {m : Int32} (hpos : 1 ≤ m.toInt) {x y : Nat} (h : x ≤ y) :
    (x : Int) * m.toInt ≤ y * m.toInt :=
  Int.mul_le_mul_of_nonneg_right (Int.ofNat_le.mpr h) (by omega)

/-- Every color has its value. -/
theorem writes_scaled {b : Backlight} (hpos : 1 ≤ b.maxBrightness.toInt)
    (hfits : 255 * b.maxBrightness.toInt < 2 ^ 31) (color : UInt32) :
    ∃ v, Writes b color v ∧ v.toInt = rgbToBrightness color * b.maxBrightness.toInt / 255
      ∧ 0 ≤ v.toInt ∧ v.toInt ≤ b.maxBrightness.toInt := by
  obtain ⟨v, hscaled, hv⟩ := scaled_eq hpos hfits color
  have hlow := mul_le_mul_max hpos (Nat.zero_le (rgbToBrightness color))
  have hhigh := mul_le_mul_max hpos (rgbToBrightness_le color)
  have hin : SprintfInside v := (sprintfInside_iff v).mpr (by omega)
  exact ⟨v, writes_iff.mpr ⟨hscaled, hin⟩, hv, by omega, by omega⟩

/-- **SCALING** is right where it cannot overflow. -/
theorem scales_of {b : Backlight} (hpos : 1 ≤ b.maxBrightness.toInt)
    (hfits : 255 * b.maxBrightness.toInt < 2 ^ 31) : Scales b b.maxBrightness := by
  have hall := writes_scaled hpos hfits
  constructor
  · intro color
    obtain ⟨v, hw, -, hlow, hhigh⟩ := hall color
    exact ⟨v, hw, hlow, hhigh⟩
  · intro color color' v v' hred hgreen hblue hw hw'
    obtain ⟨w, hcolor, hv, -⟩ := hall color
    obtain ⟨w', hcolor', hv', -⟩ := hall color'
    have hmono := rgbToBrightness_mono hred hgreen hblue
    rw [hw.unique hcolor, hv, hw'.unique hcolor', hv']
    exact Int.ediv_le_ediv (by decide) (mul_le_mul_max hpos hmono)
  · intro color hblack
    obtain ⟨v, hw, hv, -⟩ := hall color
    rw [rgbToBrightness_black hblack] at hv
    have hzero : v = 0 := Int32.toInt_inj.mp (by rw [hv]; simp)
    rw [hzero] at hw
    exact hw
  · intro color hwhite
    obtain ⟨v, hw, hv, -⟩ := hall color
    rw [rgbToBrightness_white hwhite] at hv
    have hmax : v = b.maxBrightness := Int32.toInt_inj.mp (by omega)
    rw [hmax] at hw
    exact hw

/-- White is too much. -/
theorem not_scales {b : Backlight} (hover : 2 ^ 31 ≤ 255 * b.maxBrightness.toInt) (m : Int32) :
    ¬Scales b m := by
  intro h
  have hwhite := (writes_iff.mp (h.white 0xffffff (by decide))).1
  rw [scaled_white hover] at hwhite
  cases hwhite

-- ── From the text to the panel ───────────────────────────────────────────────

theorem openLights_of_nonneg {LONG_BIT : Nat} {node : NodeRead} (b : Backlight)
    (h : 0 ≤ (readInt LONG_BIT node).toInt) :
    (openLights LONG_BIT b node).maxBrightness = readInt LONG_BIT node := by
  refine if_neg fun hneg => ?_
  have hlt := Int32.lt_iff_toInt_lt.mp hneg
  rw [Int32.toInt_zero] at hlt
  omega

/-- The largest brightness is the one on the node, unless it is too large. -/
theorem scales_text_iff {LONG_BIT : Nat} (hbits : 32 ≤ LONG_BIT) {text : List Char} {m : Int32}
    (hm : 1 ≤ m.toInt) (htext : IsText text m) (b : Backlight) :
    Scales (openLights LONG_BIT b (.content text)) m ↔ 255 * m.toInt < 2 ^ 31 := by
  have hread := readInt_text hbits hm htext
  have hnonneg : 0 ≤ (readInt LONG_BIT (.content text)).toInt := by
    rw [hread]
    split <;> omega
  have hmax := openLights_of_nonneg b hnonneg
  constructor
  · intro hscales
    by_contra hover
    refine not_scales ?_ m hscales
    rw [hmax, hread]
    split <;> omega
  · intro hfits
    rw [if_pos (by omega)] at hread
    have hm' := hmax.trans (Int32.toInt_inj.mp hread)
    have hscales := @scales_of (openLights LONG_BIT b (.content text))
    rw [hm'] at hscales
    exact hscales hm hfits

/-- A node without a number leaves the panel dark. -/
theorem openLights_noNumber {LONG_BIT : Nat} {text : List Char} (h : numberOf text = [])
    (b : Backlight) : (openLights LONG_BIT b (.content text)).maxBrightness = 0 := by
  have hread := @readInt_noNumber LONG_BIT text h
  rw [openLights_of_nonneg b (by rw [hread]; decide), hread]

/-- **THE PANEL** is all right as long as the text is a number, the number is small
    enough to be multiplied, and no value needs ten digits and a minus. -/
theorem panel_ok_iff {LONG_BIT : Nat} (hbits : 32 ≤ LONG_BIT) (text : List Char) (value : Int32) :
    PanelOk LONG_BIT text value ↔
      (∀ m : Int32, 1 ≤ m.toInt → IsText text m → 255 * m.toInt < 2 ^ 31) ∧
        numberOf text ≠ [] ∧ -10 ^ 9 < value.toInt := by
  constructor
  · intro h
    refine ⟨?_, ?_, (sprintfInside_iff value).mp h.inside⟩
    · intro m hm htext
      exact (scales_text_iff hbits hm htext {}).mp (h.scales {} m hm htext)
    · intro hnone
      have hmax := h.fallback hnone {}
      rw [openLights_noNumber hnone] at hmax
      exact absurd hmax (by decide)
  · rintro ⟨hfits, hnumber, hvalue⟩
    constructor
    · intro b m hm htext
      exact (scales_text_iff hbits hm htext b).mpr (hfits m hm htext)
    · exact fun hnone => absurd hnone hnumber
    · exact (sprintfInside_iff value).mpr hvalue

/-- The usual node, and a brightness. -/
theorem panel_ok_usual : PanelOk 64 ['2', '5', '5', '\n'] 128 := by
  refine (panel_ok_iff (by decide) _ _).mpr ⟨?_, by decide, by decide⟩
  intro m hm htext
  have hread := @readInt_text 64 (by decide) _ _ hm htext
  have husual : (readInt 64 (.content ['2', '5', '5', '\n'])).toInt = 255 := by decide
  rw [husual] at hread
  split at hread <;> omega

/-- An empty node, a node with seven digits, and a value with ten and a minus. -/
theorem panel_not_ok : ¬PanelOk 64 [] 0 ∧ ¬PanelOk 64 ['8', '4', '2', '1', '5', '0', '5'] 0 ∧
    ¬PanelOk 64 ['2', '5', '5', '\n'] (-1000000000) := by
  refine ⟨?_, ?_, ?_⟩
  · intro h
    exact absurd (h.fallback rfl {}) (by decide)
  · intro h
    have hscales := h.scales {} 8421505 (by decide) (Or.inl (by decide))
    exact absurd ((scales_text_iff (by decide) (by decide) (Or.inl (by decide)) {}).mp hscales)
      (by decide)
  · intro h
    exact absurd h.inside (by decide)

end PanelBrightness

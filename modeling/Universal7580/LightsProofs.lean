import Mathlib.Algebra.Group.Int.Defs
import Mathlib.Data.Fintype.Basic
import Mathlib.Logic.Function.Basic
import Universal7580.RunProofs

/-! # The notification LED of `lights.c`

    Battery, notifications and attention have a record each in `g_leds`, and
    there is one LED.  `g_cur_led` is the record that it shows, the highest one
    that is lit.  `set_light_leds` changes a record, and then writes the node if
    the LED has to show something else.

    The record is changed before the text for the node is made and written,
    and `g_cur_led` after that, whatever came of it.  As long as every call
    returns 0 the LED shows what it should (`leds_multiplexed`).  A call that
    fails undoes nothing: `leds_atomic_iff` says when that cannot be seen. -/

namespace Lights

open Run

-- ── The records ──────────────────────────────────────────────────────────────

/-- `struct led_config`. -/
structure LedConfig where
  color : UInt32
  delayOn : Int32
  delayOff : Int32
  deriving DecidableEq, Repr

/-- The fields of `struct light_state_t` that are read. -/
structure LightState where
  color : UInt32
  flashMode : Int32
  flashOnMS : Int32
  flashOffMS : Int32
  deriving DecidableEq, Repr

/-- `errno` after a call that failed. -/
abbrev Errno := { e : Nat // 0 < e }

/-- What comes of `open` and `write` on the node.  A node takes the text of one
    `write` as a whole. -/
inductive NodeWrite where
  | openFails (errno : Errno)
  | writeFails (errno : Errno)
  | written
  deriving DecidableEq

/-- `g_leds` and `g_cur_led`, and the last text that was written to
    `LED_BLINK_NODE`. -/
structure Leds where
  leds : Fin 3 → LedConfig := fun _ => ⟨0, 0, 0⟩
  curLed : Int := -1
  node : Option (List Char) := none

def einval : Int := 22

def COLOR_MASK : UInt32 := 0x00ffffff

/-- `LED_BRIGHTNESS_BATTERY`, `LED_BRIGHTNESS_NOTIFICATION` and
    `LED_BRIGHTNESS_ATTENTION`. -/
def ledBrightness (_type : Fin 3) : Nat := 255

-- ── The node ─────────────────────────────────────────────────────────────────

/-- `%08x`. -/
def hex08 (n : UInt32) : List Char := (Nat.toDigits 16 n.toNat).leftpad 8 '0'

/-- `%d`. -/
def decimal (n : Int32) : List Char :=
  if n.toInt < 0 then '-' :: Nat.toDigits 10 n.toInt.natAbs else Nat.toDigits 10 n.toInt.natAbs

/-- `"0x%08x %d %d"`. -/
def blinkFormat (led : LedConfig) : List Char :=
  ['0', 'x'] ++ hex08 led.color ++ [' '] ++ decimal led.delayOn ++ [' '] ++ decimal led.delayOff

/-- `sizeof(blink)`. -/
def sizeofBlink : Nat := 32

/-- `write_str` to the node. -/
def writeStr (s : Leds) (write : NodeWrite) (value : List Char) : Leds × Int :=
  match write with
  | .openFails errno => (s, -errno.val)
  | .writeFails errno => (s, -errno.val)
  | .written => ({ s with node := some value }, 0)

def ledOff : LedConfig := ⟨0, 0, 0⟩

/-- `write_leds`; `none` is `NULL`. -/
def writeLeds (s : Leds) (write : NodeWrite) (led : Option LedConfig) : Leds × Int :=
  let led := led.getD ledOff
  let blink := blinkFormat led
  if blink.length ≥ sizeofBlink - 1 then (s, -einval)
  else writeStr s write (blink ++ ['\n'])

-- ── `set_light_leds` ─────────────────────────────────────────────────────────

/-- `calibrate_color`.  The `LED_ADJUSTMENT` factors are 1.0. -/
def calibrateColor (color : UInt32) (brightness : Nat) : UInt32 :=
  let red := ((color >>> 16) &&& 0xff).toNat
  let green := ((color >>> 8) &&& 0xff).toNat
  let blue := (color &&& 0xff).toNat
  UInt32.ofNat
    ((red * brightness / 255) <<< 16 + (green * brightness / 255) <<< 8 + blue * brightness / 255)

/-- `LIGHT_FLASH_NONE`, `LIGHT_FLASH_TIMED` and `LIGHT_FLASH_HARDWARE`. -/
def flashNone : Int32 := 0
def flashTimed : Int32 := 1
def flashHardware : Int32 := 2

/-- The delays of the record; `none` for any other flash mode. -/
def flashDelays (state : LightState) : Option (Int32 × Int32) :=
  if state.flashMode = flashNone then some (0, 0)
  else if state.flashMode = flashTimed ∨ state.flashMode = flashHardware then
    some (state.flashOnMS, state.flashOffMS)
  else none

/-- The record that a call stores. -/
def newLed (state : LightState) (type : Fin 3) : Option LedConfig :=
  (flashDelays state).map fun delays =>
    ⟨calibrateColor (state.color &&& COLOR_MASK) (ledBrightness type), delays.1, delays.2⟩

/-- The loop from `type-1` down to 0 for a record that is lit. -/
def litBelow (leds : Fin 3 → LedConfig) : (i : Nat) → i ≤ 3 → Option (Fin 3)
  | 0, _ => none
  | i + 1, h =>
      if (leds ⟨i, h⟩).color > 0 then some ⟨i, h⟩ else litBelow leds i (Nat.le_of_succ_le h)

/-- What the LED shows, and the value of `g_cur_led` for it, once the record of
    `type` is `led`; `none` when it goes on showing what it shows. -/
def toShow (leds : Fin 3 → LedConfig) (curLed : Int) (type : Fin 3) :
    Option (Option LedConfig × Int) :=
  if (leds type).color > 0 then
    if (type : Int) ≥ curLed then some (some (leds type), type) else none
  else if (type : Int) = curLed then
    match litBelow leds type (Nat.le_of_lt type.isLt) with
    | some i => some (some (leds i), i)
    | none => some (none, -1)
  else none

/-- `set_light_leds`, with what comes of the write if there is one. -/
def setLightLeds (s : Leds) (state : LightState) (type : Int) (write : NodeWrite) : Leds × Int :=
  if h : 0 ≤ type ∧ type < 3 then
    let type : Fin 3 := ⟨type.toNat, by omega⟩
    match newLed state type with
    | none => (s, -einval)
    | some led =>
        let s := { s with leds := Function.update s.leds type led }
        match toShow s.leds s.curLed type with
        | none => (s, 0)
        | some (shown, cur) =>
            let (s, err) := writeLeds s write shown
            ({ s with curLed := cur }, err)
  else (s, -einval)

/-- One call. -/
structure Call where
  state : LightState
  type : Int
  write : NodeWrite

def Call.run (s : Leds) (c : Call) : Leds × Int := setLightLeds s c.state c.type c.write

-- ── What is promised ─────────────────────────────────────────────────────────

/-- The record is lit. -/
abbrev Lit (leds : Fin 3 → LedConfig) (i : Fin 3) : Prop := (leds i).color ≠ 0

/-- The text on the node for a record, or for none. -/
def encoding (led : Option LedConfig) : List Char := blinkFormat (led.getD ledOff) ++ ['\n']

/-- The highest record that is lit, or -1. -/
structure Highest (leds : Fin 3 → LedConfig) (cur : Int) : Prop where
  none_above : ∀ j, Lit leds j → (j : Int) ≤ cur
  lit : cur = -1 ∨ ∃ i : Fin 3, cur = i ∧ Lit leds i

/-- **THE LED SHOWS** the highest record that is lit; it is off if there is none.
    Before the first write there is no text. -/
structure Shown (s : Leds) : Prop where
  highest : Highest s.leds s.curLed
  lit : ∀ i : Fin 3, s.curLed = i → s.node = some (encoding (some (s.leds i)))
  off : s.curLed = -1 → s.node = none ∨ s.node = some (encoding none)

/-- Calls that return 0. -/
def stepOk (s : Leds) (c : Call) : Option Leds :=
  let (s', err) := c.run s
  if err = 0 then some s' else none

/-- **THE MULTIPLEXED LED** in one state, with what a call for a lower record can
    do. -/
structure Multiplexed (s : Leds) : Prop where
  shown : Shown s
  lower : ∀ c s', stepOk s c = some s' → c.type < s.curLed →
    s'.node = s.node ∧ s'.curLed = s.curLed

/-- Calls with any result. -/
def step (s : Leds) (c : Call) : Option Leds := some (c.run s).1

/-- A call that fails changes nothing. -/
def Atomic (s : Leds) (c : Call) : Prop := (c.run s).2 ≠ 0 → (c.run s).1 = s

/-- The text of a record fits into the buffer. -/
def Fits (led : Option LedConfig) : Prop := (blinkFormat (led.getD ledOff)).length < sizeofBlink - 1

/-- The highest record below one that is lit. -/
def LitBelow (leds : Fin 3 → LedConfig) (type : Fin 3) : Option (Fin 3) → Prop
  | some i => i < type ∧ Lit leds i ∧ ∀ j, j < type → Lit leds j → j ≤ i
  | none => ∀ j, j < type → ¬Lit leds j

/-- A call that stores `led` for `type` has to write `shown` to the node: the new
    record, if it is lit and nothing above it is shown, and what is lit below
    it, if it was shown and goes dark. -/
def MustWrite (s : Leds) (type : Fin 3) (led : LedConfig) (shown : Option LedConfig) : Prop :=
  (led.color ≠ 0 ∧ s.curLed ≤ type ∧ shown = some led)
    ∨ (led.color = 0 ∧ s.curLed = type
        ∧ ∃ below, LitBelow s.leds type below ∧ shown = below.map s.leds)

/-- **THE CONDITION**: what has to be written fits into the buffer and is
    written, or the record is lit, shown already and not changed. -/
def Safe (s : Leds) (c : Call) : Prop :=
  ∀ (type : Fin 3) led shown, c.type = type → newLed c.state type = some led →
    MustWrite s type led shown →
    (Fits shown ∧ c.write = .written)
      ∨ (led.color ≠ 0 ∧ s.curLed = type ∧ s.leds type = led)

-- ── What a call does ─────────────────────────────────────────────────────────

section Calls

variable {s : Leds} {c : Call} {leds : Fin 3 → LedConfig} {type i : Fin 3} {led : LedConfig}
  {shown : Option LedConfig} {cur : Int}

theorem lit_iff (leds : Fin 3 → LedConfig) (i : Fin 3) : (leds i).color > 0 ↔ Lit leds i := by
  rw [gt_iff_lt, UInt32.lt_iff_toNat_lt, Lit, Ne, ← UInt32.toNat_inj]
  exact Nat.pos_iff_ne_zero

theorem litBelow_spec (leds : Fin 3 → LedConfig) : ∀ (n : Nat) (h : n ≤ 3),
    (∀ i, litBelow leds n h = some i → (i : Nat) < n ∧ Lit leds i
        ∧ ∀ j : Fin 3, (j : Nat) < n → Lit leds j → j ≤ i)
      ∧ (litBelow leds n h = none → ∀ j : Fin 3, (j : Nat) < n → ¬Lit leds j) := by
  intro n
  induction n with
  | zero => exact fun h => ⟨(fun i hi => nomatch hi), fun _ j hj => absurd hj (Nat.not_lt_zero _)⟩
  | succ n ih =>
      intro h
      obtain ⟨hsome, hnone⟩ := ih (Nat.le_of_succ_le h)
      rw [litBelow]
      by_cases hlit : Lit leds ⟨n, h⟩
      · rw [if_pos ((lit_iff leds _).mpr hlit)]
        refine ⟨fun i hi => ?_, (fun hi => nomatch hi)⟩
        obtain rfl := Option.some.inj hi
        exact ⟨Nat.lt_succ_self n, hlit, fun j hj _ => Nat.le_of_lt_succ hj⟩
      · rw [if_neg (mt (lit_iff leds _).mp hlit)]
        have hlast : ∀ j : Fin 3, (j : Nat) < n + 1 → Lit leds j → (j : Nat) < n := by
          intro j hj hjlit
          rcases Nat.lt_succ_iff_lt_or_eq.mp hj with hlt | heq
          · exact hlt
          · exact absurd (Fin.ext (b := ⟨n, h⟩) heq ▸ hjlit) hlit
        refine ⟨fun i hi => ?_, fun hi j hj hjlit => hnone hi j (hlast j hj hjlit) hjlit⟩
        obtain ⟨hlt, hi, hall⟩ := hsome i hi
        exact ⟨Nat.lt_succ_of_lt hlt, hi, fun j hj hjlit => hall j (hlast j hj hjlit) hjlit⟩

/-- The loop finds the highest record below that is lit. -/
theorem litBelow_eq (leds : Fin 3 → LedConfig) (type : Fin 3) :
    LitBelow leds type (litBelow leds type (Nat.le_of_lt type.isLt)) := by
  obtain ⟨hsome, hnone⟩ := litBelow_spec leds type (Nat.le_of_lt type.isLt)
  cases hbelow : litBelow leds type (Nat.le_of_lt type.isLt) with
  | none => exact hnone hbelow
  | some i => exact hsome i hbelow

theorem litBelow_unique {below below' : Option (Fin 3)} (h : LitBelow leds type below)
    (h' : LitBelow leds type below') : below = below' := by
  cases below with
  | none =>
      cases below' with
      | none => rfl
      | some i => exact absurd h'.2.1 (h i h'.1)
  | some i =>
      cases below' with
      | none => exact absurd h.2.1 (h' i h.1)
      | some j => exact congrArg some (le_antisymm (h'.2.2 i h.1 h.2.1) (h.2.2 j h'.1 h'.2.1))

/-- Records below one do not see it change. -/
theorem litBelow_update {below : Option (Fin 3)} :
    LitBelow (Function.update leds type led) type below ↔ LitBelow leds type below := by
  have hsame : ∀ j, j < type → (Lit (Function.update leds type led) j ↔ Lit leds j) := by
    intro j hj
    rw [Lit, Function.update_of_ne (ne_of_lt hj)]
  cases below with
  | none => exact forall_congr' fun j => forall_congr' fun hj => not_congr (hsame j hj)
  | some i =>
      refine and_congr_right fun hi => and_congr (hsame i hi) ?_
      exact forall_congr' fun j => forall_congr' fun hj => imp_congr_left (hsame j hj)

/-- A write goes through, or it fails and writes nothing. -/
theorem writeLeds_cases (s : Leds) (write : NodeWrite) (led : Option LedConfig) :
    (Fits led ∧ write = .written
        ∧ writeLeds s write led = ({ s with node := some (encoding led) }, 0))
      ∨ (¬(Fits led ∧ write = .written) ∧ ∃ err, err ≠ 0 ∧ writeLeds s write led = (s, err)) := by
  by_cases hfits : Fits led
  · have hlt : ¬(blinkFormat (led.getD ledOff)).length ≥ sizeofBlink - 1 := Nat.not_le.mpr hfits
    cases write with
    | openFails errno =>
        refine Or.inr ⟨(fun h => nomatch h.2), -errno.val, ?_, ?_⟩
        · have hpos := errno.property
          omega
        · rw [writeLeds]
          exact if_neg hlt
    | writeFails errno =>
        refine Or.inr ⟨(fun h => nomatch h.2), -errno.val, ?_, ?_⟩
        · have hpos := errno.property
          omega
        · rw [writeLeds]
          exact if_neg hlt
    | written =>
        refine Or.inl ⟨hfits, rfl, ?_⟩
        rw [writeLeds]
        exact if_neg hlt
  · refine Or.inr ⟨fun h => hfits h.1, -einval, by decide, ?_⟩
    rw [writeLeds]
    exact if_pos (Nat.not_lt.mp hfits)

/-- **A CALL** is refused, or it stores a record and shows no other, or it
    stores a record and writes. -/
theorem run_cases (s : Leds) (c : Call) :
    (c.run s = (s, -einval) ∧ ∀ type : Fin 3, c.type = type → newLed c.state type = none)
      ∨ ∃ (type : Fin 3) (led : LedConfig), c.type = type ∧ newLed c.state type = some led
        ∧ ((toShow (Function.update s.leds type led) s.curLed type = none
              ∧ c.run s = ({ s with leds := Function.update s.leds type led }, 0))
          ∨ ∃ shown cur, toShow (Function.update s.leds type led) s.curLed type = some (shown, cur)
              ∧ c.run s
                = let r := writeLeds { s with leds := Function.update s.leds type led } c.write shown
                  ({ r.1 with curLed := cur }, r.2)) := by
  by_cases htype : 0 ≤ c.type ∧ c.type < 3
  · have hcast : c.type = ((⟨c.type.toNat, by omega⟩ : Fin 3) : Int) := by
      show c.type = (c.type.toNat : Int)
      omega
    rw [Call.run, setLightLeds, dif_pos htype]
    generalize (⟨c.type.toNat, by omega⟩ : Fin 3) = type at hcast ⊢
    dsimp only
    cases hled : newLed c.state type with
    | none =>
        refine Or.inl ⟨rfl, fun type' htype' => ?_⟩
        obtain rfl : type' = type := Fin.ext (Int.ofNat_inj.mp (htype'.symm.trans hcast))
        exact hled
    | some led =>
        refine Or.inr ⟨type, led, hcast, hled, ?_⟩
        dsimp only
        cases hshow : toShow (Function.update s.leds type led) s.curLed type with
        | none => exact Or.inl ⟨rfl, rfl⟩
        | some pair => exact Or.inr ⟨pair.1, pair.2, rfl, rfl⟩
  · refine Or.inl ⟨?_, fun type heq => absurd ⟨?_, ?_⟩ htype⟩
    · rw [Call.run, setLightLeds, dif_neg htype]
    · omega
    · have hlt := type.isLt
      omega

/-- The value of `g_cur_led` for a record below. -/
def curOf (below : Option (Fin 3)) : Int := (below.map fun i => (i : Int)).getD (-1)

theorem lit_update_self : Lit (Function.update leds type led) type ↔ led.color ≠ 0 := by
  rw [Lit, Function.update_self]

theorem lit_update_of_ne (hne : i ≠ type) : Lit (Function.update leds type led) i ↔ Lit leds i := by
  rw [Lit, Function.update_of_ne hne]

/-- **WHAT IS SHOWN** once a record is stored: what was shown; or the record
    itself; or, as it goes dark, what is lit below it. -/
theorem toShow_cases (s : Leds) (type : Fin 3) (led : LedConfig) :
    (toShow (Function.update s.leds type led) s.curLed type = none
        ∧ (∀ x, ¬MustWrite s type led x) ∧ s.curLed ≠ type
        ∧ (led.color ≠ 0 → (type : Int) < s.curLed))
      ∨ (toShow (Function.update s.leds type led) s.curLed type = some (some led, (type : Int))
        ∧ (∀ x, MustWrite s type led x ↔ x = some led) ∧ led.color ≠ 0 ∧ s.curLed ≤ type)
      ∨ ∃ below, toShow (Function.update s.leds type led) s.curLed type
            = some (below.map s.leds, curOf below)
          ∧ (∀ x, MustWrite s type led x ↔ x = below.map s.leds) ∧ LitBelow s.leds type below
          ∧ led.color = 0 ∧ s.curLed = type := by
  rw [toShow]
  by_cases hlit : led.color ≠ 0
  · rw [if_pos ((lit_iff _ _).mpr (lit_update_self.mpr hlit)), Function.update_self]
    by_cases hcur : s.curLed ≤ type
    · refine Or.inr (Or.inl ⟨if_pos hcur, fun x => ?_, hlit, hcur⟩)
      constructor
      · rintro (⟨-, -, hx⟩ | ⟨hdark, -⟩)
        · exact hx
        · exact absurd hdark hlit
      · exact fun hx => Or.inl ⟨hlit, hcur, hx⟩
    · refine Or.inl ⟨if_neg hcur, fun x => ?_, fun heq => hcur (Int.le_of_eq heq), fun _ => by omega⟩
      rintro (⟨-, hle, -⟩ | ⟨hdark, -⟩)
      · exact hcur hle
      · exact hlit hdark
  · have hdark : led.color = 0 := not_not.mp hlit
    rw [if_neg (mt (lit_iff _ _).mp (mt lit_update_self.mp hlit))]
    by_cases hcur : s.curLed = type
    · have hbelow := litBelow_update.mp (litBelow_eq (Function.update s.leds type led) type)
      refine Or.inr (Or.inr ⟨_, ?_, fun x => ?_, hbelow, hdark, hcur⟩)
      · rw [if_pos hcur.symm]
        cases hfound : litBelow (Function.update s.leds type led) type (Nat.le_of_lt type.isLt) with
        | none => rfl
        | some i =>
            rw [hfound] at hbelow
            dsimp only
            rw [Function.update_of_ne (ne_of_lt hbelow.1)]
            rfl
      · constructor
        · rintro (⟨hnot, -⟩ | ⟨-, -, below, hother, rfl⟩)
          · exact absurd hnot hlit
          · rw [litBelow_unique hother hbelow]
        · exact fun hx => Or.inr ⟨hdark, hcur, _, hbelow, hx⟩
    · refine Or.inl ⟨if_neg (Ne.symm hcur), fun x => ?_, hcur, fun hnot => absurd hnot hlit⟩
      rintro (⟨hnot, -⟩ | ⟨-, heq, -⟩)
      · exact hlit hnot
      · exact hcur heq

end Calls

-- ── What the LED shows ───────────────────────────────────────────────────────

section Showing

variable {s s' : Leds} {c : Call} {type : Fin 3} {led : LedConfig} {below : Option (Fin 3)}

/-- A record changes that is not shown, and must not be. -/
theorem shown_quiet (h : Shown s) (hne : s.curLed ≠ type)
    (hlower : led.color ≠ 0 → (type : Int) < s.curLed) :
    Shown { s with leds := Function.update s.leds type led } := by
  have hother : ∀ i : Fin 3, s.curLed = i → i ≠ type := by
    rintro i hi rfl
    exact hne hi
  constructor
  case highest =>
    constructor
    · intro j hj
      by_cases hjtype : j = type
      · subst hjtype
        exact Int.le_of_lt (hlower (lit_update_self.mp hj))
      · exact h.highest.none_above j ((lit_update_of_ne hjtype).mp hj)
    · refine h.highest.lit.imp id ?_
      rintro ⟨i, hi, hlit⟩
      exact ⟨i, hi, (lit_update_of_ne (hother i hi)).mpr hlit⟩
  case lit =>
    intro i hi
    show s.node = some (encoding (some (Function.update s.leds type led i)))
    rw [Function.update_of_ne (hother i hi)]
    exact h.lit i hi
  case off => exact h.off

/-- The new record is shown. -/
theorem shown_lit (h : Shown s) (hlit : led.color ≠ 0) (hcur : s.curLed ≤ type) :
    Shown { leds := Function.update s.leds type led, curLed := type,
            node := some (encoding (some led)) } := by
  constructor
  case highest =>
    constructor
    · intro j hj
      by_cases hjtype : j = type
      · exact Int.le_of_eq (congrArg (fun i : Fin 3 => (i : Int)) hjtype)
      · exact Int.le_trans (h.highest.none_above j ((lit_update_of_ne hjtype).mp hj)) hcur
    · exact Or.inr ⟨type, rfl, lit_update_self.mpr hlit⟩
  case lit =>
    intro i hi
    obtain rfl : type = i := Fin.ext (Int.ofNat_inj.mp hi)
    show _ = some (encoding (some (Function.update s.leds type led type)))
    rw [Function.update_self]
  case off =>
    intro hoff
    have htype : (type : Int) = -1 := hoff
    omega

/-- What is lit below is shown. -/
theorem shown_dark (h : Shown s) (hdark : led.color = 0) (hcur : s.curLed = type)
    (hbelow : LitBelow s.leds type below) :
    Shown { leds := Function.update s.leds type led, curLed := curOf below,
            node := some (encoding (below.map s.leds)) } := by
  have hlower : ∀ j, Lit (Function.update s.leds type led) j → j < type ∧ Lit s.leds j := by
    intro j hj
    have hjtype : j ≠ type := by
      rintro rfl
      exact lit_update_self.mp hj hdark
    have hlit := (lit_update_of_ne hjtype).mp hj
    have hle := h.highest.none_above j hlit
    refine ⟨lt_of_le_of_ne (Fin.le_def.mpr ?_) hjtype, hlit⟩
    omega
  cases below with
  | none =>
      constructor
      case highest =>
        exact ⟨fun j hj => absurd (hlower j hj).2 (hbelow j (hlower j hj).1), Or.inl rfl⟩
      case lit =>
        intro i hi
        have hneg : (-1 : Int) = i := hi
        omega
      case off => exact fun _ => Or.inr rfl
  | some i =>
      obtain ⟨hlt, hlit, hall⟩ := hbelow
      have hkeep := ne_of_lt hlt
      constructor
      case highest =>
        refine ⟨fun j hj => ?_, Or.inr ⟨i, rfl, (lit_update_of_ne hkeep).mpr hlit⟩⟩
        exact Int.ofNat_le.mpr (hall j (hlower j hj).1 (hlower j hj).2)
      case lit =>
        intro k hk
        obtain rfl : i = k := Fin.ext (Int.ofNat_inj.mp hk)
        show _ = some (encoding (some (Function.update s.leds type led i)))
        rw [Function.update_of_ne hkeep]
        rfl
      case off =>
        intro hoff
        have hneg : (i : Int) = -1 := hoff
        omega

/-- Storing what is stored changes nothing. -/
theorem stored_eq (hcur : s.curLed = type) (hled : s.leds type = led) :
    { s with leds := Function.update s.leds type led, curLed := (type : Int) } = s := by
  rw [← hled, Function.update_eq_self, ← hcur]

/-- **STEP LEMMA**: a call that returns 0, or meets the condition, leaves the LED
    showing what it should. -/
theorem shown_run (h : Shown s) (hok : (c.run s).2 = 0 ∨ Safe s c) : Shown (c.run s).1 := by
  rcases run_cases s c with ⟨hrun, -⟩ | ⟨type, led, htype, hled, hcases⟩
  · rw [hrun]
    exact h
  · rcases toShow_cases s type led with
      ⟨hshow, -, hne, hlower⟩ | ⟨hshow, hwrite, hlit, hcur⟩ | ⟨below, hshow, hwrite, hbelow, hdark, hcur⟩
    · rcases hcases with ⟨-, hrun⟩ | ⟨shown, cur, hsome, -⟩
      · rw [hrun]
        exact shown_quiet h hne hlower
      · exact nomatch hshow.symm.trans hsome
    · rcases hcases with ⟨hnone, -⟩ | ⟨shown, cur, hsome, hrun⟩
      · exact nomatch hnone.symm.trans hshow
      · obtain ⟨rfl, rfl⟩ := Prod.mk.inj (Option.some.inj (hsome.symm.trans hshow))
        rcases writeLeds_cases { s with leds := Function.update s.leds type led } c.write (some led)
          with ⟨-, -, hdone⟩ | ⟨hfail, err, herr, hdone⟩
        · rw [hrun, hdone]
          exact shown_lit h hlit hcur
        · rw [hrun, hdone] at hok ⊢
          rcases hok with hzero | hsafe
          · exact absurd hzero herr
          · rcases hsafe type led (some led) htype hled ((hwrite _).mpr rfl) with hgood | ⟨-, hsame, heq⟩
            · exact absurd hgood hfail
            · show Shown { s with leds := Function.update s.leds type led, curLed := (type : Int) }
              rw [stored_eq hsame heq]
              exact h
    · rcases hcases with ⟨hnone, -⟩ | ⟨shown, cur, hsome, hrun⟩
      · exact nomatch hnone.symm.trans hshow
      · obtain ⟨rfl, rfl⟩ := Prod.mk.inj (Option.some.inj (hsome.symm.trans hshow))
        rcases writeLeds_cases { s with leds := Function.update s.leds type led } c.write
            (below.map s.leds) with ⟨-, -, hdone⟩ | ⟨hfail, err, herr, hdone⟩
        · rw [hrun, hdone]
          exact shown_dark h hdark hcur hbelow
        · rw [hrun, hdone] at hok
          rcases hok with hzero | hsafe
          · exact absurd hzero herr
          · rcases hsafe type led _ htype hled ((hwrite _).mpr rfl) with hgood | ⟨hlit, -⟩
            · exact absurd hgood hfail
            · exact absurd hdark hlit

/-- A call for a lower record writes nothing. -/
theorem run_lower (hlower : c.type < s.curLed) :
    (c.run s).1.node = s.node ∧ (c.run s).1.curLed = s.curLed := by
  rcases run_cases s c with ⟨hrun, -⟩ | ⟨type, led, htype, -, hcases⟩
  · rw [hrun]
    exact ⟨rfl, rfl⟩
  · rcases hcases with ⟨-, hrun⟩ | ⟨shown, cur, hsome, -⟩
    · rw [hrun]
      exact ⟨rfl, rfl⟩
    · rcases toShow_cases s type led with ⟨hshow, -⟩ | ⟨-, -, -, hcur⟩ | ⟨-, -, -, -, -, hcur⟩
      · exact nomatch hshow.symm.trans hsome
      · omega
      · omega

theorem shown_init : Shown {} where
  highest := ⟨fun _ hlit => absurd rfl hlit, Or.inl rfl⟩
  lit := by
    intro i hi
    have hneg : (-1 : Int) = i := hi
    omega
  off := fun _ => Or.inl rfl

theorem stepOk_eq_some (h : stepOk s c = some s') : (c.run s).2 = 0 ∧ (c.run s).1 = s' := by
  obtain ⟨hzero, hs'⟩ := Option.ite_none_right_eq_some.mp h
  exact ⟨hzero, Option.some.inj hs'⟩

/-- **THE LED IS MULTIPLEXED** in every state of every run of calls that return
    0: it shows the record of the highest type that is lit, and a call for a
    lower one does not change that. -/
theorem leds_multiplexed (calls : List Call) : Always stepOk Multiplexed {} calls := by
  intro done rest s hcalls hrun
  have hkeep : ∀ s c s', Shown s → stepOk s c = some s' → Shown s' := by
    intro s c s' h hstep
    obtain ⟨hzero, rfl⟩ := stepOk_eq_some hstep
    exact shown_run h (Or.inl hzero)
  have hshown : Shown s := run_invariant hkeep done shown_init hrun
  refine ⟨hshown, fun c s' hstep hlower => ?_⟩
  obtain ⟨-, rfl⟩ := stepOk_eq_some hstep
  exact run_lower hlower

end Showing

-- ── Calls that fail ──────────────────────────────────────────────────────────

section Failing

variable {s : Leds} {c : Call}

/-- **ONE CALL** leaves no trace of a failure exactly if it meets the condition. -/
theorem atomic_iff (s : Leds) (c : Call) : Atomic s c ↔ Safe s c := by
  rcases run_cases s c with ⟨hrun, hnone⟩ | ⟨type, led, htype, hled, hcases⟩
  · refine iff_of_true (fun _ => by rw [hrun]) ?_
    intro type led shown htype hled
    exact nomatch (hnone type htype).symm.trans hled
  · -- the condition is about this type and this record
    have hsafe : Safe s c ↔ ∀ shown, MustWrite s type led shown →
        (Fits shown ∧ c.write = .written)
          ∨ (led.color ≠ 0 ∧ s.curLed = type ∧ s.leds type = led) := by
      constructor
      · exact fun h shown => h type led shown htype hled
      · intro h type' led' shown htype' hled'
        obtain rfl : type = type' := Fin.ext (Int.ofNat_inj.mp (htype.symm.trans htype'))
        obtain rfl := Option.some.inj (hled.symm.trans hled')
        exact h shown
    rw [hsafe, Atomic]
    rcases toShow_cases s type led with
      ⟨hshow, hwrite, -⟩ | ⟨hshow, hwrite, hlit, hcur⟩ | ⟨below, hshow, hwrite, hbelow, hdark, hcur⟩
    · rcases hcases with ⟨-, hrun⟩ | ⟨shown, cur, hsome, -⟩
      · refine iff_of_true (fun herr => absurd ?_ herr) fun x hx => absurd hx (hwrite x)
        rw [hrun]
      · exact nomatch hshow.symm.trans hsome
    · rcases hcases with ⟨hnone, -⟩ | ⟨shown, cur, hsome, hrun⟩
      · exact nomatch hnone.symm.trans hshow
      · obtain ⟨rfl, rfl⟩ := Prod.mk.inj (Option.some.inj (hsome.symm.trans hshow))
        simp only [hwrite, forall_eq]
        rcases writeLeds_cases { s with leds := Function.update s.leds type led } c.write (some led)
          with ⟨hfits, hwritten, hdone⟩ | ⟨hfail, err, herr, hdone⟩
        · rw [hrun, hdone]
          exact iff_of_true (fun herr => absurd rfl herr) (Or.inl ⟨hfits, hwritten⟩)
        · rw [hrun, hdone]
          constructor
          · intro h
            have heq := h herr
            have hcur' : (type : Int) = s.curLed := congrArg Leds.curLed heq
            have hled' : Function.update s.leds type led type = s.leds type :=
              congrFun (congrArg Leds.leds heq) type
            rw [Function.update_self] at hled'
            exact Or.inr ⟨hlit, hcur'.symm, hled'.symm⟩
          · rintro (hgood | ⟨-, hsame, heq⟩) _
            · exact absurd hgood hfail
            · exact stored_eq hsame heq
    · rcases hcases with ⟨hnone, -⟩ | ⟨shown, cur, hsome, hrun⟩
      · exact nomatch hnone.symm.trans hshow
      · obtain ⟨rfl, rfl⟩ := Prod.mk.inj (Option.some.inj (hsome.symm.trans hshow))
        simp only [hwrite, forall_eq]
        rcases writeLeds_cases { s with leds := Function.update s.leds type led } c.write
            (below.map s.leds) with ⟨hfits, hwritten, hdone⟩ | ⟨hfail, err, herr, hdone⟩
        · rw [hrun, hdone]
          exact iff_of_true (fun herr => absurd rfl herr) (Or.inl ⟨hfits, hwritten⟩)
        · rw [hrun, hdone]
          -- `g_cur_led` has moved down
          refine iff_of_false (fun h => ?_) ?_
          · have heq : curOf below = s.curLed := congrArg Leds.curLed (h herr)
            rw [hcur] at heq
            cases below with
            | none =>
                have hneg : (-1 : Int) = type := heq
                omega
            | some i =>
                have hlt : (i : Nat) < type := hbelow.1
                have hsame : (i : Int) = type := heq
                omega
          · rintro (hgood | ⟨hlit, -⟩)
            · exact hfail hgood
            · exact hlit hdark

/-- **FAILED CALLS LEAVE NO TRACE** in a run of calls exactly if every call of it
    meets the condition. -/
theorem leds_atomic_iff (calls : List Call) :
    StepsMeet step Atomic {} calls ↔ StepsMeet step Safe {} calls := by
  have hsame : Atomic = Safe := funext fun s => funext fun c => propext (atomic_iff s c)
  rw [hsame]

/-- Delays of 19 digits do not fit: the call is refused, and its record is stored
    and taken for the one that is shown. -/
theorem long_delays_stay :
    let c : Call := ⟨⟨0x00ff00, flashTimed, 1000000000, 100000000⟩, 0, .written⟩
    (c.run {}).2 = -einval ∧ (c.run {}).1.leds 0 = ⟨0x00ff00, 1000000000, 100000000⟩
      ∧ (c.run {}).1.curLed = 0 ∧ (c.run {}).1.node = none ∧ ¬StepsMeet step Atomic {} [c] := by
  intro c
  have herr : (c.run {}).2 = -einval := by decide
  have hcur : (c.run {}).1.curLed = 0 := by decide
  refine ⟨herr, by decide, hcur, by decide, fun h => ?_⟩
  have hsame := h [] c [] {} _ rfl rfl rfl (by rw [herr]; decide)
  rw [hsame] at hcur
  exact nomatch hcur

/-- As long as all calls meet the condition, failed ones do not make the LED show
    anything else than it should. -/
theorem shown_of_safe (calls : List Call) (h : StepsMeet step Safe {} calls) :
    Always step Shown {} calls := by
  have hkeep : ∀ s c s', Shown s → Safe s c → step s c = some s' → Shown s' := by
    intro s c s' hs hsafe hstep
    exact Option.some.inj hstep ▸ shown_run hs (Or.inr hsafe)
  exact always_of_stepsMeet (fun _ hs => hs) hkeep calls shown_init h

end Failing

end Lights

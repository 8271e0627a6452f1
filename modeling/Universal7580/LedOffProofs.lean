import Mathlib.Algebra.Group.Nat.Defs
import Universal7580.LightsProofs

/-! # Turning the LED off

    There are three entry points to the LED.  Battery and notifications pass what
    they are given to `set_light_leds`; attention changes it before, because the
    framework asks for attention in its own way.

    With short delays and a node that takes every text, the records hold what each
    entry point was last asked for (`calls_stored`), and `leds_off_iff` says when the
    LED is off after calls that ended with no color at every entry point. -/

namespace LedOff

open Lights

-- ── The entry points ─────────────────────────────────────────────────────────

inductive Entry where
  | battery
  | notifications
  | attention
  deriving DecidableEq, Repr

/-- `TYPE_BATTERY`, `TYPE_NOTIFICATION` and `TYPE_ATTENTION`. -/
def Entry.type : Entry → Fin 3
  | .battery => 0
  | .notifications => 1
  | .attention => 2

def setLightLedsBattery (s : Leds) (state : LightState) (write : NodeWrite) : Leds × Int :=
  setLightLeds s state 0 write

def setLightLedsNotifications (s : Leds) (state : LightState) (write : NodeWrite) : Leds × Int :=
  setLightLeds s state 1 write

/-- What attention makes of the state.  Only the first of the two lines below the `if`
    belongs to it. -/
def fixAttention (state : LightState) : LightState :=
  if state.flashMode = flashNone then { state with color := 0 }
  else if state.flashMode = flashHardware then
    let fixed :=
      if state.flashOnMS > 0 ∧ state.flashOffMS = 0 then { state with flashMode := flashNone }
      else state
    { fixed with color := 0x000000ff }
  else state

def setLightLedsAttention (s : Leds) (state : LightState) (write : NodeWrite) : Leds × Int :=
  setLightLeds s (fixAttention state) 2 write

/-- A call whose text, if there is one, is written. -/
structure LightCall where
  entry : Entry
  state : LightState
  deriving DecidableEq, Repr

def LightCall.run (s : Leds) (c : LightCall) : Leds × Int :=
  match c.entry with
  | .battery => setLightLedsBattery s c.state .written
  | .notifications => setLightLedsNotifications s c.state .written
  | .attention => setLightLedsAttention s c.state .written

/-- The LED after some calls. -/
def ledsAfter (calls : List LightCall) : Leds := calls.foldl (fun s c => (c.run s).1) {}

-- ── What is asked ────────────────────────────────────────────────────────────

/-- The last text on the node is that of no record, or there is none. -/
def Off (s : Leds) : Prop := s.node = none ∨ s.node = some (encoding none)

/-- The delays are short enough for the text to the node. -/
def Short (state : LightState) : Prop :=
  (decimal state.flashOnMS).length + (decimal state.flashOffMS).length ≤ 18

/-- The last call of each entry point that was used had no color. -/
def LastZero (calls : List LightCall) : Prop :=
  ∀ entry, ∀ c ∈ (calls.filter fun c => c.entry = entry).getLast?,
    c.state.color &&& COLOR_MASK = 0

/-- `set_light_leds` knows the flash mode. -/
def LightCall.Known (c : LightCall) : Prop :=
  c.state.flashMode = flashNone ∨ c.state.flashMode = flashTimed
    ∨ c.state.flashMode = flashHardware

instance (c : LightCall) : Decidable c.Known :=
  inferInstanceAs (Decidable (_ ∨ _ ∨ _))

/-- The last call of an entry point that was not refused. -/
def lastKnown (calls : List LightCall) (entry : Entry) : Option LightCall :=
  (calls.filter fun c => c.entry = entry ∧ c.Known).getLast?

/-- The call clears its record. -/
def LightCall.Clears (c : LightCall) : Prop :=
  match c.entry with
  | .attention =>
      c.state.flashMode = flashNone
        ∨ c.state.flashMode ≠ flashHardware ∧ c.state.color &&& COLOR_MASK = 0
  | _ => c.state.color &&& COLOR_MASK = 0

/-- **THE CONDITION** on the calls. -/
def Cleared (calls : List LightCall) : Prop :=
  ∀ entry, ∀ c ∈ lastKnown calls entry, c.Clears

-- ── Colors ───────────────────────────────────────────────────────────────────

theorem toNat_colorMask (color : UInt32) :
    (color &&& COLOR_MASK).toNat = color.toNat % 2 ^ 24 := by
  have hmask : COLOR_MASK.toNat = 2 ^ 24 - 1 := rfl
  rw [UInt32.toNat_and, hmask, Nat.and_two_pow_sub_one_eq_mod]

/-- The adjustments are all one, and so is the brightness. -/
theorem calibrateColor_eq_zero_iff (color : UInt32) (type : Fin 3) :
    calibrateColor (color &&& COLOR_MASK) (ledBrightness type) = 0
      ↔ color &&& COLOR_MASK = 0 := by
  generalize hx : color &&& COLOR_MASK = x
  have hlt : x.toNat < 2 ^ 24 := by
    rw [← hx, toNat_colorMask]
    exact Nat.mod_lt _ (by decide)
  have hbyte : ∀ y : UInt32, (y &&& 0xff).toNat = y.toNat % 256 := fun y => by
    have hff : (0xff : UInt32).toNat = 2 ^ 8 - 1 := rfl
    rw [UInt32.toNat_and, hff, Nat.and_two_pow_sub_one_eq_mod]
  have hred : ((x >>> 16) &&& 0xff).toNat = x.toNat / 2 ^ 16 % 256 := by
    rw [hbyte, UInt32.toNat_shiftRight, Nat.shiftRight_eq_div_pow]
    rfl
  have hgreen : ((x >>> 8) &&& 0xff).toNat = x.toNat / 2 ^ 8 % 256 := by
    rw [hbyte, UInt32.toNat_shiftRight, Nat.shiftRight_eq_div_pow]
    rfl
  have hone : ∀ n, n * 255 / 255 = n := fun n => Nat.mul_div_cancel n (by decide)
  rw [calibrateColor, ledBrightness, hred, hgreen, hbyte, hone, hone, hone,
    Nat.shiftLeft_eq, Nat.shiftLeft_eq, ← UInt32.toNat_inj, ← UInt32.toNat_inj,
    UInt32.toNat_ofNat']
  have hzero : (0 : UInt32).toNat = 0 := rfl
  rw [hzero]
  omega

-- ── The text on the node ─────────────────────────────────────────────────────

theorem length_hex08 (n : UInt32) : (hex08 n).length = 8 := by
  have hle : (Nat.toDigits 16 n.toNat).length ≤ 8 :=
    (Nat.length_toDigits_le_iff (by decide) (by decide)).mpr n.toNat_lt
  rw [hex08, List.length_leftpad, Nat.max_eq_left hle]

theorem fits_of_short {led : LedConfig}
    (h : (decimal led.delayOn).length + (decimal led.delayOff).length ≤ 18) :
    Fits (some led) := by
  show (blinkFormat led).length < 31
  have hx : (['0', 'x'] : List Char).length = 2 := rfl
  have hblank : ([' '] : List Char).length = 1 := rfl
  rw [blinkFormat, List.length_append, List.length_append, List.length_append,
    List.length_append, List.length_append, length_hex08, hx, hblank]
  omega

/-- Digits that are all zero are those of zero. -/
theorem eq_zero_of_toDigits {n : Nat} : (∀ c ∈ Nat.toDigits 16 n, c = '0') → n = 0 := by
  induction n using Nat.strongRecOn with
  | ind n ih =>
      intro h
      rw [Nat.toDigits_eq_if (by decide)] at h
      split at h
      · rename_i hlt
        have hchar := h _ List.mem_cons_self
        have hall : ∀ m < 16, m.digitChar = '0' → m = 0 := by decide
        exact hall n hlt hchar
      · have hhigh := ih (n / 16) (by omega) fun c hc => h c (List.mem_append_left _ hc)
        omega

/-- The text of a record with a color is not that of no record. -/
theorem encoding_lit {led : LedConfig} (h : led.color ≠ 0) :
    encoding (some led) ≠ encoding none := by
  intro heq
  have hcut : ∀ led' : LedConfig,
      ((blinkFormat led' ++ ['\n']).drop 2).take 8 = hex08 led'.color := by
    intro led'
    rw [blinkFormat, List.append_assoc, List.append_assoc, List.append_assoc, List.append_assoc,
      List.append_assoc]
    exact List.take_left' (length_hex08 _)
  have htext := congrArg (fun text : List Char => (text.drop 2).take 8) heq
  have hhex : hex08 led.color = hex08 0 := (hcut led).symm.trans (htext.trans (hcut ledOff))
  have hzero : hex08 0 = List.replicate 8 '0' := by decide
  rw [hzero] at hhex
  refine h (UInt32.toNat_inj.mp (eq_zero_of_toDigits fun c hc => ?_))
  have hmem : c ∈ hex08 led.color := List.mem_append_right _ hc
  rw [hhex] at hmem
  exact List.eq_of_mem_replicate hmem

-- ── One call ─────────────────────────────────────────────────────────────────

/-- The call of `set_light_leds`. -/
def LightCall.call (c : LightCall) : Call where
  state := if c.entry = .attention then fixAttention c.state else c.state
  type := c.entry.type
  write := .written

theorem run_eq (s : Leds) (c : LightCall) : c.run s = c.call.run s := by
  obtain ⟨entry, state⟩ := c
  cases entry with
  | battery => rfl
  | notifications => rfl
  | attention => rfl

theorem flashDelays_isSome_iff {state : LightState} :
    (flashDelays state).isSome = true
      ↔ state.flashMode = flashNone ∨ state.flashMode = flashTimed
        ∨ state.flashMode = flashHardware := by
  rw [flashDelays]
  split
  · rename_i hnone
    exact iff_of_true rfl (Or.inl hnone)
  · rename_i hnone
    split
    · rename_i hmode
      exact iff_of_true rfl (Or.inr hmode)
    · rename_i hmode
      exact iff_of_false (by decide) fun h => h.elim hnone hmode

/-- Attention does not change whether the mode is known. -/
theorem fixAttention_known (state : LightState) :
    (flashDelays (fixAttention state)).isSome = (flashDelays state).isSome := by
  rw [fixAttention]
  by_cases hnone : state.flashMode = flashNone
  · rw [if_pos hnone]
    rfl
  · rw [if_neg hnone]
    by_cases hhard : state.flashMode = flashHardware
    · rw [if_pos hhard]
      have hknown : (flashDelays state).isSome = true :=
        flashDelays_isSome_iff.mpr (Or.inr (Or.inr hhard))
      rw [hknown]
      by_cases hsteady : state.flashOnMS > 0 ∧ state.flashOffMS = 0
      · rw [if_pos hsteady]
        exact flashDelays_isSome_iff.mpr (Or.inl rfl)
      · rw [if_neg hsteady]
        exact flashDelays_isSome_iff.mpr (Or.inr (Or.inr hhard))
    · rw [if_neg hhard]

theorem newLed_isSome_iff (c : LightCall) :
    (newLed c.call.state c.entry.type).isSome = true ↔ c.Known := by
  rw [newLed, Option.isSome_map, LightCall.Known, ← flashDelays_isSome_iff, LightCall.call]
  dsimp only
  split
  · rw [fixAttention_known]
  · exact Iff.rfl

/-- **THE RECORD** has no color exactly if the call clears it. -/
theorem newLed_color {c : LightCall} {led : LedConfig}
    (h : newLed c.call.state c.entry.type = some led) : led.color = 0 ↔ c.Clears := by
  obtain ⟨delays, -, rfl⟩ := Option.map_eq_some_iff.mp h
  show calibrateColor _ _ = 0 ↔ _
  rw [calibrateColor_eq_zero_iff]
  obtain ⟨entry, state⟩ := c
  cases entry with
  | battery => exact Iff.rfl
  | notifications => exact Iff.rfl
  | attention =>
      show (fixAttention state).color &&& COLOR_MASK = 0
        ↔ state.flashMode = flashNone
          ∨ state.flashMode ≠ flashHardware ∧ state.color &&& COLOR_MASK = 0
      rw [fixAttention]
      by_cases hnone : state.flashMode = flashNone
      · rw [if_pos hnone]
        exact iff_of_true (by decide : (0 : UInt32) &&& COLOR_MASK = 0) (Or.inl hnone)
      · rw [if_neg hnone]
        by_cases hhard : state.flashMode = flashHardware
        · rw [if_pos hhard]
          refine iff_of_false (by decide : ¬(0x000000ff : UInt32) &&& COLOR_MASK = 0) ?_
          rintro (h | ⟨h, -⟩)
          · exact hnone h
          · exact h hhard
        · rw [if_neg hhard]
          exact ⟨fun h => Or.inr ⟨hhard, h⟩, fun h => h.elim (absurd · hnone) And.right⟩

/-- Short delays stay short. -/
theorem newLed_fits {c : LightCall} {led : LedConfig} (hshort : Short c.state)
    (h : newLed c.call.state c.entry.type = some led) : Fits (some led) := by
  obtain ⟨delays, hdelays, rfl⟩ := Option.map_eq_some_iff.mp h
  have hsame : c.call.state.flashOnMS = c.state.flashOnMS
      ∧ c.call.state.flashOffMS = c.state.flashOffMS := by
    rw [LightCall.call]
    dsimp only
    split
    · rw [fixAttention]
      split
      · exact ⟨rfl, rfl⟩
      · split
        · dsimp only
          split
          · exact ⟨rfl, rfl⟩
          · exact ⟨rfl, rfl⟩
        · exact ⟨rfl, rfl⟩
    · exact ⟨rfl, rfl⟩
  rw [flashDelays] at hdelays
  split at hdelays
  · rw [← Option.some.inj hdelays]
    exact fits_of_short (by decide : (decimal 0).length + (decimal 0).length ≤ 18)
  · split at hdelays
    · rw [← Option.some.inj hdelays, hsame.1, hsame.2]
      exact fits_of_short hshort
    · cases hdelays

/-- **ONE CALL** is refused, or stores a record at its own place. -/
theorem run_record (s : Leds) (c : LightCall) :
    (¬c.Known ∧ (c.run s).1 = s)
      ∨ ∃ led, newLed c.call.state c.entry.type = some led ∧ c.Known
        ∧ (c.run s).1.leds = Function.update s.leds c.entry.type led := by
  rw [run_eq]
  rcases run_cases s c.call with ⟨hrun, hnone⟩ | ⟨type, led, htype, hled, hcases⟩
  · refine Or.inl ⟨fun hknown => ?_, by rw [hrun]⟩
    rw [← newLed_isSome_iff, hnone c.entry.type rfl] at hknown
    cases hknown
  · obtain rfl : c.entry.type = type := Fin.ext (Int.ofNat_inj.mp htype)
    refine Or.inr ⟨led, hled, (newLed_isSome_iff c).mp (by rw [hled]; rfl), ?_⟩
    rcases hcases with ⟨-, hrun⟩ | ⟨shown, cur, -, hrun⟩
    · rw [hrun]
    · rw [hrun]
      rcases writeLeds_cases { s with leds := Function.update s.leds c.entry.type led }
          c.call.write shown with ⟨-, -, hdone⟩ | ⟨-, err, -, hdone⟩
      · rw [hdone]
      · rw [hdone]

-- ── All calls ────────────────────────────────────────────────────────────────

/-- What is stored after some calls. -/
structure Stored (calls : List LightCall) (s : Leds) : Prop where
  shown : Shown s
  fits : ∀ i, Fits (some (s.leds i))
  cleared : ∀ entry, (s.leds entry.type).color = 0 ↔ ∀ c ∈ lastKnown calls entry, c.Clears

theorem lastKnown_concat (calls : List LightCall) (c : LightCall) (entry : Entry) :
    lastKnown (calls ++ [c]) entry
      = if c.entry = entry ∧ c.Known then some c else lastKnown calls entry := by
  rw [lastKnown, lastKnown, List.filter_append]
  by_cases hc : c.entry = entry ∧ c.Known
  · have hone : [c].filter (fun c => c.entry = entry ∧ c.Known) = [c] := by
      rw [List.filter_cons, if_pos (decide_eq_true hc), List.filter_nil]
    rw [if_pos hc, hone, List.getLast?_concat]
  · have hnone : [c].filter (fun c => c.entry = entry ∧ c.Known) = [] := by
      rw [List.filter_cons, if_neg (by rw [decide_eq_true_eq]; exact hc), List.filter_nil]
    rw [if_neg hc, hnone, List.append_nil]

theorem Entry.type_inj {a b : Entry} (h : a.type = b.type) : a = b := by
  revert h
  cases a <;> cases b <;> decide

theorem Entry.type_surj : ∀ i : Fin 3, ∃ entry : Entry, entry.type = i
  | 0 => ⟨.battery, rfl⟩
  | 1 => ⟨.notifications, rfl⟩
  | 2 => ⟨.attention, rfl⟩

theorem stored_init : Stored [] {} where
  shown := shown_init
  fits := fun _ => fits_of_short (by decide : (decimal 0).length + (decimal 0).length ≤ 18)
  cleared := fun _ => iff_of_true rfl fun _ h => absurd h.symm (Option.some_ne_none _)

/-- **STEP LEMMA**: a call with short delays is safe, and its record is the last one of
    its entry point unless it is refused. -/
theorem Stored.step {calls : List LightCall} {s : Leds} (h : Stored calls s) (c : LightCall)
    (hshort : Short c.state) : Stored (calls ++ [c]) (c.run s).1 := by
  have hsafe : Safe s c.call := by
    intro type led shown htype hled hwrite
    obtain rfl : c.entry.type = type := Fin.ext (Int.ofNat_inj.mp htype)
    refine Or.inl ⟨?_, rfl⟩
    rcases hwrite with ⟨-, -, rfl⟩ | ⟨-, -, below, -, rfl⟩
    · exact newLed_fits hshort hled
    · cases below with
      | none => exact fits_of_short (by decide : (decimal 0).length + (decimal 0).length ≤ 18)
      | some i => exact h.fits i
  have hshown : Shown (c.run s).1 := by
    rw [run_eq]
    exact shown_run h.shown (Or.inr hsafe)
  rcases run_record s c with ⟨hunknown, hsame⟩ | ⟨led, hled, hknown, hleds⟩
  · refine ⟨hshown, ?_, fun entry => ?_⟩
    · rw [hsame]
      exact h.fits
    · rw [hsame, lastKnown_concat, if_neg fun hc => hunknown hc.2]
      exact h.cleared entry
  · refine ⟨hshown, fun i => ?_, fun entry => ?_⟩
    · rw [hleds]
      by_cases hi : i = c.entry.type
      · rw [hi, Function.update_self]
        exact newLed_fits hshort hled
      · rw [Function.update_of_ne hi]
        exact h.fits i
    · rw [hleds, lastKnown_concat]
      by_cases hentry : c.entry = entry
      · subst hentry
        rw [Function.update_self, if_pos ⟨rfl, hknown⟩, newLed_color hled]
        exact ⟨fun hc c' hc' => Option.some.inj hc' ▸ hc, fun hall => hall c rfl⟩
      · rw [Function.update_of_ne fun heq => hentry (Entry.type_inj heq).symm,
          if_neg fun hc => hentry hc.1]
        exact h.cleared entry

/-- **ALL CALLS**. -/
theorem calls_stored (calls : List LightCall) :
    (∀ c ∈ calls, Short c.state) → Stored calls (ledsAfter calls) := by
  induction calls using List.reverseRecOn with
  | nil => exact fun _ => stored_init
  | append_singleton calls c ih =>
      intro hshort
      rw [ledsAfter, List.foldl_concat]
      exact (ih fun c' hc' => hshort c' (List.mem_append_left _ hc')).step c
        (hshort c (List.mem_append_right _ List.mem_cons_self))

/-- The LED is off exactly if no record is lit. -/
theorem off_iff {s : Leds} (h : Shown s) : Off s ↔ ∀ i, ¬Lit s.leds i := by
  constructor
  · intro hoff i hlit
    -- a record that is lit is below the one that is shown
    have hle := h.highest.none_above i hlit
    rcases h.highest.lit with hnone | ⟨j, hj, hjlit⟩
    · omega
    · have hnode := h.lit j hj
      rcases hoff with hempty | hdark
      · rw [hempty] at hnode
        cases hnode
      · rw [hdark] at hnode
        exact encoding_lit hjlit (Option.some.inj hnode).symm
  · intro hdark
    refine h.off ?_
    rcases h.highest.lit with hnone | ⟨j, -, hjlit⟩
    · exact hnone
    · exact absurd hjlit (hdark j)

/-- **THE LED CAN BE TURNED OFF**: calls that ended with no color at each entry point
    they used leave it off exactly if the last call of each that was not refused
    clears its record. -/
theorem leds_off_iff (calls : List LightCall) (hshort : ∀ c ∈ calls, Short c.state) :
    (LastZero calls → Off (ledsAfter calls)) ↔ (LastZero calls → Cleared calls) := by
  have h := calls_stored calls hshort
  refine imp_congr_right fun _ => ?_
  rw [off_iff h.shown]
  constructor
  · exact fun hdark entry => (h.cleared entry).mp (not_not.mp (hdark entry.type))
  · intro hcleared i
    obtain ⟨entry, rfl⟩ := Entry.type_surj i
    exact not_not_intro ((h.cleared entry).mpr (hcleared entry))

/-- A notification over a low battery, both gone again. -/
def notified : List LightCall :=
  [⟨.battery, ⟨0xff0000, flashNone, 0, 0⟩⟩, ⟨.notifications, ⟨0x00ff00, flashTimed, 500, 2000⟩⟩,
   ⟨.battery, ⟨0, flashNone, 0, 0⟩⟩, ⟨.notifications, ⟨0, flashTimed, 500, 2000⟩⟩]

theorem notified_off :
    (∀ c ∈ notified, Short c.state) ∧ LastZero notified ∧ Off (ledsAfter notified) := by
  have hshort : ∀ c ∈ notified, Short c.state := by
    unfold Short
    decide
  have hlast : ∀ entry, ∀ c ∈ (notified.filter fun c => c.entry = entry).getLast?,
      c.state.color &&& COLOR_MASK = 0 := by
    intro entry
    cases entry <;> decide
  refine ⟨hshort, hlast, (leds_off_iff notified hshort).mpr (fun _ entry c hc => ?_) hlast⟩
  cases entry with
  | battery =>
      obtain rfl : ⟨.battery, ⟨0, flashNone, 0, 0⟩⟩ = c := Option.some.inj hc
      exact (by decide : (0 : UInt32) &&& COLOR_MASK = 0)
  | notifications =>
      obtain rfl : ⟨.notifications, ⟨0, flashTimed, 500, 2000⟩⟩ = c := Option.some.inj hc
      exact (by decide : (0 : UInt32) &&& COLOR_MASK = 0)
  | attention => cases hc

/-- Attention is turned off as the framework does it, and that turns it on. -/
theorem attention_stays :
    let calls : List LightCall := [⟨.attention, ⟨0, flashHardware, 0, 0⟩⟩]
    (∀ c ∈ calls, Short c.state) ∧ LastZero calls ∧ ¬Off (ledsAfter calls) := by
  intro calls
  refine ⟨?_, fun entry => ?_, ?_⟩
  · unfold Short
    decide
  · cases entry <;> decide
  · unfold Off
    decide

end LedOff

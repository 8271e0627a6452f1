import Mathlib.Data.List.Perm.Basic
import Mathlib.Data.Nat.Find
import Mathlib.Logic.Function.Basic
import Universal7580.RunProofs

/-! # The preprocessors of a capture stream

    A capture stream has a table of `MAX_PREPROCESSORS` effects, each with the
    list of channel configurations that the effect supports.  An effect is added
    behind the others; removing one moves those behind it down by a slot.

    `preprocessors_registered` says that the table holds the effects added and
    not yet removed, in order, and that each list is freed once, exactly if no
    effect is added while the table is full: the check of the capacity lets one
    more in. -/

namespace Preprocessor

open Run

variable {H : Type}

-- ── The table ────────────────────────────────────────────────────────────────

/-- `MAX_PREPROCESSORS`. -/
def maxPreprocessors : Nat := 3

def enosys : Int := -38

def einval : Int := -22

/-- `channel_config_t`. -/
structure ChannelConfig where
  mainChannels : BitVec 32
  auxChannels : BitVec 32
  deriving DecidableEq, Repr

/-- `struct effect_info_s`, with the address of the list. -/
structure EffectInfo (H : Type) where
  effectItfe : Option H
  numChannelConfigs : Nat
  channelConfigs : Option Nat
  deriving DecidableEq, Repr

def EffectInfo.cleared : EffectInfo H := ⟨none, 0, none⟩

/-- The table, and the lists on the heap: what is at an address, the next
    address that `malloc` gives out, and what `free` was called with.  What is
    behind the last slot of `preprocessors` is other memory. -/
structure EffectTable (H : Type) where
  numPreprocessors : Nat
  preprocessors : Nat → EffectInfo H
  lists : Nat → List ChannelConfig
  nextList : Nat
  freed : List Nat

/-- The table of a stream that was just opened. -/
def EffectTable.empty : EffectTable H where
  numPreprocessors := 0
  preprocessors := fun _ => .cleared
  lists := fun _ => []
  nextList := 0
  freed := []

def EffectTable.setSlot (t : EffectTable H) (i : Nat) (info : EffectInfo H) : EffectTable H :=
  { t with preprocessors := Function.update t.preprocessors i info }

/-- What an effect answers to `EFFECT_CMD_GET_FEATURE_SUPPORTED_CONFIGS`: the
    result of the command, and in the reply a status and the configurations. -/
structure ConfigsReply where
  cmdStatus : Int
  status : Int
  configs : List ChannelConfig
  deriving DecidableEq, Repr

/-- `in_read_audio_effect_channel_configs`, on a slot whose list is cleared. -/
def EffectTable.readAudioEffectChannelConfigs (t : EffectTable H) (i : Nat)
    (reply : ConfigsReply) : EffectTable H :=
  if reply.cmdStatus ≠ 0 then t
  else if reply.status ≠ 0 then t
  else
    { t.setSlot i
        { t.preprocessors i with
          numChannelConfigs := reply.configs.length
          channelConfigs := some t.nextList } with
      lists := Function.update t.lists t.nextList reply.configs
      nextList := t.nextList + 1 }

/-- The part of `add_remove_audio_effect` that adds. -/
def EffectTable.add (t : EffectTable H) (effect : H) (reply : ConfigsReply) : EffectTable H :=
  let i := t.numPreprocessors
  let t := t.setSlot i { t.preprocessors i with effectItfe := some effect }
  let t := t.readAudioEffectChannelConfigs i reply
  { t with numPreprocessors := t.numPreprocessors + 1 }

/-- `free`, which does nothing with a null pointer. -/
def EffectTable.free (t : EffectTable H) (list : Option Nat) : EffectTable H :=
  { t with freed := t.freed ++ list.toList }

/-- One round of the loop that removes.  A status of 0 says that an effect was
    removed from a previous slot. -/
def removeRound [DecidableEq H] (effect : H) (r : EffectTable H × Int) (i : Nat) : EffectTable H × Int :=
  if r.2 = 0 then (r.1.setSlot (i - 1) (r.1.preprocessors i), 0)
  else if (r.1.preprocessors i).effectItfe = some effect then
    (r.1.free (r.1.preprocessors i).channelConfigs, 0)
  else r

/-- The part of `add_remove_audio_effect` that removes. -/
def EffectTable.remove [DecidableEq H] (t : EffectTable H) (effect : H) : EffectTable H × Int :=
  if t.numPreprocessors = 0 then (t, enosys)
  else
    let r := (List.range t.numPreprocessors).foldl (removeRound effect) (t, einval)
    if r.2 ≠ 0 then r
    else
      let last := r.1.numPreprocessors - 1
      ({ r.1 with numPreprocessors := last }.setSlot last .cleared, 0)

/-- A call of `in_add_audio_effect` or `in_remove_audio_effect`, with what the
    effect answers: the status of `get_descriptor`, and its configurations. -/
structure Call (H : Type) where
  effect : H
  enable : Bool
  descStatus : Int
  reply : ConfigsReply
  deriving DecidableEq, Repr

/-- What `add_remove_audio_effect` does to the table, and its status. -/
def EffectTable.addRemoveAudioEffect [DecidableEq H] (t : EffectTable H) (c : Call H) :
    EffectTable H × Int :=
  if c.descStatus ≠ 0 then (t, c.descStatus)
  else if t.numPreprocessors > maxPreprocessors ∧ c.enable = true then (t, enosys)
  else if c.enable then (t.add c.effect c.reply, 0)
  else t.remove c.effect

-- ── The register ─────────────────────────────────────────────────────────────

/-- An effect that was added, with its configurations if it has any to tell. -/
structure Entry (H : Type) where
  effect : H
  configs : Option (List ChannelConfig)
  deriving DecidableEq, Repr

def ConfigsReply.told (reply : ConfigsReply) : Option (List ChannelConfig) :=
  if reply.cmdStatus = 0 ∧ reply.status = 0 then some reply.configs else none

/-- What a call makes of the effects added and not yet removed: a new one goes to
    the end, and of an effect that was added more than once the oldest goes. -/
def register [DecidableEq H] (l : List (Entry H)) (c : Call H) : List (Entry H) :=
  if c.descStatus ≠ 0 then l
  else if c.enable then
    if l.length < maxPreprocessors then l ++ [⟨c.effect, c.reply.told⟩] else l
  else l.eraseP fun e => e.effect = c.effect

/-- The slot of an entry: its list is at an address of the heap. -/
structure Fits (lists : Nat → List ChannelConfig) (info : EffectInfo H) (e : Entry H) : Prop where
  effect : info.effectItfe = some e.effect
  configs : e.configs = info.channelConfigs.map lists
  count : info.numChannelConfigs = (e.configs.getD []).length

/-- The addresses of the lists in the slots. -/
def EffectTable.live (t : EffectTable H) : List Nat :=
  ((List.range t.numPreprocessors).map t.preprocessors).filterMap EffectInfo.channelConfigs

/-- **THE TABLE** holds the entries of the register, in order, and nothing else;
    every list that was allocated is in one slot, or was freed once. -/
structure Holds (t : EffectTable H) (l : List (Entry H)) : Prop where
  count : t.numPreprocessors = l.length
  bounded : t.numPreprocessors ≤ maxPreprocessors
  slots : ∀ i (h : i < l.length), Fits t.lists (t.preprocessors i) l[i]
  cleared : ∀ i, l.length ≤ i → i < maxPreprocessors → t.preprocessors i = .cleared
  lists : (t.live ++ t.freed).Perm (List.range t.nextList)

theorem holds_empty : Holds (.empty : EffectTable H) [] where
  count := rfl
  bounded := Nat.zero_le _
  slots i h := absurd h (Nat.not_lt_zero i)
  cleared _ _ _ := rfl
  lists := List.Perm.nil

-- ── Adding ───────────────────────────────────────────────────────────────────

section Add

variable {t : EffectTable H} {l : List (Entry H)}

/-- What adding does to a table with a cleared slot. -/
structure Added (t t' : EffectTable H) (effect : H) (reply : ConfigsReply) : Prop where
  count : t'.numPreprocessors = t.numPreprocessors + 1
  others : ∀ i, i ≠ t.numPreprocessors → t'.preprocessors i = t.preprocessors i
  slot : Fits t'.lists (t'.preprocessors t.numPreprocessors) ⟨effect, reply.told⟩
  lists : ∀ a, a < t.nextList → t'.lists a = t.lists a
  freed : t'.freed = t.freed
  fresh : (t'.preprocessors t.numPreprocessors).channelConfigs = none ∧ t'.nextList = t.nextList
    ∨ (t'.preprocessors t.numPreprocessors).channelConfigs = some t.nextList
      ∧ t'.nextList = t.nextList + 1

/-- The slot that is filled, and the heap, when the effect tells configurations. -/
theorem add_told (effect : H) {reply : ConfigsReply}
    (htold : reply.cmdStatus = 0 ∧ reply.status = 0) :
    (t.add effect reply).preprocessors t.numPreprocessors
        = ⟨some effect, reply.configs.length, some t.nextList⟩
      ∧ (t.add effect reply).lists = Function.update t.lists t.nextList reply.configs
      ∧ (t.add effect reply).nextList = t.nextList + 1 := by
  simp only [EffectTable.add, EffectTable.readAudioEffectChannelConfigs, htold.1, htold.2,
    ne_eq, not_true_eq_false, if_false, EffectTable.setSlot, Function.update_self, and_self]

theorem add_untold (hclear : t.preprocessors t.numPreprocessors = .cleared) (effect : H)
    {reply : ConfigsReply} (htold : ¬ (reply.cmdStatus = 0 ∧ reply.status = 0)) :
    (t.add effect reply).preprocessors t.numPreprocessors = ⟨some effect, 0, none⟩
      ∧ (t.add effect reply).lists = t.lists
      ∧ (t.add effect reply).nextList = t.nextList := by
  have hread : ∀ t' : EffectTable H,
      t'.readAudioEffectChannelConfigs t.numPreprocessors reply = t' := by
    intro t'
    rw [EffectTable.readAudioEffectChannelConfigs]
    by_cases hcmd : reply.cmdStatus ≠ 0
    · rw [if_pos hcmd]
    · rw [if_neg hcmd, if_pos (fun h => htold ⟨not_not.mp hcmd, h⟩)]
  simp only [EffectTable.add, hread, EffectTable.setSlot, Function.update_self, hclear,
    EffectInfo.cleared, and_self]

theorem add_others (effect : H) (reply : ConfigsReply) {i : Nat} (hi : i ≠ t.numPreprocessors) :
    (t.add effect reply).preprocessors i = t.preprocessors i := by
  simp only [EffectTable.add, EffectTable.readAudioEffectChannelConfigs, EffectTable.setSlot]
  split
  · exact Function.update_of_ne hi ..
  · split
    · exact Function.update_of_ne hi ..
    · exact (Function.update_of_ne hi ..).trans (Function.update_of_ne hi ..)

theorem add_rest (effect : H) (reply : ConfigsReply) :
    (t.add effect reply).numPreprocessors = t.numPreprocessors + 1
      ∧ (t.add effect reply).freed = t.freed := by
  simp only [EffectTable.add, EffectTable.readAudioEffectChannelConfigs, EffectTable.setSlot]
  split
  · exact ⟨rfl, rfl⟩
  · split
    · exact ⟨rfl, rfl⟩
    · exact ⟨rfl, rfl⟩

theorem added_add (hclear : t.preprocessors t.numPreprocessors = .cleared) (effect : H)
    (reply : ConfigsReply) : Added t (t.add effect reply) effect reply := by
  obtain ⟨hcount, hfreed⟩ := @add_rest H t effect reply
  by_cases htold : reply.cmdStatus = 0 ∧ reply.status = 0
  · obtain ⟨hslot, hlists, hnext⟩ := @add_told H t effect reply htold
    have hat : (t.add effect reply).lists t.nextList = reply.configs := by
      rw [hlists, Function.update_self]
    refine ⟨hcount, fun i hi => add_others effect reply hi, ?_, ?_, hfreed, Or.inr ?_⟩
    · rw [hslot, ConfigsReply.told, if_pos htold]
      exact ⟨rfl, congrArg some hat.symm, rfl⟩
    · intro a ha
      rw [hlists]
      exact Function.update_of_ne (Nat.ne_of_lt ha) ..
    · rw [hslot]
      exact ⟨rfl, hnext⟩
  · obtain ⟨hslot, hlists, hnext⟩ := add_untold hclear effect htold
    refine ⟨hcount, fun i hi => add_others effect reply hi, ?_, ?_, hfreed, Or.inl ?_⟩
    · rw [hslot, ConfigsReply.told, if_neg htold]
      exact ⟨rfl, rfl, rfl⟩
    · exact fun a _ => congrFun hlists a
    · rw [hslot]
      exact ⟨rfl, hnext⟩

/-- A live list has been allocated. -/
theorem live_lt (h : Holds t l) {i a : Nat} (hi : i < t.numPreprocessors)
    (ha : (t.preprocessors i).channelConfigs = some a) : a < t.nextList := by
  have hlive : a ∈ t.live :=
    List.mem_filterMap.mpr ⟨_, List.mem_map_of_mem (List.mem_range.mpr hi), ha⟩
  exact List.mem_range.mp (h.lists.subset (List.mem_append_left _ hlive))

/-- **ADDING** to a table that is not full. -/
theorem holds_add (h : Holds t l) (hroom : t.numPreprocessors < maxPreprocessors) (effect : H)
    (reply : ConfigsReply) : Holds (t.add effect reply) (l ++ [⟨effect, reply.told⟩]) := by
  have hadd := added_add (h.cleared _ (Nat.le_of_eq h.count.symm) hroom) effect reply
  generalize t.add effect reply = t' at hadd ⊢
  have hlength : (l ++ [(⟨effect, reply.told⟩ : Entry H)]).length = l.length + 1 :=
    List.length_append
  -- the live lists are those before, and the one of the new slot
  have hlive : t'.live = t.live
      ++ ((t'.preprocessors t.numPreprocessors).channelConfigs.toList) := by
    rw [EffectTable.live, hadd.count, List.range_succ, List.map_append, List.filterMap_append]
    refine congrArg₂ (· ++ ·) ?_ ?_
    · rw [EffectTable.live]
      refine congrArg (List.filterMap _) (List.map_congr_left fun i hi => ?_)
      exact hadd.others i (Nat.ne_of_lt (List.mem_range.mp hi))
    · rw [List.map_singleton]
      cases h : (t'.preprocessors t.numPreprocessors).channelConfigs with
      | none => rw [List.filterMap_cons_none h]; rfl
      | some a => rw [List.filterMap_cons_some h]; rfl
  refine ⟨?_, ?_, ?_, ?_, ?_⟩
  · rw [hadd.count, h.count, hlength]
  · rw [hadd.count]
    exact hroom
  · intro i hi
    rw [hlength] at hi
    by_cases hlast : i = l.length
    · have hnum : i = t.numPreprocessors := hlast.trans h.count.symm
      rw [List.getElem_append_right (Nat.le_of_eq hlast.symm)]
      simp only [List.getElem_singleton]
      rw [hnum]
      exact hadd.slot
    · have hlt : i < l.length := by omega
      rw [List.getElem_append_left hlt, hadd.others i (by rw [h.count]; exact hlast)]
      obtain ⟨heffect, hconfigs, hnum⟩ := h.slots i hlt
      refine ⟨heffect, ?_, hnum⟩
      rw [hconfigs]
      cases ha : (t.preprocessors i).channelConfigs with
      | none => rfl
      | some a =>
          exact congrArg some (hadd.lists a (live_lt h (by rw [h.count]; exact hlt) ha)).symm
  · intro i hle hlt
    rw [hlength] at hle
    rw [hadd.others i (by rw [h.count]; omega)]
    exact h.cleared i (by omega) hlt
  · rw [hlive, hadd.freed]
    obtain ⟨hnone, hnext⟩ | ⟨hsome, hnext⟩ := hadd.fresh
    · rw [hnone, hnext, Option.toList_none, List.append_nil]
      exact h.lists
    · rw [hsome, hnext, Option.toList_some, List.range_succ]
      refine List.Perm.trans ?_ (h.lists.append_right [t.nextList])
      rw [List.append_assoc, List.append_assoc]
      exact List.perm_append_comm.append_left t.live

end Add

-- ── Removing ─────────────────────────────────────────────────────────────────

section Remove

variable [DecidableEq H] {t : EffectTable H} {l : List (Entry H)} {effect : H}

theorem einval_ne_zero : einval ≠ 0 := by decide

/-- The loop as long as no slot has the effect. -/
theorem loop_unmatched {k : Nat}
    (h : ∀ i < k, (t.preprocessors i).effectItfe ≠ some effect) :
    (List.range k).foldl (removeRound effect) (t, einval) = (t, einval) := by
  induction k with
  | zero => rfl
  | succ k ih =>
      rw [List.range_succ, List.foldl_append, ih (fun i hi => h i (Nat.lt_succ_of_lt hi)),
        List.foldl_cons, List.foldl_nil, removeRound, if_neg einval_ne_zero,
        if_neg (h k (Nat.lt_succ_self k))]

/-- The loop from the first slot `j` with the effect on: its list is freed, and
    every later slot has moved down. -/
theorem loop_matched {j : Nat} (hfirst : ∀ i < j, (t.preprocessors i).effectItfe ≠ some effect)
    (hj : (t.preprocessors j).effectItfe = some effect) {k : Nat} (hk : j + 1 ≤ k) :
    (List.range k).foldl (removeRound effect) (t, einval)
      = ({ t with
            preprocessors := fun i =>
              if j ≤ i ∧ i + 1 < k then t.preprocessors (i + 1) else t.preprocessors i
            freed := t.freed ++ (t.preprocessors j).channelConfigs.toList }, 0) := by
  induction hk with
  | refl =>
      rw [List.range_succ, List.foldl_append, loop_unmatched hfirst, List.foldl_cons,
        List.foldl_nil, removeRound, if_neg einval_ne_zero, if_pos hj]
      have hsame : (fun i => if j ≤ i ∧ i + 1 < j + 1 then t.preprocessors (i + 1)
          else t.preprocessors i) = t.preprocessors :=
        funext fun i => if_neg (by omega)
      rw [hsame]
      rfl
  | @step k hk ih =>
      have hk : j + 1 ≤ k := hk
      rw [List.range_succ, List.foldl_append, ih, List.foldl_cons, List.foldl_nil, removeRound,
        if_pos rfl, EffectTable.setSlot]
      have hslots : Function.update (fun i => if j ≤ i ∧ i + 1 < k then t.preprocessors (i + 1)
            else t.preprocessors i) (k - 1)
          (if j ≤ k ∧ k + 1 < k then t.preprocessors (k + 1) else t.preprocessors k)
          = fun i => if j ≤ i ∧ i + 1 < k + 1 then t.preprocessors (i + 1)
            else t.preprocessors i := by
        funext i
        by_cases hi : i = k - 1
        · have hnext : k - 1 + 1 = k := by omega
          rw [hi, Function.update_self, if_neg (by omega), if_pos (by omega), hnext]
        · rw [Function.update_of_ne hi]
          by_cases hin : j ≤ i ∧ i + 1 < k
          · rw [if_pos hin, if_pos (by omega)]
          · rw [if_neg hin, if_neg (by omega)]
      simp only [hslots]

theorem remove_empty (h : t.numPreprocessors = 0) : t.remove effect = (t, enosys) := by
  rw [EffectTable.remove, if_pos h]

theorem remove_unmatched (hpos : t.numPreprocessors ≠ 0)
    (h : ∀ i < t.numPreprocessors, (t.preprocessors i).effectItfe ≠ some effect) :
    t.remove effect = (t, einval) := by
  rw [EffectTable.remove, if_neg hpos, loop_unmatched h]
  rfl

/-- What removing the effect of slot `j` does. -/
structure Removed (t t' : EffectTable H) (j : Nat) : Prop where
  count : t'.numPreprocessors + 1 = t.numPreprocessors
  before : ∀ i < j, t'.preprocessors i = t.preprocessors i
  moved : ∀ i, j ≤ i → i < t'.numPreprocessors → t'.preprocessors i = t.preprocessors (i + 1)
  last : t'.preprocessors t'.numPreprocessors = .cleared
  behind : ∀ i, t.numPreprocessors ≤ i → t'.preprocessors i = t.preprocessors i
  lists : t'.lists = t.lists ∧ t'.nextList = t.nextList
  freed : t'.freed = t.freed ++ (t.preprocessors j).channelConfigs.toList

theorem removed_remove {j : Nat} (hlt : j < t.numPreprocessors)
    (hfirst : ∀ i < j, (t.preprocessors i).effectItfe ≠ some effect)
    (hj : (t.preprocessors j).effectItfe = some effect) :
    (t.remove effect).2 = 0 ∧ Removed t (t.remove effect).1 j := by
  have hpos : t.numPreprocessors ≠ 0 := by omega
  rw [EffectTable.remove, if_neg hpos, loop_matched hfirst hj hlt, if_neg (not_not_intro rfl)]
  refine ⟨rfl, ?_, ?_, ?_, ?_, ?_, ⟨rfl, rfl⟩, rfl⟩
  · show t.numPreprocessors - 1 + 1 = t.numPreprocessors
    omega
  · intro i hi
    have hne : i ≠ t.numPreprocessors - 1 := by omega
    exact (Function.update_of_ne hne ..).trans (if_neg (by omega))
  · intro i hle hi
    have hi' : i < t.numPreprocessors - 1 := hi
    have hne : i ≠ t.numPreprocessors - 1 := by omega
    exact (Function.update_of_ne hne ..).trans (if_pos (by omega))
  · exact Function.update_self ..
  · intro i hi
    have hne : i ≠ t.numPreprocessors - 1 := by omega
    exact (Function.update_of_ne hne ..).trans (if_neg (by omega))

/-- The first slot with an effect, if one has it. -/
theorem first_match (t : EffectTable H) (effect : H) :
    (∀ i < t.numPreprocessors, (t.preprocessors i).effectItfe ≠ some effect)
      ∨ ∃ j < t.numPreprocessors, (t.preprocessors j).effectItfe = some effect
        ∧ ∀ i < j, (t.preprocessors i).effectItfe ≠ some effect := by
  by_cases h : ∃ j, j < t.numPreprocessors ∧ (t.preprocessors j).effectItfe = some effect
  · obtain ⟨hlt, hj⟩ := Nat.find_spec h
    refine Or.inr ⟨Nat.find h, hlt, hj, fun i hi hmatch => ?_⟩
    exact Nat.find_min h hi ⟨Nat.lt_trans hi hlt, hmatch⟩
  · exact Or.inl fun i hi hmatch => h ⟨i, hi, hmatch⟩

omit [DecidableEq H] in
/-- The slots after a removal are those before without the one. -/
theorem slots_removed {t' : EffectTable H} {j : Nat} (hlt : j < t.numPreprocessors)
    (h : Removed t t' j) :
    (List.range t'.numPreprocessors).map t'.preprocessors
      = ((List.range t.numPreprocessors).map t.preprocessors).eraseIdx j := by
  have hcount := h.count
  refine List.ext_getElem ?_ ?_
  · rw [List.length_map, List.length_range, List.length_eraseIdx, List.length_map,
      List.length_range, if_pos hlt]
    omega
  · intro i hi _
    rw [List.length_map, List.length_range] at hi
    rw [List.getElem_eraseIdx]
    split
    · rename_i hbefore
      rw [List.getElem_map, List.getElem_map, List.getElem_range, List.getElem_range]
      exact h.before i hbefore
    · rename_i hbehind
      rw [List.getElem_map, List.getElem_map, List.getElem_range, List.getElem_range]
      exact h.moved i (Nat.not_lt.mp hbehind) hi

omit [DecidableEq H] in
/-- **REMOVING** the oldest entry of an effect. -/
theorem holds_remove (h : Holds t l) {t' : EffectTable H} {j : Nat} (hj : j < l.length)
    (hremoved : Removed t t' j) : Holds t' (l.eraseIdx j) := by
  have hcount := hremoved.count
  have hlength : (l.eraseIdx j).length + 1 = l.length := by
    rw [List.length_eraseIdx, if_pos hj]
    omega
  have hnum := h.count
  obtain ⟨hlists, hnext⟩ := hremoved.lists
  refine ⟨by omega, ?_, ?_, ?_, ?_⟩
  · exact Nat.le_trans (by omega) h.bounded
  · intro i hi
    rw [List.getElem_eraseIdx, hlists]
    split
    · rename_i hbefore
      rw [hremoved.before i hbefore]
      exact h.slots i (by omega)
    · rename_i hbehind
      rw [hremoved.moved i (Nat.not_lt.mp hbehind) (by omega)]
      exact h.slots (i + 1) (by omega)
  · intro i hle hlt
    by_cases hlast : i = t'.numPreprocessors
    · rw [hlast]
      exact hremoved.last
    · rw [hremoved.behind i (by omega)]
      exact h.cleared i (by omega) hlt
  · have hin : j < ((List.range t.numPreprocessors).map t.preprocessors).length := by
      rw [List.length_map, List.length_range]
      omega
    have hperm := (List.getElem_cons_eraseIdx_perm hin).filterMap EffectInfo.channelConfigs
    rw [← slots_removed (by omega) hremoved, List.getElem_map, List.getElem_range] at hperm
    have hlive : (t'.live ++ (t.preprocessors j).channelConfigs.toList).Perm t.live := by
      refine List.Perm.trans ?_ hperm
      cases ha : (t.preprocessors j).channelConfigs with
      | none =>
          rw [List.filterMap_cons_none ha, Option.toList_none, List.append_nil]
          exact List.Perm.refl _
      | some a =>
          rw [List.filterMap_cons_some ha]
          exact List.perm_append_singleton a t'.live
    rw [hremoved.freed, hnext]
    refine List.Perm.trans ?_ h.lists
    refine List.Perm.trans ?_ (hlive.append_right t.freed)
    rw [List.append_assoc]
    exact List.perm_append_comm.append_left t'.live

end Remove

-- ── Every call ───────────────────────────────────────────────────────────────

/-- The call adds an effect while the table is full. -/
def EffectTable.overfills (t : EffectTable H) (c : Call H) : Prop :=
  c.descStatus = 0 ∧ c.enable = true ∧ t.numPreprocessors = maxPreprocessors

section Calls

variable [DecidableEq H] {t : EffectTable H} {l : List (Entry H)} {c : Call H}

/-- A call that is rejected changes nothing, whatever the table. -/
theorem rejected_unchanged (t : EffectTable H) (c : Call H) :
    (t.addRemoveAudioEffect c).2 = 0 ∨ (t.addRemoveAudioEffect c).1 = t := by
  rw [EffectTable.addRemoveAudioEffect]
  split
  · exact Or.inr rfl
  · split
    · exact Or.inr rfl
    · split
      · exact Or.inl rfl
      · by_cases hempty : t.numPreprocessors = 0
        · rw [remove_empty hempty]
          exact Or.inr rfl
        · obtain hnone | ⟨j, hlt, hj, hfirst⟩ := first_match t c.effect
          · rw [remove_unmatched hempty hnone]
            exact Or.inr rfl
          · exact Or.inl (removed_remove hlt hfirst hj).1

/-- **STEP**: a call keeps the table and the register together, if it does not
    add to a full table. -/
theorem holds_step (h : Holds t l) (hok : ¬ t.overfills c) :
    Holds (t.addRemoveAudioEffect c).1 (register l c) := by
  have hnum := h.count
  have hbounded := h.bounded
  rw [EffectTable.addRemoveAudioEffect, register]
  by_cases hdesc : c.descStatus = 0
  · rw [if_neg (not_not_intro hdesc), if_neg (not_not_intro hdesc)]
    by_cases henable : c.enable = true
    · have hne : t.numPreprocessors ≠ maxPreprocessors := fun hfull => hok ⟨hdesc, henable, hfull⟩
      have hroom : t.numPreprocessors < maxPreprocessors := by omega
      rw [if_neg (by omega), if_pos henable, if_pos henable, if_pos (by omega)]
      exact holds_add h hroom c.effect c.reply
    · rw [if_neg (fun hfull => henable hfull.2), if_neg henable, if_neg henable]
      have hslot : ∀ i (hi : i < l.length), (t.preprocessors i).effectItfe = some c.effect
          ↔ l[i].effect = c.effect := by
        intro i hi
        rw [(h.slots i hi).effect]
        exact Option.some_inj
      obtain hnone | ⟨j, hlt, hj, hfirst⟩ := first_match t c.effect
      · have herase : l.eraseP (fun e => e.effect = c.effect) = l := by
          refine List.eraseP_of_forall_not fun e he heffect => ?_
          obtain ⟨i, hi, rfl⟩ := List.getElem_of_mem he
          exact hnone i (by omega) ((hslot i hi).mpr (by simpa using heffect))
        rw [herase]
        by_cases hempty : t.numPreprocessors = 0
        · rw [remove_empty hempty]
          exact h
        · rw [remove_unmatched hempty hnone]
          exact h
      · have hj' : j < l.length := by omega
        have herase : l.eraseP (fun e => e.effect = c.effect) = l.eraseIdx j := by
          have hindex : l.findIdx? (fun e => decide (e.effect = c.effect)) = some j := by
            refine List.findIdx?_eq_some_iff_getElem.mpr ⟨hj', ?_, ?_⟩
            · exact decide_eq_true ((hslot j hj').mp hj)
            · intro i hi hmatch
              exact hfirst i hi ((hslot i (by omega)).mpr (by simpa using hmatch))
          rw [List.eraseP_eq_eraseIdx, hindex]
        rw [herase]
        exact holds_remove h hj' (removed_remove hlt hfirst hj).2
  · rw [if_pos hdesc, if_pos hdesc]
    exact h

theorem descStatus_of_accepted (h : (t.addRemoveAudioEffect c).2 = 0) : c.descStatus = 0 := by
  rw [EffectTable.addRemoveAudioEffect] at h
  split at h
  · exact h
  · rename_i hdesc
    exact not_not.mp hdesc

theorem overfills_accepted (h : t.overfills c) : (t.addRemoveAudioEffect c).2 = 0 := by
  obtain ⟨hdesc, henable, hfull⟩ := h
  rw [EffectTable.addRemoveAudioEffect, if_neg (not_not_intro hdesc), if_neg (by omega),
    if_pos henable]

/-- Adding to a full table writes behind it. -/
theorem overfilled (h : t.overfills c) :
    (t.addRemoveAudioEffect c).1.numPreprocessors = maxPreprocessors + 1 := by
  obtain ⟨hdesc, henable, hfull⟩ := h
  rw [EffectTable.addRemoveAudioEffect, if_neg (not_not_intro hdesc), if_neg (by omega),
    if_pos henable, (add_rest c.effect c.reply).1, hfull]

/-- The table beside the register. -/
def callStep (s : EffectTable H × List (Entry H)) (c : Call H) :
    Option (EffectTable H × List (Entry H)) :=
  some ((s.1.addRemoveAudioEffect c).1, register s.2 c)

/-- **PREPROCESSORS**: all along any sequence of calls the table holds the
    effects added and not yet removed, exactly if none of the calls adds to a
    full table; and no rejected call changes anything. -/
theorem preprocessors_registered (calls : List (Call H)) :
    (∀ (t : EffectTable H) (c : Call H),
        (t.addRemoveAudioEffect c).2 = 0 ∨ (t.addRemoveAudioEffect c).1 = t)
      ∧ (Always callStep (fun s => Holds s.1 s.2) (.empty, []) calls
        ↔ StepsMeet callStep (fun s c => ¬ s.1.overfills c) (.empty, []) calls) := by
  refine ⟨rejected_unchanged, ?_⟩
  refine always_iff_stepsMeet (fun _ h => h) ?_ ?_ calls holds_empty
  · intro s c s' h hok hstep
    obtain rfl := Option.some.inj hstep
    exact holds_step h hok
  · intro s c s' _ hstep h hover
    obtain rfl := Option.some.inj hstep
    have hbounded := h.bounded
    rw [overfilled hover] at hbounded
    exact absurd hbounded (by decide)

/-- Effect `n`, which has no auxiliary channels, is added. -/
def addition (n : Nat) : Call Nat where
  effect := n
  enable := true
  descStatus := 0
  reply := { cmdStatus := -22, status := 0, configs := [] }

theorem fourth_effect_added :
    ¬ Always callStep (fun s => Holds s.1 s.2) (.empty, [])
      [addition 0, addition 1, addition 2, addition 3] := by
  intro h
  have hbounded := (h [addition 0, addition 1, addition 2, addition 3] [] _ rfl rfl).bounded
  exact absurd hbounded (by decide)

end Calls

end Preprocessor

import Mathlib.Data.List.Nodup
import Universal7580.RunProofs
import Universal7580.AnswerSlotProofs
import Universal7580.BtVendorInterfaceProofs

/-! # The vendor library's own commands (`internal_command`)

    The vendor library sends HCI commands of its own through `transmit_cb`, in
    between those of the stack, and the controller answers all of them in the
    order they went out.  `HandleIncomingEvent` has to tell the answers apart:
    the library's go to the callback given with the command, everything else
    goes to the stack.  It has one slot for that, `internal_command`, which the
    next command of the library overwrites, and it compares opcodes only.

    `Bus` is the interface together with the controller's side of it: the
    commands that wait for their Command Complete, and what has arrived.

    * `internal_commands`: the answers reach whom they are for as long as the
      library sends only with the slot empty, and no opcode that waits for an
      answer; in a run with every command answered that condition is exact.
    * `events_in_bounds`: the match reads the event at fixed places, whatever its
      length; `handleEventRead` is the function with these reads. -/

namespace BtInternalCommand

open BtVendor Run

-- ── The controller ───────────────────────────────────────────────────────────

/-- An HCI command that went out; `callback` is the one given with it. -/
structure Cmd where
  id : Nat
  data : Packet
  callback : Option Nat
  deriving DecidableEq

/-- A command starts with its opcode. -/
def Cmd.opcode (c : Cmd) : UInt16 :=
  opcodeAt c.data 0

/-- An event that came in, with the command it is the Command Complete of. -/
structure Arrival where
  answers : Option Cmd
  packet : Packet
  deriving DecidableEq

/-- The interface and the controller. -/
structure Bus where
  hal : Hal
  sent : List Cmd
  waiting : List Cmd
  arrivals : List Arrival
  deriving DecidableEq

inductive Act where
  /-- The library sends, from wherever it runs, a callback included. -/
  | transmit (opcode : UInt16) (data : Packet) (callback : Option Nat)
  /-- The stack sends a packet of any type. -/
  | send (type : UInt8) (data : Packet)
  /-- The Command Complete of the command that waits longest. -/
  | answer (packet : Packet)
  /-- Any other event. -/
  | event (packet : Packet)

/-- The Command Complete event of a command. -/
def Completes (c : Cmd) (packet : Packet) : Prop :=
  5 ≤ packet.length ∧ packet.getD 0 0 = HCI_COMMAND_COMPLETE_EVENT
    ∧ opcodeAt packet (HCI_EVENT_PREAMBLE_SIZE + 1) = c.opcode

instance (c : Cmd) (packet : Packet) : Decidable (Completes c packet) :=
  inferInstanceAs (Decidable (_ ∧ _ ∧ _))

/-- A command goes out. -/
def Bus.put (b : Bus) (hal : Hal) (data : Packet) (callback : Option Nat) : Bus :=
  let c : Cmd := { id := b.sent.length, data := data, callback := callback }
  { b with hal := hal, sent := b.sent ++ [c], waiting := b.waiting ++ [c] }

/-- An event comes in. -/
def Bus.arrive (b : Bus) (answers : Option Cmd) (waiting : List Cmd) (packet : Packet) : Bus :=
  { b with hal := handleIncomingEvent b.hal packet
           waiting := waiting
           arrivals := b.arrivals ++ [{ answers := answers, packet := packet }] }

def step (b : Bus) : Act → Option Bus
  | .transmit opcode data callback =>
      if opcodeAt data 0 = opcode then
        match transmit_cb b.hal opcode data callback with
        | none => none
        | some hal => some (b.put hal data callback)
      else none
  | .send type data =>
      match send b.hal type data with
      | none => none
      | some hal =>
          if type = HCI_PACKET_TYPE_COMMAND then some (b.put hal data none)
          else some { b with hal := hal }
  | .answer packet =>
      match b.waiting with
      | [] => none
      | c :: rest => if Completes c packet then some (b.arrive (some c) rest packet) else none
  | .event packet =>
      if packet ≠ [] ∧ packet.getD 0 0 ≠ HCI_COMMAND_COMPLETE_EVENT then
        some (b.arrive none b.waiting packet)
      else none

/-- Nothing was sent yet. -/
def busInit (hal : Hal) : Bus :=
  { hal := hal, sent := [], waiting := [], arrivals := [] }

/-- The interface after `Open`, with no command of the library on its way. -/
structure Starts (hal : Hal) : Prop where
  opened : Opened hal
  slot : hal.internal_command.cb = none
  out : ∀ e ∈ hal.out, ∃ o, e = Effect.op o

-- ── What is due ──────────────────────────────────────────────────────────────

/-- Where an event goes: to a callback, or to `event_cb_`. -/
def handOver (cb : Option Nat) (packet : Packet) : Effect :=
  match cb with
  | some cb => .saved_cb cb packet
  | none => .event_cb packet

/-- Where an event should go: the answer to a command with a callback goes to
    that callback, any other event to the stack. -/
def due (a : Arrival) : Effect :=
  handOver (a.answers.bind Cmd.callback) a.packet

def isHandOver : Effect → Bool
  | .saved_cb _ _ => true
  | .event_cb _ => true
  | _ => false

/-- The events handed over so far are those that came in, each where it should
    go; and those that answer, answer all commands but the waiting ones, each
    once and in order. -/
structure Delivered (b : Bus) : Prop where
  due : b.hal.out.filter isHandOver = b.arrivals.map due
  inOrder : b.sent = b.arrivals.filterMap Arrival.answers ++ b.waiting
  once : (b.sent.map Cmd.id).Nodup

/-- The library sends with the slot empty; and if it wants the answer, no
    command with the same opcode waits for its own. -/
def KeepsSlot (b : Bus) : Act → Prop
  | .transmit opcode _ callback =>
      b.hal.internal_command.cb = none
        ∧ (callback ≠ none → ∀ c ∈ b.waiting, c.opcode ≠ opcode)
  | _ => True

-- ── The slot ─────────────────────────────────────────────────────────────────

/-- `internal_command` as a slot. -/
def slotOf (c : InternalCommand) : Option (Nat × UInt16) :=
  c.cb.map fun cb => (cb, c.opcode)

def FitsSlot (b : Bus) : Prop :=
  AnswerSlot.Fits Cmd.callback Cmd.opcode (slotOf b.hal.internal_command) b.waiting

/-- What every step keeps, whatever the library does. -/
structure Base (b : Bus) : Prop where
  opened : Opened b.hal
  held : AnswerSlot.Held Cmd.callback Cmd.opcode (slotOf b.hal.internal_command) b.waiting
  inOrder : b.sent = b.arrivals.filterMap Arrival.answers ++ b.waiting
  ids : b.sent.map Cmd.id = List.range b.sent.length

theorem match_complete {packet : Packet} (h : packet.getD 0 0 = HCI_COMMAND_COMPLETE_EVENT)
    (c : InternalCommand) :
    internal_command_event_match c packet
      = (opcodeAt packet (HCI_EVENT_PREAMBLE_SIZE + 1) == c.opcode) := by
  rw [internal_command_event_match, if_neg (not_not_intro h)]

/-- A Command Complete meets the slot. -/
theorem handleIncomingEvent_complete {s : Hal} {packet : Packet}
    (h : packet.getD 0 0 = HCI_COMMAND_COMPLETE_EVENT) :
    slotOf (handleIncomingEvent s packet).internal_command
        = (AnswerSlot.deliver (slotOf s.internal_command)
            (opcodeAt packet (HCI_EVENT_PREAMBLE_SIZE + 1))).2
      ∧ (handleIncomingEvent s packet).out
        = s.out ++ [handOver (AnswerSlot.deliver (slotOf s.internal_command)
            (opcodeAt packet (HCI_EVENT_PREAMBLE_SIZE + 1))).1 packet] := by
  cases hcb : s.internal_command.cb with
  | none => simp [handleIncomingEvent, hcb, slotOf, AnswerSlot.deliver, handOver, Hal.emit]
  | some cb =>
      by_cases hop : opcodeAt packet (HCI_EVENT_PREAMBLE_SIZE + 1) = s.internal_command.opcode
      · simp [handleIncomingEvent, match_complete h, hcb, hop, slotOf, AnswerSlot.deliver,
          handOver, Hal.emit]
      · simp [handleIncomingEvent, match_complete h, hcb, hop, slotOf, AnswerSlot.deliver,
          handOver, Hal.emit]

/-- Any other event passes it. -/
theorem handleIncomingEvent_other {s : Hal} {packet : Packet}
    (h : packet.getD 0 0 ≠ HCI_COMMAND_COMPLETE_EVENT) :
    handleIncomingEvent s packet = s.emit [.event_cb packet] := by
  cases hcb : s.internal_command.cb with
  | none => simp only [handleIncomingEvent, hcb]
  | some cb =>
      simp only [handleIncomingEvent, hcb, internal_command_event_match, if_pos h]
      rfl

theorem opened_handleIncomingEvent {s : Hal} (hs : Opened s) (packet : Packet) :
    Opened (handleIncomingEvent s packet) := by
  obtain ⟨v, hv, hrest⟩ := hs
  refine ⟨v, ?_, hrest⟩
  rw [← hv]
  simp only [handleIncomingEvent]
  split
  · split <;> rfl
  · rfl

/-- Packets that go out are not events that come in. -/
theorem filter_send {s s' : Hal} (hs : Opened s) {type : UInt8} {data : Packet}
    (h : send s type data = some s') :
    s'.out.filter isHandOver = s.out.filter isHandOver := by
  rcases send_cases hs h with ⟨-, rfl⟩ | ⟨-, v, -, -, -, rfl⟩
  · exact (List.filter_append _ _).trans (List.append_nil _)
  · exact (List.filter_append _ _).trans (List.append_nil _)

-- ── What a step does ─────────────────────────────────────────────────────────

/-- A command goes out: the slot afterwards, and nothing handed over. -/
structure Put (b b' : Bus) (slot : Option (Nat × UInt16)) (c : Cmd) : Prop where
  opened : Opened b'.hal
  slot : slotOf b'.hal.internal_command = slot
  handed : b'.hal.out.filter isHandOver = b.hal.out.filter isHandOver
  sent : b'.sent = b.sent ++ [c]
  waiting : b'.waiting = b.waiting ++ [c]
  arrivals : b'.arrivals = b.arrivals
  id : c.id = b.sent.length

/-- An event comes in: who gets it, and the slot afterwards. -/
structure Arrived (b b' : Bus) (cb : Option Nat) (slot : Option (Nat × UInt16))
    (waiting : List Cmd) (a : Arrival) : Prop where
  opened : Opened b'.hal
  slot : slotOf b'.hal.internal_command = slot
  handed : b'.hal.out.filter isHandOver = b.hal.out.filter isHandOver ++ [handOver cb a.packet]
  sent : b'.sent = b.sent
  waiting : b'.waiting = waiting
  arrivals : b'.arrivals = b.arrivals ++ [a]

theorem isHandOver_handOver (cb : Option Nat) (packet : Packet) :
    isHandOver (handOver cb packet) = true := by
  cases cb <;> rfl

theorem put_transmit {b b' : Bus} (hb : Opened b.hal) {opcode : UInt16} {data : Packet}
    {callback : Option Nat} (h : step b (.transmit opcode data callback) = some b') :
    opcodeAt data 0 = opcode
      ∧ ∃ c : Cmd, c.callback = callback ∧ c.opcode = opcode
        ∧ Put b b' (AnswerSlot.slotFor Cmd.callback Cmd.opcode c) c := by
  rw [step] at h
  split at h
  · rename_i hop
    split at h
    · exact nomatch h
    · rename_i hal hsend
      obtain rfl := Option.some.inj h
      have hb' : Opened { b.hal with internal_command := { cb := callback, opcode := opcode } } :=
        hb
      rw [transmit_cb] at hsend
      have hslot := internal_command_send hb' hsend
      have hhanded := filter_send hb' hsend
      refine ⟨hop, { id := b.sent.length, data := data, callback := callback }, rfl, hop,
        opened_send hb' hsend, ?_, hhanded, rfl, rfl, rfl, rfl⟩
      show slotOf hal.internal_command = _
      rw [hslot]
      show callback.map _ = callback.map _
      rw [← hop]
      rfl
  · exact nomatch h

theorem put_send {b b' : Bus} (hb : Opened b.hal) {type : UInt8} {data : Packet}
    (h : step b (.send type data) = some b') :
    (∃ c : Cmd, c.callback = none ∧ Put b b' (slotOf b.hal.internal_command) c)
      ∨ (Opened b'.hal ∧ b'.hal.internal_command = b.hal.internal_command
        ∧ b'.hal.out.filter isHandOver = b.hal.out.filter isHandOver
        ∧ b'.sent = b.sent ∧ b'.waiting = b.waiting ∧ b'.arrivals = b.arrivals) := by
  rw [step] at h
  split at h
  · exact nomatch h
  · rename_i hal hsend
    have hslot := internal_command_send hb hsend
    split at h
    · obtain rfl := Option.some.inj h
      exact Or.inl ⟨_, rfl, opened_send hb hsend, congrArg slotOf hslot,
        filter_send hb hsend, rfl, rfl, rfl, rfl⟩
    · obtain rfl := Option.some.inj h
      exact Or.inr ⟨opened_send hb hsend, hslot, filter_send hb hsend, rfl, rfl, rfl⟩

theorem arrived_answer {b b' : Bus} (hb : Opened b.hal) {packet : Packet}
    (h : step b (.answer packet) = some b') :
    ∃ c rest, b.waiting = c :: rest
      ∧ Arrived b b' (AnswerSlot.deliver (slotOf b.hal.internal_command) c.opcode).1
          (AnswerSlot.deliver (slotOf b.hal.internal_command) c.opcode).2 rest
          { answers := some c, packet := packet } := by
  rw [step] at h
  split at h
  · exact nomatch h
  · rename_i c rest hwaiting
    split at h
    · rename_i hcomplete
      obtain ⟨-, hevent, hop⟩ := hcomplete
      obtain rfl := Option.some.inj h
      obtain ⟨hslot, hout⟩ := handleIncomingEvent_complete (s := b.hal) hevent
      rw [hop] at hslot hout
      refine ⟨c, rest, hwaiting, opened_handleIncomingEvent hb packet, hslot, ?_, rfl, rfl, rfl⟩
      show (handleIncomingEvent b.hal packet).out.filter isHandOver = _
      rw [hout, List.filter_append]
      congr 1
      exact List.filter_cons_of_pos (isHandOver_handOver _ _)
    · exact nomatch h

theorem arrived_event {b b' : Bus} (hb : Opened b.hal) {packet : Packet}
    (h : step b (.event packet) = some b') :
    Arrived b b' none (slotOf b.hal.internal_command) b.waiting
      { answers := none, packet := packet } := by
  rw [step] at h
  split at h
  · rename_i hother
    obtain rfl := Option.some.inj h
    have hev := handleIncomingEvent_other (s := b.hal) hother.2
    refine ⟨opened_handleIncomingEvent hb packet, ?_, ?_, rfl, rfl, rfl⟩
    · show slotOf (handleIncomingEvent b.hal packet).internal_command = _
      rw [hev]
      rfl
    · show (handleIncomingEvent b.hal packet).out.filter isHandOver = _
      rw [hev]
      exact List.filter_append _ _
  · exact nomatch h

-- ── Every step keeps the base ────────────────────────────────────────────────

theorem base_put {b b' : Bus} {slot : Option (Nat × UInt16)} {c : Cmd} (hb : Base b)
    (h : Put b b' slot c)
    (hheld : AnswerSlot.Held Cmd.callback Cmd.opcode slot (b.waiting ++ [c])) : Base b' := by
  refine ⟨h.opened, ?_, ?_, ?_⟩
  · rw [h.slot, h.waiting]
    exact hheld
  · rw [h.sent, h.arrivals, h.waiting, hb.inOrder, List.append_assoc]
  · rw [h.sent, List.map_append, hb.ids, List.length_append]
    show _ = List.range (b.sent.length + 1)
    rw [List.range_succ, List.map_singleton, h.id]

theorem base_arrived {b b' : Bus} {cb : Option Nat} {slot : Option (Nat × UInt16)}
    {waiting : List Cmd} {a : Arrival} (hb : Base b) (h : Arrived b b' cb slot waiting a)
    (hheld : AnswerSlot.Held Cmd.callback Cmd.opcode slot waiting)
    (hcat : b.waiting = a.answers.toList ++ waiting) : Base b' := by
  refine ⟨h.opened, ?_, ?_, ?_⟩
  · rw [h.slot, h.waiting]
    exact hheld
  · rw [h.sent, h.arrivals, h.waiting, hb.inOrder, hcat, List.filterMap_append]
    cases ha : a.answers with
    | none => simp [ha]
    | some c => simp [ha]
  · rw [h.sent]
    exact hb.ids

theorem base_step (b : Bus) (a : Act) (b' : Bus) (hb : Base b) (h : step b a = some b') :
    Base b' := by
  cases a with
  | transmit opcode data callback =>
      obtain ⟨-, c, -, -, hput⟩ := put_transmit hb.opened h
      exact base_put hb hput (AnswerSlot.held_register _ _ c b.waiting)
  | send type data =>
      rcases put_send hb.opened h with ⟨c, -, hput⟩ | ⟨hopen, hslot, -, hsent, hwait, harr⟩
      · exact base_put hb hput (AnswerSlot.held_append _ _ c hb.held)
      · refine ⟨hopen, ?_, ?_, ?_⟩
        · rw [hslot, hwait]
          exact hb.held
        · rw [hsent, harr, hwait]
          exact hb.inOrder
        · rw [hsent]
          exact hb.ids
  | answer packet =>
      obtain ⟨c, rest, hwaiting, harr⟩ := arrived_answer hb.opened h
      refine base_arrived hb harr ?_ hwaiting
      have hheld := hb.held
      rw [hwaiting] at hheld
      exact AnswerSlot.held_deliver _ _ hheld
  | event packet => exact base_arrived hb (arrived_event hb.opened h) hb.held rfl

-- ── Who gets the answers ─────────────────────────────────────────────────────

/-- The slot is right, and everything so far went where it should. -/
structure Matched (b : Bus) : Prop where
  base : Base b
  fits : FitsSlot b
  due : b.hal.out.filter isHandOver = b.arrivals.map due

theorem delivered_of_matched (b : Bus) (h : Matched b) : Delivered b := by
  refine ⟨h.due, h.base.inOrder, ?_⟩
  rw [h.base.ids]
  exact List.nodup_range

theorem due_put {b b' : Bus} {slot : Option (Nat × UInt16)} {c : Cmd} (h : Put b b' slot c)
    (hdue : b.hal.out.filter isHandOver = b.arrivals.map due) :
    b'.hal.out.filter isHandOver = b'.arrivals.map due := by
  rw [h.handed, h.arrivals, hdue]

/-- An event that goes to the callback of the command it answers goes where it
    should, and only then. -/
theorem due_arrived {b b' : Bus} {cb : Option Nat} {slot : Option (Nat × UInt16)}
    {waiting : List Cmd} {a : Arrival} (h : Arrived b b' cb slot waiting a)
    (hdue : b.hal.out.filter isHandOver = b.arrivals.map due) :
    b'.hal.out.filter isHandOver = b'.arrivals.map due ↔ cb = a.answers.bind Cmd.callback := by
  rw [h.handed, h.arrivals, hdue, List.map_append, List.append_cancel_left_eq]
  show [handOver cb a.packet] = [handOver (a.answers.bind Cmd.callback) a.packet] ↔ _
  rw [List.cons.injEq, and_iff_left rfl]
  cases cb with
  | none => cases hcb : a.answers.bind Cmd.callback <;> simp [handOver]
  | some k => cases hcb : a.answers.bind Cmd.callback <;> simp [handOver]

/-- **STEP**: with the condition met, a right slot stays right. -/
theorem matched_step (b : Bus) (a : Act) (b' : Bus) (hb : Matched b) (hok : KeepsSlot b a)
    (h : step b a = some b') : Matched b' := by
  refine ⟨base_step b a b' hb.base h, ?_, ?_⟩
  · cases a with
    | transmit opcode data callback =>
        obtain ⟨-, c, rfl, rfl, hput⟩ := put_transmit hb.base.opened h
        have hempty : slotOf b.hal.internal_command = none := by
          rw [slotOf, hok.1]
          rfl
        have hfits := hb.fits
        rw [FitsSlot, hempty] at hfits
        rw [FitsSlot, hput.slot, hput.waiting]
        exact AnswerSlot.fits_register _ _ hfits hok.2
    | send type data =>
        rcases put_send hb.base.opened h with ⟨c, hplain, hput⟩ | ⟨-, hslot, -, -, hwait, -⟩
        · rw [FitsSlot, hput.slot, hput.waiting]
          exact AnswerSlot.fits_append _ _ hplain hb.fits
        · rw [FitsSlot, hslot, hwait]
          exact hb.fits
    | answer packet =>
        obtain ⟨c, rest, hwaiting, harr⟩ := arrived_answer hb.base.opened h
        have hfits := hb.fits
        rw [FitsSlot, hwaiting] at hfits
        rw [FitsSlot, harr.slot, harr.waiting]
        exact hfits.2
    | event packet =>
        have harr := arrived_event hb.base.opened h
        rw [FitsSlot, harr.slot, harr.waiting]
        exact hb.fits
  · cases a with
    | transmit opcode data callback =>
        obtain ⟨-, c, -, -, hput⟩ := put_transmit hb.base.opened h
        exact due_put hput hb.due
    | send type data =>
        rcases put_send hb.base.opened h with ⟨c, -, hput⟩ | ⟨-, -, hhanded, -, -, harr⟩
        · exact due_put hput hb.due
        · rw [hhanded, harr]
          exact hb.due
    | answer packet =>
        obtain ⟨c, rest, hwaiting, harr⟩ := arrived_answer hb.base.opened h
        have hfits := hb.fits
        rw [FitsSlot, hwaiting] at hfits
        exact (due_arrived harr hb.due).mpr hfits.1
    | event packet => exact (due_arrived (arrived_event hb.base.opened h) hb.due).mpr rfl

/-- A step after which everything went where it should, and the slot is right,
    started with a right slot and met the condition. -/
theorem fits_of_step (b : Bus) (a : Act) (b' : Bus) (hb : Base b) (hdue₀ : Delivered b)
    (hdue : Delivered b') (h : step b a = some b') (hfits : FitsSlot b') :
    FitsSlot b ∧ KeepsSlot b a := by
  cases a with
  | transmit opcode data callback =>
      obtain ⟨-, c, rfl, rfl, hput⟩ := put_transmit hb.opened h
      rw [FitsSlot, hput.slot, hput.waiting] at hfits
      obtain ⟨hempty, hfits₀⟩ := AnswerSlot.fits_of_register _ _ hb.held hfits
      refine ⟨hfits₀, Option.map_eq_none_iff.mp hempty, ?_⟩
      exact ((AnswerSlot.fits_slotFor_iff _ _ c b.waiting).mp hfits).2
  | send type data =>
      rcases put_send hb.opened h with ⟨c, hplain, hput⟩ | ⟨-, hslot, -, -, hwait, -⟩
      · rw [FitsSlot, hput.slot, hput.waiting] at hfits
        exact ⟨AnswerSlot.fits_of_append _ _ hplain hfits, trivial⟩
      · rw [FitsSlot, hslot, hwait] at hfits
        exact ⟨hfits, trivial⟩
  | answer packet =>
      obtain ⟨c, rest, hwaiting, harr⟩ := arrived_answer hb.opened h
      rw [FitsSlot, harr.slot, harr.waiting] at hfits
      refine ⟨?_, trivial⟩
      rw [FitsSlot, hwaiting]
      exact ⟨(due_arrived harr hdue₀.due).mp hdue.due, hfits⟩
  | event packet =>
      have harr := arrived_event hb.opened h
      rw [FitsSlot, harr.slot, harr.waiting] at hfits
      exact ⟨hfits, trivial⟩

-- ── Whole runs ───────────────────────────────────────────────────────────────

/-- `Open` starts the interface, unless an earlier session left its slot behind. -/
theorem starts_openedHal {s : Hal} (hslot : s.internal_command.cb = none) (hout : s.out = [])
    (env : OpenEnv) (client : Client) : Starts (openedHal s env client) := by
  refine ⟨opened_openedHal s env client, hslot, ?_⟩
  show ∀ e ∈ s.out ++ [.op (.powerCtrl true), .op .userialOpen, .op .fwCfg], _
  rw [hout]
  simp

/-- A command of a run is waiting, or exactly one event answered it. -/
theorem answered_once {b : Bus} (h : Delivered b) {c : Cmd} (hc : c ∈ b.sent)
    (hdone : c ∉ b.waiting) : (b.arrivals.filterMap Arrival.answers).count c = 1 := by
  have hnodup : b.sent.Nodup := List.Nodup.of_map _ h.once
  rw [h.inOrder] at hc hnodup
  refine List.count_eq_one_of_mem hnodup.of_append_left ?_
  exact (List.mem_append.mp hc).resolve_right hdone

theorem matched_init {hal : Hal} (h : Starts hal) : Matched (busInit hal) := by
  have hslot : slotOf hal.internal_command = none := by
    rw [slotOf, h.slot]
    rfl
  refine ⟨⟨h.opened, ?_, rfl, rfl⟩, hslot, ?_⟩
  · intro k t hheld
    exact nomatch hslot.symm.trans hheld
  · refine List.filter_eq_nil_iff.mpr ?_
    intro e he
    obtain ⟨o, rfl⟩ := h.out e he
    exact Bool.false_ne_true

/-- With no command waiting for its answer the slot is right. -/
theorem fits_of_idle {b : Bus} (hb : Base b) (h : b.waiting = []) : FitsSlot b := by
  have hheld := hb.held
  rw [h] at hheld
  rw [FitsSlot, h]
  exact AnswerSlot.fits_of_held_nil _ _ hheld

/-- **ANSWERS REACH WHOM THEY ARE FOR**: in every run in which the library sends
    only with its slot empty, and not with an opcode that waits for an answer if
    it wants the answer, every event is handed over once, to the callback of
    the command it answers or to the stack.  In a run that ends with every
    command answered, the library has to keep to that. -/
theorem internal_commands {hal : Hal} (hal_starts : Starts hal) (acts : List Act) :
    (StepsMeet step KeepsSlot (busInit hal) acts → Always step Delivered (busInit hal) acts)
      ∧ ∀ b, run step (busInit hal) acts = some b → b.waiting = [] →
        (Always step Delivered (busInit hal) acts
          ↔ StepsMeet step KeepsSlot (busInit hal) acts) := by
  have hinit := matched_init hal_starts
  have hforth := always_of_stepsMeet delivered_of_matched matched_step acts hinit
  refine ⟨hforth, ?_⟩
  intro b hrun hidle
  refine ⟨fun halways => ?_, hforth⟩
  have hbase := run_invariant base_step acts hinit.base hrun
  exact (stepsMeet_of_ending base_step fits_of_step acts hinit.base halways hrun
    (fits_of_idle hbase hidle)).2

/-- The run that the comment in `OnFirmwareConfigured` is about: the library's
    0xFC27 is on its way when the stack sends its RESET. -/
def lpmThenReset : List Act :=
  [.transmit 0xFC27 [0x27, 0xFC, 1, 1] (some 1), .send 1 [0x03, 0x0C, 0],
    .answer [0x0E, 4, 1, 0x27, 0xFC, 0], .answer [0x0E, 4, 1, 0x03, 0x0C, 0]]

theorem internal_commands_lpm :
    Always step Delivered (busInit (openedHal halInit h4Env 0)) lpmThenReset := by
  refine (internal_commands (starts_openedHal rfl rfl h4Env 0) lpmThenReset).1 ?_
  refine stepsMeet_cons.mpr fun b _ => ⟨⟨rfl, fun _ c hc => nomatch hc⟩, ?_⟩
  refine stepsMeet_of_forall ?_ b
  intro a ha s
  simp only [List.mem_cons, List.not_mem_nil, or_false] at ha
  rcases ha with rfl | rfl | rfl <;> trivial

/-- **THE SLOT IS OVERWRITTEN**: the library sends a second command before the
    first is answered; the answer to the first goes to the stack, and its
    callback never runs. -/
theorem overwritten_command_lost :
    ¬∀ acts, Always step Delivered (busInit (openedHal halInit h4Env 0)) acts := by
  intro h
  have hrun : (run step (busInit (openedHal halInit h4Env 0))
      [.transmit 0xFC27 [0x27, 0xFC, 1, 1] (some 1), .transmit 0xFC6D [0x6D, 0xFC, 0] (some 2),
        .answer [0x0E, 4, 1, 0x27, 0xFC, 0]]).map
        (fun b => (b.hal.out.filter isHandOver, b.arrivals.map due))
      = some ([.event_cb [0x0E, 4, 1, 0x27, 0xFC, 0]],
        [.saved_cb 1 [0x0E, 4, 1, 0x27, 0xFC, 0]]) := by
    decide
  obtain ⟨b, hb, hout⟩ := Option.map_eq_some_iff.mp hrun
  have hdue := (h _ _ [] b (List.append_nil _).symm hb).due
  rw [(Prod.mk.inj hout).1, (Prod.mk.inj hout).2] at hdue
  exact absurd hdue (by decide)

-- ── Reads of the packet ──────────────────────────────────────────────────────

/-- `packet[i] | (packet[i + 1] << 8)`; `none` when a byte is not in the packet. -/
def opcodeRead (packet : Packet) (i : Nat) : Option UInt16 := do
  let lo ← packet[i]?
  let hi ← packet[i + 1]?
  return lo.toUInt16 ||| (hi.toUInt16 <<< 8)

/-- `internal_command_event_match`, with its reads. -/
def eventMatchRead (c : InternalCommand) (packet : Packet) : Option Bool := do
  let event_code ← packet[0]?
  if event_code ≠ HCI_COMMAND_COMPLETE_EVENT then return false
  let opcode ← opcodeRead packet (HCI_EVENT_PREAMBLE_SIZE + 1)
  return opcode == c.opcode

/-- `VendorInterface::HandleIncomingEvent`, with its reads.  `WrapPacketAndCopy`
    and `event_cb_` take the packet with its size. -/
def handleEventRead (s : Hal) (packet : Packet) : Option Hal :=
  match s.internal_command.cb with
  | some saved_cb => do
      let found ← eventMatchRead s.internal_command packet
      if found = true then
        return { s with internal_command := { s.internal_command with cb := none } }.emit
          [.saved_cb saved_cb packet]
      else return s.emit [.event_cb packet]
  | none => some (s.emit [.event_cb packet])

/-- The packet is a complete Command Complete event for the command that is
    pending. -/
def AnswersPending (s : Hal) (packet : Packet) : Prop :=
  s.internal_command.cb ≠ none ∧ 5 ≤ packet.length
    ∧ packet.getD 0 0 = HCI_COMMAND_COMPLETE_EVENT
    ∧ opcodeAt packet (HCI_EVENT_PREAMBLE_SIZE + 1) = s.internal_command.opcode

/-- **THE CONDITION**: no command is pending, or the packet has an event code,
    and the opcode too if the code is that of Command Complete. -/
def LongEnough (s : Hal) (packet : Packet) : Prop :=
  s.internal_command.cb = none
    ∨ packet ≠ [] ∧ (packet.getD 0 0 = HCI_COMMAND_COMPLETE_EVENT → 5 ≤ packet.length)

section Reads

variable {s : Hal} {packet : Packet} {c : InternalCommand}

theorem read_of_lt {i : Nat} (h : i < packet.length) : packet[i]? = some (packet.getD i 0) := by
  rw [List.getD_eq_getElem?_getD, List.getElem?_eq_getElem h]
  rfl

theorem opcodeRead_of_lt {i : Nat} (h : i + 1 < packet.length) :
    opcodeRead packet i = some (opcodeAt packet i) := by
  rw [opcodeRead, read_of_lt (Nat.lt_of_succ_lt h), read_of_lt h]
  rfl

theorem opcodeRead_of_le {i : Nat} (h : packet.length ≤ i + 1) : opcodeRead packet i = none := by
  rw [opcodeRead, List.getElem?_eq_none h]
  cases packet[i]? <;> rfl

/-- The reads stay inside, and find what they should, exactly if the packet is
    long enough. -/
theorem eventMatchRead_eq (c : InternalCommand) (packet : Packet) :
    eventMatchRead c packet
      = if packet ≠ [] ∧ (packet.getD 0 0 = HCI_COMMAND_COMPLETE_EVENT → 5 ≤ packet.length) then
          some (internal_command_event_match c packet)
        else none := by
  by_cases hnil : packet = []
  · rw [if_neg (fun h => h.1 hnil), hnil]
    rfl
  · have hpos : 0 < packet.length := List.length_pos_iff.mpr hnil
    rw [eventMatchRead, read_of_lt hpos, internal_command_event_match]
    by_cases hcode : packet.getD 0 0 = HCI_COMMAND_COMPLETE_EVENT
    · by_cases hlen : 5 ≤ packet.length
      · rw [if_pos ⟨hnil, fun _ => hlen⟩, if_neg (not_not_intro hcode)]
        simp only [Option.bind_eq_bind, Option.bind_some, if_neg (not_not_intro hcode)]
        rw [opcodeRead_of_lt (Nat.lt_of_lt_of_le (by decide) hlen)]
        rfl
      · rw [if_neg (fun h => hlen (h.2 hcode))]
        simp only [Option.bind_eq_bind, Option.bind_some, if_neg (not_not_intro hcode)]
        have hend : packet.length ≤ HCI_EVENT_PREAMBLE_SIZE + 1 + 1 :=
          Nat.le_of_lt_succ (Nat.lt_of_not_le hlen)
        rw [opcodeRead_of_le hend]
        rfl
    · rw [if_pos ⟨hnil, fun h => absurd h hcode⟩, if_pos hcode]
      simp only [Option.bind_eq_bind, Option.bind_some, if_pos hcode]
      rfl

/-- Inside the packet the reads are those of `handleIncomingEvent`. -/
theorem handleEventRead_of_longEnough (h : LongEnough s packet) :
    handleEventRead s packet = some (handleIncomingEvent s packet) := by
  rw [handleEventRead, handleIncomingEvent]
  cases hcb : s.internal_command.cb with
  | none => rfl
  | some cb =>
      rcases h with hnone | hlong
      · exact nomatch hcb.symm.trans hnone
      · dsimp only
        rw [eventMatchRead_eq, if_pos hlong]
        simp only [Option.bind_eq_bind, Option.bind_some]
        split <;> rfl

theorem handleEventRead_of_not_longEnough (h : ¬LongEnough s packet) :
    handleEventRead s packet = none := by
  rw [handleEventRead]
  cases hcb : s.internal_command.cb with
  | none => exact absurd (Or.inl hcb) h
  | some cb =>
      dsimp only
      rw [eventMatchRead_eq, if_neg (fun hlong => h (Or.inr hlong))]
      rfl

/-- Any other packet goes to the stack, and the command stays pending. -/
theorem handleIncomingEvent_forwards (hlong : LongEnough s packet)
    (hother : ¬AnswersPending s packet) :
    handleIncomingEvent s packet = s.emit [.event_cb packet] := by
  rw [handleIncomingEvent]
  cases hcb : s.internal_command.cb with
  | none => rfl
  | some cb =>
      dsimp only
      refine if_neg (fun hmatch => hother ?_)
      rw [internal_command_event_match] at hmatch
      split at hmatch
      · exact nomatch hmatch
      · rename_i hcode
        have hcode := not_not.mp hcode
        have hsome : s.internal_command.cb ≠ none := by
          rw [hcb]
          exact Option.some_ne_none cb
        exact ⟨hsome, (hlong.resolve_left hsome).2 hcode, hcode, eq_of_beq hmatch⟩

/-- **EVENTS ARE READ INSIDE THEIR BYTES**, and all but the answer to the pending
    command are forwarded with the command kept, exactly if the packet is long
    enough for the reads. -/
theorem events_in_bounds (s : Hal) (packet : Packet) :
    (∃ s', handleEventRead s packet = some s'
        ∧ (¬AnswersPending s packet →
          s' = s.emit [.event_cb packet] ∧ s'.internal_command = s.internal_command))
      ↔ LongEnough s packet := by
  constructor
  · rintro ⟨s', hs', -⟩
    by_contra hshort
    exact nomatch (handleEventRead_of_not_longEnough hshort).symm.trans hs'
  · intro hlong
    refine ⟨_, handleEventRead_of_longEnough hlong, fun hother => ?_⟩
    have hforward := handleIncomingEvent_forwards hlong hother
    refine ⟨hforward, ?_⟩
    rw [hforward]
    rfl

/-- A Command Complete event that ends before its opcode, with a command pending:
    the opcode is read behind the packet. -/
theorem short_event_overread :
    let s : Hal := { halInit with internal_command := { cb := some 1, opcode := 0xFC27 } }
    ¬AnswersPending s [0x0E, 1, 1] ∧ handleEventRead s [0x0E, 1, 1] = none := by
  refine ⟨fun h => ?_, by decide⟩
  have hlen : 5 ≤ [0x0E, 1, (1 : UInt8)].length := h.2.1
  exact absurd hlen (by decide)

end Reads

end BtInternalCommand

import Mathlib.Data.List.Basic

/-! # Programs that load bytes

    A program that reads memory, as the tree of its loads: each load names an
    address, and what follows depends on the byte found there.  `reads` is the
    list of the addresses a run loads from, and `run_congr` says that the list
    is complete: memory elsewhere has no influence. -/

namespace ByteLoad

abbrev Memory := Nat → UInt8

inductive Load (α : Type) where
  | done (a : α)
  | byte (address : Nat) (next : UInt8 → Load α)

namespace Load

variable {α β : Type}

def bind : Load α → (α → Load β) → Load β
  | .done a, f => f a
  | .byte address next, f => .byte address (fun b => (next b).bind f)

instance : Monad Load where
  pure := .done
  bind := bind

/-- What the program returns. -/
def run : Load α → Memory → α
  | .done a, _ => a
  | .byte address next, m => (next (m address)).run m

/-- The addresses it loads from, in order. -/
def reads : Load α → Memory → List Nat
  | .done _, _ => []
  | .byte address next, m => address :: (next (m address)).reads m

@[simp] theorem run_pure (a : α) (m : Memory) :
    (pure a : Load α).run m = a := rfl

@[simp] theorem reads_pure (a : α) (m : Memory) :
    (pure a : Load α).reads m = [] := rfl

@[simp] theorem run_bind (p : Load α) (f : α → Load β) (m : Memory) :
    (p >>= f).run m = (f (p.run m)).run m := by
  induction p with
  | done a => rfl
  | byte address next ih =>
      show ((next (m address)).bind f).run m = _
      exact ih (m address)

@[simp] theorem reads_bind (p : Load α) (f : α → Load β) (m : Memory) :
    (p >>= f).reads m = p.reads m ++ (f (p.run m)).reads m := by
  induction p with
  | done a => rfl
  | byte address next ih =>
      show address :: ((next (m address)).bind f).reads m = _
      rw [show ((next (m address)).bind f).reads m = _ from ih (m address)]
      rfl

/-- **FRAME**: what a program returns is decided by the bytes it reads. -/
theorem run_congr {p : Load α} {m m' : Memory}
    (h : ∀ a ∈ p.reads m, m a = m' a) :
    p.run m = p.run m' := by
  induction p with
  | done a => rfl
  | byte address next ih =>
      have hhere : m address = m' address := h address (List.mem_cons_self ..)
      have hnext : (next (m address)).run m = (next (m address)).run m' :=
        ih (m address) (fun a ha => h a (List.mem_cons_of_mem _ ha))
      show (next (m address)).run m = (next (m' address)).run m'
      rw [hnext, hhere]

-- ── Words ────────────────────────────────────────────────────────────────────

/-- The `n` bytes from an address on. -/
def bytes (address : Nat) : Nat → Load (List UInt8)
  | 0 => pure []
  | n + 1 => do
      let b ← .byte address .done
      let bs ← bytes (address + 1) n
      pure (b :: bs)

theorem reads_bytes (address n : Nat) (m : Memory) :
    (bytes address n).reads m = List.range' address n := by
  induction n generalizing address with
  | zero => rfl
  | succ n ih =>
      show address :: ((bytes (address + 1) n >>= _).reads m) = _
      rw [reads_bind, ih, reads_pure, List.append_nil, List.range'_succ]

theorem run_bytes (address n : Nat) (m : Memory) :
    (bytes address n).run m = (List.range' address n).map m := by
  induction n generalizing address with
  | zero => rfl
  | succ n ih =>
      show ((bytes (address + 1) n >>= _).run m) = _
      rw [run_bind, ih, List.range'_succ]
      rfl

/-- A number from its bytes, the lowest first. -/
def littleEndian : List UInt8 → Nat
  | [] => 0
  | b :: bs => b.toNat + 256 * littleEndian bs

/-- A signed 32-bit number. -/
def int32 (address : Nat) : Load Int := do
  let bs ← bytes address 4
  pure (BitVec.ofNat 32 (littleEndian bs)).toInt

/-- What `int32` finds. -/
def intAt (m : Memory) (address : Nat) : Int :=
  (BitVec.ofNat 32 (littleEndian ((List.range' address 4).map m))).toInt

@[simp] theorem run_int32 (address : Nat) (m : Memory) :
    (int32 address).run m = intAt m address := by
  rw [int32, run_bind, run_bytes]
  rfl

@[simp] theorem reads_int32 (address : Nat) (m : Memory) :
    (int32 address).reads m = List.range' address 4 := by
  rw [int32, reads_bind, reads_bytes, reads_pure, List.append_nil]

/-- An unsigned number of `n` bytes. -/
def nat (address n : Nat) : Load Nat := do
  let bs ← bytes address n
  pure (littleEndian bs)

@[simp] theorem reads_nat (address n : Nat) (m : Memory) :
    (nat address n).reads m = List.range' address n := by
  rw [nat, reads_bind, reads_bytes, reads_pure, List.append_nil]

-- ── Arrays ───────────────────────────────────────────────────────────────────

/-- The elements `start, …, start + n - 1`, one after the other. -/
def collect (f : Nat → Load α) : Nat → Nat → Load (List α)
  | _, 0 => pure []
  | start, n + 1 => do
      let x ← f start
      let xs ← collect f (start + 1) n
      pure (x :: xs)

theorem run_collect (f : Nat → Load α) (m : Memory) : ∀ n start : Nat,
    (collect f start n).run m = (List.range' start n).map (fun i => (f i).run m) := by
  intro n
  induction n with
  | zero => exact fun _ => rfl
  | succ n ih =>
      intro start
      rw [collect, run_bind, run_bind, run_pure, ih, List.range'_succ, List.map_cons]

theorem reads_collect (f : Nat → Load α) (m : Memory) : ∀ n start : Nat,
    (collect f start n).reads m = (List.range' start n).flatMap (fun i => (f i).reads m) := by
  intro n
  induction n with
  | zero => exact fun _ => rfl
  | succ n ih =>
      intro start
      rw [collect, reads_bind, reads_bind, reads_pure, ih, List.append_nil, List.range'_succ,
        List.flatMap_cons]

/-- **ELEMENTS STAY INSIDE** an array of which each element stays inside its own
    `size` bytes. -/
theorem collect_inside {f : Nat → Load α} {m : Memory} {base size n : Nat}
    (h : ∀ i < n, ∀ address ∈ (f i).reads m,
      base + i * size ≤ address ∧ address < base + i * size + size) :
    ∀ address ∈ (collect f 0 n).reads m, base ≤ address ∧ address < base + n * size := by
  intro address haddress
  rw [reads_collect, List.mem_flatMap] at haddress
  obtain ⟨i, hi, hread⟩ := haddress
  rw [List.mem_range'_1, Nat.zero_add] at hi
  obtain ⟨hle, hlt⟩ := h i hi.2 address hread
  have hnext : (i + 1) * size ≤ n * size := Nat.mul_le_mul_right size hi.2
  rw [Nat.succ_mul] at hnext
  exact ⟨Nat.le_trans (Nat.le_add_right base (i * size)) hle, by omega⟩

end Load

end ByteLoad

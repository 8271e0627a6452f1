import Universal7580.CStringsProofs
import Universal7580.LinesProofs
import Universal7580.LoopProofs

/-! # `wifiloader`

    The driver is loaded unless `/proc/modules` has it already.  The file is read
    with `fgets` into 126 bytes, so a line of more than 125 characters comes in
    pieces; and a piece is compared with the tag only as far as the tag goes.  So
    a module is taken for loaded if some piece of some line starts with its name
    (`checkModuleLoaded_iff`): if another module's name does, or if a longer line
    happens to have the name where a piece starts.

    `presence_iff` says for which files the answer is right. -/

namespace Wifiloader

open CStrings Lines
open Loop (Errno)

-- ── `/proc/modules` ──────────────────────────────────────────────────────────

/-- `sizeof(line)`. -/
def LINE_SIZE : Nat := 126

/-- `check_module_loaded`; `proc` is what `fopen` makes of `/proc/modules`. -/
def checkModuleLoaded (tag : CStr) (proc : Except Errno (List Char)) : Int :=
  match proc with
  | .error errno => -errno.val
  | .ok text =>
      if readUntil LINE_SIZE (fun line => strncmp line tag.val tag.val.length = 0)
          (text.length + 1) text = true then 1
      else 0

-- ── Loading ──────────────────────────────────────────────────────────────────

/-- What the calls behind the check come to. -/
structure Outcomes where
  openFile : Except Errno Nat
  finitModule : Option Errno
  chown : Option Errno

inductive Call where
  | openFile (path : String)
  | finitModule (fd : Nat) (params : String)
  | chown (path : String)
  | propertySet (name value : String)
  | close (fd : Nat)
  deriving DecidableEq

def WIFI_DRIVER_FW_PATH_PARAM : String := "/sys/module/wlan/parameters/fwpath"

/-- `load_module`: what it returns, and its calls.  `driver` is
    `WIFI_DRIVER_MODULE_NAME`, which the build may set. -/
def loadModule (driver : CStr) (path : String) (proc : Except Errno (List Char)) (o : Outcomes) :
    Int × List Call :=
  if checkModuleLoaded driver proc > 0 then (-1, [])
  else
    match o.openFile with
    | .error errno => (-errno.val, [.openFile path])
    | .ok fd =>
        let tried : List Call := [.openFile path, .finitModule fd ""]
        match o.finitModule with
        | some errno => (-errno.val, tried ++ [.close fd])
        | none =>
            let owned := tried ++ [.chown WIFI_DRIVER_FW_PATH_PARAM]
            match o.chown with
            | some errno => (-errno.val, owned ++ [.close fd])
            | none => (0, owned ++ [.propertySet "wlan.driver.status" "ok", .close fd])

-- ── What is promised ─────────────────────────────────────────────────────────

/-- What is in front of the first blank. -/
def moduleName (line : List Char) : List Char := line.takeWhile (· ≠ ' ')

/-- Some line has the name. -/
def Loaded (text : List Char) (tag : CStr) : Prop :=
  ∃ line ∈ lines text, moduleName line = tag.val

/-- **PRESENCE** is what the file says it is. -/
structure Presence (text : List Char) (tag driver : CStr) (path : String) : Prop where
  check : checkModuleLoaded tag (.ok text) = 1 ↔ Loaded text tag
  load : ∀ o, (∃ fd params, .finitModule fd params ∈ (loadModule driver path (.ok text) o).2)
    ↔ ¬Loaded text driver ∧ ∃ fd, o.openFile = .ok fd

/-- The tag stands where some piece of some line starts. -/
def AtPiece (text : List Char) (tag : CStr) : Prop :=
  ∃ line ∈ lines text, ∃ k, 125 * k < line.length ∧ tag.val <+: piece 125 line k

/-- The name is there, and no longer than a piece; or neither the name is there, nor
    anything that is taken for it. -/
def Tells (text : List Char) (tag : CStr) : Prop :=
  (Loaded text tag ∧ tag.val.length ≤ 125) ∨ (¬Loaded text tag ∧ ¬AtPiece text tag)

-- ── The check ────────────────────────────────────────────────────────────────

section Check

variable {text : List Char} {tag : CStr}

/-- **THE CHECK**, as it is. -/
theorem checkModuleLoaded_iff (text : List Char) (tag : CStr) :
    checkModuleLoaded tag (.ok text) = 1 ↔ AtPiece text tag := by
  have hread := readUntil_iff (by decide : 0 < 125)
    (fun line => decide (strncmp line tag.val tag.val.length = 0)) (text.length + 1) text
    (Nat.lt_succ_self _)
  have hpiece : SomePiece 125 (fun line => decide (strncmp line tag.val tag.val.length = 0))
      (lines text) ↔ AtPiece text tag := by
    simp only [SomePiece, AtPiece, decide_eq_true_eq, strncmp_eq_zero_iff tag.property]
  rw [← hpiece, ← hread, checkModuleLoaded]
  show (if readUntil 126 _ _ _ = true then (1 : Int) else 0) = 1 ↔ readUntil 126 _ _ _ = true
  split
  · rename_i h
    exact iff_of_true rfl h
  · rename_i h
    exact iff_of_false (by decide) h

/-- A file that could be opened is answered with one or zero. -/
theorem checkModuleLoaded_pos (text : List Char) (tag : CStr) :
    checkModuleLoaded tag (.ok text) > 0 ↔ checkModuleLoaded tag (.ok text) = 1 := by
  rw [checkModuleLoaded]
  split
  · exact iff_of_true (by decide) rfl
  · exact iff_of_false (by decide) (by decide)

/-- The first piece of a module's line starts with its name, if the name fits. -/
theorem atPiece_of_loaded (h : Loaded text tag) (hfits : tag.val.length ≤ 125) :
    AtPiece text tag := by
  obtain ⟨line, hline, hname⟩ := h
  refine ⟨line, hline, 0, length_pos_of_mem hline, ?_⟩
  have hpre : tag.val <+: line := hname ▸ List.takeWhile_prefix _
  rw [piece_zero]
  exact List.prefix_take_iff.mpr ⟨hpre, hfits⟩

/-- Nothing longer than a piece is found. -/
theorem length_le_of_atPiece (h : AtPiece text tag) : tag.val.length ≤ 125 := by
  obtain ⟨line, -, k, -, hpre⟩ := h
  have hle := hpre.length_le
  rw [piece, List.length_take] at hle
  omega

/-- **RIGHT** or not. -/
theorem check_right_iff : (checkModuleLoaded tag (.ok text) = 1 ↔ Loaded text tag)
    ↔ Tells text tag := by
  rw [checkModuleLoaded_iff, Tells]
  by_cases hloaded : Loaded text tag
  · constructor
    · intro h
      exact Or.inl ⟨hloaded, length_le_of_atPiece (h.mpr hloaded)⟩
    · rintro (⟨-, hfits⟩ | ⟨hnot, -⟩)
      · exact iff_of_true (atPiece_of_loaded hloaded hfits) hloaded
      · exact absurd hloaded hnot
  · constructor
    · intro h
      exact Or.inr ⟨hloaded, fun hat => hloaded (h.mp hat)⟩
    · rintro (⟨hyes, -⟩ | ⟨-, hat⟩)
      · exact absurd hyes hloaded
      · exact iff_of_false hat hloaded

end Check

-- ── Loading ──────────────────────────────────────────────────────────────────

/-- `finit_module` is called unless the check says one or the file does not open. -/
theorem finitModule_iff (driver : CStr) (path : String) (text : List Char) (o : Outcomes) :
    (∃ fd params, .finitModule fd params ∈ (loadModule driver path (.ok text) o).2)
      ↔ checkModuleLoaded driver (.ok text) ≠ 1 ∧ ∃ fd, o.openFile = .ok fd := by
  rw [loadModule]
  by_cases hcheck : checkModuleLoaded driver (.ok text) = 1
  · rw [if_pos ((checkModuleLoaded_pos text driver).mpr hcheck)]
    refine iff_of_false ?_ (fun h => h.1 hcheck)
    rintro ⟨fd, params, hmem⟩
    exact nomatch hmem
  · rw [if_neg fun h => hcheck ((checkModuleLoaded_pos text driver).mp h)]
    cases hopen : o.openFile with
    | error errno => simp
    | ok fd =>
        refine iff_of_true ⟨fd, "", ?_⟩ ⟨hcheck, fd, rfl⟩
        cases o.finitModule with
        | some errno => simp
        | none =>
            cases o.chown with
            | some errno => simp
            | none => simp

theorem load_right_iff (driver : CStr) (path : String) (text : List Char) :
    (∀ o, (∃ fd params, .finitModule fd params ∈ (loadModule driver path (.ok text) o).2)
      ↔ ¬Loaded text driver ∧ ∃ fd, o.openFile = .ok fd)
      ↔ Tells text driver := by
  rw [← check_right_iff]
  constructor
  · intro h
    have hopens : ∃ fd, (Except.ok 0 : Except Errno Nat) = .ok fd := ⟨0, rfl⟩
    have hopen := h { openFile := .ok 0, finitModule := none, chown := none }
    rw [finitModule_iff, and_iff_left hopens, and_iff_left hopens] at hopen
    exact not_iff_not.mp hopen
  · intro h o
    rw [finitModule_iff, ne_eq, h]

/-- **THE ANSWER IS RIGHT** exactly for the files that tell: the name is there and
    fits, or nothing is there that the check takes for it. -/
theorem presence_iff (text : List Char) (tag driver : CStr) (path : String) :
    Presence text tag driver path ↔ Tells text tag ∧ Tells text driver := by
  constructor
  · rintro ⟨hcheck, hload⟩
    exact ⟨check_right_iff.mp hcheck, (load_right_iff driver path text).mp hload⟩
  · rintro ⟨htag, hdriver⟩
    exact ⟨check_right_iff.mpr htag, (load_right_iff driver path text).mpr hdriver⟩

/-- **EVERY DAY**: lines that fit, and no module whose name only starts with the tag. -/
theorem tells_of_short {text : List Char} {tag : CStr}
    (hshort : ∀ line ∈ lines text, line.length ≤ 125)
    (hname : ∀ line ∈ lines text, tag.val <+: line → moduleName line = tag.val) :
    Tells text tag := by
  by_cases hloaded : Loaded text tag
  · refine Or.inl ⟨hloaded, ?_⟩
    obtain ⟨line, hline, hsame⟩ := hloaded
    have hpre : tag.val <+: line := hsame ▸ List.takeWhile_prefix _
    exact Nat.le_trans hpre.length_le (hshort line hline)
  · refine Or.inr ⟨hloaded, ?_⟩
    rintro ⟨line, hline, k, hk, hpre⟩
    have hfits := hshort line hline
    obtain rfl : k = 0 := by omega
    rw [piece_zero] at hpre
    exact hloaded ⟨line, hline, hname line hline (hpre.trans (List.take_prefix _ _))⟩

def wlan : CStr := ⟨"wlan".toList, by decide⟩

/-- Another module's line, whose name starts with the driver's. -/
def otherLine : List Char := "wlan_core 16384 0 - Live 0x0\n".toList

/-- A line of another module, with the driver in the middle of a long list. -/
def longLine : List Char :=
  "hub 4096 1 ".toList ++ List.replicate 113 'm' ++ ",wlan, Live 0x0\n".toList

/-- Neither file has the driver, and both are taken to have it. -/
theorem not_presence : ¬Presence otherLine wlan wlan "/system/lib/modules/wlan.ko"
    ∧ ¬Presence longLine wlan wlan "/system/lib/modules/wlan.ko" := by
  have hother : lines otherLine = [otherLine] := by decide
  have hlong : lines longLine = [longLine] := by decide +kernel
  constructor
  · intro h
    obtain ⟨line, hline, hname⟩ := h.check.mp
      ((checkModuleLoaded_iff _ _).mpr ⟨otherLine, by rw [hother]; simp, 0, by decide, by decide⟩)
    rw [hother, List.mem_singleton] at hline
    rw [hline] at hname
    exact absurd hname (by decide)
  · intro h
    obtain ⟨line, hline, hname⟩ := h.check.mp
      ((checkModuleLoaded_iff _ _).mpr ⟨longLine, by rw [hlong]; simp, 1, by decide +kernel,
        by decide +kernel⟩)
    rw [hlong, List.mem_singleton] at hline
    rw [hline] at hname
    exact absurd hname (by decide +kernel)

end Wifiloader

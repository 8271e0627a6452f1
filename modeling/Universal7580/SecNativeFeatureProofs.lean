import Universal7580.StrtolProofs

/-! # The features of `SecNativeFeature`

    The parser reports text in pieces that depend on where its buffers end.  The
    handler puts each piece behind what the feature already has, so
    `charDataHandler_append` is all there is to say about pieces: two of them do
    what one does.

    `recorded` says what a document has for a tag, without a handler and without
    a map, and `features_eq_recorded` that the map is that.  With it the lookups
    are compared for any document: the three pairs agree on a tag that is
    present, except that `getEnableStatus` gives the default for a value that is
    not true. -/

namespace SecNativeFeature

open Strtol

/-- The bytes of a `std::string`. -/
abbrev Text := List Char

/-- `std::map<std::string, std::string>`. -/
abbrev Features := Text → Option Text

/-- `insert`: what is there stays. -/
def Features.insert (m : Features) (name value : Text) : Features := fun k =>
  if k = name then some ((m k).getD value) else m k

def Features.erase (m : Features) (name : Text) : Features := fun k =>
  if k = name then none else m k

structure ParserUserData where
  curr_name : Text
  features : Features
  depth : Int32

/-- What the parser reports. -/
inductive Event where
  | startElement (name : Text)
  | endElement (name : Text)
  | charData (s : Text)
  deriving DecidableEq, Repr

def charDataHandler (d : ParserUserData) (s : Text) : ParserUserData :=
  if d.curr_name.isEmpty = false then
    match d.features d.curr_name with
    | some second =>
        { d with
          features := (d.features.erase d.curr_name).insert d.curr_name (second ++ s) }
    | none => { d with features := d.features.insert d.curr_name s }
  else d

def startElement (d : ParserUserData) (name : Text) : ParserUserData :=
  { d with curr_name := name, depth := d.depth + 1 }

def endElement (d : ParserUserData) : ParserUserData :=
  { d with curr_name := [], depth := d.depth - 1 }

def handle (d : ParserUserData) : Event → ParserUserData
  | .startElement name => startElement d name
  | .endElement _ => endElement d
  | .charData s => charDataHandler d s

def run (d : ParserUserData) (events : List Event) : ParserUserData := events.foldl handle d

/-- Before the first event. -/
def initial : ParserUserData := { curr_name := [], features := fun _ => none, depth := 0 }

/-- `_features` after the events. -/
def features (events : List Event) : Features := (run initial events).features

-- ── Lookups ──────────────────────────────────────────────────────────────────

/-- The text is compared with `"true"` and `"TRUE"`. -/
def IsTrue (text : Text) : Prop := text = "true".toList ∨ text = "TRUE".toList

instance (text : Text) : Decidable (IsTrue text) := inferInstanceAs (Decidable (_ ∨ _))

def getEnableStatus (m : Features) (tag : Text) : Bool :=
  match m tag with
  | none => false
  | some second => if IsTrue second then true else false

/-- `getEnableStatus` with a default. -/
def getEnableStatusD (m : Features) (tag : Text) (defaultValue : Bool) : Bool :=
  match m tag with
  | none => defaultValue
  | some second => if IsTrue second then true else defaultValue

def getString (m : Features) (tag : Text) : Text :=
  match m tag with
  | none => []
  | some second => second

/-- `getString` with a default, which may be `NULL`. -/
def getStringD (m : Features) (tag : Text) (defaultValue : Option Text) : Option Text :=
  match m tag with
  | none => defaultValue
  | some second => some second

def getInteger (LONG_BIT : Nat) (m : Features) (tag : Text) : Int32 :=
  match m tag with
  | none => -1
  | some second => atoi LONG_BIT second

/-- `getInteger` with a default. -/
def getIntegerD (LONG_BIT : Nat) (m : Features) (tag : Text) (defaultValue : Int32) : Int32 :=
  match m tag with
  | none => defaultValue
  | some second => atoi LONG_BIT second

/-- For a tag that is present the default is not used. -/
structure Agree (LONG_BIT : Nat) (m : Features) (tag : Text) : Prop where
  status : ∀ d, getEnableStatusD m tag d = getEnableStatus m tag
  string : ∀ d, getStringD m tag d = some (getString m tag)
  integer : ∀ d, getIntegerD LONG_BIT m tag d = getInteger LONG_BIT m tag

/-- The three pairs agree where the value is true, and the last two for any value. -/
theorem agree_iff {LONG_BIT : Nat} {m : Features} {tag text : Text} (h : m tag = some text) :
    Agree LONG_BIT m tag ↔ IsTrue text := by
  constructor
  · intro hagree
    by_contra hnot
    have hdefault := hagree.status true
    rw [getEnableStatusD, getEnableStatus, h] at hdefault
    dsimp only at hdefault
    rw [if_neg hnot, if_neg hnot] at hdefault
    exact Bool.noConfusion hdefault
  · intro htrue
    refine ⟨fun d => ?_, fun d => ?_, fun d => ?_⟩
    · rw [getEnableStatusD, getEnableStatus, h]
      dsimp only
      rw [if_pos htrue, if_pos htrue]
    · rw [getStringD, getString, h]
    · rw [getIntegerD, getInteger, h]

-- ── Pieces of text ───────────────────────────────────────────────────────────

/-- What the handler does to the map. -/
theorem charDataHandler_eq {d : ParserUserData} (h : d.curr_name ≠ []) (s : Text) :
    charDataHandler d s
      = { d with
          features := fun k =>
            if k = d.curr_name then some ((d.features k).getD [] ++ s) else d.features k } := by
  have hname : d.curr_name.isEmpty = false := by
    cases hcurr : d.curr_name with
    | nil => exact absurd hcurr h
    | cons c rest => rfl
  rw [charDataHandler, if_pos hname]
  cases hfound : d.features d.curr_name with
  | none =>
      dsimp only
      congr 1
      funext k
      rw [Features.insert]
      split
      · rename_i hk
        rw [hk, hfound]
        rfl
      · rfl
  | some second =>
      dsimp only
      congr 1
      funext k
      rw [Features.insert, Features.erase]
      split
      · rename_i hk
        rw [hk, hfound]
        rfl
      · rfl

theorem charDataHandler_unnamed {d : ParserUserData} (h : d.curr_name = []) (s : Text) :
    charDataHandler d s = d := by
  rw [charDataHandler, h]
  rfl

/-- **TWO PIECES** of text do what one does. -/
theorem charDataHandler_append (d : ParserUserData) (s t : Text) :
    charDataHandler (charDataHandler d s) t = charDataHandler d (s ++ t) := by
  by_cases hname : d.curr_name = []
  · rw [charDataHandler_unnamed hname, charDataHandler_unnamed hname,
      charDataHandler_unnamed hname]
  · have hname' : (charDataHandler d s).curr_name ≠ [] := by
      rw [charDataHandler_eq hname]
      exact hname
    rw [charDataHandler_eq hname', charDataHandler_eq hname, charDataHandler_eq hname]
    dsimp only
    congr 1
    funext k
    split
    · rw [Option.getD_some, List.append_assoc]
    · rfl

/-- An event in front of others; text joins the text that follows it. -/
def joinText : Event → List Event → List Event
  | .charData s, .charData t :: events => .charData (s ++ t) :: events
  | e, events => e :: events

/-- Each run of text as one piece. -/
def mergeText (events : List Event) : List Event := events.foldr joinText []

theorem run_joinText (d : ParserUserData) (e : Event) (events : List Event) :
    run d (joinText e events) = run (handle d e) events := by
  cases e with
  | startElement name => rfl
  | endElement name => rfl
  | charData s =>
      cases events with
      | nil => rfl
      | cons e' events =>
          cases e' with
          | startElement name => rfl
          | endElement name => rfl
          | charData t =>
              show run (charDataHandler d (s ++ t)) events
                = run (charDataHandler (charDataHandler d s) t) events
              rw [charDataHandler_append]

/-- **PIECES**: the handler does not see where a run of text was cut. -/
theorem run_mergeText (d : ParserUserData) (events : List Event) :
    run d (mergeText events) = run d events := by
  induction events generalizing d with
  | nil => rfl
  | cons e events ih =>
      show run d (joinText e (mergeText events)) = run (handle d e) events
      rw [run_joinText, ih]

-- ── What a document has for a tag ────────────────────────────────────────────

/-- The text directly behind a start tag of that name, up to the next tag, of all
    such places; `curr` is the name that is open. -/
def recorded (tag : Text) : Text → List Event → Option Text
  | _, [] => none
  | _, .startElement name :: events => recorded tag name events
  | _, .endElement _ :: events => recorded tag [] events
  | curr, .charData s :: events =>
      if curr ≠ [] ∧ tag = curr then some (s ++ (recorded tag curr events).getD [])
      else recorded tag curr events

/-- Text behind text that is there. -/
def behind : Option Text → Option Text → Option Text
  | none, later => later
  | some text, later => some (text ++ later.getD [])

theorem features_run (tag : Text) (events : List Event) (d : ParserUserData) :
    (run d events).features tag = behind (d.features tag) (recorded tag d.curr_name events) := by
  induction events generalizing d with
  | nil =>
      show d.features tag = behind (d.features tag) none
      cases d.features tag with
      | none => rfl
      | some text => exact congrArg some (List.append_nil text).symm
  | cons e events ih =>
      show (run (handle d e) events).features tag = _
      rw [ih]
      cases e with
      | startElement name => rfl
      | endElement name => rfl
      | charData s =>
          show behind ((charDataHandler d s).features tag)
            (recorded tag (charDataHandler d s).curr_name events) = _
          by_cases hname : d.curr_name = []
          · have hnot : ¬(d.curr_name ≠ [] ∧ tag = d.curr_name) := fun h => h.1 hname
            rw [charDataHandler_unnamed hname, recorded, if_neg hnot]
          · rw [charDataHandler_eq hname, recorded]
            dsimp only
            by_cases htag : tag = d.curr_name
            · rw [if_pos htag, if_pos ⟨hname, htag⟩]
              cases d.features tag with
              | none => rfl
              | some text => exact congrArg some (List.append_assoc ..)
            · rw [if_neg htag, if_neg fun h => htag h.2]

/-- **THE MAP** is what the document has. -/
theorem features_eq_recorded (events : List Event) (tag : Text) :
    features events tag = recorded tag [] events :=
  features_run tag events initial

-- ── Reading a file ───────────────────────────────────────────────────────────

/-- What `_loadFeature` uses of the libraries: the size of its buffer, and a parser
    that reports events and whether it failed. -/
structure Expat (P : Type) where
  BUFSIZ : Nat
  BUFSIZ_pos : 0 < BUFSIZ
  XML_ParserCreate : P
  XML_Parse : P → List Char → Bool → P × List Event × Bool

/-- A file that was opened: what can be read, and whether reading then fails. -/
structure File where
  content : List Char
  ferror : Bool

section Files

variable {P : Type} (expat : Expat P) (ferror : Bool)

/-- The loop over the blocks of a file. -/
def parseFile (parser : P) (d : ParserUserData) (content : List Char) :
    ParserUserData × Int32 :=
  if _ : content.length < expat.BUFSIZ then
    if ferror = true then (d, -1)
    else
      let r := expat.XML_Parse parser content true
      (run d r.2.1, if r.2.2 = true then -1 else 0)
  else
    let r := expat.XML_Parse parser (content.take expat.BUFSIZ) false
    if r.2.2 = true then (run d r.2.1, -1)
    else parseFile r.1 (run d r.2.1) (content.drop expat.BUFSIZ)
  termination_by content.length
  decreasing_by
    have hpos := expat.BUFSIZ_pos
    rw [List.length_drop]
    omega

/-- The events that are reported for a file. -/
def reported (parser : P) (content : List Char) : List Event :=
  if _ : content.length < expat.BUFSIZ then
    if ferror = true then [] else (expat.XML_Parse parser content true).2.1
  else
    let r := expat.XML_Parse parser (content.take expat.BUFSIZ) false
    if r.2.2 = true then r.2.1 else r.2.1 ++ reported r.1 (content.drop expat.BUFSIZ)
  termination_by content.length
  decreasing_by
    have hpos := expat.BUFSIZ_pos
    rw [List.length_drop]
    omega

/-- `_loadFeature`, with the features and what it returns. -/
def loadFeature (FEATURE_FILE MPS_FEATURE_FILE : Option File) : Features × Int32 :=
  match FEATURE_FILE.or MPS_FEATURE_FILE with
  | none => (initial.features, -1)
  | some file =>
      let r := parseFile expat file.ferror expat.XML_ParserCreate initial file.content
      (r.1.features, r.2)

theorem run_append (d : ParserUserData) (events events' : List Event) :
    run d (events ++ events') = run (run d events) events' :=
  List.foldl_append

theorem parseFile_run (parser : P) (d : ParserUserData) (content : List Char) :
    (parseFile expat ferror parser d content).1 = run d (reported expat ferror parser content) := by
  fun_induction parseFile expat ferror parser d content with
  | case1 parser d content hlast herror =>
      rw [reported, dif_pos hlast, if_pos herror]
      rfl
  | case2 parser d content hlast herror =>
      rw [reported, dif_pos hlast, if_neg herror]
  | case3 parser d content hlast r hfailed =>
      rw [reported, dif_neg hlast]
      exact (congrArg (run d) (if_pos hfailed)).symm
  | case4 parser d content hlast r hok ih =>
      rw [reported, dif_neg hlast, ih]
      refine Eq.trans ?_ (congrArg (run d) (if_neg hok)).symm
      exact (run_append ..).symm

/-- **LOADING**: the features of a file are those of the events that were reported
    for it, also when it is given up in the middle. -/
theorem loadFeature_features {file : File} {FEATURE_FILE MPS_FEATURE_FILE : Option File}
    (h : FEATURE_FILE.or MPS_FEATURE_FILE = some file) :
    (loadFeature expat FEATURE_FILE MPS_FEATURE_FILE).1
      = features (reported expat file.ferror expat.XML_ParserCreate file.content) := by
  rw [loadFeature, h]
  exact congrArg ParserUserData.features (parseFile_run ..)

end Files

-- ── Exactly when ─────────────────────────────────────────────────────────────

/-- **FEATURES**: the map is the same however text is cut; and for a tag that is
    present no lookup uses its default, exactly if the text of the tag is true. -/
theorem features_lookup (LONG_BIT : Nat) {events events' : List Event}
    (h : mergeText events = mergeText events') (tag : Text) :
    features events = features events'
      ∧ ((features events tag ≠ none → Agree LONG_BIT (features events) tag)
        ↔ ∀ text, recorded tag [] events = some text → IsTrue text) := by
  refine ⟨?_, ?_⟩
  · rw [features, features, ← run_mergeText, h, run_mergeText]
  · rw [← features_eq_recorded]
    constructor
    · intro hagree text htext
      exact (agree_iff htext).mp (hagree (by rw [htext]; exact Option.some_ne_none text))
    · intro htrue hpresent
      obtain ⟨text, htext⟩ := Option.ne_none_iff_exists'.mp hpresent
      exact (agree_iff htext).mpr (htrue text htext)

/-- A feature whose text comes in one piece or in two. -/
theorem features_lookup_pieces :
    features [.startElement ['f'], .charData "true".toList, .endElement ['f']]
      = features [.startElement ['f'], .charData "tr".toList, .charData "ue".toList,
          .endElement ['f']] :=
  (features_lookup 64 (by decide :
    mergeText [.startElement ['f'], .charData "true".toList, .endElement ['f']]
      = mergeText [.startElement ['f'], .charData "tr".toList, .charData "ue".toList,
          .endElement ['f']]) ['f']).1

/-- A feature that is switched off is on by default. -/
theorem off_is_default :
    let m := features [.startElement ['f'], .charData "false".toList, .endElement ['f']]
    getEnableStatusD m ['f'] true = true ∧ getEnableStatusD m ['f'] false = false
      ∧ getEnableStatus m ['f'] = false := by
  decide

end SecNativeFeature

import Universal7580.UnpackdtbhimgProofs

/-! # Device trees, packed and taken out again

    `load_dtbh_block` makes one block of a directory of dtbs, and `unpackdtbhimg`
    makes files of a block.  Here the two are put behind each other: the files
    that come out are the dtbs that went in, each padded to a page and named after
    its chip and its revisions, exactly if the header size that the first program
    accumulates is no more than a page (`unpacked_iff`).

    While it is, every row points at its own dtb.  Once it is not, all rows point
    too far, and the bytes they point at are fewer than the dtbs had that are not
    zero: the magic of the first dtb is missing (`weight_shifted`). -/

namespace DtbhRoundTrip

open PageBytes DtbhBlock Unpackdtbhimg

-- ── Rows ─────────────────────────────────────────────────────────────────────

/-- An entry as it lies in the file. -/
def rowOf (e : DtbhBlock.DtEntry) : Unpackdtbhimg.DtEntry :=
  { chip := e.chip, platform := e.platform, subtype := e.subtype, hwRev := e.hwRev,
    hwRevEnd := e.hwRevEnd, offset := e.offset, size := e.size, space := e.space }

section Rows

variable {n i p : Nat} {table : List DtbhBlock.DtEntry} {e : DtbhBlock.DtEntry}

theorem le32At_take (b : Bytes) {off : Nat} (h : off + 4 ≤ p) :
    le32At (b.take p) off = le32At b off := by
  rw [le32At, le32At, slice, slice, List.drop_take, List.take_take, Nat.min_eq_left (by omega)]

/-- **A ROW IS READ BACK** from the page that is loaded. -/
theorem entryAt_row (tail : Bytes) (hi : table[i]? = some e) (hin : 12 + 32 * (i + 1) ≤ p)
    (hp : p ≤ (headBytes n table ++ tail).length) :
    entryAt ((headBytes n table ++ tail).take p) i = some (rowOf e) := by
  obtain ⟨pre, post, hcat, hlen⟩ := flatMap_row table i e hi
  let words := [e.chip, e.platform, e.subtype, e.hwRev, e.hwRevEnd, e.offset, e.size, e.space]
  let front := dtbhMagic ++ le32 dtbhVersion ++ le32 (UInt32.ofNat n) ++ pre
  have hfront : front.length = 12 + 32 * i := by
    rw [List.length_append, hlen]
    rfl
  have hblock : headBytes n table ++ tail
      = front ++ (words.flatMap le32 ++ (post ++ tail)) := by
    simp only [headBytes, hcat, DtbhBlock.DtEntry.bytes, front, words, List.flatMap_cons,
      List.flatMap_nil, List.append_nil, List.append_assoc]
  have hword : ∀ j x, words[j]? = some x → j < 8 →
      le32At ((headBytes n table ++ tail).take p) (12 + 32 * i + 4 * j) = x := by
    intro j x hj hlt
    rw [le32At_take _ (by omega), hblock, ← hfront]
    exact le32At_words words front (post ++ tail) j x hj
  have hlenp : ((headBytes n table ++ tail).take p).length = p := by
    rw [List.length_take, Nat.min_eq_left hp]
  have hfirst := hword 0 e.chip rfl (by decide)
  rw [Nat.mul_zero, Nat.add_zero] at hfirst
  rw [entryAt, if_pos (by rw [hlenp]; omega), hword 1 e.platform rfl (by decide),
    hword 2 e.subtype rfl (by decide), hword 3 e.hwRev rfl (by decide),
    hword 4 e.hwRevEnd rfl (by decide), hword 5 e.offset rfl (by decide),
    hword 6 e.size rfl (by decide), hword 7 e.space rfl (by decide), hfirst]
  rfl

end Rows

-- ── What a run dumps ─────────────────────────────────────────────────────────

/-- The files of a run: names, and the bytes that are known of each. -/
def filesOf (r : Run) : List (String × Option Bytes) :=
  r.dumps.map fun d => (d.destFile, d.blob)

section Dumps

variable {env : Env} {file header : Bytes} {dir : String}

/-- Every row that is inside is dumped, where nothing else fails. -/
theorem loop_files (hgoes : ∀ e, ¬Ends env e) :
    ∀ (es : List Unpackdtbhimg.DtEntry) {i : Nat},
      (∀ j e, es[j]? = some e → entryAt header (i + j) = some e) →
      filesOf (loop env file dir header i es.length)
        = es.map fun e => (destFile dir e, fread file e.offset.toNat e.size.toNat) := by
  intro es
  induction es with
  | nil =>
      intro i _
      rfl
  | cons e es ih =>
      intro i hrows
      have hrow : entryAt header i = some e := hrows 0 e rfl
      have hturn : turn env file dir i e = .ok
          { row := i, entry := e, destFile := destFile dir e,
            blob := fread file e.offset.toNat e.size.toNat } := by
        rw [turn, if_neg fun h => hgoes e (Or.inl h), if_neg fun h => hgoes e (Or.inr h)]
      have hrest := @ih (i + 1) fun j e' hj => by
        have hnext := hrows (j + 1) e' hj
        rwa [show i + (j + 1) = i + 1 + j by omega] at hnext
      rw [List.length_cons, loop, hrow]
      dsimp only
      rw [hturn]
      exact congrArg (List.cons _) hrest

/-- A run that leaves the page has dumped fewer rows than are counted. -/
theorem loop_short : ∀ (n : Nat) {i : Nat}, 12 + 32 * i ≤ header.length →
    header.length < 12 + 32 * (i + n) → (loop env file dir header i n).dumps.length < n := by
  intro n
  induction n with
  | zero =>
      intro i hin hout
      omega
  | succ n ih =>
      intro i hin hout
      rcases loop_succ env file header dir i n with
        ⟨-, hloop⟩ | ⟨e, hrow, ⟨-, stop, hloop, -⟩ | ⟨-, dump, -, hloop⟩⟩
      · rw [hloop]
        exact Nat.succ_pos n
      · rw [hloop]
        exact Nat.succ_pos n
      · have hnext := entryAt_isSome_iff.mp ⟨e, hrow⟩
        rw [hloop]
        exact Nat.succ_lt_succ (ih hnext (by omega))

end Dumps

-- ── What a directory asks for ────────────────────────────────────────────────

/-- The file that a dtb should come out as: its name from the properties that
    `probe` found, its bytes up to the next page. -/
def named (fdt : Libfdt) (p : Nat) (dir : String) (dtb : Bytes) :
    Option (String × Option Bytes) :=
  match probe fdt dtb with
  | .accept chip hwRev hwRevEnd => some
      (destFile dir
        { chip := chip, platform := dtbhPlatformCode, subtype := dtbhSubtypeCode,
          hwRev := hwRev, hwRevEnd := hwRevEnd, offset := 0, size := 0, space := 0x20 },
        some (padded p dtb))
  | _ => none

/-- The files that a directory should come out as. -/
def asked (fdt : Libfdt) (p : Nat) (dir : String) (files : List (Bytes × Option Bytes)) :
    List (String × Option Bytes) :=
  (acceptedDtbs fdt files).filterMap (named fdt p dir)

/-- An entry with its blob. -/
def pair (p : Nat) (dir : String) (e : DtbhBlock.DtEntry) (bl : DtBlob) :
    String × Option Bytes :=
  (destFile dir (rowOf e), some (padded p bl.payload))

section Asked

variable {fdt : Libfdt} {heap : Nat → Bool} {mask : UInt32} {p : Nat} {dir : String}

/-- One turn of the scan adds what its file should come out as. -/
theorem scanFile_pairs {sc sc' : Scan} {name : Bytes} {file : Option Bytes}
    (hlen : sc.entries.length = sc.blobs.length)
    (h : scanFile fdt heap mask sc name file = .ok sc') :
    sc'.entries.length = sc'.blobs.length
      ∧ List.zipWith (pair p dir) sc'.entries sc'.blobs
        = List.zipWith (pair p dir) sc.entries sc.blobs ++ asked fdt p dir [(name, file)] := by
  rw [scanFile] at h
  rw [asked, acceptedDtbs, List.filterMap_cons, acceptedDtb]
  split at h
  · rename_i hname
    rw [if_pos hname]
    cases h
    exact ⟨hlen, (List.append_nil _).symm⟩
  rename_i hname
  rw [if_neg hname]
  dsimp only
  cases hload : loadFile file with
  | none =>
      rw [hload] at h
      cases h
  | some dtb =>
      rw [hload] at h
      dsimp only at h ⊢
      cases hprobe : probe fdt dtb with
      | skip why =>
          rw [hprobe] at h
          cases h
          exact ⟨hlen, (List.append_nil _).symm⟩
      | undefined =>
          rw [hprobe] at h
          cases h
      | accept chip hwRev hwRevEnd =>
          rw [hprobe] at h
          obtain rfl := addDtb_eq_ok h
          refine ⟨?_, ?_⟩
          · rw [List.length_append, List.length_append, hlen]
            rfl
          · rw [List.zipWith_append hlen]
            dsimp only
            rw [List.filterMap_cons, named, hprobe]
            rfl

theorem scanDir_pairs : ∀ (files : List (Bytes × Option Bytes)) {sc sc' : Scan},
    sc.entries.length = sc.blobs.length → scanDir fdt heap mask sc files = .ok sc' →
    List.zipWith (pair p dir) sc'.entries sc'.blobs
      = List.zipWith (pair p dir) sc.entries sc.blobs ++ asked fdt p dir files := by
  intro files
  induction files with
  | nil =>
      intro sc sc' _ h
      cases h
      exact (List.append_nil _).symm
  | cons hd rest ih =>
      intro sc sc' hlen h
      obtain ⟨name, file⟩ := hd
      obtain ⟨sc₁, hstep, h⟩ := scanDir_cons h
      obtain ⟨hlen₁, hpairs⟩ := @scanFile_pairs fdt heap mask p dir sc sc₁ name file hlen hstep
      have hcons : asked fdt p dir ((name, file) :: rest)
          = asked fdt p dir [(name, file)] ++ asked fdt p dir rest := by
        rw [asked, asked, asked, ← List.filterMap_append]
        refine congrArg _ ?_
        exact List.filterMap_append (l := [(name, file)])
      rw [ih hlen₁ h, hpairs, hcons, List.append_assoc]

/-- The payload of blob `j`. -/
def payloadAt (blobs : List DtBlob) (j : Nat) : Bytes :=
  ((blobs[j]?).map DtBlob.payload).getD []

/-- **WHAT WAS GATHERED** is what the directory asks for, in its order. -/
theorem gathered_asked {files : List (Bytes × Option Bytes)} {sc : Scan} {k : Nat}
    (hg : Gathered fdt (2 ^ k) sc) (h : scanDir fdt heap mask {} files = .ok sc) :
    sc.entries.map (fun e => (destFile dir (rowOf e), some (padded p (payloadAt sc.blobs e.blob))))
      = asked fdt p dir files := by
  have hpairs := @scanDir_pairs fdt heap mask p dir files {} sc rfl h
  have hzip : sc.entries.map
        (fun e => (destFile dir (rowOf e), some (padded p (payloadAt sc.blobs e.blob))))
      = List.zipWith (pair p dir) sc.entries sc.blobs := by
    refine List.ext_getElem? fun i => ?_
    rw [List.getElem?_map, List.getElem?_zipWith]
    cases he : sc.entries[i]? with
    | none => rfl
    | some e =>
        have hlt : i < sc.blobs.length := by
          rw [← hg.count_eq]
          exact (List.getElem?_eq_some_iff.mp he).1
        have hblob : e.blob = i := by
          have hrow := congrArg (fun l => l[i]?) hg.blob_of
          simp only [List.getElem?_map, he, List.getElem?_range hlt] at hrow
          exact Option.some.inj hrow
        rw [List.getElem?_eq_getElem hlt]
        simp only [Option.map_some, pair, payloadAt, hblob, List.getElem?_eq_getElem hlt,
          Option.getD_some]
  rw [hzip, hpairs]
  rfl

end Asked

-- ── Bytes that are not zero ──────────────────────────────────────────────────

/-- How many bytes are not zero. -/
def weight (b : Bytes) : Nat := b.countP (· ≠ 0)

theorem weight_append (l r : Bytes) : weight (l ++ r) = weight l + weight r :=
  List.countP_append

theorem weight_zeros (n : Nat) : weight (zeros n) = 0 := by
  refine List.countP_eq_zero.mpr ?_
  intro x hx
  rw [mem_zeros hx]
  decide

section Weights

variable {p : Nat} {b : Bytes}

/-- The room of blob `j`. -/
def roomAt (p : Nat) (blobs : List DtBlob) (j : Nat) : Nat :=
  roundUp p (payloadAt blobs j).length

/-- The rooms of the blobs, one after the other, are all there is. -/
theorem weight_rooms : ∀ (blobs : List DtBlob) (start : Nat),
    ((List.range blobs.length).map fun j =>
        weight (slice b (start + blobBytes p (blobs.take j)) (roomAt p blobs j))).sum
      = weight (slice b start (blobBytes p blobs)) := by
  intro blobs
  induction blobs with
  | nil =>
      intro start
      rfl
  | cons hd rest ih =>
      intro start
      have hrest := ih (start + roundUp p hd.payload.length)
      have hstep : ∀ j, weight (slice b (start + blobBytes p ((hd :: rest).take (j + 1)))
            (roomAt p (hd :: rest) (j + 1)))
          = weight (slice b (start + roundUp p hd.payload.length + blobBytes p (rest.take j))
            (roomAt p rest j)) := by
        intro j
        rw [List.take_succ_cons, blobBytes_cons, ← Nat.add_assoc]
        rfl
      rw [List.length_cons, List.range_succ_eq_map, List.map_cons, List.map_map, List.sum_cons,
        blobBytes_cons, slice_add, weight_append, ← hrest]
      refine congrArg₂ (· + ·) rfl ?_
      exact congrArg List.sum (List.map_congr_left fun j _ => hstep j)

/-- So are the padded payloads. -/
theorem weight_payloads : ∀ blobs : List DtBlob,
    ((List.range blobs.length).map fun j => weight (padded p (payloadAt blobs j))).sum
      = weight (payloads p blobs) := by
  intro blobs
  induction blobs with
  | nil => rfl
  | cons hd rest ih =>
      have hcons : payloads p (hd :: rest) = padded p hd.payload ++ payloads p rest := rfl
      rw [List.length_cons, List.range_succ_eq_map, List.map_cons, List.map_map, List.sum_cons,
        hcons, weight_append, ← ih]
      rfl

/-- **SHIFTED PAYLOADS ARE LIGHTER**: what is read from behind their first byte has
    that byte no more. -/
theorem weight_shifted {front payload : Bytes} {x : UInt8} {d : Nat} (hx : x ≠ 0) :
    weight (slice (front ++ ((x :: payload) ++ zeros d)) (front.length + d) (x :: payload).length)
        = weight (x :: payload)
      ↔ d = 0 := by
  have hslice : slice (front ++ ((x :: payload) ++ zeros d)) (front.length + d)
      (x :: payload).length = ((x :: payload) ++ zeros d).drop d := by
    rw [slice_append_right, slice, List.take_of_length_le]
    rw [List.length_drop, List.length_append, length_zeros]
    omega
  have hsplit : weight (((x :: payload) ++ zeros d).take d)
      + weight (((x :: payload) ++ zeros d).drop d) = weight (x :: payload) := by
    rw [← weight_append, List.take_append_drop, weight_append, weight_zeros, Nat.add_zero]
  rw [hslice]
  constructor
  · intro h
    cases d with
    | zero => rfl
    | succ d =>
        have hfirst : weight (((x :: payload) ++ zeros (d + 1)).take (d + 1)) = 0 := by omega
        rw [List.cons_append, List.take_succ_cons] at hfirst
        have hzero := List.countP_eq_zero.mp hfirst x List.mem_cons_self
        exact absurd (decide_eq_true hx) hzero
  · rintro rfl
    rw [List.drop_zero, weight_append, weight_zeros, Nat.add_zero]

end Weights

-- ── The rows of a block ──────────────────────────────────────────────────────

section Block

variable {fdt : Libfdt} {q : QSort DtbhBlock.DtEntry} {sc : Scan} {pagesize : UInt32} {k : Nat}

/-- Where the row of an entry says that its blob starts, in exact arithmetic. -/
def placeOf (p : Nat) (sc : Scan) (e : DtbhBlock.DtEntry) : Nat :=
  countedHeader p sc.entries.length + blobBytes p (sc.blobs.take e.blob)

/-- The row that is written for an entry. -/
def written (pagesize : UInt32) (sc : Scan) (e : DtbhBlock.DtEntry) : DtbhBlock.DtEntry :=
  updateEntry (pagesize - 1)
    (assignOffsets (pagesize - 1) (maskUp (sc.hdrSz + 4) (pagesize - 1)) sc.blobs) e

theorem tableOf_eq : tableOf q pagesize sc
    = (q.sort dtEntryCmp sc.entries).map (written pagesize sc) := rfl

/-- The file's name does not depend on what was filled in. -/
theorem destFile_written (dir : String) (e : DtbhBlock.DtEntry) :
    destFile dir (rowOf (written pagesize sc e)) = destFile dir (rowOf e) := by
  rw [written, updateEntry]
  split
  · rfl
  · rfl

/-- Every entry has a blob. -/
theorem blob_of_mem {p : Nat} (hg : Gathered fdt p sc) {e : DtbhBlock.DtEntry}
    (he : e ∈ sc.entries) : ∃ bl, sc.blobs[e.blob]? = some bl := by
  have hmem : e.blob ∈ List.range sc.blobs.length := by
    rw [← hg.blob_of]
    exact List.mem_map_of_mem he
  exact ⟨_, List.getElem?_eq_getElem (List.mem_range.mp hmem)⟩

/-- What the row of an entry says. -/
theorem written_row (hg : Gathered fdt (2 ^ k) sc) (hk : k ≤ 17)
    (hm : (pagesize - 1).toNat = 2 ^ k - 1) (hfit : sc.imageSize (2 ^ k) < 2 ^ 32)
    {e : DtbhBlock.DtEntry} (he : e ∈ sc.entries) :
    (written pagesize sc e).offset.toNat = placeOf (2 ^ k) sc e
      ∧ (written pagesize sc e).size.toNat = roomAt (2 ^ k) sc.blobs e.blob := by
  have hsize : sc.imageSize (2 ^ k)
      = countedHeader (2 ^ k) sc.entries.length + blobBytes (2 ^ k) sc.blobs := rfl
  have hhdr := hg.toNat_hdrSz hk hm (by omega)
  obtain ⟨bl, hbl⟩ := blob_of_mem hg he
  obtain ⟨o, ho, honat⟩ := assignOffsets_getElem? hk hm sc.blobs
    (maskUp (sc.hdrSz + 4) (pagesize - 1)) e.blob bl hg.sizes (by rw [hhdr]; omega) hbl
  have hupd : written pagesize sc e
      = { e with offset := o, size := maskUp bl.size (pagesize - 1) } := by
    rw [written, updateEntry, ho]
  rw [hupd]
  refine ⟨?_, ?_⟩
  · rw [placeOf, ← hhdr]
    exact honat
  · rw [roomAt, payloadAt, hbl]
    exact toNat_maskUp_size hk hm (hg.sizes bl (List.mem_of_getElem? hbl))

/-- The files of a run over a block whose table is in the loaded page. -/
theorem loop_block {env : Env} {dir : String} {p : Nat} {tail : Bytes}
    (hg : Gathered fdt (2 ^ k) sc) (hk : k ≤ 17) (hm : (pagesize - 1).toNat = 2 ^ k - 1)
    (hfit : sc.imageSize (2 ^ k) < 2 ^ 32) (hgoes : ∀ e, ¬Ends env e)
    (hin : 12 + 32 * sc.entries.length ≤ p)
    (hp : p ≤ (headBytes sc.entries.length (tableOf q pagesize sc) ++ tail).length) :
    filesOf (loop env (headBytes sc.entries.length (tableOf q pagesize sc) ++ tail) dir
        ((headBytes sc.entries.length (tableOf q pagesize sc) ++ tail).take p) 0 sc.entries.length)
      = (q.sort dtEntryCmp sc.entries).map fun e =>
          (destFile dir (rowOf e),
            fread (headBytes sc.entries.length (tableOf q pagesize sc) ++ tail)
              (placeOf (2 ^ k) sc e) (roomAt (2 ^ k) sc.blobs e.blob)) := by
  have hlen : ((tableOf q pagesize sc).map rowOf).length = sc.entries.length := by
    rw [List.length_map, length_tableOf]
  have hfiles := @loop_files env
    (headBytes sc.entries.length (tableOf q pagesize sc) ++ tail)
    ((headBytes sc.entries.length (tableOf q pagesize sc) ++ tail).take p) dir hgoes
    ((tableOf q pagesize sc).map rowOf) 0 fun j e hj => by
      rw [List.getElem?_map] at hj
      obtain ⟨row, hrow, rfl⟩ := Option.map_eq_some_iff.mp hj
      have hlt := (List.getElem?_eq_some_iff.mp hrow).1
      rw [length_tableOf] at hlt
      rw [Nat.zero_add]
      exact entryAt_row tail hrow (by omega) hp
  rw [hlen] at hfiles
  rw [hfiles, List.map_map, tableOf_eq, List.map_map]
  refine List.map_congr_left fun e he => ?_
  obtain ⟨hoff, hsz⟩ := @written_row fdt sc pagesize k hg hk hm hfit e
    ((q.perm _ _).mem_iff.mp he)
  exact Prod.ext (destFile_written dir e) (congrArg₂ (fread _) hoff hsz)

/-- A sum over the entries is a sum over the blobs. -/
theorem sum_over_blobs {p : Nat} (hg : Gathered fdt p sc) (g : Nat → Nat) :
    (sc.entries.map fun e => g e.blob).sum = ((List.range sc.blobs.length).map g).sum := by
  rw [← hg.blob_of, List.map_map]
  rfl

/-- The payloads begin with the magic of a device tree. -/
theorem payloads_cons (hmagic : fdt.ChecksMagic) {p : Nat} (hg : Gathered fdt p sc)
    (hne : sc.entries.length ≠ 0) : ∃ rest, payloads p sc.blobs = 0xd0 :: rest := by
  cases hbl : sc.blobs with
  | nil =>
      have hcount := hg.count_eq
      rw [hbl] at hcount
      exact absurd hcount hne
  | cons bl blobs =>
      have hmg := hmagic bl.payload (hg.checked bl (by rw [hbl]; exact List.mem_cons_self))
      cases hpay : bl.payload with
      | nil =>
          rw [hpay] at hmg
          cases hmg
      | cons x payload =>
          rw [hpay, List.take_succ_cons] at hmg
          refine ⟨payload ++ zeros (padLen p (0xd0 :: payload).length) ++ payloads p blobs, ?_⟩
          rw [payloads, List.flatMap_cons, padded, hpay, (List.cons.inj hmg).1]
          rfl

/-- **THE FILES ARE THE DTBS**, of a block whose table is in the loaded page, exactly
    if the payloads stand where the rows say. -/
theorem files_iff {dir : String} {front : Bytes} {d : Nat} (hmagic : fdt.ChecksMagic)
    (hg : Gathered fdt (2 ^ k) sc) (hne : sc.entries.length ≠ 0)
    (hcounted : countedHeader (2 ^ k) sc.entries.length = front.length + d) :
    ((q.sort dtEntryCmp sc.entries).map fun e =>
        (destFile dir (rowOf e), fread (front ++ (payloads (2 ^ k) sc.blobs ++ zeros d))
          (placeOf (2 ^ k) sc e) (roomAt (2 ^ k) sc.blobs e.blob))).Perm
      (sc.entries.map fun e =>
        (destFile dir (rowOf e), some (padded (2 ^ k) (payloadAt sc.blobs e.blob))))
      ↔ d = 0 := by
  have hpos : 0 < 2 ^ k := Nat.two_pow_pos k
  have hlen := length_payloads hpos sc.blobs
  obtain ⟨rest, hrest⟩ := payloads_cons hmagic hg hne
  generalize hb : front ++ (payloads (2 ^ k) sc.blobs ++ zeros d) = b
  have hblen : b.length = countedHeader (2 ^ k) sc.entries.length + blobBytes (2 ^ k) sc.blobs := by
    rw [← hb, List.length_append, List.length_append, length_zeros, hlen]
    omega
  constructor
  · intro hperm
    have hsorted := q.perm dtEntryCmp sc.entries
    -- every row was read
    have hread : ∀ e ∈ q.sort dtEntryCmp sc.entries,
        fread b (placeOf (2 ^ k) sc e) (roomAt (2 ^ k) sc.blobs e.blob)
          = some (slice b (placeOf (2 ^ k) sc e) (roomAt (2 ^ k) sc.blobs e.blob)) := by
      intro e he
      have hmem := hperm.mem_iff.mp (List.mem_map_of_mem he)
      obtain ⟨e', -, heq⟩ := List.mem_map.mp hmem
      have hsome := (Prod.mk.inj heq).2
      rw [fread] at hsome ⊢
      split at hsome
      · rename_i hfit
        rw [if_pos hfit]
      · cases hsome
    have hsum := ((hperm.map fun f => weight (f.2.getD [])).sum_eq)
    rw [List.map_map, List.map_map] at hsum
    have hleft : ((q.sort dtEntryCmp sc.entries).map
          ((fun f : String × Option Bytes => weight (f.2.getD [])) ∘ fun e =>
            (destFile dir (rowOf e),
              fread b (placeOf (2 ^ k) sc e) (roomAt (2 ^ k) sc.blobs e.blob)))).sum
        = weight (slice b (countedHeader (2 ^ k) sc.entries.length)
            (blobBytes (2 ^ k) sc.blobs)) := by
      rw [← weight_rooms sc.blobs, ← sum_over_blobs hg, ← (hsorted.map _).sum_eq]
      refine congrArg List.sum (List.map_congr_left fun e he => ?_)
      rw [Function.comp_apply, hread e he]
      rfl
    have hright : (sc.entries.map
          ((fun f : String × Option Bytes => weight (f.2.getD [])) ∘ fun e =>
            (destFile dir (rowOf e),
              some (padded (2 ^ k) (payloadAt sc.blobs e.blob))))).sum
        = weight (payloads (2 ^ k) sc.blobs) := by
      rw [← weight_payloads, ← sum_over_blobs hg]
      rfl
    rw [hleft, hright, ← hlen, hcounted, ← hb, hrest] at hsum
    exact (weight_shifted (by decide)).mp hsum
  · rintro rfl
    -- every payload stands where its row says
    have hall : slice b (countedHeader (2 ^ k) sc.entries.length)
        (payloads (2 ^ k) sc.blobs).length = payloads (2 ^ k) sc.blobs := by
      rw [← hb]
      exact slice_append_exact front _ _ hcounted
    have hplaces := (slice_payloads_iff hpos b sc.blobs _).mp hall
    have hsame : ∀ e ∈ q.sort dtEntryCmp sc.entries,
        fread b (placeOf (2 ^ k) sc e) (roomAt (2 ^ k) sc.blobs e.blob)
          = some (padded (2 ^ k) (payloadAt sc.blobs e.blob)) := by
      intro e he
      obtain ⟨bl, hbl⟩ := blob_of_mem hg ((q.perm _ _).mem_iff.mp he)
      have hpay : payloadAt sc.blobs e.blob = bl.payload := by
        rw [payloadAt, hbl]
        rfl
      have hle := blobBytes_take_le (2 ^ k) sc.blobs e.blob bl hbl
      have hroom : roomAt (2 ^ k) sc.blobs e.blob = roundUp (2 ^ k) bl.payload.length := by
        rw [roomAt, hpay]
      have hsome : roomAt (2 ^ k) sc.blobs e.blob ≠ 0 := by
        have hmg := hmagic bl.payload (hg.checked bl (List.mem_of_getElem? hbl))
        have hfour := congrArg List.length hmg
        have hup := le_roundUp hpos bl.payload.length
        rw [List.length_take] at hfour
        have hlen4 : ([0xd0, 0x0d, 0xfe, 0xed] : Bytes).length = 4 := rfl
        omega
      rw [fread, if_pos ⟨hsome, by rw [hblen, placeOf]; omega⟩, hpay, hroom]
      exact congrArg some (hplaces e.blob bl hbl)
    refine List.Perm.trans (List.Perm.of_eq ?_) ((q.perm dtEntryCmp sc.entries).map _)
    exact List.map_congr_left fun e he => congrArg (Prod.mk _) (hsame e he)

end Block

-- ── In and out ───────────────────────────────────────────────────────────────

/-- The loop of a run over a block, once its page is loaded. -/
theorem unpack_block {env : Env} {input dir : String} {b : Bytes} {pagesize : UInt32} {n : Nat}
    (hps : pagesize ∈ acceptedPageSizes) (hopen : env.fopen input = some b)
    (hbits : 32 ≤ env.SIZE_BIT) (hcalloc : env.calloc pagesize.toNat = true)
    (hpage : pagesize.toNat ≤ b.length) (hcount : entryCount b = n) :
    unpackdtbhimg env
        { dtbhimg := some input, outputDir := some dir, pageSize := pagesize.toInt32 }
      = loop env b dir (b.take pagesize.toNat) 0 n := by
  obtain ⟨k, hk11, hk, hpk, -⟩ := accepted_pow hps
  have hlow : 2 ^ 11 ≤ 2 ^ k := Nat.pow_le_pow_right (by decide) hk11
  have hhigh : 2 ^ k ≤ 2 ^ 17 := Nat.pow_le_pow_right (by decide) hk
  have hheader : headerSize env
      { dtbhimg := some input, outputDir := some dir, pageSize := pagesize.toInt32 }
      = pagesize.toNat := by
    have hint := toInt_small (by omega : pagesize.toNat < 2 ^ 31)
    have hpow : (2 : Int) ^ 32 ≤ 2 ^ env.SIZE_BIT := by
      exact_mod_cast Nat.pow_le_pow_right (by decide : 0 < 2) hbits
    rw [headerSize, hint, Int.emod_eq_of_lt (by omega) (by omega), Int.toNat_natCast]
  have hread : fread b 0 pagesize.toNat = some (b.take pagesize.toNat) := by
    rw [fread, if_pos ⟨by omega, by omega⟩, slice, List.drop_zero]
  have hlen : (b.take pagesize.toNat).length = pagesize.toNat := by
    rw [List.length_take, Nat.min_eq_left hpage]
  have hword : (le32At (b.take pagesize.toNat) 8).toNat = n := by
    rw [← hcount]
    exact entryCount_take b (by omega)
  rw [unpackdtbhimg]
  dsimp only
  rw [hopen]
  dsimp only
  rw [hheader, hcalloc, if_neg (by decide), hread]
  dsimp only
  rw [if_neg (by rw [hlen]; omega), hword]

end DtbhRoundTrip

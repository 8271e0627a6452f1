import Universal7580.AudioRefCountProofs

/-! # One device for all playback

    "This function is to make sure that all the usecases that are active on the
    hardware codec backend are always routed to any one device", says
    `check_and_route_usecases`.  `Backend` is that law: the playback usecases
    with a device share it, the capture usecases with a device share it, and
    during a voice call with a device the playback usecases have that one.

    `select_devices` keeps the law, whatever usecase it is called for.  It is
    broken by `out_set_offload_parameters`, which takes a usecase from the
    combined device to the headphones by itself: when the new devices of the
    stream are headphones, `select_devices` then finds nothing to do, and the
    other playback usecases stay behind on the combined device.

    The main results are `backend_shared`, the law in every run without such a
    step, and `backend_split`, a run with one. -/

namespace AudioHal

open AudioRouting Run

-- ── The law ───────────────────────────────────────────────────────────────

/-- Any two playback usecases with a device have the same one. -/
def PlaybackAgree (ucs : List Usecase) : Prop :=
  ∀ u ∈ ucs, ∀ v ∈ ucs, u.type = .pcmPlayback → v.type = .pcmPlayback →
    u.outSndDevice ≠ .none → v.outSndDevice ≠ .none → u.outSndDevice = v.outSndDevice

/-- Any two capture usecases with a device have the same one. -/
def CaptureAgree (ucs : List Usecase) : Prop :=
  ∀ u ∈ ucs, ∀ v ∈ ucs, u.type = .pcmCapture → v.type = .pcmCapture →
    u.inSndDevice ≠ .none → v.inSndDevice ≠ .none → u.inSndDevice = v.inSndDevice

/-- A playback usecase with a device has the one of the voice call. -/
def CallAgree (ucs : List Usecase) : Prop :=
  ∀ c ∈ ucs, c.type = .voiceCall → c.outSndDevice ≠ .none →
    ∀ u ∈ ucs, u.type = .pcmPlayback → u.outSndDevice ≠ .none → u.outSndDevice = c.outSndDevice

/-- No voice call has an output device. -/
def NoCallDevice (ucs : List Usecase) : Prop :=
  ∀ c ∈ ucs, c.type = .voiceCall → c.outSndDevice = .none

/-- **SHARED BACKEND**. -/
structure Backend (r : Routing) : Prop where
  playback : PlaybackAgree r.usecases
  capture : CaptureAgree r.usecases
  call : CallAgree r.usecases

/-- A voice call usecase is only active during a call. -/
def CallsInCall (r : Routing) : Prop := ∀ c ∈ r.usecases, c.type = .voiceCall → r.inCall = true

-- ── Lists of usecases ─────────────────────────────────────────────────────

section Lists

variable {ucs ucs' : List Usecase} {p : Nat} {out in' : SndDevice}

theorem playbackAgree_subset (h : PlaybackAgree ucs) (hsub : ucs' ⊆ ucs) : PlaybackAgree ucs' :=
  fun u hu v hv => h u (hsub hu) v (hsub hv)

theorem captureAgree_subset (h : CaptureAgree ucs) (hsub : ucs' ⊆ ucs) : CaptureAgree ucs' :=
  fun u hu v hv => h u (hsub hu) v (hsub hv)

theorem callAgree_subset (h : CallAgree ucs) (hsub : ucs' ⊆ ucs) : CallAgree ucs' :=
  fun c hc hcall hdev u hu => h c (hsub hc) hcall hdev u (hsub hu)

theorem others_subset (ucs : List Usecase) (p : Nat) : others ucs p ⊆ ucs :=
  List.filter_sublist.subset

theorem mem_others {u : Usecase} (hu : u ∈ ucs) (hne : u.ptr ≠ p) : u ∈ others ucs p :=
  List.mem_filter.mpr ⟨hu, by simpa using hne⟩

theorem keepsIdentity_routed (p : Nat) (out in' : SndDevice) :
    KeepsIdentity (routed p out in') := by
  intro u
  simp only [routed]
  split
  · exact ⟨rfl, rfl, rfl, rfl⟩
  · split
    · exact ⟨rfl, rfl, rfl, rfl⟩
    · split <;> exact ⟨rfl, rfl, rfl, rfl⟩

theorem routed_type (u : Usecase) : (routed p out in' u).type = u.type :=
  congrArg UsecaseId.type (keepsIdentity_routed p out in' u).2.1

/-- The output device of a playback usecase after a move. -/
theorem routed_playback {u : Usecase} (h : u.type = .pcmPlayback) :
    (routed p out in' u).outSndDevice
      = if u.ptr = p ∨ out ≠ .none then out else u.outSndDevice := by
  by_cases hptr : u.ptr = p
  · simp [routed, hptr]
  · by_cases hout : out = .none <;> simp [routed, hptr, hout, h]

/-- The input device of a capture usecase after a move. -/
theorem routed_capture {u : Usecase} (h : u.type = .pcmCapture) :
    (routed p out in' u).inSndDevice
      = if u.ptr = p ∨ in' ≠ .none then in' else u.inSndDevice := by
  by_cases hptr : u.ptr = p
  · simp [routed, hptr]
  · by_cases hin : in' = .none <;> simp [routed, hptr, hin, h]

/-- The output device of a voice call after a move. -/
theorem routed_call {u : Usecase} (h : u.type = .voiceCall) :
    (routed p out in' u).outSndDevice = if u.ptr = p then out else u.outSndDevice := by
  by_cases hptr : u.ptr = p <;> simp [routed, hptr, h]

/-- After a move all playback usecases agree: they have the new device, or those
    that were not moved agreed before. -/
theorem playbackAgree_routed (h : out = .none → PlaybackAgree (others ucs p)) :
    PlaybackAgree (ucs.map (routed p out in')) := by
  intro u' hu' v' hv' hu'type hv'type hu'dev hv'dev
  obtain ⟨u, hu, rfl⟩ := List.mem_map.mp hu'
  obtain ⟨v, hv, rfl⟩ := List.mem_map.mp hv'
  rw [routed_type] at hu'type hv'type
  rw [routed_playback hu'type] at hu'dev ⊢
  rw [routed_playback hv'type] at hv'dev ⊢
  by_cases hout : out = .none
  · -- a usecase with a device was not the one that was moved
    have hup : u.ptr ≠ p := fun heq => hu'dev (by rw [if_pos (.inl heq), hout])
    have hvp : v.ptr ≠ p := fun heq => hv'dev (by rw [if_pos (.inl heq), hout])
    rw [if_neg (by simp [hup, hout])] at hu'dev ⊢
    rw [if_neg (by simp [hvp, hout])] at hv'dev ⊢
    exact h hout u (mem_others hu hup) v (mem_others hv hvp) hu'type hv'type hu'dev hv'dev
  · rw [if_pos (.inr hout), if_pos (.inr hout)]

theorem captureAgree_routed (h : in' = .none → CaptureAgree (others ucs p)) :
    CaptureAgree (ucs.map (routed p out in')) := by
  intro u' hu' v' hv' hu'type hv'type hu'dev hv'dev
  obtain ⟨u, hu, rfl⟩ := List.mem_map.mp hu'
  obtain ⟨v, hv, rfl⟩ := List.mem_map.mp hv'
  rw [routed_type] at hu'type hv'type
  rw [routed_capture hu'type] at hu'dev ⊢
  rw [routed_capture hv'type] at hv'dev ⊢
  by_cases hin : in' = .none
  · have hup : u.ptr ≠ p := fun heq => hu'dev (by rw [if_pos (.inl heq), hin])
    have hvp : v.ptr ≠ p := fun heq => hv'dev (by rw [if_pos (.inl heq), hin])
    rw [if_neg (by simp [hup, hin])] at hu'dev ⊢
    rw [if_neg (by simp [hvp, hin])] at hv'dev ⊢
    exact h hin u (mem_others hu hup) v (mem_others hv hvp) hu'type hv'type hu'dev hv'dev
  · rw [if_pos (.inr hin), if_pos (.inr hin)]

/-- After a move the playback usecases have the device of the call, if the new
    device is the one of every other call. -/
theorem callAgree_routed
    (hfollow : out ≠ .none → ∀ c ∈ ucs, c.type = .voiceCall → c.ptr ≠ p →
      c.outSndDevice ≠ .none → c.outSndDevice = out)
    (h : out = .none → CallAgree ucs) : CallAgree (ucs.map (routed p out in')) := by
  intro c' hc' hcall hcdev u' hu' hutype hudev
  obtain ⟨c, hc, rfl⟩ := List.mem_map.mp hc'
  obtain ⟨u, hu, rfl⟩ := List.mem_map.mp hu'
  rw [routed_type] at hcall hutype
  rw [routed_call hcall] at hcdev ⊢
  rw [routed_playback hutype] at hudev ⊢
  by_cases hout : out = .none
  · have hup : u.ptr ≠ p := fun heq => hudev (by rw [if_pos (.inl heq), hout])
    have hcp : c.ptr ≠ p := fun heq => hcdev (by rw [if_pos heq, hout])
    rw [if_neg (by simp [hup, hout])] at hudev ⊢
    rw [if_neg hcp] at hcdev ⊢
    exact h hout c hc hcall hcdev u hu hutype hudev
  · rw [if_pos (.inr hout)]
    split
    · rfl
    · rename_i hcp
      rw [if_neg hcp] at hcdev
      exact (hfollow hout c hc hcall hcp hcdev).symm

theorem noCallDevice_routed (h : NoCallDevice ucs)
    (hp : ∀ u ∈ ucs, u.ptr = p → u.type ≠ .voiceCall) :
    NoCallDevice (ucs.map (routed p out in')) := by
  intro c' hc' hcall
  obtain ⟨c, hc, rfl⟩ := List.mem_map.mp hc'
  rw [routed_type] at hcall
  rw [routed_call hcall, if_neg fun heq => hp c hc heq hcall]
  exact h c hc hcall

theorem callAgree_of_noCallDevice (h : NoCallDevice ucs) : CallAgree ucs :=
  fun c hc hcall hdev => absurd (h c hc hcall) hdev

end Lists

-- ── Moves ─────────────────────────────────────────────────────────────────

/-- The counts are right, the backend is shared, and a voice call is active only
    during a call. -/
structure Settled (r : Routing) : Prop where
  good : Good r
  backend : Backend r
  inCall : CallsInCall r

section Moves

variable {r r' : Routing} {uc : Usecase} {out in' : SndDevice}

theorem mem_of_id (h : Good r) {c : Usecase} (hc : c ∈ r.usecases) :
    r.getUsecaseFromId c.id = some c := by
  cases hfind : r.getUsecaseFromId c.id with
  | none => exact absurd (List.mem_map_of_mem hc) (not_mem_ids_of_none hfind)
  | some v =>
      obtain ⟨hv, hid⟩ := getUsecaseFromId_eq_some hfind
      rw [eq_of_id_eq h.toTidy hv hc hid]

theorem id_of_call {c : Usecase} (h : c.type = .voiceCall) : c.id = .voiceCall := by
  cases hid : c.id with
  | playback _ | capture =>
      rw [Usecase.type, hid] at h
      cases h
  | voiceCall => rfl

/-- The other usecases of a voice call usecase are no voice calls. -/
theorem eq_of_calls (h : Good r) {c d : Usecase} (hc : c ∈ r.usecases) (hd : d ∈ r.usecases)
    (hctype : c.type = .voiceCall) (hdtype : d.type = .voiceCall) : c = d :=
  eq_of_id_eq h.toTidy hc hd ((id_of_call hctype).trans (id_of_call hdtype).symm)

/-- Moving a usecase makes the law hold, whatever device it had: with a new
    device the others come along, and without one it plays no role. -/
theorem settled_route_of_ne (hgood : Good r) (hinCall : CallsInCall r)
    (hcapture : CaptureAgree r.usecases) (huc : uc ∈ r.usecases) (hfits : Fits uc.type out in')
    (hsame : ¬ (out = uc.outSndDevice ∧ in' = uc.inSndDevice))
    (hplayback : out = .none → PlaybackAgree (others r.usecases uc.ptr))
    (hcall : out = .none → CallAgree r.usecases)
    (hfollow : out ≠ .none → ∀ c ∈ r.usecases, c.type = .voiceCall → c.ptr ≠ uc.ptr →
      c.outSndDevice ≠ .none → c.outSndDevice = out) : Settled (r.route uc out in') := by
  obtain ⟨hgood', hucs, hrest⟩ := good_route_of_ne hgood huc hfits hsame
  refine ⟨hgood', ⟨?_, ?_, ?_⟩, ?_⟩
  · rw [hucs]
    exact playbackAgree_routed hplayback
  · rw [hucs]
    exact captureAgree_routed fun _ => captureAgree_subset hcapture (others_subset _ _)
  · rw [hucs]
    exact callAgree_routed hfollow hcall
  · intro c hc hctype
    rw [hucs] at hc
    obtain ⟨v, hv, rfl⟩ := List.mem_map.mp hc
    rw [routed_type] at hctype
    have hflag : (r.route uc out in').inCall = r.inCall := congrArg Prod.fst hrest
    rw [hflag]
    exact hinCall v hv hctype

/-- Moving a usecase keeps the law, if it follows the other voice calls. -/
theorem settled_route (h : Settled r) (huc : uc ∈ r.usecases) (hfits : Fits uc.type out in')
    (hfollow : out ≠ .none → ∀ c ∈ r.usecases, c.type = .voiceCall → c.ptr ≠ uc.ptr →
      c.outSndDevice ≠ .none → c.outSndDevice = out) : Settled (r.route uc out in') := by
  by_cases hsame : out = uc.outSndDevice ∧ in' = uc.inSndDevice
  · rw [Routing.route, if_pos hsame]
    exact h
  · exact settled_route_of_ne h.good h.inCall h.backend.capture huc hfits hsame
      (fun _ => playbackAgree_subset h.backend.playback (others_subset _ _))
      (fun _ => h.backend.call) hfollow

theorem noCallDevice_route (h : Good r) (hnone : NoCallDevice r.usecases) (huc : uc ∈ r.usecases)
    (hfits : Fits uc.type out in') (htype : uc.type ≠ .voiceCall) :
    NoCallDevice (r.route uc out in').usecases := by
  by_cases hsame : out = uc.outSndDevice ∧ in' = uc.inSndDevice
  · rw [Routing.route, if_pos hsame]
    exact hnone
  · rw [(good_route_of_ne h huc hfits hsame).2.1]
    refine noCallDevice_routed hnone fun u hu hptr => ?_
    rw [eq_of_ptr_eq h.toTidy hu huc hptr]
    exact htype

/-- A shorter list of usecases keeps the law. -/
theorem backend_subset (h : Backend r) (hsub : r'.usecases ⊆ r.usecases) : Backend r' where
  playback := playbackAgree_subset h.playback hsub
  capture := captureAgree_subset h.capture hsub
  call := callAgree_subset h.call hsub

/-- A usecase without devices keeps the law. -/
theorem backend_add (h : Backend r) (id : UsecaseId) (stream : Stream) (mixers : List Nat) :
    Backend (r.addUsecase id stream mixers) := by
  have hmem : ∀ u ∈ (r.addUsecase id stream mixers).usecases,
      u ∈ r.usecases ∨ u.outSndDevice = .none ∧ u.inSndDevice = .none := by
    intro u hu
    rcases List.mem_append.mp hu with hu | hu
    · exact .inl hu
    · rw [List.mem_singleton.mp hu]
      exact .inr ⟨rfl, rfl⟩
  refine ⟨?_, ?_, ?_⟩
  · intro u hu v hv hutype hvtype hudev hvdev
    obtain hu | hu := hmem u hu
    · obtain hv | hv := hmem v hv
      · exact h.playback u hu v hv hutype hvtype hudev hvdev
      · exact absurd hv.1 hvdev
    · exact absurd hu.1 hudev
  · intro u hu v hv hutype hvtype hudev hvdev
    obtain hu | hu := hmem u hu
    · obtain hv | hv := hmem v hv
      · exact h.capture u hu v hv hutype hvtype hudev hvdev
      · exact absurd hv.2 hvdev
    · exact absurd hu.2 hudev
  · intro c hc hcall hcdev u hu hutype hudev
    obtain hc | hc := hmem c hc
    · obtain hu | hu := hmem u hu
      · exact h.call c hc hcall hcdev u hu hutype hudev
      · exact absurd hu.1 hudev
    · exact absurd hc.1 hcdev

end Moves

-- ── Selecting devices ─────────────────────────────────────────────────────

section Select

variable {view : StreamOut → InputView} {s : Adev}

/-- The devices of a voice call are the ones the other usecases take. -/
theorem vcOut_eq (hgood : Good s.routing) (hinCall : CallsInCall s.routing) {c : Usecase}
    (hc : c ∈ s.routing.usecases) (hcall : c.type = .voiceCall) : s.vcOut = c.outSndDevice := by
  have hfind := mem_of_id hgood hc
  rw [id_of_call hcall] at hfind
  rw [Adev.vcOut, Adev.vcUsecase, hinCall c hc hcall, if_pos rfl, hfind]
  rfl

theorem vcOut_of_call (h : Settled s.routing) {c : Usecase} (hc : c ∈ s.routing.usecases)
    (hcall : c.type = .voiceCall) : s.vcOut = c.outSndDevice :=
  vcOut_eq h.good h.inCall hc hcall

/-- A device to take is the device of some voice call. -/
theorem exists_call_of_vcOut (h : s.vcOut ≠ .none) :
    ∃ c ∈ s.routing.usecases, c.type = .voiceCall := by
  rw [Adev.vcOut, Adev.vcUsecase] at h
  split at h
  · cases hfind : s.routing.getUsecaseFromId .voiceCall with
    | none =>
        rw [hfind] at h
        exact absurd rfl h
    | some c => exact ⟨c, (getUsecaseFromId_eq_some hfind).1, type_of_id hfind⟩
  · exact absurd rfl h

/-- An output stream that is read as an input does not name the voice call. -/
def ViewNamesNoCall (view : StreamOut → InputView) : Prop :=
  ∀ o, (view o).source = .voiceCommunication → (view o).usecase ≠ some .voiceCall

theorem inputFollows_ne_voiceCall (hview : ViewNamesNoCall view) {n : Nat} {id : UsecaseId}
    (h : s.inputFollows view n = some id) : id ≠ .voiceCall := by
  rw [Adev.inputFollows, Adev.activeView] at h
  cases huc : s.routing.getUsecaseFromType [.pcmCapture, .voiceCall] with
  | none =>
      rw [huc] at h
      exact nomatch h
  | some uc =>
      rw [huc] at h
      simp only [Option.map_some] at h
      split at h
      · rename_i hfollow
        cases hstream : uc.stream with
        | output m =>
            rw [hstream] at h hfollow
            rintro rfl
            exact hview _ hfollow.2 h
        | input m =>
            rw [hstream] at h
            obtain rfl := Option.some.inj h
            exact fun h => (nomatch h)
      · exact nomatch h

/-- What the call of `select_devices` for the active input may do. -/
def KeepsSettled (nested : Adev → UsecaseId → Adev) : Prop :=
  ∀ (s : Adev) (id : UsecaseId), id ≠ .voiceCall → Settled s.routing →
    NoCallDevice s.routing.usecases →
    Settled (nested s id).routing ∧ NoCallDevice (nested s id).routing.usecases

theorem noCallDevice_of_vcOut (h : Settled s.routing) (hnone : s.vcOut = .none) :
    NoCallDevice s.routing.usecases :=
  fun _ hc hcall => (vcOut_of_call h hc hcall).symm.trans hnone

/-- **SELECTING KEEPS THE LAW**, for any usecase. -/
theorem settled_selectWith (hview : ViewNamesNoCall view) {nested : Adev → UsecaseId → Adev}
    (hnested : KeepsSettled nested) (s : Adev) (id : UsecaseId) (h : Settled s.routing) :
    Settled (s.selectWith view nested id).routing := by
  have hmem : ∀ {r : Routing} {uc : Usecase}, r.getUsecaseFromId id = some uc →
      uc ∈ r.usecases := fun huc => (getUsecaseFromId_eq_some huc).1
  -- while no call has a device, nor has it after the call for the active input
  have hfollow : s.vcOut = .none → ∀ n, Settled ((s.inputFollows view n).elim s (nested s)).routing
      ∧ NoCallDevice ((s.inputFollows view n).elim s (nested s)).routing.usecases := by
    intro hvc n
    have hnone := noCallDevice_of_vcOut h hvc
    refine kept_follow (K := fun s => Settled s.routing ∧ NoCallDevice s.routing.usecases)
      ⟨h, hnone⟩ ?_
    intro id' hfollows
    exact hnested s id' (inputFollows_ne_voiceCall hview hfollows) h hnone
  have hsel : Selected view nested s id _ := selected_selectWith nested s id
  generalize s.selectWith view nested id = s' at hsel ⊢
  cases hsel with
  | missing => exact h
  | call session out in' huc htype =>
      refine settled_route h (hmem huc) (fits_call htype out in') ?_
      intro _ c hc hcall hne
      exact absurd (congrArg Usecase.ptr (eq_of_calls h.good hc (hmem huc) hcall htype)) hne
  | follow huc htype hvc =>
      refine settled_route h (hmem huc) (fits_playback htype _) ?_
      exact fun _ c hc hcall _ _ => (vcOut_of_call h hc hcall).symm
  | stopped huc htype hvc hafter =>
      rw [hafter]
      exact (hfollow hvc _).1
  | @play s₁ uc uc' out huc htype hvc hafter huc' htype' =>
      have hkept := hfollow hvc (streamIndex uc.stream)
      rw [← hafter] at hkept
      refine settled_route hkept.1 (hmem huc') (fits_playback htype' out) ?_
      exact fun _ c hc hcall _ hdev => absurd (hkept.2 c hc hcall) hdev
  | capture in' huc htype =>
      exact settled_route h (hmem huc) (fits_capture htype in') fun hne => absurd rfl hne

/-- What moving a usecase keeps that is no voice call, `select_devices` keeps for
    such a usecase. -/
theorem kept_selectOther (hview : ViewNamesNoCall view) {J : Routing → Prop}
    (hroute : ∀ (r : Routing) (uc : Usecase) (out in' : SndDevice), J r → uc ∈ r.usecases →
      Fits uc.type out in' → uc.type ≠ .voiceCall → J (r.route uc out in'))
    {nested : Adev → UsecaseId → Adev}
    (hnested : ∀ (s : Adev) (id : UsecaseId), id ≠ .voiceCall → J s.routing →
      J (nested s id).routing)
    (s : Adev) (id : UsecaseId) (hid : id ≠ .voiceCall) (hs : J s.routing) :
    J (s.selectWith view nested id).routing := by
  have hother : ∀ {r : Routing} {uc : Usecase}, r.getUsecaseFromId id = some uc →
      uc.type ≠ .voiceCall := by
    intro r uc huc hcall
    exact hid ((getUsecaseFromId_eq_some huc).2.symm.trans (id_of_call hcall))
  have hmem : ∀ {r : Routing} {uc : Usecase}, r.getUsecaseFromId id = some uc →
      uc ∈ r.usecases := fun huc => (getUsecaseFromId_eq_some huc).1
  have hfollow : ∀ n, J ((s.inputFollows view n).elim s (nested s)).routing := fun n =>
    kept_follow (K := fun s => J s.routing) hs fun id' hfollows =>
      hnested s id' (inputFollows_ne_voiceCall hview hfollows) hs
  have hsel : Selected view nested s id _ := selected_selectWith nested s id
  generalize s.selectWith view nested id = s' at hsel ⊢
  cases hsel with
  | missing => exact hs
  | call session out in' huc htype => exact absurd htype (hother huc)
  | follow huc htype =>
      exact hroute _ _ _ _ hs (hmem huc) (fits_playback htype _) (hother huc)
  | stopped huc htype hvc hafter =>
      rw [hafter]
      exact hfollow _
  | play out huc htype hvc hafter huc' htype' =>
      refine hroute _ _ _ _ ?_ (hmem huc') (fits_playback htype' out) (hother huc')
      rw [hafter]
      exact hfollow _
  | capture in' huc htype =>
      exact hroute _ _ _ _ hs (hmem huc) (fits_capture htype in') (hother huc)

/-- The call for the active input gives a voice call no device. -/
theorem keepsSettled_inner (hview : ViewNamesNoCall view) :
    KeepsSettled fun s => s.selectWith view fun s _ => s := by
  intro s id hid h hnone
  refine @kept_selectOther view hview (fun r => Settled r ∧ NoCallDevice r.usecases) ?_ _
    (fun _ _ _ h => h) s id hid ⟨h, hnone⟩
  rintro r uc out in' ⟨h, hnone⟩ huc hfits htype
  refine ⟨settled_route h huc hfits ?_, noCallDevice_route h.good hnone huc hfits htype⟩
  exact fun _ c hc hcall _ hdev => absurd (hnone c hc hcall) hdev

theorem settled_selectDevices (hview : ViewNamesNoCall view) (s : Adev) (id : UsecaseId)
    (h : Settled s.routing) : Settled (s.selectDevices view id).routing :=
  settled_selectWith hview (keepsSettled_inner hview) s id h

end Select

-- ── Every kind of move ────────────────────────────────────────────────────

/-- As long as no usecase was added under an active id, the law holds. -/
def SettledOnce (r : Routing) : Prop := r.doubled = false → Settled r

section Kinds

variable {view : StreamOut → InputView} {r : Routing}

theorem selectDevices_doubled (s : Adev) (id : UsecaseId) :
    (s.selectDevices view id).routing.doubled = s.routing.doubled :=
  congrArg (fun k => k.2.2.2) (selectDevices_skeleton s id)

/-- A usecase added without devices. -/
theorem settledOnce_add (h : SettledOnce r) {id : UsecaseId}
    (hcall : id.type = .voiceCall → r.inCall = true) (stream : Stream) (mixers : List Nat) :
    SettledOnce (r.addUsecase id stream mixers) := by
  intro hdoubled
  obtain ⟨hbefore, -⟩ := Bool.or_eq_false_iff.mp hdoubled
  have hr := h hbefore
  refine ⟨goodOnce_add (fun hd => (h hd).good) id stream mixers hdoubled,
    backend_add hr.backend id stream mixers, ?_⟩
  intro c hc hctype
  rcases List.mem_append.mp hc with hc | hc
  · exact hr.inCall c hc hctype
  · rw [List.mem_singleton.mp hc] at hctype
    exact hcall hctype

/-- Stopping a usecase leaves a part of the others. -/
theorem settled_stop {r' : Routing} (h : Settled r) (hgood : Good r')
    (hsub : r'.usecases ⊆ r.usecases) (hinCall : r'.inCall = r.inCall) : Settled r' := by
  refine ⟨hgood, backend_subset h.backend hsub, ?_⟩
  intro c hc hcall
  rw [hinCall]
  exact h.inCall c (hsub hc) hcall

theorem mem_removeUsecase {r' : Routing} (hframe : r'.frame = r.frame) {p : Nat} {u : Usecase}
    (hu : u ∈ (r'.removeUsecase p).usecases) : u ∈ r.usecases ∧ u.ptr ≠ p := by
  have hucs : r'.usecases = r.usecases := congrArg Prod.fst hframe
  obtain ⟨hu, hne⟩ := List.mem_filter.mp hu
  exact ⟨hucs ▸ hu, by simpa using hne⟩

theorem settledOnce_kept (hview : ViewNamesNoCall view) : Kept view SettledOnce where
  select := by
    intro s id h hdoubled
    rw [selectDevices_doubled] at hdoubled
    exact settled_selectDevices hview s id (h hdoubled)
  addOutput := fun r p _ _ h => @settledOnce_add r h (.playback p) (fun h => (nomatch h)) _ _
  addInput := fun r _ _ h => @settledOnce_add r h .capture (fun h => (nomatch h)) _ _
  startCall := by
    intro r n h
    refine @settledOnce_add { r with inCall := true } ?_ _ (fun _ => rfl) _ _
    intro hdoubled
    exact ⟨good_inCall (h hdoubled).good true, backend_subset (h hdoubled).backend fun _ h => h,
      fun _ _ _ => rfl⟩
  stopOutput := by
    intro r p uc h huc hdoubled
    have hframe := disableSndDevice_frame r uc uc.outSndDevice
    have hr := h ((doubled_of_frame hframe).symm.trans hdoubled)
    refine settled_stop hr ((goodOnce_kept view).stopOutput r p uc (fun _ => hr.good) huc hdoubled)
      (fun _ hu => (mem_removeUsecase hframe hu).1) (congrArg (fun k => k.2.1) hframe)
  stopInput := by
    intro r uc h huc hdoubled
    have hframe := disableSndDevice_frame r uc uc.inSndDevice
    have hr := h ((doubled_of_frame hframe).symm.trans hdoubled)
    refine settled_stop hr ((goodOnce_kept view).stopInput r uc (fun _ => hr.good) huc hdoubled)
      (fun _ hu => (mem_removeUsecase hframe hu).1) (congrArg (fun k => k.2.1) hframe)
  stopCall := by
    intro r uc h huc hdoubled
    have hframe : ((({ r with inCall := false } : Routing).disableSndDevice uc
        uc.outSndDevice).disableSndDevice uc uc.inSndDevice).frame
          = ({ r with inCall := false } : Routing).frame := by
      rw [disableSndDevice_frame, disableSndDevice_frame]
    have hr := h ((doubled_of_frame hframe).symm.trans hdoubled)
    refine ⟨(goodOnce_kept view).stopCall r uc (fun _ => hr.good) huc hdoubled,
      backend_subset hr.backend fun _ hu => (mem_removeUsecase hframe hu).1, ?_⟩
    intro c hc hcall
    obtain ⟨hmem, hne⟩ := mem_removeUsecase hframe hc
    have huc' := getUsecaseFromId_eq_some huc
    refine absurd (congrArg Usecase.ptr (eq_of_id_eq hr.good.toTidy hmem huc'.1 ?_)) hne
    rw [id_of_call hcall, huc'.2]
  hangUp := by
    intro r h hnone hdoubled
    have hr := h hdoubled
    refine ⟨good_inCall hr.good false, backend_subset hr.backend fun _ h => h, ?_⟩
    intro c hc hcall
    refine absurd (List.mem_map_of_mem hc) (not_mem_ids_of_none (r := r) ?_)
    rw [id_of_call hcall]
    exact hnone

end Kinds

-- ── Out of the combined device ────────────────────────────────────────────

/-- The usecases while the one at an address may be alone on the headphones. -/
structure Half (p : Nat) (id : UsecaseId) (r : Routing) : Prop where
  good : Good r
  present : id ∈ r.usecases.map Usecase.id
  ptr : ∀ u ∈ r.usecases, u.id = id → u.ptr = p
  inCall : CallsInCall r
  noCall : NoCallDevice r.usecases
  capture : CaptureAgree r.usecases
  others : PlaybackAgree (others r.usecases p)
  own : PlaybackAgree r.usecases ∨ ∀ u ∈ r.usecases, u.ptr = p → u.outSndDevice = .outHeadphones

section Offload

variable {view : StreamOut → InputView} {r : Routing} {uc : Usecase}

/-- Moving any usecase but a voice call keeps the others in agreement. -/
theorem half_route {p : Nat} {id : UsecaseId} (out in' : SndDevice) (h : Half p id r)
    (huc : uc ∈ r.usecases) (hfits : Fits uc.type out in') (htype : uc.type ≠ .voiceCall) :
    Half p id (r.route uc out in') := by
  by_cases hsame : out = uc.outSndDevice ∧ in' = uc.inSndDevice
  · rw [Routing.route, if_pos hsame]
    exact h
  · obtain ⟨hgood, hucs, hrest⟩ := good_route_of_ne h.good huc hfits hsame
    have hflag : (r.route uc out in').inCall = r.inCall := congrArg Prod.fst hrest
    refine ⟨hgood, ?_, ?_, ?_, ?_, ?_, ?_, ?_⟩
    · rw [hucs, map_id_of_keepsIdentity (keepsIdentity_routed uc.ptr out in')]
      exact h.present
    · intro u' hu' hid
      rw [hucs] at hu'
      obtain ⟨u, hu, rfl⟩ := List.mem_map.mp hu'
      obtain ⟨hptr, hid', -⟩ := keepsIdentity_routed uc.ptr out in' u
      exact hptr.trans (h.ptr u hu (hid'.symm.trans hid))
    · intro c hc hctype
      rw [hucs] at hc
      obtain ⟨v, hv, rfl⟩ := List.mem_map.mp hc
      rw [routed_type] at hctype
      rw [hflag]
      exact h.inCall v hv hctype
    · exact noCallDevice_route h.good h.noCall huc hfits htype
    · rw [hucs]
      exact captureAgree_routed fun _ => captureAgree_subset h.capture (others_subset _ _)
    · rw [hucs, others_map (keepsIdentity_routed uc.ptr out in')]
      exact playbackAgree_routed fun _ => playbackAgree_subset h.others (others_subset _ _)
    · rw [hucs]
      obtain hall | hown := h.own
      · exact .inl (playbackAgree_routed fun _ => playbackAgree_subset hall (others_subset _ _))
      by_cases hout : out = .none
      · by_cases hp : uc.ptr = p
        · exact .inl (playbackAgree_routed fun _ => hp ▸ h.others)
        · refine .inr ?_
          intro u' hu' hptr
          obtain ⟨u, hu, rfl⟩ := List.mem_map.mp hu'
          rw [(keepsIdentity_routed uc.ptr out in' u).1] at hptr
          have hne : u.ptr ≠ uc.ptr := fun heq => hp (heq.symm.trans hptr)
          rw [← hown u hu hptr]
          simp only [routed, hne, hout, if_false, ne_eq, not_true_eq_false, false_and]
          split <;> rfl
      · exact .inl (playbackAgree_routed fun h => absurd h hout)

/-- The record that `out_set_offload_parameters` leaves of a usecase on the
    combined device. -/
def onHeadphones (uc : Usecase) : Usecase := { uc with outSndDevice := .outHeadphones }

theorem keepsIdentity_onHeadphones : KeepsIdentity onHeadphones :=
  fun _ => ⟨rfl, rfl, rfl, rfl⟩

theorem setOffloadParameters_usecases (hdev : uc.outSndDevice = .outSpeakerAndHeadphones) :
    (r.setOffloadParameters uc).usecases
      = r.usecases.map (changeAt uc.ptr onHeadphones) := by
  rw [Routing.setOffloadParameters, if_pos hdev, disableSndDevice_usecases]
  rfl

/-- After `out_set_offload_parameters` the usecase is on the headphones, and the
    others are as they were. -/
theorem mem_setOffloadParameters (h : Good r) (huc : uc ∈ r.usecases)
    (hdev : uc.outSndDevice = .outSpeakerAndHeadphones) {u : Usecase}
    (hu : u ∈ (r.setOffloadParameters uc).usecases) :
    u = onHeadphones uc ∨ u ∈ r.usecases ∧ u.ptr ≠ uc.ptr := by
  rw [setOffloadParameters_usecases hdev] at hu
  obtain ⟨v, hv, rfl⟩ := List.mem_map.mp hu
  by_cases hptr : v.ptr = uc.ptr
  · refine .inl ?_
    rw [changeAt, if_pos hptr, eq_of_ptr_eq h.toTidy hv huc hptr]
  · refine .inr ?_
    rw [changeAt, if_neg hptr]
    exact ⟨hv, hptr⟩

theorem onHeadphones_mem (huc : uc ∈ r.usecases)
    (hdev : uc.outSndDevice = .outSpeakerAndHeadphones) :
    onHeadphones uc ∈ (r.setOffloadParameters uc).usecases := by
  rw [setOffloadParameters_usecases hdev]
  have hsame : changeAt uc.ptr onHeadphones uc = onHeadphones uc := if_pos rfl
  exact hsame ▸ List.mem_map_of_mem huc

theorem setOffloadParameters_calls (h : Settled r) (huc : uc ∈ r.usecases)
    (htype : uc.type = .pcmPlayback) (hdev : uc.outSndDevice = .outSpeakerAndHeadphones)
    {c : Usecase} (hc : c ∈ (r.setOffloadParameters uc).usecases) (hcall : c.type = .voiceCall) :
    c ∈ r.usecases := by
  obtain rfl | ⟨hc, -⟩ := mem_setOffloadParameters h.good huc hdev hc
  · have htype' : (onHeadphones uc).type = uc.type := rfl
    rw [htype', htype] at hcall
    exact nomatch hcall
  · exact hc

theorem callsInCall_setOffloadParameters (h : Settled r) (huc : uc ∈ r.usecases)
    (htype : uc.type = .pcmPlayback) (hdev : uc.outSndDevice = .outSpeakerAndHeadphones) :
    CallsInCall (r.setOffloadParameters uc) := by
  intro c hc hcall
  have hflag : (r.setOffloadParameters uc).inCall = r.inCall :=
    congrArg (fun k => k.2.1) (setOffloadParameters_skeleton r uc)
  rw [hflag]
  exact h.inCall c (setOffloadParameters_calls h huc htype hdev hc hcall) hcall

theorem captureAgree_setOffloadParameters (h : Settled r) (huc : uc ∈ r.usecases)
    (htype : uc.type = .pcmPlayback) (hdev : uc.outSndDevice = .outSpeakerAndHeadphones) :
    CaptureAgree (r.setOffloadParameters uc).usecases := by
  have hmem : ∀ u ∈ (r.setOffloadParameters uc).usecases, u.type = .pcmCapture →
      u ∈ r.usecases := by
    intro u hu hcapture
    obtain rfl | ⟨hu, -⟩ := mem_setOffloadParameters h.good huc hdev hu
    · have htype' : (onHeadphones uc).type = uc.type := rfl
      rw [htype', htype] at hcapture
      exact nomatch hcapture
    · exact hu
  exact fun u hu v hv hutype hvtype =>
    h.backend.capture u (hmem u hu hutype) v (hmem v hv hvtype) hutype hvtype

/-- `out_set_offload_parameters` leaves the usecases half way. -/
theorem half_setOffloadParameters (h : Settled r) (hnone : NoCallDevice r.usecases)
    (huc : uc ∈ r.usecases) (htype : uc.type = .pcmPlayback)
    (hdev : uc.outSndDevice = .outSpeakerAndHeadphones) :
    Half uc.ptr uc.id (r.setOffloadParameters uc) := by
  refine ⟨good_setOffloadParameters h.good huc htype,
    List.mem_map.mpr ⟨_, onHeadphones_mem huc hdev, rfl⟩, ?_, callsInCall_setOffloadParameters h huc htype hdev, ?_,
    captureAgree_setOffloadParameters h huc htype hdev, ?_, .inr ?_⟩
  · intro u hu hid
    obtain rfl | ⟨hu, -⟩ := mem_setOffloadParameters h.good huc hdev hu
    · rfl
    · exact congrArg Usecase.ptr (eq_of_id_eq h.good.toTidy hu huc hid)
  · exact fun c hc hcall =>
      hnone c (setOffloadParameters_calls h huc htype hdev hc hcall) hcall
  · rw [setOffloadParameters_usecases hdev, others_map_changeAt keepsIdentity_onHeadphones]
    exact playbackAgree_subset h.backend.playback (others_subset _ _)
  · intro u hu hptr
    obtain rfl | ⟨-, hne⟩ := mem_setOffloadParameters h.good huc hdev hu
    · rfl
    · exact absurd hptr hne

/-- If no other playback usecase has a device, nothing is left behind. -/
theorem settled_setOffloadParameters (h : Settled r) (hnone : NoCallDevice r.usecases)
    (huc : uc ∈ r.usecases) (htype : uc.type = .pcmPlayback)
    (hdev : uc.outSndDevice = .outSpeakerAndHeadphones)
    (halone : ∀ v ∈ r.usecases, v.type = .pcmPlayback → v.ptr ≠ uc.ptr → v.outSndDevice = .none) :
    Settled (r.setOffloadParameters uc) := by
  have hhalf := half_setOffloadParameters h hnone huc htype hdev
  have hone : ∀ u ∈ (r.setOffloadParameters uc).usecases, u.type = .pcmPlayback →
      u.outSndDevice ≠ .none → u.outSndDevice = .outHeadphones := by
    intro u hu hutype hudev
    obtain rfl | ⟨hu, hne⟩ := mem_setOffloadParameters h.good huc hdev hu
    · rfl
    · exact absurd (halone u hu hutype hne) hudev
  refine ⟨hhalf.good, ⟨?_, hhalf.capture, callAgree_of_noCallDevice hhalf.noCall⟩, hhalf.inCall⟩
  exact fun u hu v hv hutype hvtype hudev hvdev =>
    (hone u hu hutype hudev).trans (hone v hv hvtype hvdev).symm

/-- Does routing this output take its usecase to the headphones, and leave
    another playback usecase behind on the combined device? -/
def Adev.leavesBehind (s : Adev) (n : Nat) (val : Devices) : Bool :=
  let s := s.setOut n fun o => { o with devices := val }
  val != 0 && !(s.outs n).standby && (s.outs n).usecase == .offload
    && !needsStandby (s.outs n).pcmDevList val && s.vcOut == .none
    && (s.routing.getUsecaseFromId (.playback .offload)).any fun uc =>
      uc.outSndDevice == .outSpeakerAndHeadphones
        && getOutputSndDevice s.mode s.session (s.outs (streamIndex uc.stream)).devices
          == .outHeadphones
        && s.routing.usecases.any fun v =>
          decide (v.type = .pcmPlayback) && v.ptr != uc.ptr && v.outSndDevice != .none

/-- Selecting the devices of the usecase on the headphones brings the law back,
    unless headphones are what is selected. -/
theorem settled_route_of_half {p : Nat} {out : SndDevice} (h : Half p uc.id r)
    (huc : uc ∈ r.usecases) (htype : uc.type = .pcmPlayback) (hother : out ≠ .outHeadphones) :
    Settled (r.route uc out .none) := by
  have hptr : uc.ptr = p := h.ptr uc huc rfl
  have hfits : Fits uc.type out .none := fits_playback htype out
  have hcall := callAgree_of_noCallDevice h.noCall
  by_cases hsame : out = uc.outSndDevice ∧ SndDevice.none = uc.inSndDevice
  · -- nothing to do: the usecase is not on the headphones any more
    rw [Routing.route, if_pos hsame]
    obtain hall | hown := h.own
    · exact ⟨h.good, ⟨hall, h.capture, hcall⟩, h.inCall⟩
    · exact absurd (hsame.1.trans (hown uc huc hptr)) hother
  · exact settled_route_of_ne h.good h.inCall h.capture huc hfits hsame (fun _ => hptr ▸ h.others)
      (fun _ => hcall) fun _ c hc hctype _ hdev => absurd (h.noCall c hc hctype) hdev

theorem settled_selectDevices_of_half (hview : ViewNamesNoCall view) {s : Adev} {p : Nat}
    (huc : s.routing.getUsecaseFromId uc.id = some uc) (htype : uc.type = .pcmPlayback)
    (hvc : s.vcOut = .none) (h : Half p uc.id s.routing)
    (hother : getOutputSndDevice s.mode s.session (s.outs (streamIndex uc.stream)).devices
      ≠ .outHeadphones) :
    Settled (s.selectDevices view uc.id).routing := by
  have hinner : ∀ (s : Adev) (id : UsecaseId), id ≠ .voiceCall → Half p uc.id s.routing →
      Half p uc.id (s.selectWith view (fun s _ => s) id).routing :=
    fun s id => kept_selectOther hview
      (fun _ _ out in' h hmem hfits htype => half_route out in' h hmem hfits htype)
      (fun _ _ _ h => h) s id
  simp only [Adev.selectDevices, Adev.selectWith, huc, htype, hvc, ne_eq, not_true_eq_false,
    if_false]
  generalize getOutputSndDevice s.mode s.session (s.outs (streamIndex uc.stream)).devices = out
    at hother ⊢
  have hafter : Half p uc.id ((s.inputFollows view (streamIndex uc.stream)).elim s fun id =>
      s.selectWith view (fun s _ => s) id).routing := by
    cases hfollows : s.inputFollows view (streamIndex uc.stream) with
    | none => exact h
    | some id' => exact hinner s id' (inputFollows_ne_voiceCall hview hfollows) h
  generalize (s.inputFollows view (streamIndex uc.stream)).elim s (fun id =>
    s.selectWith view (fun s _ => s) id) = s₁ at hafter ⊢
  split
  · rename_i hgone
    exact absurd hafter.present (not_mem_ids_of_none hgone)
  · rename_i uc' huc'
    obtain ⟨hmem, hid⟩ := getUsecaseFromId_eq_some huc'
    refine settled_route_of_half (hid ▸ hafter) hmem ?_ hother
    rw [Usecase.type, hid]
    exact htype

/-- During a call with a device the offload usecase goes back to that device. -/
theorem settled_offload_in_call {s : Adev} (h : Settled s.routing)
    (huc : s.routing.getUsecaseFromId (.playback .offload) = some uc)
    (hdev : uc.outSndDevice = .outSpeakerAndHeadphones) (hvc : s.vcOut ≠ .none) :
    Settled ((s.onRouting fun r => r.setOffloadParameters uc).selectDevices view
      (.playback .offload)).routing := by
  obtain ⟨hmem, hid⟩ := getUsecaseFromId_eq_some huc
  have htype : uc.type = .pcmPlayback := type_of_id huc
  have hgood := good_setOffloadParameters h.good hmem htype
  have hinCall := callsInCall_setOffloadParameters h hmem htype hdev
  have hhead := onHeadphones_mem hmem hdev
  have hfound : (s.routing.setOffloadParameters uc).getUsecaseFromId (.playback .offload)
      = some (onHeadphones uc) := by
    rw [← hid]
    exact mem_of_id hgood hhead
  -- the call has the combined device, as the usecase had
  obtain ⟨c, hc, hcall⟩ := exists_call_of_vcOut hvc
  have hcdev : c.outSndDevice = .outSpeakerAndHeadphones := by
    rw [vcOut_of_call h hc hcall] at hvc
    rw [← h.backend.call c hc hcall hvc uc hmem htype (by rw [hdev]; exact fun h => by cases h)]
    exact hdev
  have hstays : ∀ d ∈ (s.routing.setOffloadParameters uc).usecases, d.type = .voiceCall →
      d = c := fun d hd hdtype => eq_of_calls h.good
    (setOffloadParameters_calls h hmem htype hdev hd hdtype) hc hdtype hcall
  have hne : changeAt uc.ptr onHeadphones c = c := by
    refine if_neg fun hptr => ?_
    rw [eq_of_ptr_eq h.good.toTidy hc hmem hptr, htype] at hcall
    cases hcall
  have hc' : c ∈ (s.routing.setOffloadParameters uc).usecases := by
    rw [setOffloadParameters_usecases hdev]
    exact hne ▸ List.mem_map_of_mem hc
  have hvc' : (s.onRouting fun r => r.setOffloadParameters uc).vcOut = .outSpeakerAndHeadphones :=
    (vcOut_eq hgood hinCall hc' hcall).trans hcdev
  have htype' : (onHeadphones uc).type = .pcmPlayback := htype
  have hneed : SndDevice.outSpeakerAndHeadphones ≠ .none := fun h => by cases h
  simp only [Adev.selectDevices, Adev.selectWith, onRouting_routing, hfound, htype', hvc', ne_eq,
    hneed, not_false_eq_true, if_true]
  refine settled_route_of_ne hgood hinCall
    (captureAgree_setOffloadParameters h hmem htype hdev) hhead ?_ ?_
    (fun h => absurd h hneed) (fun h => absurd h hneed) ?_
  · exact fits_playback htype' _
  · exact fun h => by cases h.1
  · intro _ d hd hdtype _ _
    rw [hstays d hd hdtype]
    exact hcdev

/-- Outside a call the other usecases follow, or there are none. -/
theorem settled_offload_alone (hview : ViewNamesNoCall view) {s : Adev} (h : Settled s.routing)
    (huc : s.routing.getUsecaseFromId (.playback .offload) = some uc)
    (hdev : uc.outSndDevice = .outSpeakerAndHeadphones) (hvc : s.vcOut = .none)
    (halone : getOutputSndDevice s.mode s.session (s.outs (streamIndex uc.stream)).devices
        = .outHeadphones →
      ∀ v ∈ s.routing.usecases, v.type = .pcmPlayback → v.ptr ≠ uc.ptr → v.outSndDevice = .none) :
    Settled ((s.onRouting fun r => r.setOffloadParameters uc).selectDevices view
      (.playback .offload)).routing := by
  obtain ⟨hmem, hid⟩ := getUsecaseFromId_eq_some huc
  have htype : uc.type = .pcmPlayback := type_of_id huc
  have hnone := noCallDevice_of_vcOut h hvc
  have hhalf := half_setOffloadParameters h hnone hmem htype hdev
  have hvc' : (s.onRouting fun r => r.setOffloadParameters uc).vcOut = .none := by
    by_contra hne
    obtain ⟨c, hc, hcall⟩ := exists_call_of_vcOut hne
    exact hne ((vcOut_eq hhalf.good hhalf.inCall hc hcall).trans (hhalf.noCall c hc hcall))
  by_cases hout : getOutputSndDevice s.mode s.session (s.outs (streamIndex uc.stream)).devices
      = .outHeadphones
  · refine settled_selectDevices hview _ _ ?_
    exact settled_setOffloadParameters h hnone hmem htype hdev (halone hout)
  · have hfound := mem_of_id hhalf.good (onHeadphones_mem hmem hdev)
    have hsel := @settled_selectDevices_of_half view (onHeadphones uc) hview
      (s.onRouting fun r => r.setOffloadParameters uc) uc.ptr hfound htype hvc' hhalf hout
    have hid' : (onHeadphones uc).id = .playback .offload := hid
    rw [hid'] at hsel
    exact hsel

/-- **ROUTING AN OUTPUT** keeps the law, unless it leaves a usecase behind. -/
theorem settledOnce_reroute (hview : ViewNamesNoCall view) {s : Adev} {n : Nat} {val : Devices}
    (h : SettledOnce s.routing) (hok : s.leavesBehind n val = false)
    (hstandby : (s.outs n).standby = false) (hval : val ≠ 0) :
    SettledOnce ((s.setOut n fun o => { o with devices := val }).rerouteOutput view n val).routing := by
  have hkept := settledOnce_kept hview
  have hstandby' : ((s.setOut n fun o => { o with devices := val }).outs n).standby = false := by
    simpa [Adev.setOut] using hstandby
  simp only [Adev.leavesBehind, hstandby'] at hok
  have h : SettledOnce (s.setOut n fun o => { o with devices := val }).routing := h
  generalize (s.setOut n fun o => { o with devices := val }) = s at h hok ⊢
  rw [Adev.rerouteOutput]
  simp only
  split
  · exact hkept.select _ _ h
  · rename_i uc huc
    split
    · exact kept_doOutStandby hkept h n
    · rename_i hneeds
      split
      · rename_i hoffload
        by_cases hdev : uc.outSndDevice = .outSpeakerAndHeadphones
        · intro hdoubled
          have hd : s.routing.doubled = false := by
            rw [selectDevices_doubled] at hdoubled
            rw [← hdoubled]
            exact congrArg (fun k => k.2.2.2) (setOffloadParameters_skeleton s.routing uc).symm
          have hs := h hd
          rw [hoffload] at huc ⊢
          by_cases hvc : s.vcOut = .none
          · refine settled_offload_alone hview hs huc hdev hvc fun hout v hv hvtype hne => ?_
            by_contra hvdev
            simp [hoffload, hneeds, hvc, huc, hdev, hout] at hok
            exact hvdev (hok hval v hv hvtype hne)
          · exact settled_offload_in_call hs huc hdev hvc
        · have hsame : s.onRouting (fun r => r.setOffloadParameters uc) = s := by
            rw [Adev.onRouting, Routing.setOffloadParameters, if_neg hdev]
          rw [hsame]
          exact hkept.select _ _ h
      · exact hkept.select _ _ h

end Offload

-- ── Every run ─────────────────────────────────────────────────────────────

/-- The operation leaves no playback usecase behind on the combined device. -/
def Adev.keepsBackend (s : Adev) : Act → Bool
  | .outSetParameters n val _ => !s.leavesBehind n val
  | _ => true

theorem settledOnce_step {view : StreamOut → InputView} (hview : ViewNamesNoCall view) (s : Adev)
    (a : Act) (s' : Adev) (h : SettledOnce s.routing) (hok : s.keepsBackend a = true)
    (hstep : step view s a = some s') : SettledOnce s'.routing := by
  refine kept_step (settledOnce_kept hview) ?_ h hstep
  rintro n val alloc rfl hstandby hval
  exact settledOnce_reroute hview h (by simpa [Adev.keepsBackend] using hok) hstandby hval

theorem settled_initial : Settled initial where
  good := good_initial
  backend :=
    { playback := fun _ h => absurd h List.not_mem_nil
      capture := fun _ h => absurd h List.not_mem_nil
      call := fun _ h => absurd h List.not_mem_nil }
  inCall := fun _ h => absurd h List.not_mem_nil

/-- **SHARED BACKEND**: in a run in which no routing of an output leaves a
    playback usecase behind, the law holds in every state, as long as no usecase
    was added under an active id. -/
theorem backend_shared (view : StreamOut → InputView) (hview : ViewNamesNoCall view) (fx : Bool)
    (session : VoiceSession) (acts : List Act)
    (hok : StepsMeet (step view) (fun s a => s.keepsBackend a = true) (start fx session) acts) :
    Always (step view) (fun s => s.routing.doubled = false → Backend s.routing)
      (start fx session) acts :=
  always_of_stepsMeet (fun _ h hdoubled => (h hdoubled).backend) (settledOnce_step hview) acts
    (fun _ => settled_initial) hok

theorem backend_shared_recordDuringPlayback :
    ViewNamesNoCall plainView
      ∧ StepsMeet (step plainView) (fun s a => s.keepsBackend a = true) (start false plainSession)
        recordDuringPlayback
      ∧ Always (step plainView) (fun s => s.routing.doubled = false → Backend s.routing)
        (start false plainSession) recordDuringPlayback := by
  have hview : ViewNamesNoCall plainView := fun _ h => (nomatch h)
  have hok : StepsMeet (step plainView) (fun s a => s.keepsBackend a = true)
      (start false plainSession) recordDuringPlayback := by
    refine stepsMeet_of_forall ?_ _
    intro a ha s
    simp only [recordDuringPlayback, List.mem_cons, List.not_mem_nil, or_false] at ha
    obtain rfl | rfl | rfl | rfl | rfl := ha <;> rfl
  exact ⟨hview, hok, backend_shared plainView hview false plainSession recordDuringPlayback hok⟩

-- ── A run that splits the backend ─────────────────────────────────────────

/-- An offload stream for the headphones. -/
def offloadOutput : OpenOutput where
  offload := true
  deepBuffer := false
  primary := false
  devices := Devices.outWiredHeadphone
  infoOk := true
  alloc := true
  codecAlloc := true

/-- Music by offload and a sound by the primary output, both on speaker and
    headphones, as for a notification; then the music goes back to the
    headphones. -/
def notificationDuringMusic : List Act := [
  .openOutput 0 speakerOutput, .openOutput 1 offloadOutput, .write 1 writeOk, .write 0 writeOk,
  .outSetParameters 1 (Devices.outSpeaker ||| Devices.outWiredHeadphone) true,
  .outSetParameters 1 Devices.outWiredHeadphone true]

/-- The music is on the headphones, and the other output still on the combined
    device. -/
theorem backend_split :
    ¬ ∀ (view : StreamOut → InputView) (fx : Bool) (session : VoiceSession) (acts : List Act),
      Always (step view) (fun s => s.routing.doubled = false → Backend s.routing)
        (start fx session) acts := by
  intro hclaim
  have hend : (run (step plainView) (start false plainSession) notificationDuringMusic).map
      (fun s => (s.routing.doubled, s.routing.usecases.map fun uc => (uc.type, uc.outSndDevice)))
      = some (false,
        [(.pcmPlayback, .outHeadphones), (.pcmPlayback, .outSpeakerAndHeadphones)]) := by
    decide +kernel
  obtain ⟨s, hrun, hs⟩ := Option.map_eq_some_iff.mp hend
  obtain ⟨hdoubled, hucs⟩ := Prod.mk.inj hs
  have hback := (hclaim plainView false plainSession notificationDuringMusic
    notificationDuringMusic [] s (List.append_nil _).symm hrun hdoubled).playback
  have hmem : ∀ d : UsecaseType × SndDevice, d ∈ s.routing.usecases.map (fun uc =>
      (uc.type, uc.outSndDevice)) → ∃ uc ∈ s.routing.usecases, uc.type = d.1
        ∧ uc.outSndDevice = d.2 := by
    intro d hd
    obtain ⟨uc, huc, rfl⟩ := List.mem_map.mp hd
    exact ⟨uc, huc, rfl, rfl⟩
  rw [hucs] at hmem
  obtain ⟨u, hu, hutype, hudev⟩ := hmem _ List.mem_cons_self
  obtain ⟨v, hv, hvtype, hvdev⟩ := hmem _ (List.mem_cons_of_mem _ List.mem_cons_self)
  have hsame := hback u hu v hv hutype hvtype (by rw [hudev]; exact fun h => (nomatch h))
    (by rw [hvdev]; exact fun h => (nomatch h))
  rw [hudev, hvdev] at hsame
  exact nomatch hsame

end AudioHal

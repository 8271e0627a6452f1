import Universal7580.SapClientProofs

/-! # Who releases the SAP client's resources

    * `Sound` is the condition under which nothing is used after it was
      released, by `Inv`: there is one reader at most, and what the client has
      in its fields is live;
    * `Stands` says why a connection that has got its stream is never released:
      once two of the three releases that the reader has left are made, the
      third cannot follow;
    * `resources_released` puts the two together. -/

namespace SapClient

open RilClient RilClientSocket Ledger Run

/-- The condition on a step: `Connect_RILD` is called when no reader is left,
    a request is written only on a connection whose `Connect_RILD` succeeded,
    and no write fails but with `EINTR`, and `Disconnect_RILD` is called on such
    a connection and does not return, as long as a connection has had its
    stream. -/
def Sound (sys : Sys) : Act → Prop
  | .connect _ => ∀ r ∈ sys.readers, r = .exited
  | .send token _ results =>
      sys.prv.sock = none ∨ token = false ∨
        sys.connected = true ∧ ∀ w ∈ results, ¬ WriteResult.hard w
  | .disconnect _ _ => NoStream sys ∨ sys.connected = true ∧ sys.prv.sock ≠ none
  | .joined _ _ => NoStream sys
  | _ => True

-- ── While the condition is met ───────────────────────────────────────────────

/-- The client's descriptors are those of a connection, and not released. -/
structure Holds (sys : Sys) (c : Nat) : Prop where
  known : c < sys.conns
  sock : ∃ number, sys.prv.sock = some { conn := c, number }
  pipefd : sys.prv.pipefd = some c
  socket : Live sys.calls ⟨c, .socket⟩
  readEnd : Live sys.calls ⟨c, .readEnd⟩
  writeEnd : Live sys.calls ⟨c, .writeEnd⟩

/-- Where the client is with its reader threads. -/
inductive Phase (sys : Sys) : Prop where
  /-- There is no reader. -/
  | idle (exited : ∀ r ∈ sys.readers, r = .exited)
      (holds : sys.connected = true → sys.prv.sock ≠ none → ∃ c, Holds sys c)
  /-- There is one, and nothing was released yet. -/
  | running (i : Nat) (others : OthersExited sys.readers i) (c : Nat) (holds : Holds sys c)
      (pRs : sys.prv.pRs = some c) (stream : Live sys.calls ⟨c, .stream⟩)
  /-- It has had its command and will leave its loop. -/
  | leaving (i : Nat) (others : OthersExited sys.readers i)
      (head : sys.readers[i]? = some .loopHead) (sock : sys.prv.sock = none)
      (bConnect : sys.prv.bConnect = false)

/-- Before the first stream was made. -/
structure Early (sys : Sys) : Prop where
  readers : sys.readers = []
  pipefd : sys.prv.pipefd = none
  connected : sys.connected = false
  released : ∀ r ∈ sys.made, Call.release r ∈ sys.calls

structure Inv (sys : Sys) : Prop where
  noUse : NoUse sys.calls
  known : ∀ r, Call.release r ∈ sys.calls → r.conn < sys.conns
  early : NoStream sys → Early sys
  settled : ∀ r ∈ sys.due, Call.release r ∈ sys.calls
  alone : sys.freed = true → sys.readers = []
  phase : Phase sys

theorem Inv.released {sys : Sys} (h : Inv sys) : Released sys where
  settled := by
    intro r hmem
    have hle := count_release_le (fun _ => List.mem_cons_self) h.noUse r
    have hpos := List.count_pos_iff.mpr (h.settled r hmem)
    omega
  noUse := h.noUse
  joined := by
    intro hfreed i hi
    rw [h.alone hfreed] at hi
    exact absurd hi (Nat.not_lt_zero i)

theorem inv_openClientRild : Inv openClientRild where
  noUse := noUse_nil
  known := fun _ hmem => nomatch hmem
  early := fun _ => ⟨rfl, rfl, rfl, fun _ hmem => nomatch hmem⟩
  settled := fun _ hmem => nomatch hmem
  alone := fun _ => rfl
  phase := .idle (fun _ hmem => nomatch hmem) fun h => nomatch h

/-- A step that neither connects nor returns keeps all but the phase. -/
theorem Inv.keeps {sys sys' : Sys} {cs : List Call} (h : Inv sys) (hk : Keeps sys sys' cs)
    (hnoUse : NoUse (sys.calls ++ cs)) (hknown : ∀ r, Call.release r ∈ cs → r.conn < sys.conns)
    (hphase : Phase sys') : Inv sys' where
  noUse := by
    rw [hk.calls]
    exact hnoUse
  known := by
    intro r hmem
    rw [hk.calls] at hmem
    rw [hk.conns]
    rcases List.mem_append.mp hmem with hold | hnew
    · exact h.known r hold
    · exact hknown r hnew
  early := by
    intro hno
    have he := h.early fun c hmem => hno c (by rw [hk.made]; exact hmem)
    refine ⟨?_, ?_, ?_, ?_⟩
    · refine List.length_eq_zero_iff.mp ?_
      rw [hk.readers, he.readers]
      rfl
    · rw [hk.pipefd]
      exact he.pipefd
    · rw [hk.connected]
      exact he.connected
    · intro r hmem
      rw [hk.made] at hmem
      rw [hk.calls]
      exact List.mem_append_left cs (he.released r hmem)
  settled := by
    intro r hmem
    rw [hk.due] at hmem
    rw [hk.calls]
    exact List.mem_append_left cs (h.settled r hmem)
  alone := by
    intro hfreed
    rw [hk.freed] at hfreed
    refine List.length_eq_zero_iff.mp ?_
    rw [hk.readers, h.alone hfreed]
    rfl
  phase := hphase

/-- The same for a step that uses what is live and releases nothing. -/
theorem Inv.uses {sys sys' : Sys} {cs : List Call} (h : Inv sys) (hk : Keeps sys sys' cs)
    (hcs : Uses sys.calls cs) (hphase : Phase sys') : Inv sys' :=
  h.keeps hk (noUse_uses h.noUse hcs) (fun r hmem => absurd hmem (hcs.plain r)) hphase

/-- Descriptors that are held stay held while they are used. -/
theorem Holds.uses {sys sys' : Sys} {cs : List Call} {c : Nat} (h : Holds sys c)
    (hk : Keeps sys sys' cs) (hcs : Uses sys.calls cs) (hsock : sys'.prv.sock = sys.prv.sock) :
    Holds sys' c where
  known := by rw [hk.conns]; exact h.known
  sock := by rw [hsock]; exact h.sock
  pipefd := by rw [hk.pipefd]; exact h.pipefd
  socket := by rw [hk.calls]; exact h.socket.uses hcs
  readEnd := by rw [hk.calls]; exact h.readEnd.uses hcs
  writeEnd := by rw [hk.calls]; exact h.writeEnd.uses hcs

/-- A client without readers stays so, whatever it uses. -/
theorem Phase.idle_uses {sys sys' : Sys} {cs : List Call}
    (hexited : ∀ r ∈ sys'.readers, r = .exited)
    (hholds : sys.connected = true → sys.prv.sock ≠ none → ∃ c, Holds sys c)
    (hk : Keeps sys sys' cs) (hcs : Uses sys.calls cs) (hsock : sys'.prv.sock = sys.prv.sock) :
    Phase sys' := by
  refine .idle hexited ?_
  intro hconn hne
  rw [hk.connected] at hconn
  rw [hsock] at hne
  obtain ⟨c, hc⟩ := hholds hconn hne
  exact ⟨c, hc.uses hk hcs hsock⟩

/-- So does a client with one reader. -/
theorem Phase.running_uses {sys sys' : Sys} {cs : List Call} {i c : Nat}
    (hothers : OthersExited sys'.readers i) (hholds : Holds sys c) (hpRs : sys.prv.pRs = some c)
    (hstream : Live sys.calls ⟨c, .stream⟩) (hk : Keeps sys sys' cs) (hcs : Uses sys.calls cs)
    (hsock : sys'.prv.sock = sys.prv.sock) : Phase sys' := by
  refine .running i hothers c (hholds.uses hk hcs hsock) (hk.pRs.trans hpRs) ?_
  rw [hk.calls]
  exact hstream.uses hcs

/-- The same when the readers stay as they are. -/
theorem Phase.uses {sys sys' : Sys} {cs : List Call} (h : Phase sys) (hk : Keeps sys sys' cs)
    (hcs : Uses sys.calls cs) (hsock : sys'.prv.sock = sys.prv.sock)
    (hreaders : sys'.readers = sys.readers)
    (hconn : sys.prv.bConnect = false → sys'.prv.bConnect = false) : Phase sys' := by
  cases h with
  | idle exited holds =>
      refine Phase.idle_uses ?_ holds hk hcs hsock
      rw [hreaders]
      exact exited
  | running i others c holds pRs stream =>
      have hothers : OthersExited sys'.readers i := by
        rw [hreaders]
        exact others
      exact Phase.running_uses hothers holds pRs stream hk hcs hsock
  | leaving i others head sock bConnect =>
      refine .leaving i ?_ ?_ (hsock.trans sock) (hconn bConnect)
      · rw [hreaders]
        exact others
      · rw [hreaders]
        exact head

-- ── Requests ─────────────────────────────────────────────────────────────────

/-- A connected client that has a descriptor holds what is live. -/
theorem Phase.holds {sys : Sys} (h : Phase sys) (hconn : sys.connected = true)
    (hne : sys.prv.sock ≠ none) : ∃ c, Holds sys c := by
  cases h with
  | idle _ holds => exact holds hconn hne
  | running _ _ c holds _ _ => exact ⟨c, holds⟩
  | leaving _ _ _ sock _ => exact absurd sock hne

theorem inv_send {sys sys' : Sys} {token : Bool} {size : Nat} {results : List WriteResult}
    (hinv : Inv sys) (hok : Sound sys (.send token size results))
    (h : invokeOemRequestHookRaw sys token size results = some sys') : Inv sys' := by
  rcases invoke_cases h with rfl | ⟨fd, calls, hsock, htoken, rfl, hcalls⟩
  · exact hinv
  · rcases hok with hnone | hno | ⟨hconn, hsoft⟩
    · rw [hnone] at hsock
      exact nomatch hsock
    · rw [hno] at htoken
      exact nomatch htoken
    · obtain ⟨c, hc⟩ := hinv.phase.holds hconn (by rw [hsock]; exact fun hn => nomatch hn)
      obtain ⟨number, hfd⟩ := hc.sock
      rw [hsock] at hfd
      obtain rfl := Option.some.inj hfd
      have hwrites : ∀ call ∈ calls, call = .write ⟨c, .socket⟩ := by
        intro call hmem
        rcases hcalls call hmem with hwrite | ⟨-, x, hx, hhard⟩
        · exact hwrite
        · exact absurd hhard (hsoft x hx)
      have huses : Uses sys.calls calls := by
        refine ⟨?_, ?_⟩
        · intro r hmem
          exact nomatch hwrites _ hmem
        · intro call hmem r hr
          rw [hwrites call hmem] at hr
          obtain rfl := List.mem_singleton.mp hr
          exact hc.socket
      have hk := keeps_log sys calls
      exact hinv.uses hk huses (hinv.phase.uses hk huses rfl rfl fun hb => hb)

-- ── The reader's steps ───────────────────────────────────────────────────────

/-- Only a client that is running has a reader in `select`. -/
theorem Phase.inSelect {sys : Sys} {i : Nat} (h : Phase sys)
    (hi : sys.readers[i]? = some .inSelect) :
    OthersExited sys.readers i ∧ ∃ c, Holds sys c ∧ sys.prv.pRs = some c ∧
      Live sys.calls ⟨c, .stream⟩ := by
  cases h with
  | idle exited _ => exact nomatch exited _ (List.mem_of_getElem? hi)
  | running j others c holds pRs stream =>
      obtain rfl := active_eq others hi (by decide)
      exact ⟨others, c, holds, pRs, stream⟩
  | leaving j others head _ _ =>
      obtain rfl := active_eq others hi (by decide)
      rw [head] at hi
      exact nomatch hi

theorem inv_loopHead {sys : Sys} {i : Nat} (hinv : Inv sys)
    (hi : sys.readers[i]? = some .loopHead) : Inv (loopHead sys i) := by
  rw [loopHead]
  split
  · rename_i hconn
    cases hinv.phase with
    | idle exited _ => exact nomatch exited _ (List.mem_of_getElem? hi)
    | leaving j others head sock bConnect =>
        rw [bConnect] at hconn
        exact nomatch hconn
    | running j others c holds pRs stream =>
        obtain rfl := active_eq others hi (by decide)
        obtain ⟨number, hsock⟩ := holds.sock
        have huses : Uses sys.calls [.select (readSet sys.prv)] := by
          refine ⟨fun r hmem => (nomatch List.mem_singleton.mp hmem), ?_⟩
          intro call hmem r hr
          obtain rfl := List.mem_singleton.mp hmem
          have hset : readSet sys.prv = [⟨c, .socket⟩, ⟨c, .readEnd⟩] := by
            rw [readSet, hsock, holds.pipefd]
            rfl
          rw [Call.resources, hset] at hr
          rcases List.mem_cons.mp hr with rfl | hr
          · exact holds.socket
          · obtain rfl := List.mem_singleton.mp hr
            exact holds.readEnd
        have hk := (keeps_log sys [.select (readSet sys.prv)]).trans (keeps_setReader _ i .inSelect)
        exact hinv.uses hk huses
          (Phase.running_uses (othersExited_set others .inSelect) holds pRs stream hk huses rfl)
  · have hk := keeps_setReader sys i .exited
    refine hinv.uses hk (uses_nil _ _ _) ?_
    cases hinv.phase with
    | idle exited _ => exact nomatch exited _ (List.mem_of_getElem? hi)
    | leaving j others head sock bConnect =>
        obtain rfl := active_eq others hi (by decide)
        exact .idle (exited_set others) fun _ hne => absurd sock hne
    | running j others c holds pRs stream =>
        obtain rfl := active_eq others hi (by decide)
        exact .idle (exited_set others) fun _ _ => ⟨c, holds.uses hk (uses_nil _ _ _) rfl⟩

section Running

variable {sys : Sys} {i c : Nat}

theorem inv_endOfStream (hinv : Inv sys) (hothers : OthersExited sys.readers i)
    (hholds : Holds sys c) (hpRs : sys.prv.pRs = some c)
    (hstream : Live sys.calls ⟨c, .stream⟩) : Inv (endOfStream sys i) := by
  have hk := keeps_endOfStream sys i
  obtain ⟨number, hsock⟩ := hholds.sock
  have hreaders : (endOfStream sys i).readers = sys.readers.set i .exited := by
    rw [endOfStream]
    split <;> rfl
  have hexited : ∀ r ∈ (endOfStream sys i).readers, r = .exited := by
    rw [hreaders]
    exact exited_set hothers
  cases number with
  | zero =>
      -- descriptor zero is not closed
      have hcs : endCalls sys.prv = [(⟨c, .stream⟩ : Res)].map .release := by
        rw [endCalls, hsock, hpRs]
        rfl
      have hsame : (endOfStream sys i).prv.sock = sys.prv.sock := by
        rw [endOfStream, hsock]
        exact hsock
      rw [hcs] at hk
      refine hinv.keeps hk ?_ ?_ (.idle hexited ?_)
      · refine noUse_releases release_injective (fun _ => rfl) hinv.noUse (List.nodup_singleton _) ?_
        intro r hr
        obtain rfl := List.mem_singleton.mp hr
        exact hstream
      · intro r hmem
        obtain rfl := Call.release.inj (List.mem_singleton.mp hmem)
        exact hholds.known
      · intro _ _
        have hkind : ∀ kind, kind ≠ .stream → Live sys.calls ⟨c, kind⟩ →
            Live (endOfStream sys i).calls ⟨c, kind⟩ := by
          intro kind hne hlive
          rw [hk.calls]
          refine hlive.append ?_
          intro hmem
          exact hne (Res.mk.inj (Call.release.inj (List.mem_singleton.mp hmem))).2
        refine ⟨c, ⟨?_, ⟨0, hsame.trans hsock⟩, hk.pipefd.trans hholds.pipefd, ?_, ?_, ?_⟩⟩
        · rw [hk.conns]
          exact hholds.known
        · exact hkind .socket (by decide) hholds.socket
        · exact hkind .readEnd (by decide) hholds.readEnd
        · exact hkind .writeEnd (by decide) hholds.writeEnd
  | succ number =>
      have hcs : endCalls sys.prv = [(⟨c, .socket⟩ : Res), ⟨c, .stream⟩].map .release := by
        rw [endCalls, hsock, hpRs]
        rfl
      have hnone : (endOfStream sys i).prv.sock = none := by
        rw [endOfStream, hsock]
        rfl
      rw [hcs] at hk
      refine hinv.keeps hk ?_ ?_ (.idle hexited fun _ hne => absurd hnone hne)
      · refine noUse_releases release_injective (fun _ => rfl) hinv.noUse (by simp) ?_
        intro r hr
        rcases List.mem_cons.mp hr with rfl | hr
        · exact hholds.socket
        · obtain rfl := List.mem_singleton.mp hr
          exact hstream
      · intro r hmem
        obtain ⟨r', hr', heq⟩ := List.mem_map.mp hmem
        obtain rfl := Call.release.inj heq
        rcases List.mem_cons.mp hr' with rfl | hr'
        · exact hholds.known
        · obtain rfl := List.mem_singleton.mp hr'
          exact hholds.known

theorem inv_readPipe (hinv : Inv sys) (hothers : OthersExited sys.readers i)
    (hi : i < sys.readers.length) (hholds : Holds sys c) (hpRs : sys.prv.pRs = some c)
    (hstream : Live sys.calls ⟨c, .stream⟩) (pipe : Option Int) : Inv (readPipe sys i pipe) := by
  cases pipe with
  | none =>
      have hk := keeps_setReader sys i .loopHead
      exact hinv.uses hk (uses_nil _ _ _) (Phase.running_uses (othersExited_set hothers .loopHead)
        hholds hpRs hstream hk (uses_nil _ _ _) rfl)
  | some n =>
      have huses : Uses sys.calls [.read ⟨c, .readEnd⟩] := by
        refine ⟨fun r hmem => (nomatch List.mem_singleton.mp hmem), ?_⟩
        intro call hmem r hr
        obtain rfl := List.mem_singleton.mp hmem
        obtain rfl := List.mem_singleton.mp hr
        exact hholds.readEnd
      have hk := keeps_readPipe sys i (some n)
      by_cases hn : n > 0
      · -- the close command
        obtain ⟨number, hsock⟩ := hholds.sock
        have hcs : pipeCalls sys.prv (some n) = [.read ⟨c, .readEnd⟩] ++
            [(⟨c, .socket⟩ : Res), ⟨c, .readEnd⟩, ⟨c, .writeEnd⟩].map .release := by
          rw [pipeCalls, if_pos hn, closeAll, hsock, hholds.pipefd]
          rfl
        have hstate : (readPipe sys i (some n)).prv = sys.prv.dropSock ∧
            (readPipe sys i (some n)).readers = sys.readers.set i .loopHead := by
          rw [readPipe]
          dsimp only
          rw [if_pos hn]
          exact ⟨rfl, rfl⟩
        rw [hcs] at hk
        refine hinv.keeps hk ?_ ?_ ?_
        · rw [← List.append_assoc]
          refine noUse_releases release_injective (fun _ => rfl) (noUse_uses hinv.noUse huses) (by simp) ?_
          intro r hr
          simp only [List.mem_cons, List.not_mem_nil, or_false] at hr
          rcases hr with rfl | rfl | rfl
          · exact hholds.socket.uses huses
          · exact hholds.readEnd.uses huses
          · exact hholds.writeEnd.uses huses
        · intro r hmem
          rcases List.mem_append.mp hmem with hread | hrel
          · exact nomatch List.mem_singleton.mp hread
          · obtain ⟨r', hr', heq⟩ := List.mem_map.mp hrel
            obtain rfl := Call.release.inj heq
            simp only [List.mem_cons, List.not_mem_nil, or_false] at hr'
            rcases hr' with rfl | rfl | rfl <;> exact hholds.known
        · refine .leaving i ?_ ?_ ?_ ?_
          · rw [hstate.2]
            exact othersExited_set hothers .loopHead
          · rw [hstate.2]
            exact List.getElem?_set_self hi
          · rw [hstate.1]
            rfl
          · rw [hstate.1]
            rfl
      · have hcs : pipeCalls sys.prv (some n) = [.read ⟨c, .readEnd⟩] := by
          rw [pipeCalls, if_neg hn, hholds.pipefd]
          rfl
        have hstate : (readPipe sys i (some n)).prv.sock = sys.prv.sock ∧
            (readPipe sys i (some n)).readers = sys.readers.set i .loopHead := by
          rw [readPipe]
          dsimp only
          rw [if_neg hn]
          exact ⟨rfl, rfl⟩
        have hothers' : OthersExited (readPipe sys i (some n)).readers i := by
          rw [hstate.2]
          exact othersExited_set hothers .loopHead
        rw [hcs] at hk
        exact hinv.uses hk huses
          (Phase.running_uses hothers' hholds hpRs hstream hk huses hstate.1)

/-- Whatever `select`, the stream and the pipe answer. -/
theorem inv_afterSelect {sys' : Sys} {result : SelectResult} (hinv : Inv sys)
    (hi : sys.readers[i]? = some .inSelect) (h : afterSelect sys i result = some sys') :
    Inv sys' := by
  obtain ⟨hothers, c, hholds, hpRs, hstream⟩ := hinv.phase.inSelect hi
  have hlt := (List.getElem?_eq_some_iff.mp hi).1
  obtain ⟨cs, hcs, hrest⟩ := afterSelect_cases h
  have huses : Uses sys.calls cs := by
    refine ⟨?_, ?_⟩
    · intro r hmem
      obtain ⟨_, _, heq⟩ := hcs _ hmem
      exact nomatch heq
    · intro call hmem r hr
      obtain ⟨c', hc', rfl⟩ := hcs call hmem
      rw [hpRs] at hc'
      obtain rfl := Option.some.inj hc'
      rcases List.mem_cons.mp hr with rfl | hr
      · exact hstream
      · obtain rfl := List.mem_singleton.mp hr
        exact hholds.socket
  have hk := keeps_log sys cs
  have hgot : Inv (sys.log cs) :=
    hinv.uses hk huses (hinv.phase.uses hk huses rfl rfl fun hb => hb)
  have hheld : Holds (sys.log cs) c := hholds.uses hk huses rfl
  have hlive : Live (sys.log cs).calls ⟨c, .stream⟩ := hstream.uses huses
  rcases hrest with rfl | ⟨pipe, rfl⟩
  · exact inv_endOfStream hgot hothers hheld hpRs hlive
  · exact inv_readPipe hgot hothers hlt hheld hpRs hlive pipe

end Running

-- ── Connecting and disconnecting ─────────────────────────────────────────────

/-- A connection releases again what it has just made, or nothing. -/
theorem Inv.connects {sys sys' : Sys} (h : Inv sys) (rs : List Res)
    (hcalls : sys'.calls = sys.calls ++ rs.map .release) (hrs : rs.Nodup)
    (hown : ∀ r ∈ rs, r.conn = sys.conns) (hconns : sys'.conns = sys.conns + 1)
    (hdue : sys'.due = sys.due) (hfreed : sys'.freed = false)
    (hearly : NoStream sys' → Early sys') (hphase : Phase sys') : Inv sys' where
  noUse := by
    rw [hcalls]
    refine noUse_releases release_injective (fun _ => rfl) h.noUse hrs ?_
    intro r hr hmem
    have hlt := h.known r hmem
    rw [hown r hr] at hlt
    exact Nat.lt_irrefl _ hlt
  known := by
    intro r hmem
    rw [hcalls] at hmem
    rw [hconns]
    rcases List.mem_append.mp hmem with hold | hnew
    · exact Nat.lt_succ_of_lt (h.known r hold)
    · obtain ⟨r', hr', heq⟩ := List.mem_map.mp hnew
      obtain rfl := Call.release.inj heq
      rw [hown r' hr']
      exact Nat.lt_succ_self _
  early := hearly
  settled := by
    intro r hmem
    rw [hdue] at hmem
    rw [hcalls]
    exact List.mem_append_left _ (h.settled r hmem)
  alone := by
    intro hf
    rw [hfreed] at hf
    exact nomatch hf
  phase := hphase

theorem inv_connectRild {sys : Sys} (hinv : Inv sys) (hfreed : sys.freed = false)
    (hexited : ∀ r ∈ sys.readers, r = .exited) (o : Connecting) : Inv (connectRild sys o) := by
  have hfresh : ∀ kind, Live sys.calls ⟨sys.conns, kind⟩ :=
    fun kind hmem => Nat.lt_irrefl _ (hinv.known _ hmem)
  -- once there is a stream, nothing is said of the time before
  have hstream : ∀ {sys' : Sys}, (⟨sys.conns, .stream⟩ : Res) ∈ sys'.made →
      NoStream sys' → Early sys' := fun hmem hno => absurd hmem (hno sys.conns)
  rw [connectRild]
  split
  · exact
      { noUse := hinv.noUse
        known := hinv.known
        early := fun hno => ⟨(hinv.early hno).readers, (hinv.early hno).pipefd, rfl,
          (hinv.early hno).released⟩
        settled := hinv.settled
        alone := hinv.alone
        phase := .idle hexited fun hconn => by cases hconn }
  · rename_i number _
    dsimp only
    split
    · refine hinv.connects [⟨sys.conns, .socket⟩] rfl (List.nodup_singleton _) ?_ rfl rfl
        hfreed ?_ (.idle hexited fun hconn => by cases hconn)
      · intro r hr
        obtain rfl := List.mem_singleton.mp hr
        rfl
      · intro hno
        have he := hinv.early fun c hmem => hno c (List.mem_append_left _ hmem)
        refine ⟨he.readers, he.pipefd, rfl, ?_⟩
        intro r hr
        rcases List.mem_append.mp hr with hold | hnew
        · exact List.mem_append_left _ (he.released r hold)
        · obtain rfl := List.mem_singleton.mp hnew
          exact List.mem_append_right _ List.mem_cons_self
    · split
      · refine hinv.connects [⟨sys.conns, .socket⟩] rfl (List.nodup_singleton _) ?_ rfl
          rfl hfreed (hstream ?_) (.idle hexited fun hconn => by cases hconn)
        · intro r hr
          obtain rfl := List.mem_singleton.mp hr
          rfl
        · exact List.mem_append_right _ List.mem_cons_self
      · have hmade : (⟨sys.conns, .stream⟩ : Res) ∈
            ((({ sys with connected := false } : Sys).newSocket number).newStream
              sys.conns |>.newPipe sys.conns).made :=
          List.mem_append_left _ (List.mem_append_right _ List.mem_cons_self)
        have hthree : ([⟨sys.conns, .socket⟩, ⟨sys.conns, .readEnd⟩, ⟨sys.conns, .writeEnd⟩] :
            List Res).Nodup := by simp
        have hown : ∀ r ∈ ([⟨sys.conns, .socket⟩, ⟨sys.conns, .readEnd⟩, ⟨sys.conns, .writeEnd⟩] :
            List Res), r.conn = sys.conns := by simp
        split
        · exact hinv.connects _ rfl hthree hown rfl rfl hfreed (hstream hmade)
            (.idle hexited fun hconn => by cases hconn)
        · split
          · exact hinv.connects _ rfl hthree hown rfl rfl hfreed (hstream hmade)
              (.idle hexited fun hconn => by cases hconn)
          · refine hinv.connects [] (List.append_nil _).symm List.nodup_nil
              (fun _ hr => by cases hr) rfl rfl hfreed (hstream hmade) ?_
            exact .running sys.readers.length (othersExited_concat hexited .loopHead) sys.conns
              ⟨Nat.lt_succ_self _, ⟨number, rfl⟩, rfl, hfresh .socket, hfresh .readEnd,
                hfresh .writeEnd⟩ rfl (hfresh .stream)

/-- A return from `Disconnect_RILD` when there has been no stream. -/
theorem inv_returned {sys sys' : Sys} (hinv : Inv sys) (hno : NoStream sys) (caller : Caller)
    (hprv : sys'.prv = sys.prv) (hreaders : sys'.readers = sys.readers)
    (hcalls : sys'.calls = sys.calls) (hmade : sys'.made = sys.made)
    (hconns : sys'.conns = sys.conns) (hconn : sys'.connected = sys.connected) :
    Inv (returned sys' caller) := by
  have he := hinv.early hno
  constructor
  · show NoUse sys'.calls
    rw [hcalls]
    exact hinv.noUse
  · show ∀ r, Call.release r ∈ sys'.calls → r.conn < sys'.conns
    rw [hcalls, hconns]
    exact hinv.known
  · intro _
    refine ⟨?_, ?_, ?_, ?_⟩
    · exact hreaders.trans he.readers
    · show sys'.prv.pipefd = none
      rw [hprv]
      exact he.pipefd
    · exact hconn.trans he.connected
    · show ∀ r ∈ sys'.made, Call.release r ∈ sys'.calls
      rw [hmade, hcalls]
      exact he.released
  · show ∀ r ∈ sys'.made, Call.release r ∈ sys'.calls
    rw [hmade, hcalls]
    exact he.released
  · intro _
    exact hreaders.trans he.readers
  · refine .idle ?_ ?_
    · show ∀ r ∈ sys'.readers, r = .exited
      rw [hreaders, he.readers]
      exact fun _ hr => nomatch hr
    · intro hc
      have hfalse : sys'.connected = false := hconn.trans he.connected
      rw [show sys'.connected = true from hc] at hfalse
      exact nomatch hfalse

theorem inv_disconnect {sys sys' : Sys} {caller : Caller} {results : List WriteResult}
    (hinv : Inv sys) (hok : Sound sys (.disconnect caller results))
    (h : disconnectRild sys caller results = some sys') : Inv sys' := by
  rcases disconnect_cases h with ⟨hsock, rfl⟩ | ⟨hne, cs, hk, hcs, hsock, hreaders, hconn⟩
  · rcases hok with hno | ⟨-, hne⟩
    · exact inv_returned hinv hno caller rfl rfl rfl rfl rfl rfl
    · exact absurd hsock hne
  · have huses : Uses sys.calls cs := by
      refine ⟨?_, ?_⟩
      · intro r hmem
        obtain ⟨_, _, heq⟩ := hcs _ hmem
        exact nomatch heq
      · intro call hmem r hr
        obtain ⟨c, hc, rfl⟩ := hcs call hmem
        obtain rfl := List.mem_singleton.mp hr
        rcases hok with hno | ⟨hconnected, _⟩
        · rw [(hinv.early hno).pipefd] at hc
          exact nomatch hc
        · obtain ⟨c', hholds⟩ := hinv.phase.holds hconnected hne
          rw [hholds.pipefd] at hc
          obtain rfl := Option.some.inj hc
          exact hholds.writeEnd
    exact hinv.uses hk huses (hinv.phase.uses hk huses hsock hreaders fun _ => hconn)

/-- **THE INVARIANT** is kept by every step that meets the condition. -/
theorem inv_step {sys sys' : Sys} {act : Act} (hinv : Inv sys) (hok : Sound sys act)
    (h : step sys act = some sys') : Inv sys' := by
  unfold step at h
  split at h
  · exact nomatch h
  · rename_i hfreed
    have hfreed : sys.freed = false := by
      simpa using hfreed
    cases act with
    | connect o =>
        obtain rfl := Option.some.inj h
        exact inv_connectRild hinv hfreed hok o
    | send token size results => exact inv_send hinv hok h
    | readerEnter i =>
        dsimp only at h
        split at h
        · rename_i hi
          obtain rfl := Option.some.inj h
          exact inv_loopHead hinv hi
        · exact nomatch h
    | readerSelect i result =>
        dsimp only at h
        split at h
        · rename_i hi
          exact inv_afterSelect hinv hi h
        · exact nomatch h
    | disconnect caller results => exact inv_disconnect hinv hok h
    | joined caller tid =>
        dsimp only at h
        split at h
        · obtain rfl := Option.some.inj h
          exact inv_returned hinv hok caller rfl rfl rfl rfl rfl rfl
        · exact nomatch h

-- ── Why a connection is never released ───────────────────────────────────────

/-- How a connection that has got its stream stands with what is left of it:
    something will stay behind, or all depends on its one reader. -/
inductive Stands (sys : Sys) (c : Nat) : Prop where
  /-- No reader will free the stream. -/
  | noStreamFree (live : Live sys.calls ⟨c, .stream⟩) (made : (⟨c, .stream⟩ : Res) ∈ sys.made)
      (out : sys.prv.pRs = some c → ∀ r ∈ sys.readers, r = .exited)
  /-- No reader will close the pipe. -/
  | noPipeClose (live : Live sys.calls ⟨c, .readEnd⟩) (made : (⟨c, .readEnd⟩ : Res) ∈ sys.made)
      (out : sys.prv.pipefd = some c → ∀ r ∈ sys.readers, r = .exited)
  /-- Its reader can still do one of the two. -/
  | undecided (i : Nat) (others : OthersExited sys.readers i)
      (stream : Live sys.calls ⟨c, .stream⟩) (made : (⟨c, .stream⟩ : Res) ∈ sys.made)
      (readEnd : Live sys.calls ⟨c, .readEnd⟩) (madeEnd : (⟨c, .readEnd⟩ : Res) ∈ sys.made)
      (pRs : sys.prv.pRs = some c) (pipefd : sys.prv.pipefd = some c)
  /-- The pipe is closed, and another `select` would use it. -/
  | closed (live : Live sys.calls ⟨c, .stream⟩) (made : (⟨c, .stream⟩ : Res) ∈ sys.made)
      (out : ∀ r ∈ sys.readers, r ≠ .inSelect) (pipefd : sys.prv.pipefd = some c)
      (gone : Call.release ⟨c, .readEnd⟩ ∈ sys.calls)

/-- A connection that is not released stays behind. -/
def Lost (sys : Sys) : Prop := ∃ c < sys.conns, Stands sys c

/-- Before there is a stream. -/
structure Before (sys : Sys) : Prop where
  noStream : NoStream sys
  readers : sys.readers = []
  pipefd : sys.prv.pipefd = none
  sock : ∀ fd, sys.prv.sock = some fd → fd.conn < sys.conns
  known : ∀ r, Call.release r ∈ sys.calls → r.conn < sys.conns

theorem Stands.unreleased {sys : Sys} {c : Nat} (h : Stands sys c) :
    ∃ r ∈ sys.made, Live sys.calls r := by
  cases h with
  | noStreamFree live made _ => exact ⟨_, made, live⟩
  | noPipeClose live made _ => exact ⟨_, made, live⟩
  | undecided _ _ stream made _ _ _ _ => exact ⟨_, made, stream⟩
  | closed live made _ _ _ => exact ⟨_, made, live⟩

section Stands

variable {sys sys' : Sys} {cs : List Call} {c : Nat}

/-- Calls that release sockets only, by a step that leaves the readers, the
    pipe and the stream. -/
theorem Stands.same (h : Stands sys c) (hcalls : sys'.calls = sys.calls ++ cs)
    (hcs : ∀ r, Call.release r ∈ cs → r.kind = .socket) (hmade : ∀ r ∈ sys.made, r ∈ sys'.made)
    (hreaders : sys'.readers = sys.readers) (hpRs : sys'.prv.pRs = sys.prv.pRs)
    (hpipefd : sys'.prv.pipefd = sys.prv.pipefd) : Stands sys' c := by
  have hlive : ∀ kind, kind ≠ .socket → Live sys.calls ⟨c, kind⟩ → Live sys'.calls ⟨c, kind⟩ := by
    intro kind hne hl
    rw [hcalls]
    exact hl.append fun hmem => hne (hcs _ hmem)
  cases h with
  | noStreamFree live made out =>
      refine .noStreamFree (hlive .stream (by decide) live) (hmade _ made) ?_
      rw [hpRs, hreaders]
      exact out
  | noPipeClose live made out =>
      refine .noPipeClose (hlive .readEnd (by decide) live) (hmade _ made) ?_
      rw [hpipefd, hreaders]
      exact out
  | undecided i others stream made readEnd madeEnd pRs pipefd =>
      refine .undecided i ?_ (hlive .stream (by decide) stream) (hmade _ made)
        (hlive .readEnd (by decide) readEnd) (hmade _ madeEnd) (hpRs.trans pRs)
        (hpipefd.trans pipefd)
      rw [hreaders]
      exact others
  | closed live made out pipefd gone =>
      refine .closed (hlive .stream (by decide) live) (hmade _ made) ?_ (hpipefd.trans pipefd) ?_
      · rw [hreaders]
        exact out
      · rw [hcalls]
        exact List.mem_append_left cs gone

/-- Another connection has taken the client's stream, and perhaps its pipe. -/
theorem Stands.replaced (h : Stands sys c) (hcalls : sys'.calls = sys.calls ++ cs)
    (hcs : ∀ r, Call.release r ∈ cs → r.conn ≠ c) (hmade : ∀ r ∈ sys.made, r ∈ sys'.made)
    (hpRs : sys'.prv.pRs ≠ some c)
    (hpipefd : sys'.prv.pipefd = some c →
      sys.prv.pipefd = some c ∧ sys'.readers = sys.readers) : Stands sys' c := by
  have hlive : ∀ kind, Live sys.calls ⟨c, kind⟩ → Live sys'.calls ⟨c, kind⟩ := by
    intro kind hl
    rw [hcalls]
    exact hl.append fun hmem => hcs _ hmem rfl
  have hstream : Live sys.calls ⟨c, .stream⟩ → (⟨c, .stream⟩ : Res) ∈ sys.made → Stands sys' c :=
    fun live made => .noStreamFree (hlive .stream live) (hmade _ made) fun heq => absurd heq hpRs
  cases h with
  | noStreamFree live made _ => exact hstream live made
  | noPipeClose live made out =>
      refine .noPipeClose (hlive .readEnd live) (hmade _ made) ?_
      intro heq
      obtain ⟨hold, hreaders⟩ := hpipefd heq
      rw [hreaders]
      exact out hold
  | undecided _ _ stream made _ _ _ _ => exact hstream stream made
  | closed live made _ _ _ => exact hstream live made

/-- The head of the loop decides nothing, unless it selects on a closed pipe. -/
theorem Stands.loopHead {i : Nat} (h : Stands sys c) (hi : sys.readers[i]? = some .loopHead)
    (hno : NoUse (SapClient.loopHead sys i).calls) : Stands (SapClient.loopHead sys i) c := by
  have hmem := List.mem_of_getElem? hi
  have hlive : ∀ r, Live sys.calls r → Live (SapClient.loopHead sys i).calls r := by
    intro r hl
    rw [SapClient.loopHead]
    split
    · exact hl.append fun hm => nomatch List.mem_singleton.mp hm
    · exact hl
  obtain ⟨r, hreaders, hr⟩ : ∃ r, (SapClient.loopHead sys i).readers = sys.readers.set i r ∧
      (sys.prv.bConnect = false → r = .exited) := by
    rw [SapClient.loopHead]
    split
    · rename_i hconn
      exact ⟨.inSelect, rfl, fun hf => by rw [hf] at hconn; exact nomatch hconn⟩
    · exact ⟨.exited, rfl, fun _ => rfl⟩
  have hmade : (SapClient.loopHead sys i).made = sys.made := by
    rw [SapClient.loopHead]
    split <;> rfl
  have hprv : (SapClient.loopHead sys i).prv = sys.prv := by
    rw [SapClient.loopHead]
    split <;> rfl
  cases h with
  | noStreamFree live made out =>
      refine .noStreamFree (hlive _ live) (hmade ▸ made) ?_
      rw [hprv]
      intro heq
      exact nomatch out heq _ hmem
  | noPipeClose live made out =>
      refine .noPipeClose (hlive _ live) (hmade ▸ made) ?_
      rw [hprv]
      intro heq
      exact nomatch out heq _ hmem
  | undecided j others stream made readEnd madeEnd pRs pipefd =>
      obtain rfl := active_eq others hi (by decide)
      refine .undecided i ?_ (hlive _ stream) (hmade ▸ made) (hlive _ readEnd) (hmade ▸ madeEnd)
        (hprv ▸ pRs) (hprv ▸ pipefd)
      rw [hreaders]
      exact othersExited_set others r
  | closed live made out pipefd gone =>
      -- no reader that goes on: it would select on the pipe
      have hconn : sys.prv.bConnect = false := by
        by_contra hconn
        have htrue : sys.prv.bConnect = true := by
          simpa using hconn
        have hcalls : (SapClient.loopHead sys i).calls
            = sys.calls ++ Call.select (readSet sys.prv) :: [] := by
          rw [SapClient.loopHead, htrue]
          rfl
        refine hno _ _ _ hcalls ⟨c, .readEnd⟩ ?_ gone
        show _ ∈ readSet sys.prv
        rw [readSet, pipefd]
        exact List.mem_append_right _ List.mem_cons_self
      refine .closed (hlive _ live) (hmade ▸ made) ?_ (hprv ▸ pipefd) ?_
      · intro r' hr'
        rw [hreaders, hr hconn] at hr'
        rcases List.mem_or_eq_of_mem_set hr' with hold | rfl
        · exact out r' hold
        · decide
      · rw [SapClient.loopHead, hconn]
        exact gone

/-- At the end of the stream the reader leaves the pipe behind. -/
theorem Stands.endOfStream {i : Nat} (h : Stands sys c) (hi : sys.readers[i]? = some .inSelect) :
    Stands (SapClient.endOfStream sys i) c := by
  have hmem := List.mem_of_getElem? hi
  have hk := keeps_endOfStream sys i
  have hreadEnd : Live sys.calls ⟨c, .readEnd⟩ →
      Live (SapClient.endOfStream sys i).calls ⟨c, .readEnd⟩ := by
    intro hl
    rw [hk.calls]
    refine hl.append fun hm => ?_
    rcases mem_endCalls hm with hkind | ⟨hkind, -⟩
    · exact nomatch hkind
    · exact nomatch hkind
  cases h with
  | noStreamFree live made out =>
      have hother : sys.prv.pRs ≠ some c := fun heq => nomatch out heq _ hmem
      refine .noStreamFree ?_ (hk.made ▸ made) fun heq => absurd (hk.pRs ▸ heq) hother
      rw [hk.calls]
      refine live.append fun hm => ?_
      rcases mem_endCalls hm with hkind | ⟨-, hpRs⟩
      · exact nomatch hkind
      · exact hother hpRs
  | noPipeClose live made out =>
      have hother : sys.prv.pipefd ≠ some c := fun heq => nomatch out heq _ hmem
      exact .noPipeClose (hreadEnd live) (hk.made ▸ made)
        fun heq => absurd (hk.pipefd ▸ heq) hother
  | undecided j others stream made readEnd madeEnd pRs pipefd =>
      obtain rfl := active_eq others hi (by decide)
      refine .noPipeClose (hreadEnd readEnd) (hk.made ▸ madeEnd) fun _ => ?_
      rw [endOfStream_readers]
      exact exited_set others
  | closed live made out pipefd gone => exact absurd rfl (out _ hmem)

/-- At the close command it leaves the stream behind. -/
theorem Stands.readPipe {i : Nat} (h : Stands sys c) (hi : sys.readers[i]? = some .inSelect)
    (pipe : Option Int) : Stands (SapClient.readPipe sys i pipe) c := by
  have hmem := List.mem_of_getElem? hi
  have hk := keeps_readPipe sys i pipe
  have hreaders := readPipe_readers sys i pipe
  have hstream : Live sys.calls ⟨c, .stream⟩ →
      Live (SapClient.readPipe sys i pipe).calls ⟨c, .stream⟩ := by
    intro hl
    rw [hk.calls]
    refine hl.append fun hm => ?_
    rcases mem_pipeCalls hm with hkind | ⟨hkind | hkind, -⟩
    · exact nomatch hkind
    · exact nomatch hkind
    · exact nomatch hkind
  cases h with
  | noStreamFree live made out =>
      have hother : sys.prv.pRs ≠ some c := fun heq => nomatch out heq _ hmem
      exact .noStreamFree (hstream live) (hk.made ▸ made) fun heq => absurd (hk.pRs ▸ heq) hother
  | noPipeClose live made out =>
      have hother : sys.prv.pipefd ≠ some c := fun heq => nomatch out heq _ hmem
      refine .noPipeClose ?_ (hk.made ▸ made) fun heq => absurd (hk.pipefd ▸ heq) hother
      rw [hk.calls]
      refine live.append fun hm => ?_
      rcases mem_pipeCalls hm with hkind | ⟨-, hpipefd⟩
      · exact nomatch hkind
      · exact hother hpipefd
  | undecided j others stream made readEnd madeEnd pRs pipefd =>
      obtain rfl := active_eq others hi (by decide)
      by_cases hgone : Call.release ⟨c, .readEnd⟩ ∈ (SapClient.readPipe sys i pipe).calls
      · refine .closed (hstream stream) (hk.made ▸ made) ?_ (hk.pipefd.trans pipefd) hgone
        intro r hr
        rw [hreaders] at hr
        obtain ⟨k, hget⟩ := List.getElem?_of_mem hr
        by_cases hki : k = i
        · subst hki
          rw [List.getElem?_set_self (List.getElem?_eq_some_iff.mp hi).1] at hget
          obtain rfl := Option.some.inj hget
          decide
        · rw [othersExited_set others .loopHead k r hget hki]
          decide
      · refine .undecided i ?_ (hstream stream) (hk.made ▸ made) hgone (hk.made ▸ madeEnd)
          (hk.pRs.trans pRs) (hk.pipefd.trans pipefd)
        rw [hreaders]
        exact othersExited_set others .loopHead
  | closed live made out pipefd gone => exact absurd rfl (out _ hmem)

/-- Whatever `Connect_RILD` comes to. -/
theorem Stands.connectRild (h : Stands sys c) (hc : c < sys.conns) (o : Connecting) :
    Stands (SapClient.connectRild sys o) c := by
  have hne : sys.conns ≠ c := fun heq => Nat.lt_irrefl c (heq ▸ hc)
  have hnew : ∀ {x : Option Nat}, x = some sys.conns → x ≠ some c := by
    intro x hx heq
    exact hne (Option.some.inj (hx.symm.trans heq))
  rw [SapClient.connectRild]
  split
  · exact h.same (List.append_nil _).symm (fun _ hm => by cases hm) (fun _ hr => hr) rfl rfl rfl
  · dsimp only
    split
    · refine h.same (show _ = sys.calls ++ [.release ⟨sys.conns, .socket⟩] from rfl) ?_
        (fun _ hr => List.mem_append_left _ hr) rfl rfl rfl
      intro r hm
      obtain rfl := Call.release.inj (List.mem_singleton.mp hm)
      rfl
    · split
      · refine h.replaced (show _ = sys.calls ++ [.release ⟨sys.conns, .socket⟩] from rfl) ?_
          (fun _ hr => List.mem_append_left _ (List.mem_append_left _ hr)) (hnew rfl)
          fun heq => ⟨heq, rfl⟩
        intro r hm
        obtain rfl := Call.release.inj (List.mem_singleton.mp hm)
        exact hne
      · have hcs : ∀ r, Call.release r ∈ [Call.release ⟨sys.conns, .socket⟩,
            Call.release ⟨sys.conns, .readEnd⟩, Call.release ⟨sys.conns, .writeEnd⟩] →
            r.conn ≠ c := by
          intro r hm
          simp only [List.mem_cons, Call.release.injEq, List.not_mem_nil, or_false] at hm
          rcases hm with rfl | rfl | rfl <;> exact hne
        have hmade : ∀ r ∈ sys.made, r ∈ sys.made ++ [(⟨sys.conns, .socket⟩ : Res)]
            ++ [(⟨sys.conns, .stream⟩ : Res)]
            ++ [(⟨sys.conns, .readEnd⟩ : Res), ⟨sys.conns, .writeEnd⟩] :=
          fun r hr => List.mem_append_left _ (List.mem_append_left _ (List.mem_append_left _ hr))
        split
        · exact h.replaced rfl hcs hmade (hnew rfl) fun heq => absurd heq (hnew rfl)
        · split
          · exact h.replaced rfl hcs hmade (fun heq => by cases heq) fun heq => by cases heq
          · exact h.replaced (List.append_nil _).symm (fun _ hm => by cases hm) hmade (hnew rfl)
              fun heq => absurd heq (hnew rfl)

end Stands

/-- The first stream that is made is not lost sight of. -/
theorem before_connectRild {sys : Sys} (h : Before sys) (o : Connecting) :
    Before (connectRild sys o) ∨ Lost (connectRild sys o) := by
  have hfresh : ∀ kind, Live sys.calls ⟨sys.conns, kind⟩ :=
    fun kind hmem => Nat.lt_irrefl _ (h.known _ hmem)
  have hexited : ∀ r ∈ sys.readers, r = .exited := by
    rw [h.readers]
    exact fun _ hr => by cases hr
  -- whatever else of the new connection is released at once
  have hlive : ∀ {cs : List Call}, (∀ r, Call.release r ∈ cs → r.kind ≠ .stream) →
      Live (sys.calls ++ cs) ⟨sys.conns, .stream⟩ :=
    fun hcs => (hfresh .stream).append fun hm => hcs _ hm rfl
  have hcloses : ∀ r, Call.release r ∈ [Call.release ⟨sys.conns, .socket⟩,
      Call.release ⟨sys.conns, .readEnd⟩, Call.release ⟨sys.conns, .writeEnd⟩] →
      r.kind ≠ .stream := by
    intro r hm
    simp only [List.mem_cons, Call.release.injEq, List.not_mem_nil, or_false] at hm
    rcases hm with rfl | rfl | rfl <;> exact fun hkind => by cases hkind
  have hmade : (⟨sys.conns, .stream⟩ : Res) ∈ sys.made ++ [(⟨sys.conns, .socket⟩ : Res)]
      ++ [(⟨sys.conns, .stream⟩ : Res)] :=
    List.mem_append_right _ List.mem_cons_self
  rw [connectRild]
  split
  · exact Or.inl ⟨h.noStream, h.readers, h.pipefd, fun _ hfd => (by cases hfd), h.known⟩
  · dsimp only
    split
    · refine Or.inl ⟨?_, h.readers, h.pipefd, ?_, ?_⟩
      · intro c hmem
        rcases List.mem_append.mp hmem with hold | hnew
        · exact h.noStream c hold
        · cases List.mem_singleton.mp hnew
      · intro fd hfd
        obtain rfl := Option.some.inj hfd
        exact Nat.lt_succ_self _
      · intro r hmem
        rcases List.mem_append.mp hmem with hold | hnew
        · exact Nat.lt_succ_of_lt (h.known r hold)
        · obtain rfl := Call.release.inj (List.mem_singleton.mp hnew)
          exact Nat.lt_succ_self _
    · refine Or.inr ⟨sys.conns, ?_, ?_⟩
      · split
        · exact Nat.lt_succ_self _
        · split
          · exact Nat.lt_succ_self _
          · split <;> exact Nat.lt_succ_self _
      · split
        · refine .noStreamFree (hlive ?_) hmade fun _ => hexited
          intro r hm
          obtain rfl := Call.release.inj (List.mem_singleton.mp hm)
          exact fun hkind => by cases hkind
        · split
          · exact .noStreamFree (hlive hcloses) (List.mem_append_left _ hmade) fun _ => hexited
          · split
            · exact .noStreamFree (hlive hcloses) (List.mem_append_left _ hmade) fun _ => hexited
            · exact .undecided sys.readers.length (othersExited_concat hexited .loopHead)
                (hfresh .stream) (List.mem_append_left _ hmade) (hfresh .readEnd)
                (List.mem_append_right _ List.mem_cons_self) rfl rfl

/-- A step that leaves the readers and makes no connection. -/
theorem track_keeps {sys sys' : Sys} {cs : List Call} (h : Before sys ∨ Lost sys)
    (hcalls : sys'.calls = sys.calls ++ cs)
    (hcs : ∀ r, Call.release r ∈ cs → r.kind = .socket ∧ ∃ fd, sys.prv.sock = some fd ∧
      fd.conn = r.conn)
    (hmade : sys'.made = sys.made) (hconns : sys'.conns = sys.conns)
    (hreaders : sys'.readers = sys.readers) (hsock : sys'.prv.sock = sys.prv.sock)
    (hpRs : sys'.prv.pRs = sys.prv.pRs) (hpipefd : sys'.prv.pipefd = sys.prv.pipefd) :
    Before sys' ∨ Lost sys' := by
  rcases h with hb | ⟨c, hc, hs⟩
  · refine Or.inl ⟨?_, hreaders.trans hb.readers, hpipefd.trans hb.pipefd, ?_, ?_⟩
    · intro c
      rw [hmade]
      exact hb.noStream c
    · rw [hsock, hconns]
      exact hb.sock
    · intro r hmem
      rw [hcalls] at hmem
      rw [hconns]
      rcases List.mem_append.mp hmem with hold | hnew
      · exact hb.known r hold
      · obtain ⟨-, fd, hfd, heq⟩ := hcs r hnew
        rw [← heq]
        exact hb.sock fd hfd
  · refine Or.inr ⟨c, hconns ▸ hc, hs.same hcalls (fun r hm => (hcs r hm).1) ?_ hreaders hpRs
      hpipefd⟩
    intro r hr
    rw [hmade]
    exact hr

/-- **NEVER RELEASED**: while nothing is used after its release, a connection
    that has its stream stays behind. -/
theorem track_step {sys sys' : Sys} {act : Act} (h : Before sys ∨ Lost sys)
    (hstep : step sys act = some sys') (hno : NoUse sys'.calls) : Before sys' ∨ Lost sys' := by
  unfold step at hstep
  split at hstep
  · exact nomatch hstep
  · cases act with
    | connect o =>
        obtain rfl := Option.some.inj hstep
        rcases h with hb | ⟨c, hc, hs⟩
        · exact before_connectRild hb o
        · exact Or.inr ⟨c, Nat.lt_of_lt_of_le hc (conns_connectRild sys o), hs.connectRild hc o⟩
    | send token size results =>
        rcases invoke_cases hstep with rfl | ⟨fd, calls, hsock, -, rfl, hcalls⟩
        · exact h
        · refine track_keeps h rfl ?_ rfl rfl rfl rfl rfl rfl
          intro r hm
          rcases hcalls _ hm with heq | ⟨heq, -⟩
          · exact nomatch heq
          · obtain rfl := Call.release.inj heq
            exact ⟨rfl, fd, hsock, rfl⟩
    | readerEnter i =>
        dsimp only at hstep
        split at hstep
        · rename_i hi
          obtain rfl := Option.some.inj hstep
          rcases h with hb | ⟨c, hc, hs⟩
          · rw [hb.readers] at hi
            exact nomatch hi
          · refine Or.inr ⟨c, ?_, hs.loopHead hi hno⟩
            rw [loopHead]
            split <;> exact hc
        · exact nomatch hstep
    | readerSelect i result =>
        dsimp only at hstep
        split at hstep
        · rename_i hi
          rcases h with hb | ⟨c, hc, hs⟩
          · rw [hb.readers] at hi
            exact nomatch hi
          · obtain ⟨cs, hcs, hrest⟩ := afterSelect_cases hstep
            have hgot : Stands (sys.log cs) c := by
              refine hs.same rfl ?_ (fun _ hr => hr) rfl rfl rfl
              intro r hm
              obtain ⟨_, _, heq⟩ := hcs _ hm
              exact nomatch heq
            rcases hrest with rfl | ⟨pipe, rfl⟩
            · refine Or.inr ⟨c, ?_, hgot.endOfStream hi⟩
              rw [(keeps_endOfStream (sys.log cs) i).conns]
              exact hc
            · refine Or.inr ⟨c, ?_, hgot.readPipe hi pipe⟩
              rw [(keeps_readPipe (sys.log cs) i pipe).conns]
              exact hc
        · exact nomatch hstep
    | disconnect caller results =>
        rcases disconnect_cases hstep with ⟨-, rfl⟩ | ⟨-, cs, hk, hcs, hsock, hreaders, -⟩
        · exact track_keeps h (List.append_nil _).symm (fun _ hm => nomatch hm) rfl rfl rfl rfl
            rfl rfl
        · refine track_keeps h hk.calls ?_ hk.made hk.conns hreaders hsock hk.pRs hk.pipefd
          intro r hm
          obtain ⟨_, _, heq⟩ := hcs _ hm
          exact nomatch heq
    | joined caller tid =>
        dsimp only at hstep
        split at hstep
        · obtain rfl := Option.some.inj hstep
          exact track_keeps h (List.append_nil _).symm (fun _ hm => nomatch hm) rfl rfl rfl rfl
            rfl rfl
        · exact nomatch hstep

/-- The condition that no step of a clean run can miss: `Disconnect_RILD` and
    `CloseClient_RILD` return only as long as no connection has had its
    stream. -/
def ReturnsEarly (sys : Sys) (act : Act) : Prop := Returns sys act → NoStream sys

theorem returnsEarly_of_released : ∀ (acts : List Act) {sys : Sys}, Before sys ∨ Lost sys →
    Always step Released sys acts → StepsMeet step ReturnsEarly sys acts := by
  intro acts
  induction acts with
  | nil =>
      intro sys _ _ done a rest s s' hcat
      exact absurd hcat (by simp)
  | cons act rest ih =>
      intro sys htrack halways
      refine stepsMeet_cons.mpr ?_
      intro sys' hstep
      have hrest := (always_cons.mp halways).2 sys' hstep
      have hreleased := hrest [] rest sys' rfl rfl
      refine ⟨?_, ih (track_step htrack hstep hreleased.noUse) hrest⟩
      intro hret
      obtain ⟨hdue, hcalls⟩ := returns_due hret hstep
      rcases htrack with hb | ⟨c, -, hs⟩
      · exact hb.noStream
      · obtain ⟨r, hmade, hlive⟩ := hs.unreleased
        have hone := hreleased.settled r (hdue ▸ hmade)
        rw [hcalls, List.count_eq_zero.mpr hlive] at hone
        exact nomatch hone

/-- **THE SAP CLIENT'S RESOURCES** are released as they should be in every run
    whose steps meet the condition.  And in no run in which `Disconnect_RILD`
    or `CloseClient_RILD` returns after a connection has had its stream. -/
theorem resources_released (acts : List Act) :
    (StepsMeet step Sound openClientRild acts → Always step Released openClientRild acts) ∧
    (Always step Released openClientRild acts →
      StepsMeet step ReturnsEarly openClientRild acts) := by
  constructor
  · exact always_of_stepsMeet (fun _ => Inv.released)
      (fun _ _ _ hinv hok hstep => inv_step hinv hok hstep) acts inv_openClientRild
  · refine returnsEarly_of_released acts (Or.inl ⟨?_, rfl, rfl, ?_, ?_⟩)
    · intro c hmem
      exact nomatch hmem
    · intro fd hfd
      exact nomatch hfd
    · intro r hmem
      exact nomatch hmem

/-- A request whose first write is interrupted, and the end of the stream. -/
theorem resources_released_hangup :
    Always step Released openClientRild
      [.connect { sock := some 5 }, .send true 20 [.failed eintr, .wrote 4, .wrote 20],
       .readerEnter 0, .readerSelect 0 (.ready (some [.endOfStream]) none)] := by
  refine (resources_released _).1 ?_
  refine stepsMeet_cons.mpr fun s₁ h₁ => ⟨fun _ hr => (nomatch hr), ?_⟩
  obtain rfl := Option.some.inj h₁
  refine stepsMeet_cons.mpr fun s₂ _ => ⟨Or.inr (Or.inr ⟨rfl, ?_⟩), ?_⟩
  · intro w hw hhard
    simp only [List.mem_cons, List.not_mem_nil, or_false] at hw
    rcases hw with rfl | rfl | rfl
    · exact hhard rfl
    · exact hhard
    · exact hhard
  · exact stepsMeet_cons.mpr fun s₃ _ => ⟨trivial, stepsMeet_cons.mpr fun s₄ _ =>
      ⟨trivial, stepsMeet_of_forall (by simp) s₄⟩⟩

/-- The plain way: connect, disconnect, and the reader does as it is told.  The
    record stream is never freed. -/
theorem stream_left_behind :
    ∃ sys, run step openClientRild
        [.connect { sock := some 5 }, .readerEnter 0, .disconnect .disconnect [.wrote 5],
         .readerSelect 0 (.ready none (some 5)), .readerEnter 0,
         .joined .disconnect (some 0)] = some sys ∧
      sys.readers = [.exited] ∧ sys.joined = [0] ∧ ¬ Released sys := by
  refine ⟨_, rfl, rfl, rfl, ?_⟩
  intro h
  have hone := h.settled ⟨0, .stream⟩ (by decide)
  exact absurd hone (by decide)

end SapClient

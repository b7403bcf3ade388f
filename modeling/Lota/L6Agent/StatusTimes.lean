import Lota.L6Agent.IpcInv

/-!
# The times of the status (`agent/ipc.c`, `agent/attest.c`, `agent/daemon_loop.c`)

`GET_STATUS` serves the time of the last attestation and the time until which
it is valid; tokens bind the second. Both are written by `ipc_update_status`,
which always stamps the current time. It is called when an attestation round
finishes, but also by `GET_TOKEN` when a quote finds the TPM locked out, and by
the poll of the ring-buffer counter, which passes zero as the validity.

* `getStatus_reply`, `token_validUntil`: where the two times go.
* `ipcProcess_ctx`: an event of a connection changes the context only through
  the request it serves.
* `step_times`: a step other than a round leaves the times alone exactly when
  it is `Quiet`.
* `status_times_iff`: over every run.
* `times_change`: a token request and a poll that change them.
-/
namespace Lota.L6.StatusTimes
open Lota.Core Lota.L4.Gaming Lota.L4.Token Lota.L6.GetToken Lota.L6.Ipc Lota.L6.ProtectedSet

/-! ## The agent -/

def statusRingbufDrops : UInt32 := 64
def ringbufDropPollIntervalNs : UInt64 := 1000000000

/-- What `do_continuous_attest` keeps between rounds. -/
structure Loop where
  statusFlags : UInt32
  validUntil : UInt64
  consecutiveFailures : Nat

/-- What `agent_run_event_loop` keeps between polls. -/
structure Drops where
  lastDrops : UInt64
  lastPollNs : UInt64

/-- The context of a server that is up, and the loops around it. -/
structure Agent where
  ctx : IpcContext
  loop : Loop
  drops : Drops

/-- mirrors src/agent/ipc.c:2002-2018 -/
def ipcUpdateStatus (ctx : IpcContext) (time : UInt64) (flags : UInt32) (validUntil : UInt64) :
    IpcContext :=
  { ctx with statusFlags := flags, validUntil := validUntil, lastAttestTime := time }

/-- mirrors src/agent/ipc.c:2020-2029 -/
def ipcRecordAttestation (ctx : IpcContext) (success : Bool) : IpcContext :=
  if success then { ctx with attestCount := ctx.attestCount + 1 }
    else { ctx with failCount := ctx.failCount + 1 }

/-- A round: its result, the time it started, the time when it is published
and what `tpm_is_locked_out` says then. -/
structure Round where
  success : Bool
  now : UInt64
  intervalSec : UInt64
  time : UInt64
  lockedOut : Bool

/-- mirrors src/agent/attest.c:852-874 -/
def reconcileTpmLockout (lockedOut : Bool) (flags : UInt32) : UInt32 :=
  if lockedOut then flags ||| statusTpmLockout else flags &&& ~~~statusTpmLockout

/-- mirrors src/agent/attest.c:1077-1145 -/
def finishRound (a : Agent) (r : Round) : Agent :=
  if r.success then
    let flags := a.loop.statusFlags ||| statusAttested
    let validUntil := r.now + r.intervalSec + 60
    { a with
      ctx := ipcRecordAttestation
        (ipcUpdateStatus a.ctx r.time (reconcileTpmLockout r.lockedOut flags) validUntil) true
      loop := ⟨flags, validUntil, 0⟩ }
  else
    let failures := a.loop.consecutiveFailures + 1
    if failures ≥ 3 then
      let flags := a.loop.statusFlags &&& ~~~statusAttested
      { a with
        ctx := ipcRecordAttestation
          (ipcUpdateStatus a.ctx r.time (reconcileTpmLockout r.lockedOut flags) 0) false
        loop := { a.loop with statusFlags := flags, consecutiveFailures := failures } }
    else
      let refreshed := reconcileTpmLockout r.lockedOut a.loop.statusFlags
      let ctx :=
        if refreshed ≠ a.loop.statusFlags then ipcUpdateStatus a.ctx r.time refreshed
          a.loop.validUntil else a.ctx
      { a with
        ctx := ipcRecordAttestation ctx false
        loop := { a.loop with statusFlags := refreshed, consecutiveFailures := failures } }

/-- A poll: whether the program is loaded, the monotonic clock, the counter
and the time. -/
structure Poll where
  loaded : Bool
  nowNs : UInt64
  drops : Option UInt64
  time : UInt64

/-- mirrors src/agent/daemon_loop_telemetry.c:16-27 -/
def ringbufDropDelta (current last : UInt64) : UInt64 := if current ≤ last then 0 else current - last

/-- The poll reads the counter. mirrors src/agent/daemon_loop.c:58-66 -/
def Poll.due (p : Poll) (d : Drops) : Bool :=
  p.loaded && p.nowNs != 0 && !(d.lastPollNs != 0 && p.nowNs - d.lastPollNs < ringbufDropPollIntervalNs)

/-- mirrors src/agent/daemon_loop.c:52-83 -/
def pollRingbufDrops (a : Agent) (p : Poll) : Agent :=
  if p.due a.drops = false then a
  else
    let a := { a with drops := { a.drops with lastPollNs := p.nowNs } }
    match p.drops with
    | none => a
    | some current =>
      let delta := ringbufDropDelta current a.drops.lastDrops
      let a := { a with drops := { a.drops with lastDrops := current } }
      if delta = 0 then a
      else { a with ctx := ipcUpdateStatus a.ctx p.time (a.ctx.statusFlags ||| statusRingbufDrops) 0 }

inductive Action where
  /-- An attestation round finishes. -/
  | round (r : Round)
  /-- The request at the front of the buffer of this connection is served. -/
  | request (s : Conn) (w : Served)
  | poll (p : Poll)
  /-- `ipc_set_mode` -/
  | setMode (mode : UInt8)
  /-- A reload or the end of a process changes what is protected. -/
  | protects (state : AgentState)

def step (a : Agent) : Action → Agent
  | .round r => finishRound a r
  | .request s w => { a with ctx := ({ s with ctx := a.ctx }.processRequest w).ctx }
  | .poll p => pollRingbufDrops a p
  | .setMode mode => { a with ctx := { a.ctx with mode := mode } }
  | .protects state => { a with ctx := { a.ctx with agent := state } }

def machine : Machine Agent Action Unit := ⟨fun a ev => (step a ev, ())⟩

/-- What is served: the time of the last attestation, and the validity. -/
def times (ctx : IpcContext) : UInt64 × UInt64 := (ctx.lastAttestTime, ctx.validUntil)

def Action.isRound : Action → Bool
  | .round _ => true
  | _ => false

/-! ## When the times change -/

/-- The request is a token request that is dispatched. -/
def IsGetToken (buf : Bytes) : Prop :=
  leAt buf 0 4 = ipcMagic.toNat ∧ leAt buf 4 4 = ipcVersion ∧ leAt buf 8 4 = 3 ∧
    validateRequestPayloadLen 3 (leAt buf 12 4) = true

/-- The payload of the request at the front of the buffer. -/
def payloadOf (buf : Bytes) : Bytes := (buf.drop ipcRequestSize).take (leAt buf 12 4)

/-- A token request that gets to its quote, and the quote finds the TPM locked
out. -/
structure FindsLockout (st : IpcState) (c : TokenCall) : Prop where
  attested : hasFlag st.statusFlags statusAttested = true
  unlocked : hasFlag st.statusFlags statusTpmLockout = false
  rate : WithinRate st c
  quote : QuoteLocked st c

/-- A poll that finds events lost since the last one. -/
def FindsDrops (a : Agent) (p : Poll) : Prop :=
  p.due a.drops = true ∧ ∃ current, p.drops = some current ∧ a.drops.lastDrops < current

/-- Not a token request that finds the TPM locked out, nor a poll that finds
lost events; or the clock and the validity are what was recorded. -/
def Quiet (a : Agent) : Action → Prop
  | .request s w => IsGetToken s.recvBuf →
      FindsLockout a.ctx.toIpcState
      (({ s with ctx := a.ctx } : Conn).tokenCall w (payloadOf s.recvBuf)) →
      w.time = a.ctx.lastAttestTime
  | .poll p => FindsDrops a p → p.time = a.ctx.lastAttestTime ∧ a.ctx.validUntil = 0
  | _ => True

/-! ## Requests -/

theorem lockout_ne {flags : UInt32} (h : hasFlag flags statusTpmLockout = false) :
    flags ||| statusTpmLockout ≠ flags := by
  intro heq
  have hand : flags &&& statusTpmLockout = statusTpmLockout := by
    rw [← heq]
    apply UInt32.eq_of_toBitVec_eq
    ext i
    simp only [UInt32.toBitVec_and, UInt32.toBitVec_or, BitVec.getElem_and, BitVec.getElem_or,
      Bool.and_eq_right_iff_imp]
    intro hbit
    simp [hbit]
  rw [hasFlag, hand] at h
  exact absurd h (by decide)

/-- What a token request does to the state: the validity stays, and the flags
change when it finds the TPM locked out. -/
theorem handleGetToken_state (st : IpcState) (c : TokenCall) :
    (GetToken.handleGetToken st c).1.validUntil = st.validUntil ∧
      ((GetToken.handleGetToken st c).1.statusFlags = st.statusFlags ↔ ¬ FindsLockout st c) := by
  unfold GetToken.handleGetToken
  split
  next hno =>
    refine ⟨rfl, iff_of_true rfl fun h => ?_⟩
    rw [h.attested] at hno
    cases hno
  next hattested =>
    split
    next hyes =>
      refine ⟨rfl, iff_of_true rfl fun h => ?_⟩
      rw [h.unlocked] at hyes
      cases hyes
    next hunlocked =>
      simp only
      split
      next hrate =>
        refine ⟨rfl, iff_of_true rfl fun h => ?_⟩
        have hwithin := h.rate
        unfold WithinRate at hwithin
        rw [hwithin] at hrate
        cases hrate
      next hrate =>
        split
        next token hissue =>
          refine ⟨rfl, iff_of_true rfl fun h => ?_⟩
          rw [issueToken_rate, issue_locked_iff.mpr h.quote] at hissue
          cases hissue
        next hissue =>
          have hflag : hasFlag st.statusFlags statusTpmLockout = false := by simpa using hunlocked
          refine ⟨rfl, iff_of_false (lockout_ne hflag) (not_not.mpr ?_)⟩
          exact ⟨by simpa using hattested, hflag,
            by simpa [WithinRate] using hrate, issue_locked_iff.mp hissue⟩
        next e hne hissue =>
          refine ⟨rfl, iff_of_true rfl fun h => ?_⟩
          rw [issueToken_rate, issue_locked_iff.mpr h.quote] at hissue
          exact hne (Except.error.inj hissue).symm

theorem handleGetToken_times (s : Conn) (w : Served) (payload : Bytes) :
    times (s.handleGetToken w payload).ctx = times s.ctx ↔
      (FindsLockout s.ctx.toIpcState (s.tokenCall w payload) → w.time = s.ctx.lastAttestTime) := by
  obtain ⟨hvalid, hflags⟩ := handleGetToken_state s.ctx.toIpcState (s.tokenCall w payload)
  have hctx : (s.handleGetToken w payload).ctx = { s.ctx with
      toIpcState := (GetToken.handleGetToken s.ctx.toIpcState (s.tokenCall w payload)).1
      lastAttestTime := if (GetToken.handleGetToken s.ctx.toIpcState
        (s.tokenCall w payload)).1.statusFlags = s.ctx.statusFlags
        then s.ctx.lastAttestTime else w.time } := by
    unfold Conn.handleGetToken
    simp only
    split <;> rfl
  rw [hctx]
  simp only [times, hvalid, Prod.mk.injEq, and_true]
  by_cases hfound : FindsLockout s.ctx.toIpcState (s.tokenCall w payload)
  · rw [if_neg (mt hflags.mp (not_not.mpr hfound))]
    simp [hfound]
  · rw [if_pos (hflags.mpr hfound)]
    simp [hfound]

/-- A request leaves the times alone exactly when it is quiet. -/
theorem processRequest_times (s : Conn) (w : Served) :
    times (s.processRequest w).ctx = times s.ctx ↔
      (IsGetToken s.recvBuf → FindsLockout s.ctx.toIpcState (s.tokenCall w (payloadOf s.recvBuf)) →
        w.time = s.ctx.lastAttestTime) := by
  by_cases htoken : IsGetToken s.recvBuf
  · obtain ⟨hmagic, hversion, hcmd, hlen⟩ := htoken
    have heq : s.processRequest w = s.handleGetToken w (payloadOf s.recvBuf) := by
      unfold Conn.processRequest
      simp [hmagic, hversion, hcmd, hlen, payloadOf]
    rw [heq, handleGetToken_times]
    simp [show IsGetToken s.recvBuf from ⟨hmagic, hversion, hcmd, hlen⟩]
  · refine iff_of_true ?_ fun h => absurd h htoken
    unfold Conn.processRequest
    simp only
    split
    · rfl
    split
    · rfl
    split
    · rfl
    next hmagic hversion hlen =>
    split
    · rfl
    · rfl
    next hcmd =>
      refine absurd ⟨not_not.mp hmagic, not_not.mp hversion, hcmd, ?_⟩ htoken
      rw [hcmd] at hlen
      simpa using hlen
    · unfold Conn.handleSubscribe
      simp only
      repeat' split
      all_goals rfl
    · unfold Conn.handleProtectPidUpdate
      simp only
      split <;> rfl
    · unfold Conn.handleProtectPidUpdate
      simp only
      split <;> rfl
    · unfold Conn.handleShutdown
      repeat' split
      all_goals rfl
    · rfl

/-! ## Connections -/

theorem haveRequest_ctx (s : Conn) (w : Served) (need : Nat) :
    (s.haveRequest w need).ctx = s.ctx ∨ (s.haveRequest w need).ctx = (s.processRequest w).ctx := by
  unfold Conn.haveRequest
  split
  · exact .inl rfl
  · exact .inr rfl

/-- A read serves at most one request. -/
theorem handleClientRead_ctx (s : Conn) (w : Served) (r : Recv) :
    ∃ t : Conn, t.ctx = s.ctx ∧ ((s.handleClientRead w r).1.ctx = s.ctx ∨
      (s.handleClientRead w r).1.ctx = (t.processRequest w).ctx) := by
  unfold Conn.handleClientRead
  split
  · exact ⟨s, rfl, .inl rfl⟩
  next need _ => exact ⟨s, rfl, haveRequest_ctx s w need⟩
  split
  · exact ⟨s, rfl, .inl rfl⟩
  · exact ⟨s, rfl, .inl rfl⟩
  next bs rest _ =>
    unfold Conn.haveBytes
    split
    · exact ⟨s, rfl, .inl rfl⟩
    · exact ⟨s, rfl, .inl rfl⟩
    next need _ =>
      exact ⟨{ s with recvBuf := s.recvBuf ++ bs, queue := rest }, rfl, haveRequest_ctx _ w need⟩

theorem sendLoop_ctx (s : Conn) (sends : List Sent) : (s.sendLoop sends).1.ctx = s.ctx := by
  induction sends generalizing s with
  | nil => rfl
  | cons r sends ih =>
    unfold Conn.sendLoop
    split
    · split
      · rfl
      · exact ih _
    · rfl

theorem flushed_ctx (s : Conn) : s.flushed.ctx = s.ctx := by
  unfold Conn.flushed Conn.shutdownIfAsked Conn.disarmIfIdle Conn.buildNotification
  simp only
  repeat' split
  all_goals rfl

theorem handleClientWrite_ctx (s : Conn) (sends : List Sent) :
    (s.handleClientWrite sends).1.ctx = s.ctx := by
  unfold Conn.handleClientWrite
  simp only
  split
  · rfl
  split
  · exact sendLoop_ctx s sends
  split
  · exact (flushed_ctx _).trans (sendLoop_ctx s sends)
  · exact sendLoop_ctx s sends

/-- **One event of a connection.** Its effect on the context is that of the
request that it serves, if it serves one. -/
theorem ipcProcess_ctx (s : Conn) (e : Ready) :
    ∃ t : Conn, t.ctx = s.ctx ∧
    ((s.ipcProcess e).ctx = s.ctx ∨ (s.ipcProcess e).ctx = (t.processRequest e.served).ctx) := by
  have hread : ∃ t : Conn, t.ctx = s.ctx ∧
      ((if e.epollin then s.handleClientRead e.served e.recv else (s, false)).1.ctx = s.ctx ∨
        (if e.epollin then s.handleClientRead e.served e.recv else (s, false)).1.ctx =
        (t.processRequest e.served).ctx) := by
    split
    · exact handleClientRead_ctx s e.served e.recv
    · exact ⟨s, rfl, .inl rfl⟩
  have hsame : (s.ipcProcess e).ctx = (if e.epollin then s.handleClientRead e.served e.recv
      else (s, false)).1.ctx := by
    unfold Conn.ipcProcess
    simp only
    generalize (if e.epollin then s.handleClientRead e.served e.recv else (s, false)) = r
    have hwrite : (if e.epollout then r.1.handleClientWrite e.sends else (r.1, false)).1.ctx =
        r.1.ctx := by
      split
      · exact handleClientWrite_ctx r.1 e.sends
      · rfl
    generalize (if e.epollout then r.1.handleClientWrite e.sends else (r.1, false)) = q at hwrite ⊢
    split
    · exact hwrite
    · exact hwrite
  rw [hsame]
  exact hread

/-! ## Where the times go -/

/-- `GET_STATUS` serves both times. -/
theorem getStatus_reply (s : Conn) : s.handleGetStatus.sendBuf =
    response 0
    (toLE 4 s.ctx.statusFlags.toNat ++
      (toLE 4 0 ++ (toLE 8 (times s.ctx).1.toNat ++ (toLE 8 (times s.ctx).2.toNat ++
      (toLE 4 s.ctx.attestCount.toNat ++
        (toLE 4 s.ctx.failCount.toNat ++ [s.ctx.mode, 0, 0, 0])))))) := rfl

/-- A token binds the second. -/
theorem token_validUntil {st : IpcState} {c : TokenCall} {token : IpcToken}
    (h : issueToken st c = .ok token) : token.validUntil = st.validUntil := by
  unfold issueToken at h
  repeat' first | split at h | simp only at h
  all_goals cases h
  rfl

/-! ## Steps and runs -/

theorem findsDrops_iff {a : Agent} {p : Poll} {current : UInt64} (hdue : p.due a.drops = true)
    (hd : p.drops = some current) :
    FindsDrops a p ↔ ringbufDropDelta current a.drops.lastDrops ≠ 0 := by
  have hiff : ringbufDropDelta current a.drops.lastDrops ≠ 0 ↔ a.drops.lastDrops < current := by
    unfold ringbufDropDelta
    split
    next hle => exact iff_of_false (not_not.mpr rfl) (UInt64.not_lt.mpr hle)
    next hgt =>
      have hlt : a.drops.lastDrops < current := UInt64.not_le.mp hgt
      refine iff_of_true (fun h => ?_) hlt
      rw [UInt64.sub_eq_iff_eq_add, UInt64.zero_add] at h
      rw [h] at hlt
      exact UInt64.lt_irrefl _ hlt
  rw [hiff]
  unfold FindsDrops
  constructor
  · intro ⟨_, c, hc, hlt⟩
    rw [hd] at hc
    cases hc
    exact hlt
  · intro hlt
    exact ⟨hdue, current, hd, hlt⟩

theorem poll_times (a : Agent) (p : Poll) :
    times (pollRingbufDrops a p).ctx = times a.ctx ↔
    (FindsDrops a p → p.time = a.ctx.lastAttestTime ∧ a.ctx.validUntil = 0) := by
  unfold pollRingbufDrops
  split
  next hdue =>
    refine iff_of_true rfl fun h => ?_
    rw [h.1] at hdue
    cases hdue
  next hdue =>
    simp only
    split
    next hnone =>
      refine iff_of_true rfl fun ⟨_, c, hc, _⟩ => ?_
      rw [hnone] at hc
      cases hc
    next current hcurrent =>
      have hfinds := findsDrops_iff (by simpa using hdue) hcurrent
      split
      next hzero => exact iff_of_true rfl fun h => absurd hzero (hfinds.mp h)
      next hdelta =>
        have hyes := hfinds.mpr hdelta
        simp only [times, ipcUpdateStatus, Prod.mk.injEq]
        constructor
        · intro ⟨h1, h2⟩ _
          exact ⟨h1, h2.symm⟩
        · intro h
          exact ⟨(h hyes).1, (h hyes).2.symm⟩

/-- **Step.** -/
theorem step_times (a : Agent) (ev : Action) (h : ev.isRound = false) :
    times (step a ev).ctx = times a.ctx ↔ Quiet a ev := by
  cases ev with
  | round r => cases h
  | request s w => exact processRequest_times { s with ctx := a.ctx } w
  | poll p => exact poll_times a p
  | setMode mode => exact iff_of_true rfl trivial
  | protects state => exact iff_of_true rfl trivial

/-- The times change in rounds only. -/
def OnlyInRounds (a : Agent) (evs : List Action) : Prop :=
  ∀ before ev after, evs = before ++ ev :: after → ev.isRound = false →
    times (machine.run a (before ++ [ev])).ctx = times (machine.run a before).ctx

/-- **Runs.** Over every run of the agent the times that are served change in
attestation rounds only, exactly when no token request finds the TPM locked
out and no poll finds lost events, other than at the very time and validity
that were recorded. -/
theorem status_times_iff (a : Agent) (evs : List Action) :
    OnlyInRounds a evs ↔ machine.AllSteps Quiet a evs := by
  rw [Machine.allSteps_iff]
  refine forall_congr' fun before => forall_congr' fun ev => forall_congr' fun after => ?_
  refine imp_congr_right fun _ => ?_
  rw [Machine.run_append]
  cases hround : ev.isRound with
  | false =>
    have hstep := step_times (machine.run a before) ev hround
    exact ⟨fun h => hstep.mp (h rfl), fun h _ => hstep.mpr h⟩
  | true =>
    refine iff_of_true (fun h => by cases h) ?_
    cases ev with
    | round r => trivial
    | _ => cases hround

/-! ## Two runs -/

/-- The agent when its loop starts, with no process protected. -/
def started (flags : UInt32) (validUntil : UInt64) : Agent where
  ctx := {
    toIpcState := {
      agent := ⟨∅, [], 0, true, true, []⟩
      policyDigest := List.Vector.replicate 32 1
      statusFlags := flags
      validUntil := validUntil
      quotePcrMask := 0x4003
      tpm := true
      tokenRateTable := [] }
    startTimeSec := 0
    lastAttestTime := 1700000000
    attestCount := 0
    failCount := 0
    mode := 0 }
  loop := ⟨flags, 0, 0⟩
  drops := ⟨0, 0⟩

/-- mirrors src/agent/main.c:350 -/
def daemon : Agent := started 10 0

/-- mirrors src/agent/test_servers.c:72-126 -/
def signedServer : Agent := started 15 1700003600

/-- `LOTA_IPC_CMD_GET_TOKEN` with no nonce. -/
def tokenRequest : Bytes := toLE 4 ipcMagic.toNat ++ (toLE 4 ipcVersion ++ (toLE 4 3 ++ toLE 4 0))

def lockedServed : Served where
  now := 500
  time := 1700000100
  geteuid := 0
  getpid := 50
  privileged := false
  withinRate := true
  proc := fun _ => none
  procfs := fun _ => .error (.sys 2)
  tpmQuote := fun _ _ => .error .lockedOut

def tokenAction : Action :=
  .request { accept signedServer.ctx 1000 100 7 with recvBuf := tokenRequest } lockedServed

def dropsPoll : Poll := ⟨true, 5000000000, some 3, 1700000100⟩

theorem lockout_found (st : IpcState) (c : TokenCall) (hset : st.agent.policyDigestSet = true)
    (hpids : st.agent.policyProtectPids = []) (htpm : st.tpm = true)
    (hq : c.tpmQuote = fun _ _ => .error .lockedOut) : QuoteLocked st c := by
  have hcanon : buildCanonicalRuntimePidList st.agent = some [] := by
    simp [buildCanonicalRuntimePidList, hpids, noNeighbours]
  exact ⟨hset, htpm, [], [], _, hcanon, Nat.zero_le _, rfl, rfl, by rw [hq]⟩

/-- A poll of the daemon that finds three events lost changes the time of the
last attestation, and so does a token request that finds the TPM locked out. -/
theorem times_change :
    (¬ OnlyInRounds daemon [.poll dropsPoll]) ∧ ¬ OnlyInRounds signedServer [tokenAction] := by
  constructor
  · intro h
    rw [status_times_iff] at h
    have htime := (h.1 ⟨by decide, 3, rfl, by decide⟩).1
    exact absurd htime (by decide)
  · intro h
    rw [status_times_iff] at h
    have htoken : IsGetToken tokenRequest := ⟨by decide, by decide, by decide, by decide⟩
    have hrate : WithinRate signedServer.ctx.toIpcState
        (({ accept signedServer.ctx 1000 100 7 with recvBuf := tokenRequest } : Conn).tokenCall
          lockedServed []) := rfl
    have htime := h.1 htoken ⟨rfl, rfl, hrate, lockout_found _ _ rfl rfl rfl rfl⟩
    exact absurd htime (by decide)

end Lota.L6.StatusTimes

import Lota.L6Agent.IpcLive
import Lota.L6Agent.StatusTimes

/-!
# Which events reach a subscriber (`agent/ipc.c`)

Replies and notifications share one send buffer. An event that is raised while
a message is being sent is kept, and goes out behind it. On an idle connection
`push_notify` builds the notification but does not arm `EPOLLOUT`, so nothing
sends it; and as the buffer is not empty, no request is served any more. A
token request that finds the TPM locked out raises an event while it is being
handled: the notification is built in the empty buffer, and the error that
answers the request overwrites it.

* `busy_step`: what a step does to a message that is being sent.
* `message_sent`: every message in the send buffer gets to the wire.
* `notified_busy`: an event that is raised behind a message follows it.
* `notifications_delivered`: in every run in which events are raised behind
  messages, and no request is stranded.
* `dead_forever`, `notification_lost`: an event on an idle connection.
-/
namespace Lota.L6.Ipc
open Lota.Core Lota.L4.Gaming Lota.L4.Token Lota.L6.GetToken Lota.L6.StatusTimes

/-! ## Events -/

/-- `LOTA_IPC_EVENT_STATUS` -/
def eventStatus : UInt32 := 1

/-- The read serves a token request, and its quote finds the TPM locked out. -/
structure SeesLockout (s : Conn) (e : Ready) : Prop where
  epollin : e.epollin = true
  idle : s.sendBuf = []
  request : ∃ need, frame (s.receive e.bytes).recvBuf = .complete need
  token : IsGetToken (s.receive e.bytes).recvBuf
  lockout : FindsLockout s.ctx.toIpcState (s.tokenCall e.served (payloadOf (s.receive e.bytes).recvBuf))

/-- What a step raises: what the agent raises elsewhere, and the change of the
flags by a token request. -/
inductive Raises (s : Conn) : Event → UInt32 → Prop
  | notify (events : UInt32) : Raises s (.notify events) events
  | lockout {e : Ready} (h : SeesLockout s e) : Raises s (.ready e) eventStatus

/-- A notification with these events is on the wire, behind these messages. -/
def Includes (before : List Message) (relevant : UInt32) (s : Conn) : Prop :=
  ∃ log ctx events, before <+: log ∧ log ++ [.notification (notification ctx events)] <+: s.log ∧
    flat (log ++ [.notification (notification ctx events)]) <+: s.wire ∧ events &&& relevant = relevant

/-- A whole frame: the response that was built for the request, or a
notification. -/
def Genuine : Message → Prop
  | .reply request bs => ∃ (s : Conn) (w : Served), request <+: s.recvBuf ∧
    frame s.recvBuf = .complete request.length ∧
      bs = (s.processRequest w).sendBuf ∧ ∃ result payload, bs = response result payload
  | .notification bs => ∃ ctx events, bs = notification ctx events

/-- The requests are answered, in order and once; what is sent are whole
frames, one after the other; and every event that concerns the client is in a
notification that is sent after it was raised. -/
structure Delivered (req : Nat → Bytes) (s₀ : Conn) (σ : Nat → Event) : Prop where
  answered : Answered req s₀ σ
  frames : ∀ n, ∀ msg ∈ (loop.trace s₀ σ n).log, Genuine msg
  whole : ∀ n, ∃ m, n ≤ m ∧ flat (loop.trace s₀ σ n).log <+: (loop.trace s₀ σ m).wire
  notified : ∀ n events, Raises (loop.trace s₀ σ n) (σ n) events → Relevant (loop.trace s₀ σ n) events →
    ∃ m, n ≤ m ∧ Includes (loop.trace s₀ σ n).log (events &&& (loop.trace s₀ σ n).eventMask)
    (loop.trace s₀ σ m)

/-- Events that concern the client are raised while a message is being sent to
it, from some time on while it is a reply, and none by a request of its own;
and a read that strands a request is followed by more input. -/
structure Orderly (s₀ : Conn) (σ : Nat → Event) : Prop where
  notifies : NotifiesBusy s₀ σ
  lockout : ∀ n e, σ n = .ready e → SeesLockout (loop.trace s₀ σ n) e →
    ¬ Relevant (loop.trace s₀ σ n) eventStatus
  revived : Revived s₀ σ

/-! ## A message that is being sent -/

theorem or_and_of_and {p q r : UInt32} (h : p &&& r = r) : (p ||| q) &&& r = r := by
  apply UInt32.eq_of_toBitVec_eq
  ext i hi
  have hbit : (p &&& r).toBitVec[i] = r.toBitVec[i] := by rw [h]
  simp only [UInt32.toBitVec_and, UInt32.toBitVec_or, BitVec.getElem_and, BitVec.getElem_or] at hbit ⊢
  revert hbit
  cases p.toBitVec[i] <;> cases q.toBitVec[i] <;> cases r.toBitVec[i] <;> simp

/-- Part of the message has been sent, and what waits behind it still does. -/
structure Sending (s t : Conn) : Prop where
  sendBuf : t.sendBuf = s.sendBuf
  sendOffset : s.sendOffset ≤ t.sendOffset
  log : t.log = s.log
  subscribed : t.subscribed = s.subscribed
  pending : s.notifyPending = true → t.notifyPending = true
  events : ∀ r, s.pendingEvents &&& r = r → t.pendingEvents &&& r = r

/-- The message has been sent, and what waited takes its place. -/
structure Finished (s t : Conn) : Prop where
  wire : flat s.log <+: t.wire
  grows : s.log <+: t.log
  next : s.subscribed = true → s.notifyPending = true →
    ∃ ctx, t.log = s.log ++ [.notification (notification ctx s.pendingEvents)]
  rest : ∀ msg ∈ t.log, msg ∈ s.log ∨ ∃ ctx events, msg = .notification (notification ctx events)

theorem flushed_log (s : Conn) : s.flushed.log =
    if (s.subscribed && s.notifyPending) = true then s.log ++
      [.notification (notification s.ctx s.pendingEvents)]
    else s.log := by
  unfold Conn.flushed Conn.shutdownIfAsked Conn.disarmIfIdle Conn.buildNotification
  simp only
  split <;> split <;> split <;> rfl

theorem sending_refl (s : Conn) : Sending s s := ⟨rfl, Nat.le_refl _, rfl, rfl, id, fun _ => id⟩

/-- A write of a message. -/
theorem write_busy {req : Nat → Bytes} {bytes : Bytes} {s : Conn} {sends : List Sent}
    (h : Inv req bytes s)
    (hsends : Sent.error ∉ sends) (hs : s.sendBuf ≠ []) :
    (Sending s (s.handleClientWrite sends).1 ∧
      (sends ≠ [] → s.sendOffset < (s.handleClientWrite sends).1.sendOffset)) ∨
      Finished s (s.handleClientWrite sends).1 := by
  obtain ⟨bs, rest, hsplit, hbs, heq⟩ := Conn.handleClientWrite_cases hsends (h.sending hs)
  rw [heq]
  by_cases hrest : rest = []
  · right
    rw [if_pos hrest]
    have hwire : (s.sent bs).flushed.wire = flat s.log := by
      rw [(flushed_spec (s.sent bs)).wire, ← h.wire, hsplit, hrest, List.append_nil]
      rfl
    refine ⟨by rw [hwire], ?_, fun hsub hpend => ⟨s.ctx, ?_⟩, fun msg hmsg => ?_⟩
    · rw [flushed_log]
      split
      · exact List.prefix_append _ _
      · exact List.prefix_refl _
    · rw [flushed_log, if_pos (by simp [Conn.sent, hsub, hpend])]
      rfl
    · rw [flushed_log] at hmsg
      split at hmsg
      · rcases List.mem_append.mp hmsg with hold | hnew
        · exact .inl hold
        · exact .inr ⟨_, _, List.mem_singleton.mp hnew⟩
      · exact .inl hmsg
  · left
    rw [if_neg hrest]
    refine ⟨⟨rfl, Nat.le_add_right _ _, rfl, rfl, id, fun _ => id⟩, fun hne => ?_⟩
    have hpos := List.length_pos_iff.mpr (hbs hne)
    show s.sendOffset < s.sendOffset + bs.length
    omega

section
variable {req : Nat → Bytes} {bytes : Bytes} {s : Conn}

/-- A read leaves a message that is being sent alone. -/
theorem readPart_busy (hs : s.sendBuf ≠ []) (e : Ready) :
    s.readPart e = if e.epollin then s.receive e.bytes else s := by
  unfold Conn.readPart
  split
  · exact Conn.serve_busy (show (s.receive e.bytes).sendBuf ≠ [] from hs) e.served
  · rfl

/-- **One step of a connection that sends.** -/
theorem busy_step (hreq : ∀ i, frame (req i) = .complete (req i).length) {ev : Event}
    (h : Inv req bytes s)
    (hstream : Stream req bytes) (hev : Kept s ev) (hs : s.sendBuf ≠ []) :
    (Sending s (step s ev) ∧ ∀ e, ev = .ready e → e.epollout = true → e.sends ≠ [] →
      s.sendOffset < (step s ev).sendOffset) ∨ Finished s (step s ev) := by
  cases ev with
  | context ctx =>
    rw [step_alive h.alive]
    exact .inl ⟨⟨rfl, Nat.le_refl _, rfl, rfl, id, fun _ => id⟩, nofun⟩
  | arrive bs =>
    rw [step_alive h.alive]
    exact .inl ⟨⟨rfl, Nat.le_refl _, rfl, rfl, id, fun _ => id⟩, nofun⟩
  | notify events =>
    rw [step_alive h.alive]
    refine .inl ⟨?_, nofun⟩
    show Sending s (s.notifySubscribers events)
    by_cases hrel : Relevant s events
    · rw [notifySubscribers_busy hrel (h.sending hs)]
      exact ⟨rfl, Nat.le_refl _, rfl, rfl, fun _ => rfl, fun _ => or_and_of_and⟩
    · rw [notifySubscribers_irrelevant hrel]
      exact sending_refl s
  | ready e =>
    have hinv := inv_readPart hreq h hstream e
    rw [step_ready hreq h hstream hev]
    have hpart : Sending s (s.readPart e) ∧ (s.readPart e).sendOffset = s.sendOffset ∧
        (s.readPart e).pendingEvents = s.pendingEvents ∧
        (s.readPart e).notifyPending = s.notifyPending := by
      rw [readPart_busy hs]
      split
      · exact ⟨⟨rfl, Nat.le_refl _, rfl, rfl, id, fun _ => id⟩, rfl, rfl, rfl⟩
      · exact ⟨sending_refl s, rfl, rfl, rfl⟩
    generalize s.readPart e = r at hinv hpart ⊢
    obtain ⟨hsend, hoff, hevents, hpend⟩ := hpart
    unfold Conn.writePart
    split
    · rcases write_busy hinv hev.sends (hsend.sendBuf ▸ hs) with ⟨hw, hmore⟩ | hdone
      · refine .inl
          ⟨⟨hw.sendBuf.trans hsend.sendBuf, by rw [← hoff]; exact hw.sendOffset, hw.log.trans hsend.log,
          hw.subscribed.trans hsend.subscribed, fun hp => hw.pending (hsend.pending hp), fun x hx =>
          hw.events x (hsend.events x hx)⟩, ?_⟩
        rintro e' ⟨⟩ - hne
        rw [← hoff]
        exact hmore hne
      · refine .inr
          ⟨by rw [← hsend.log]; exact hdone.wire,
            by rw [← hsend.log]; exact hdone.grows, fun hsub hp => ?_,
          fun msg hmsg => ?_⟩
        · obtain ⟨ctx, hlog⟩ := hdone.next (hsend.subscribed.trans hsub) (hpend.trans hp)
          exact ⟨ctx, by rw [hlog, hsend.log, hevents]⟩
        · rw [← hsend.log]
          exact hdone.rest msg hmsg
    · next hout =>
      refine .inl ⟨hsend, ?_⟩
      rintro e' ⟨⟩ hout' -
      exact absurd hout' hout

/-! ## The log -/

theorem processRequest_response (s : Conn) (w : Served) :
    ∃ result payload, (s.processRequest w).sendBuf = response result payload := by
  unfold Conn.processRequest
  simp only
  split
  · exact ⟨_, _, rfl⟩
  split
  · exact ⟨_, _, rfl⟩
  split
  · exact ⟨_, _, rfl⟩
  split
  · exact ⟨_, _, rfl⟩
  · exact ⟨_, _, rfl⟩
  · unfold Conn.handleGetToken
    simp only
    split <;> exact ⟨_, _, rfl⟩
  · unfold Conn.handleSubscribe
    simp only
    repeat' split
    all_goals exact ⟨_, _, rfl⟩
  · unfold Conn.handleProtectPidUpdate
    simp only
    split <;> exact ⟨_, _, rfl⟩
  · unfold Conn.handleProtectPidUpdate
    simp only
    split <;> exact ⟨_, _, rfl⟩
  · unfold Conn.handleShutdown
    repeat' split
    all_goals exact ⟨_, _, rfl⟩
  · exact ⟨_, _, rfl⟩

/-- Serving logs the response that was built for the request, or nothing. -/
theorem serve_log (s : Conn) (w : Served) :
    (s.serve w).log = s.log ∨ ∃ need, frame s.recvBuf = .complete need ∧
      (s.serve w).log = s.log ++ [.reply (s.recvBuf.take need) (s.processRequest w).sendBuf] := by
  by_cases hs : s.sendBuf = []
  · cases hf : frame s.recvBuf with
    | incomplete =>
      rw [Conn.serve_incomplete hf]
      exact .inl rfl
    | oversized =>
      simp only [Conn.serve, hf]
      exact .inl trivial
    | complete need =>
      have hr := processRequest_replied s w
      refine .inr ⟨need, rfl, ?_⟩
      simp only [Conn.serve, hf, Conn.haveRequest, hs, List.length_nil, Nat.lt_irrefl, if_false,
        gt_iff_lt, hr.log, hr.recvBuf]
  · rw [Conn.serve_busy hs]
    exact .inl rfl

theorem genuine_serve {s : Conn} {w : Served} (h : ∀ msg ∈ s.log, Genuine msg) :
    ∀ msg ∈ (s.serve w).log, Genuine msg := by
  rcases serve_log s w with hlog | ⟨need, hf, hlog⟩
  · rw [hlog]
    exact h
  · rw [hlog]
    intro msg hmsg
    rcases List.mem_append.mp hmsg with hold | hnew
    · exact h msg hold
    · obtain ⟨-, -, -, hle⟩ := frame_complete_iff.mp hf
      rw [List.mem_singleton.mp hnew]
      refine ⟨s, w, List.take_prefix _ _, ?_, rfl, processRequest_response s w⟩
      rw [List.length_take, Nat.min_eq_left hle]
      exact hf

/-- What a step does to the log: it grows, by whole frames. -/
theorem log_step (hreq : ∀ i, frame (req i) = .complete (req i).length) {ev : Event}
    (h : Inv req bytes s)
    (hstream : Stream req bytes) (hev : Kept s ev) :
    s.log <+: (step s ev).log ∧
    ((∀ msg ∈ s.log, Genuine msg) → ∀ msg ∈ (step s ev).log, Genuine msg) := by
  have hrest : ∀ t u : Conn,
      (∀ msg ∈ u.log, msg ∈ t.log ∨ ∃ ctx events, msg = .notification (notification ctx events)) →
      (∀ msg ∈ t.log, Genuine msg) → ∀ msg ∈ u.log, Genuine msg := by
    intro t u hu ht msg hmsg
    rcases hu msg hmsg with hold | ⟨ctx, events, rfl⟩
    · exact ht msg hold
    · exact ⟨ctx, events, rfl⟩
  cases ev with
  | context ctx =>
    rw [step_alive h.alive]
    exact ⟨List.prefix_refl _, id⟩
  | arrive bs =>
    rw [step_alive h.alive]
    exact ⟨List.prefix_refl _, id⟩
  | notify events =>
    have hsame : (step s (.notify events)).log = s.log := by
      rw [step_alive h.alive]
      show (s.notifySubscribers events).log = s.log
      by_cases hrel : Relevant s events
      · rw [notifySubscribers_busy hrel (h.sending (hev hrel))]
      · rw [notifySubscribers_irrelevant hrel]
    rw [hsame]
    exact ⟨List.prefix_refl _, id⟩
  | ready e =>
    have hinv := inv_readPart hreq h hstream e
    have hread : s.log <+: (s.readPart e).log ∧
        ((∀ msg ∈ s.log, Genuine msg) → ∀ msg ∈ (s.readPart e).log, Genuine msg) := by
      unfold Conn.readPart
      split
      · refine ⟨?_, fun hg => genuine_serve (s := s.receive e.bytes) hg⟩
        rcases serve_log (s.receive e.bytes) e.served with hlog | ⟨need, -, hlog⟩
        · rw [hlog]
          exact List.prefix_refl _
        · rw [hlog]
          exact List.prefix_append _ _
      · exact ⟨List.prefix_refl _, id⟩
    rw [step_ready hreq h hstream hev]
    generalize s.readPart e = r at hinv hread ⊢
    unfold Conn.writePart
    split
    · by_cases hs : r.sendBuf = []
      · rw [Conn.handleClientWrite_idle hs]
        exact hread
      · rcases write_busy hinv hev.sends hs with ⟨hw, -⟩ | hdone
        · rw [hw.log]
          exact hread
        · exact ⟨hread.1.trans hdone.grows, fun hg => hrest _ _ hdone.rest (hread.2 hg)⟩
    · exact hread

end

/-! ## Runs -/

section
variable {req : Nat → Bytes} {s₀ : Conn} {σ : Nat → Event} (h₀ : Inv req [] s₀) (hreq : Requests req σ)
  (hfair : Fair s₀ σ) (hbusy : NotifiesBusy s₀ σ)
include h₀ hreq hfair hbusy

theorem log_mono {n m : Nat} (hnm : n ≤ m) : (loop.trace s₀ σ n).log <+: (loop.trace s₀ σ m).log := by
  induction m, hnm using Nat.le_induction with
  | base => exact List.prefix_refl _
  | succ m _ ih =>
    exact ih.trans (log_step hreq.framed (trace_keeps h₀ hreq hfair hbusy m) (hreq.stream m)
      (trace_kept hfair hbusy m)).1

theorem trace_genuine (hlog : s₀.log = []) (n : Nat) :
    ∀ msg ∈ (loop.trace s₀ σ n).log, Genuine msg := by
  induction n with
  | zero =>
    show ∀ msg ∈ s₀.log, Genuine msg
    rw [hlog]
    exact fun msg hmsg => absurd hmsg List.not_mem_nil
  | succ n ih =>
    exact (log_step hreq.framed (trace_keeps h₀ hreq hfair hbusy n) (hreq.stream n)
      (trace_kept hfair hbusy n)).2 ih

/-- While a message is sent every step goes on with it, and with `R` for what
waits behind it, or finishes it. -/
theorem leadsTo_finished {R : Conn → Prop} (hkeep : ∀ s t, Sending s t → R s → R t) {n : Nat}
    (hs : (loop.trace s₀ σ n).sendBuf ≠ []) (hR : R (loop.trace s₀ σ n)) :
    ∃ m, n ≤ m ∧ R (loop.trace s₀ σ m) ∧ (loop.trace s₀ σ m).log = (loop.trace s₀ σ n).log ∧
      Finished (loop.trace s₀ σ m) (loop.trace s₀ σ (m + 1)) := by
  have hstep : ∀ k, (loop.trace s₀ σ k).sendBuf ≠ [] →
      (Sending (loop.trace s₀ σ k) (loop.trace s₀ σ (k + 1)) ∧ ∀ e, σ k = .ready e →
        e.epollout = true → e.sends ≠ [] →
        (loop.trace s₀ σ k).sendOffset < (loop.trace s₀ σ (k + 1)).sendOffset) ∨
      Finished (loop.trace s₀ σ k) (loop.trace s₀ σ (k + 1)) := fun k =>
    busy_step hreq.framed (trace_keeps h₀ hreq hfair hbusy k) (hreq.stream k) (trace_kept hfair hbusy k)
  -- `k` is the time of the step that finishes the message.
  have hlead : LeadsTo
      (fun k => n ≤ k ∧ (loop.trace s₀ σ k).sendBuf ≠ [] ∧ R (loop.trace s₀ σ k) ∧
        (loop.trace s₀ σ k).log = (loop.trace s₀ σ n).log)
      (fun j => ∃ k, j = k + 1 ∧ n ≤ k ∧ R (loop.trace s₀ σ k) ∧
        (loop.trace s₀ σ k).log = (loop.trace s₀ σ n).log ∧
        Finished (loop.trace s₀ σ k) (loop.trace s₀ σ (k + 1))) := by
    apply leadsTo_of_variant fun k =>
      (loop.trace s₀ σ k).sendBuf.length - (loop.trace s₀ σ k).sendOffset
    · rintro k ⟨hnk, hs, hR, hlog⟩
      rcases hstep k hs with ⟨hsend, -⟩ | hdone
      · refine .inr
          ⟨⟨by omega, by rw [hsend.sendBuf]; exact hs, hkeep _ _ hsend hR, hsend.log.trans hlog⟩, ?_⟩
        have hoff := hsend.sendOffset
        rw [hsend.sendBuf]
        omega
      · exact .inl ⟨k, rfl, hnk, hR, hlog, hdone⟩
    · rintro k ⟨-, hs, -, -⟩
      obtain ⟨m, e, hkm, hev, hout, hsends⟩ :=
        hfair.writable k ((trace_keeps h₀ hreq hfair hbusy k).armed hs)
      refine ⟨m, hkm, ?_⟩
      rintro ⟨hnm, hs', hR', hlog'⟩
      rcases hstep m hs' with ⟨hsend, hmore⟩ | hdone
      · have hlt := (trace_keeps h₀ hreq hfair hbusy m).sending hs'
        have hoff := hmore e hev hout hsends
        refine .inr ?_
        rw [hsend.sendBuf]
        omega
      · exact .inl ⟨m, rfl, hnm, hR', hlog', hdone⟩
  obtain ⟨j, hnj, k, -, hnk, hR', hlog, hdone⟩ := hlead n ⟨Nat.le_refl n, hs, hR, rfl⟩
  exact ⟨k, hnk, hR', hlog, hdone⟩

/-- Every message in the send buffer gets to the wire. -/
theorem message_sent (n : Nat) :
    ∃ m, n ≤ m ∧ flat (loop.trace s₀ σ n).log <+: (loop.trace s₀ σ m).wire := by
  by_cases hs : (loop.trace s₀ σ n).sendBuf = []
  · refine ⟨n, Nat.le_refl n, ?_⟩
    have hwire := (trace_keeps h₀ hreq hfair hbusy n).wire
    rw [hs, List.drop_nil, List.append_nil] at hwire
    rw [hwire]
  · obtain ⟨k, hnk, -, hlog, hdone⟩ :=
      leadsTo_finished h₀ hreq hfair hbusy (R := fun _ => True) (fun _ _ _ _ => trivial) hs trivial
    exact ⟨k + 1, by omega, by rw [← hlog]; exact hdone.wire⟩

/-- An event that is raised behind a message follows it. -/
theorem notified_busy {n : Nat} {events : UInt32} (hev : σ n = .notify events)
    (hrel : Relevant (loop.trace s₀ σ n) events) :
    ∃ m, n ≤ m ∧ Includes (loop.trace s₀ σ n).log (events &&& (loop.trace s₀ σ n).eventMask)
    (loop.trace s₀ σ m) := by
  have hinv := trace_keeps h₀ hreq hfair hbusy n
  have hs := hbusy.busy n events hev hrel
  have hnext : loop.trace s₀ σ (n + 1) = { loop.trace s₀ σ n with
      notifyPending := true
      pendingEvents := (loop.trace s₀ σ n).pendingEvents |||
        (events &&& (loop.trace s₀ σ n).eventMask) } := by
    have hstep : loop.trace s₀ σ (n + 1) = step (loop.trace s₀ σ n) (σ n) := rfl
    rw [hstep, hev, step_alive hinv.alive]
    exact notifySubscribers_busy hrel (hinv.sending hs)
  generalize hmask : events &&& (loop.trace s₀ σ n).eventMask = relevant at hnext ⊢
  obtain ⟨k, hnk, ⟨hsub, hpend, hevents⟩, hlog, hdone⟩ := leadsTo_finished h₀ hreq hfair hbusy
    (R := fun s => s.subscribed = true ∧ s.notifyPending = true ∧ s.pendingEvents &&&
      relevant = relevant)
    (fun s t hst hR => ⟨hst.subscribed.trans hR.1, hst.pending hR.2.1, hst.events _ hR.2.2⟩)
    (n := n + 1) (by rw [hnext]; exact hs) (by
      rw [hnext]
      refine ⟨hrel.1, rfl, ?_⟩
      rw [UInt32.or_comm]
      exact or_and_of_and (UInt32.and_self))
  obtain ⟨ctx, hnew⟩ := hdone.next hsub hpend
  obtain ⟨m, hkm, hwire⟩ := message_sent h₀ hreq hfair hbusy (k + 1)
  rw [hnew] at hwire
  have hbefore : (loop.trace s₀ σ n).log = (loop.trace s₀ σ k).log := by
    rw [hlog, hnext]
  refine ⟨m, by omega, (loop.trace s₀ σ k).log, ctx, (loop.trace s₀ σ k).pendingEvents, ?_, ?_,
    hwire, hevents⟩
  · rw [hbefore]
  · rw [← hnew]
    exact log_mono h₀ hreq hfair hbusy hkm

end

/-- **Delivery.** In every fair run of a connection in which events that concern
the client are raised behind messages and not by its own requests, and in which
no request is stranded: every request gets its own response, whole frames are
sent, and every such event is in a notification that is sent. -/
theorem notifications_delivered {req : Nat → Bytes} {σ : Nat → Event} (ctx : IpcContext)
    (uid pid : UInt32) (ticks : UInt64)
    (hreq : Requests req σ) (hfair : Fair (accept ctx uid pid ticks) σ)
    (horderly : Orderly (accept ctx uid pid ticks) σ) :
    Delivered req (accept ctx uid pid ticks) σ where
  answered := answered_of_revived (inv_accept req ctx uid pid ticks) hreq hfair horderly.notifies
    horderly.revived
  frames := trace_genuine (inv_accept req ctx uid pid ticks) hreq hfair horderly.notifies rfl
  whole := message_sent (inv_accept req ctx uid pid ticks) hreq hfair horderly.notifies
  notified n events hraise hrel := by
    generalize hev : σ n = ev at hraise
    cases hraise with
    | notify =>
      exact notified_busy (inv_accept req ctx uid pid ticks) hreq hfair horderly.notifies hev hrel
    | lockout h => exact absurd hrel (horderly.lockout n _ hev h)

/-! ## An event on an idle connection -/

/-- A message is in the send buffer, and the loop does not ask when the socket
is writable. -/
structure Dead (s : Conn) : Prop where
  busy : s.sendOffset < s.sendBuf.length
  unarmed : s.armed = false

/-- What stays when nothing is sent. -/
structure Still (s t : Conn) : Prop where
  dead : Dead t
  wire : t.wire = s.wire
  log : t.log = s.log

theorem haveRequest_dead {s : Conn} (h : Dead s) (w : Served) (need : Nat) :
    s.haveRequest w need = s := by
  have hbusy := h.busy
  unfold Conn.haveRequest
  exact if_pos (by omega)

theorem handleClientRead_dead {s : Conn} (h : Dead s) (w : Served) (r : Recv) :
    Still s (s.handleClientRead w r).1 := by
  unfold Conn.handleClientRead
  split
  · exact ⟨h, rfl, rfl⟩
  · rw [haveRequest_dead h]
    exact ⟨h, rfl, rfl⟩
  split
  · exact ⟨h, rfl, rfl⟩
  · exact ⟨h, rfl, rfl⟩
  next bs rest _ =>
    have hnew : Dead { s with recvBuf := s.recvBuf ++ bs, queue := rest } := ⟨h.busy, h.unarmed⟩
    unfold Conn.haveBytes
    split
    · exact ⟨hnew, rfl, rfl⟩
    · exact ⟨hnew, rfl, rfl⟩
    · rw [haveRequest_dead hnew]
      exact ⟨hnew, rfl, rfl⟩

/-- **Step.** Without `EPOLLOUT` nothing is sent, and no request is served. -/
theorem dead_step {s : Conn} (h : Dead s) {ev : Event}
    (hout : ∀ e, ev = .ready e → e.epollout = false) : Still s (step s ev) := by
  unfold step
  split
  · cases ev with
    | context ctx => exact ⟨⟨h.busy, h.unarmed⟩, rfl, rfl⟩
    | arrive bs => exact ⟨⟨h.busy, h.unarmed⟩, rfl, rfl⟩
    | notify events =>
      show Still s (s.notifySubscribers events)
      by_cases hrel : Relevant s events
      · rw [notifySubscribers_busy hrel h.busy]
        exact ⟨⟨h.busy, h.unarmed⟩, rfl, rfl⟩
      · rw [notifySubscribers_irrelevant hrel]
        exact ⟨h, rfl, rfl⟩
    | ready e =>
      have hread :
          Still s (if e.epollin then s.handleClientRead e.served e.recv else (s, false)).1 := by
        split
        · exact handleClientRead_dead h e.served e.recv
        · exact ⟨h, rfl, rfl⟩
      show Still s (s.ipcProcess e)
      unfold Conn.ipcProcess
      simp only [hout e rfl, Bool.false_eq_true, if_false]
      generalize (if e.epollin = true then s.handleClientRead e.served e.recv else (s, false)) =
        r at hread ⊢
      split
      · exact ⟨⟨hread.dead.busy, hread.dead.unarmed⟩, hread.wire, hread.log⟩
      · exact hread
  · exact ⟨h, rfl, rfl⟩

/-- **Run.** -/
theorem dead_forever {s₀ : Conn} {σ : Nat → Event} (hfair : Fair s₀ σ) {n m : Nat}
    (h : Dead (loop.trace s₀ σ n)) (hnm : n ≤ m) :
    Still (loop.trace s₀ σ n) (loop.trace s₀ σ m) := by
  induction m, hnm using Nat.le_induction with
  | base => exact ⟨h, rfl, rfl⟩
  | succ m _ ih =>
    have hout : ∀ e, σ m = .ready e → e.epollout = false := fun e hev =>
      Bool.eq_false_iff.mpr fun ho =>
        absurd (hfair.epollout m e hev ho) (by rw [ih.dead.unarmed]; exact Bool.false_ne_true)
    have hstep : Still (loop.trace s₀ σ m) (loop.trace s₀ σ (m + 1)) := dead_step ih.dead hout
    exact ⟨hstep.dead, hstep.wire.trans ih.wire, hstep.log.trans ih.log⟩

/-- The notification is built, and nothing is armed. -/
theorem notifySubscribers_idle {s : Conn} {events : UInt32} (h : Relevant s events)
    (hs : s.sendBuf = []) :
    s.notifySubscribers events = s.buildNotification (events &&& s.eventMask) := by
  unfold Conn.notifySubscribers Conn.pushNotify
  rw [if_pos h.1]
  simp only [if_neg h.2, hs, List.length_nil]
  exact if_neg (by omega)

theorem flat_length_mono {l m : List Message} (h : l <+: m) : (flat l).length ≤ (flat m).length := by
  obtain ⟨r, rfl⟩ := h
  unfold flat
  rw [List.flatMap_append, List.length_append]
  exact Nat.le_add_right _ _

/-- An idle connection does not ask when the socket is writable. -/
def Disarmed (s : Conn) : Prop := s.sendBuf = [] → s.armed = false

theorem flushed_disarmed (s : Conn) : Disarmed s.flushed := by
  unfold Disarmed Conn.flushed
  by_cases hpending : (s.subscribed && s.notifyPending) = true
  · simp only [if_pos hpending]
    unfold Conn.shutdownIfAsked Conn.disarmIfIdle
    split <;> split <;> simp_all
  · simp only [if_neg hpending]
    unfold Conn.shutdownIfAsked Conn.disarmIfIdle
    split <;> split <;> simp_all

section
variable {req : Nat → Bytes} {bytes : Bytes} {s : Conn}

theorem disarmed_step (hreq : ∀ i, frame (req i) = .complete (req i).length) {ev : Event}
    (h : Inv req bytes s)
    (hstream : Stream req bytes) (hev : Kept s ev) (hd : Disarmed s) : Disarmed (step s ev) := by
  cases ev with
  | context ctx =>
    rw [step_alive h.alive]
    exact hd
  | arrive bs =>
    rw [step_alive h.alive]
    exact hd
  | notify events =>
    rw [step_alive h.alive]
    show Disarmed (s.notifySubscribers events)
    by_cases hrel : Relevant s events
    · rw [notifySubscribers_busy hrel (h.sending (hev hrel))]
      exact hd
    · rw [notifySubscribers_irrelevant hrel]
      exact hd
  | ready e =>
    have hinv := inv_readPart hreq h hstream e
    have hread : Disarmed (s.readPart e) := by
      unfold Conn.readPart
      split
      · by_cases hs : s.sendBuf = []
        · cases hf : frame (s.receive e.bytes).recvBuf with
          | incomplete =>
            rw [Conn.serve_incomplete hf]
            exact hd
          | oversized =>
            simp only [Conn.serve, hf]
            exact hd
          | complete need =>
            obtain ⟨t, ht, heq⟩ :=
              Conn.serve_idle hf (show (s.receive e.bytes).sendBuf = [] from hs) e.served
            rw [heq]
            exact fun hnil => absurd hnil ht.sendBuf
        · rw [Conn.serve_busy (show (s.receive e.bytes).sendBuf ≠ [] from hs)]
          exact hd
      · exact hd
    rw [step_ready hreq h hstream hev]
    generalize s.readPart e = r at hinv hread ⊢
    unfold Conn.writePart
    split
    · by_cases hs : r.sendBuf = []
      · rw [Conn.handleClientWrite_idle hs]
        exact hread
      · obtain ⟨bs, rest, -, -, heq⟩ := Conn.handleClientWrite_cases hev.sends (hinv.sending hs)
        rw [heq]
        show Disarmed (if rest = [] then _ else _)
        split
        · exact flushed_disarmed _
        · exact fun hnil => absurd hnil hs
    · exact hread

end

section
variable {req : Nat → Bytes} {s₀ : Conn} {σ : Nat → Event} (hfair : Fair s₀ σ)
include hfair

/-- An event on an idle connection is in no notification that is sent. -/
theorem idle_lost {bytes : Bytes} {n : Nat} {events : UInt32} (hinv : Inv req bytes (loop.trace s₀ σ n))
    (hd : Disarmed (loop.trace s₀ σ n)) (hev : σ n = .notify events)
    (hrel : Relevant (loop.trace s₀ σ n) events)
    (hs : (loop.trace s₀ σ n).sendBuf = []) {m : Nat} (hnm : n ≤ m) (relevant : UInt32) :
    ¬ Includes (loop.trace s₀ σ n).log relevant (loop.trace s₀ σ m) := by
  have hnext : loop.trace s₀ σ (n + 1) = (loop.trace s₀ σ n).buildNotification
      (events &&& (loop.trace s₀ σ n).eventMask) := by
    have hstep : loop.trace s₀ σ (n + 1) = step (loop.trace s₀ σ n) (σ n) := rfl
    rw [hstep, hev, step_alive hinv.alive]
    exact notifySubscribers_idle hrel hs
  have hdead : Dead (loop.trace s₀ σ (n + 1)) := by
    rw [hnext]
    refine ⟨?_, hd hs⟩
    show 0 < (notification _ _).length
    rw [notification_length]
    omega
  -- From here on the wire is as it was, and it has room for no more frames.
  have hwire : (loop.trace s₀ σ m).wire = flat (loop.trace s₀ σ n).log := by
    have hn := hinv.wire
    rw [hs, List.drop_nil, List.append_nil] at hn
    by_cases hm : m = n
    · rw [hm, hn]
    · rw [(dead_forever hfair hdead (by omega : n + 1 ≤ m)).wire, hnext]
      exact hn
  rintro ⟨log, ctx, sent, hbefore, -, hsent, -⟩
  have hlen := hsent.length_le
  have hmono := flat_length_mono hbefore
  have hflat : flat (log ++ [.notification (notification ctx sent)]) = flat log ++
      notification ctx sent := by
    simp [flat, Message.bytes]
  rw [hwire, hflat, List.length_append, notification_length] at hlen
  omega

/-- **Necessary.** Where all is delivered, every event that concerns the client
was raised while a message was being sent. -/
theorem kept_of_delivered (h₀ : Inv req [] s₀) (hd₀ : Disarmed s₀) (hreq : Requests req σ)
    (h : Delivered req s₀ σ) (n : Nat) : Kept (loop.trace s₀ σ n) (σ n) := by
  have hstep : ∀ n, Inv req (arrived σ n) (loop.trace s₀ σ n) → Disarmed (loop.trace s₀ σ n) →
      Kept (loop.trace s₀ σ n) (σ n) := by
    intro n hinv hd
    cases hev : σ n with
    | context ctx => trivial
    | arrive bs => trivial
    | ready e => exact hfair.clean n e hev
    | notify events =>
      intro hrel hs
      obtain ⟨m, hnm, hincludes⟩ := h.notified n events (hev ▸ Raises.notify events) hrel
      exact idle_lost hfair hinv hd hev hrel hs hnm _ hincludes
  have hboth : Inv req (arrived σ n) (loop.trace s₀ σ n) ∧ Disarmed (loop.trace s₀ σ n) := by
    induction n with
    | zero => exact ⟨h₀, hd₀⟩
    | succ n ih =>
      have hkept := hstep n ih.1 ih.2
      exact ⟨inv_step hreq.framed ih.1 (hreq.stream n) hkept,
        disarmed_step hreq.framed ih.1 (hreq.stream n) hkept ih.2⟩
  exact hstep n hboth.1 hboth.2

end

/-! ## Two runs -/

/-- The agent's own connection: only it may subscribe. -/
def ownConn : Conn := accept pingContext 0 50 7

/-- `LOTA_IPC_CMD_SUBSCRIBE` for `LOTA_IPC_EVENT_STATUS` -/
def subscribeRequest : Bytes :=
  toLE 4 ipcMagic.toNat ++ (toLE 4 ipcVersion ++ (toLE 4 4 ++ (toLE 4 4 ++ toLE 4 1)))

def ownRequests (i : Nat) : Bytes := if i = 0 then subscribeRequest else pingRequest

theorem ownRequests_framed (i : Nat) : frame (ownRequests i) = .complete (ownRequests i).length := by
  unfold ownRequests
  split
  · decide
  · decide

/-- The client subscribes, gets its answer, and then the flags change. -/
def idleScript : List Event :=
  [.arrive subscribeRequest, readEvent recvBufSize, writeEvent 16, .notify eventStatus]

/-- The client subscribes and sends a ping; the flags change while the answer
is on its way. -/
def busyScript : List Event :=
  [.arrive subscribeRequest, readEvent recvBufSize, writeEvent 16, .arrive pingRequest,
    readEvent recvBufSize, .notify eventStatus, writeEvent 28, writeEvent 52]

/-- An event on an idle connection is lost. -/
theorem notification_lost :
    Requests ownRequests (script idleScript) ∧ Fair ownConn (script idleScript) ∧
    Relevant (loop.trace ownConn (script idleScript) 3) eventStatus ∧
    ¬ Delivered ownRequests ownConn (script idleScript) := by
  have hreq : Requests ownRequests (script idleScript) :=
    ⟨ownRequests_framed, fun n => ⟨1, (script_arrived idleScript n).trans (by decide +kernel)⟩⟩
  have hfair : Fair ownConn (script idleScript) :=
    script_fair (by decide +kernel) (by decide +kernel) (by decide +kernel) (by decide +kernel)
      (by decide +kernel)
  have hrel : Relevant (loop.trace ownConn (script idleScript) 3) eventStatus :=
    ⟨by decide +kernel, by decide +kernel⟩
  refine ⟨hreq, hfair, hrel, fun hdelivered => ?_⟩
  have hidle : (loop.trace ownConn (script idleScript) 3).sendBuf = [] := by decide +kernel
  have hkept := kept_of_delivered hfair (inv_accept ownRequests pingContext 0 50 7) (fun _ => rfl)
    hreq hdelivered 3
  exact hkept hrel hidle

/-- What `Orderly` asks of a script, in which no token is asked for and no
request is left behind. -/
def plain (s : Conn) : Event → Bool
  | .ready e => !e.epollin ||
    (leAt (s.receive e.bytes).recvBuf 8 4 != 3 && frame (s.receive e.bytes).unserved == .incomplete)
  | .notify _ => !s.sendBuf.isEmpty
  | _ => true

theorem script_orderly {s₀ : Conn} {evs : List Event}
    (hplain : ∀ n < evs.length, plain (loop.trace s₀ (script evs) n) (script evs n) = true) :
    Orderly s₀ (script evs) := by
  have hread : ∀ n e, script evs n = .ready e → e.epollin = true →
      leAt ((loop.trace s₀ (script evs) n).receive e.bytes).recvBuf 8 4 ≠ 3 ∧
        frame ((loop.trace s₀ (script evs) n).receive e.bytes).unserved = .incomplete := by
    intro n e hev hin
    by_cases hn : n < evs.length
    · have h := hplain n hn
      rw [hev] at h
      simpa [plain, hin] using h
    · rw [script_end (by omega)] at hev
      cases hev
  constructor
  case notifies =>
    refine ⟨fun n events hev _ => ?_, evs.length, fun n events hn hev _ => ?_⟩
    · by_cases hn : n < evs.length
      · have h := hplain n hn
        rw [hev] at h
        simpa [plain] using h
      · rw [script_end (by omega)] at hev
        cases hev
    · rw [script_end hn] at hev
      cases hev
  case lockout => exact fun n e hev hsees => absurd hsees.token.2.2.1 (hread n e hev hsees.epollin).1
  case revived =>
    intro n hstrands
    obtain ⟨e, hev, hin, -, need, hf⟩ := hstrands.ready
    cases (hread n e hev hin).2.symm.trans hf

/-- An event behind a reply is delivered. -/
theorem notifications_delivered_busy :
    Relevant (loop.trace ownConn (script busyScript) 5) eventStatus ∧
    Delivered ownRequests ownConn (script busyScript) := by
  have hreq : Requests ownRequests (script busyScript) :=
    ⟨ownRequests_framed, fun n => ⟨2, (script_arrived busyScript n).trans (by decide +kernel)⟩⟩
  have hfair : Fair ownConn (script busyScript) :=
    script_fair (by decide +kernel) (by decide +kernel) (by decide +kernel) (by decide +kernel)
      (by decide +kernel)
  exact ⟨⟨by decide +kernel, by decide +kernel⟩,
    notifications_delivered pingContext 0 50 7 hreq hfair (script_orderly (by decide +kernel))⟩

end Lota.L6.Ipc

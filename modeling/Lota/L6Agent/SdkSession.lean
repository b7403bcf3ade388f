import Lota.Core.Delimited
import Lota.L4Sdk.GamingClient
import Lota.L6Agent.IpcNotify

/-!
# A game and the agent on one connection (`sdk/lota_gaming.c`, `agent/ipc.c`)

The client of the SDK and its connection in the agent, with the socket between
them. Requests and messages have one format, a header of 16 bytes with the
length of what follows, so both sides cut the stream in the same way: whatever
the pieces, and whatever the agent does besides.

* `session`: the two as a machine; the client may call and poll at any time,
  every operation on the socket may fail, and the agent may close the
  connection.
* `step_log`: what one step of the agent puts into the send buffer.
* `Inv`: what has come of the messages of the agent and of the requests of the
  client, and that the calls have the replies to their own requests.
* `calls_linearizable`: while the client is patient, every call that returns
  with a response was served once, at a moment between the call and its
  return.
* `stale_status`: a call that gives up leaves its response to the next one.
-/
namespace Lota.L6.Sdk
open Lota.Core Lota.L4 Lota.L4.Token Lota.L4.Gaming Lota.L6.GetToken Lota.L6.TokenReply Lota.L6.Ipc

/-! ## The system -/

structure Session where
  agent : Conn
  client : LotaClient
  /-- What the agent has sent and the client has not read. -/
  down : Bytes

inductive Action where
  | context (ctx : IpcContext)
  | notify (events : UInt32)
  | ready (e : Ready)
  | client (a : Act)

def Session.serve (s : Session) (ev : Event) : Session :=
  let agent := Ipc.step s.agent ev
  { s with agent, down := s.down ++ agent.wire.drop s.agent.wire.length }

def act (s : Session) : Action → Session
  | .context ctx => s.serve (.context ctx)
  | .notify events => s.serve (.notify events)
  | .ready e => s.serve (.ready e)
  | .client a =>
    let r := s.client.step a s.down
    { agent := Ipc.step s.agent (.arrive r.2.1), client := r.1, down := r.2.2 }

def session : Machine Session Action Unit := ⟨fun s a => (act s a, ())⟩

/-- The connection has been accepted. -/
def connected (ctx : IpcContext) (uid pid : UInt32) (ticks : UInt64) : Session where
  agent := Ipc.accept ctx uid pid ticks
  client := lotaConnect
  down := []

/-! ## Frames -/

/-- A request that the agent finds complete at the front of its buffer. -/
theorem whole_of_frame {r buf : Bytes} (hr : r <+: buf) (h : frame buf = .complete r.length) :
    ipcFrame.Whole r := by
  obtain ⟨hsize, -, hneed, -⟩ := frame_complete_iff.mp h
  obtain ⟨rest, rfl⟩ := hr
  have hlong : 16 ≤ r.length := by
    unfold ipcRequestSize at hneed
    omega
  have hlen : leAt (r ++ rest) 12 4 = leAt r 12 4 := leAt_append (by omega) rest
  rw [hlen] at hneed
  exact whole_iff.mpr ⟨hlong, hneed⟩

/-- The fields of a message, as the client reads them. -/
structure Reads (result : Nat) (payload bs : Bytes) : Prop where
  magic : frameMagic bs = ipcMagic.toNat
  result : frameResult bs = UInt32.ofNat result
  payloadLen : framePayloadLen bs = payload.length
  payload : framePayload bs = payload

theorem response_reads {result : Nat} {payload : Bytes} (hr : result < 256)
    (hp : payload.length ≤ ipcMaxPayload) : Reads result payload (response result payload) := by
  have hp : payload.length ≤ 8192 := hp
  refine ⟨?_, ?_, ?_, ?_⟩
  · exact leAt_toLE (by decide) _
  · unfold frameResult response
    rw [leAt_field _ (by simp), leAt_field _ (by simp)]
    simp only [toLE_length, Nat.reduceSub]
    rw [leAt_toLE (by omega)]
  · unfold framePayloadLen response
    rw [leAt_field _ (by simp), leAt_field _ (by simp), leAt_field _ (by simp)]
    simp only [toLE_length, Nat.reduceSub]
    exact leAt_toLE (by omega) _
  · unfold framePayload response responseSize
    rw [drop_field _ (by simp), drop_field _ (by simp), drop_field _ (by simp), drop_field _ (by simp)]
    simp

theorem Reads.whole {result : Nat} {payload bs : Bytes} (h : Reads result payload bs)
    (hlen : bs.length = 16 + payload.length) : ipcFrame.Whole bs := by
  rw [whole_iff, h.payloadLen]
  unfold responseSize
  exact ⟨by omega, hlen⟩

/-! ## What the agent sends -/

theorem replyPayload_fits {s : IpcState} {c : TokenCall} {token : IpcToken}
    (h : (GetToken.handleGetToken s c).2 = .ok token) :
    (replyPayload token).length ≤ ipcMaxPayload := by
  obtain ⟨-, -, hissue⟩ := handleGetToken_ok h
  obtain ⟨quote, hi⟩ := issue_ok hissue
  obtain ⟨hperm, -⟩ := ProtectedSet.canonical_perm hi.canonical
  have hfits := hi.fits
  rw [hperm.length_eq] at hfits
  rw [replyPayload_length hi]
  exact hfits

theorem resultCode_lt (r : ProtectedSet.IpcResult) : resultCode r < 10 := by
  cases r <;> decide

/-- Every reply is a response that is no notification, and has a payload that
the protocol allows. -/
theorem processRequest_reply (s : Conn) (w : Served) :
    ∃ result payload, (s.processRequest w).sendBuf = response result payload ∧ result < 10 ∧
    payload.length ≤ ipcMaxPayload := by
  have herror : ∀ (t : Conn) (result : Nat), result < 10 → ∃ result' payload,
      (t.buildErrorResponse result).sendBuf = response result' payload ∧ result' < 10 ∧
      payload.length ≤ ipcMaxPayload :=
    fun t result h => ⟨result, [], rfl, h, Nat.zero_le _⟩
  unfold Conn.processRequest
  simp only
  split
  · exact herror _ _ (resultCode_lt _)
  split
  · exact herror _ _ (by decide)
  split
  · exact herror _ _ (resultCode_lt _)
  split
  · exact ⟨_, _, rfl, by decide, by simp [ipcMaxPayload]⟩
  · exact ⟨_, _, rfl, by decide, by simp [statusTail, ipcMaxPayload]⟩
  · unfold Conn.handleGetToken
    simp only
    split
    · next token htoken => exact ⟨_, _, rfl, by decide, replyPayload_fits htoken⟩
    · exact herror _ _ (resultCode_lt _)
  · unfold Conn.handleSubscribe
    simp only
    split
    · exact herror _ _ (resultCode_lt _)
    split
    · exact herror _ _ (resultCode_lt _)
    split
    · exact ⟨_, _, rfl, by decide, Nat.zero_le _⟩
    · exact ⟨_, _, rfl, by decide, Nat.zero_le _⟩
  · unfold Conn.handleProtectPidUpdate
    simp only
    split
    · exact ⟨_, _, rfl, by decide, by simp [ipcMaxPayload]⟩
    · exact herror _ _ (resultCode_lt _)
  · unfold Conn.handleProtectPidUpdate
    simp only
    split
    · exact ⟨_, _, rfl, by decide, by simp [ipcMaxPayload]⟩
    · exact herror _ _ (resultCode_lt _)
  · unfold Conn.handleShutdown
    split
    · exact herror _ _ (resultCode_lt _)
    split
    · exact herror _ _ (resultCode_lt _)
    · exact ⟨_, _, rfl, by decide, Nat.zero_le _⟩
  · exact herror _ _ (by decide)

/-- What the client makes of a message: a whole frame, and a notification
exactly when it is one. -/
structure Sound (m : Message) : Prop where
  whole : ipcFrame.Whole m.bytes
  magic : frameMagic m.bytes = ipcMagic.toNat
  kind : isNotify m.bytes = match m with
    | .reply .. => false
    | .notification _ => true

theorem sound_response {m : Message} {result : Nat} {payload : Bytes}
    (hm : m.bytes = response result payload) (hr : result < 256)
    (hp : payload.length ≤ ipcMaxPayload)
    (hk : (UInt32.ofNat result = resultNotify ∧ 0 < payload.length) ↔ ∃ bs, m = .notification bs) :
    Sound m := by
  have hreads := response_reads hr hp
  rw [← hm] at hreads
  refine ⟨hreads.whole (by rw [hm, response_length]), hreads.magic, ?_⟩
  have hiff : isNotify m.bytes = true ↔ ∃ bs, m = .notification bs := by
    rw [← hk]
    unfold isNotify
    rw [hreads.result, hreads.payloadLen]
    simp
  cases m with
  | reply request bs =>
    by_contra h
    obtain ⟨bs', hbs⟩ := hiff.mp (by simpa using h)
    cases hbs
  | notification bs => exact hiff.mpr ⟨bs, rfl⟩

theorem sound_notification (ctx : IpcContext) (events : UInt32) :
    Sound (.notification (notification ctx events)) := by
  refine sound_response rfl (by decide) ?_ ?_
  · simp [statusTail, ipcMaxPayload]
  · exact ⟨fun _ => ⟨_, rfl⟩, fun _ => ⟨rfl, by simp [statusTail]⟩⟩

theorem sound_reply (s : Conn) (w : Served) (request : Bytes) :
    Sound (.reply request (s.processRequest w).sendBuf) := by
  obtain ⟨result, payload, hsend, hr, hp⟩ := processRequest_reply s w
  refine sound_response (m := .reply request (s.processRequest w).sendBuf) hsend (by omega) hp ?_
  constructor
  · rintro ⟨hn, -⟩
    have hval : (UInt32.ofNat result).toNat = resultNotify.toNat := by rw [hn]
    have hnotify : resultNotify.toNat = 128 := rfl
    rw [UInt32.toNat_ofNat', hnotify] at hval
    omega
  · rintro ⟨bs, hbs⟩
    cases hbs

/-! ## A step of the agent -/

/-- What was put into the send buffer is what was sent and what is to be
sent. -/
structure Wired (s : Conn) : Prop where
  offset : s.sendOffset ≤ s.sendBuf.length
  wire : s.wire ++ s.sendBuf.drop s.sendOffset = flat s.log

/-- The agent has put `new` into the send buffer, and has lost nothing of what
came. -/
structure Grows (s t : Conn) (new : List Message) : Prop where
  log : t.log = s.log ++ new
  received : (requests t.log).flatten ++ (t.recvBuf ++ t.queue) = (requests s.log).flatten ++
    (s.recvBuf ++ s.queue)
  wire : s.wire <+: t.wire
  wired : Wired s → Wired t

/-- The agent has `request` at the front of its buffer, with a part of what is
in the socket behind it, and answers it with `bs`. -/
def Serves (s : Conn) (e : Ready) (request bs : Bytes) : Prop :=
  ∃ recvBuf queue, recvBuf ++ queue = s.recvBuf ++ s.queue ∧ request <+: recvBuf ∧
    frame recvBuf = .complete request.length ∧
    bs = (Conn.processRequest { s with recvBuf, queue } e.served).sendBuf

theorem grows_refl (s : Conn) : Grows s s [] := ⟨(List.append_nil _).symm, rfl, List.prefix_refl _, id⟩

theorem Grows.trans {s t u : Conn} {new new' : List Message} (h : Grows s t new) (h' : Grows t u new') :
    Grows s u (new ++ new') where
  log := by rw [h'.log, h.log, List.append_assoc]
  received := h'.received.trans h.received
  wire := h.wire.trans h'.wire
  wired hs := h'.wired (h.wired hs)

/-- A step that sends nothing and takes nothing but bytes into the buffer. -/
theorem grows_took {s t : Conn} (hlog : t.log = s.log)
    (hrecv : t.recvBuf ++ t.queue = s.recvBuf ++ s.queue)
    (hwire : t.wire = s.wire) (hbuf : t.sendBuf = s.sendBuf) (hoff : t.sendOffset = s.sendOffset) :
    Grows s t [] where
  log := by rw [hlog, List.append_nil]
  received := by rw [hlog, hrecv]
  wire := by rw [hwire]
  wired hs := ⟨by rw [hbuf, hoff]; exact hs.offset, by rw [hwire, hbuf, hoff, hlog]; exact hs.wire⟩

theorem haveRequest_grows {s : Conn} {w : Served} {need : Nat} (hf : frame s.recvBuf = .complete need) :
    Grows s (s.haveRequest w need) [] ∨
      Grows s (s.haveRequest w need) [.reply (s.recvBuf.take need) (s.processRequest w).sendBuf] := by
  by_cases hs : s.sendBuf = []
  · right
    have hr := processRequest_replied s w
    obtain ⟨-, -, -, hle⟩ := frame_complete_iff.mp hf
    unfold Conn.haveRequest
    rw [if_neg (by rw [hs]; decide)]
    refine ⟨?_, ?_, ?_, fun hwired => ⟨?_, ?_⟩⟩
    · show (s.processRequest w).log ++ _ = _
      rw [hr.log, hr.recvBuf]
    · show (requests ((s.processRequest w).log ++
          [.reply ((s.processRequest w).recvBuf.take need) _])).flatten ++
        ((s.processRequest w).recvBuf.drop need ++ (s.processRequest w).queue) = _
      rw [hr.log, hr.recvBuf, hr.queue, requests_reply, List.flatten_append, List.flatten_singleton,
        List.append_assoc, ← List.append_assoc (s.recvBuf.take need), List.take_append_drop]
    · show s.wire <+: (s.processRequest w).wire
      rw [hr.wire]
    · show (s.processRequest w).sendOffset ≤ _
      rw [hr.sendOffset]
      exact Nat.zero_le _
    · have hwire := hwired.wire
      rw [hs, List.drop_nil, List.append_nil] at hwire
      show (s.processRequest w).wire ++
          (s.processRequest w).sendBuf.drop (s.processRequest w).sendOffset =
        flat ((s.processRequest w).log ++ _)
      rw [hr.wire, hr.sendOffset, hr.log, List.drop_zero, flat_concat, hwire]
      rfl
  · left
    unfold Conn.haveRequest
    rw [if_pos (List.length_pos_iff.mpr hs)]
    exact grows_refl s

/-- **A read.** It serves the request at the front of the buffer, or none. -/
theorem read_grows (s : Conn) (e : Ready) :
    Grows s (s.handleClientRead e.served e.recv).1 [] ∨
      ∃ request bs, Serves s e request bs ∧ Grows s (s.handleClientRead e.served e.recv).1
      [.reply request bs] := by
  -- what comes behind a `recv` that leaves `recvBuf` and `queue`
  have hserve : ∀ recvBuf queue need, recvBuf ++ queue = s.recvBuf ++ s.queue →
      frame recvBuf = .complete need →
      Grows s (Conn.haveRequest { s with recvBuf, queue } e.served need) [] ∨
      ∃ request bs, Serves s e request bs ∧
        Grows s (Conn.haveRequest { s with recvBuf, queue } e.served need) [.reply request bs] := by
    intro recvBuf queue need hsame hf
    have htook : Grows s { s with recvBuf, queue } [] := grows_took rfl hsame rfl rfl rfl
    obtain ⟨-, -, -, hle⟩ := frame_complete_iff.mp hf
    rcases haveRequest_grows (s := { s with recvBuf, queue }) (w := e.served) hf with h | h
    · exact .inl (htook.trans h)
    · refine .inr ⟨_, _, ⟨recvBuf, queue, hsame, List.take_prefix need recvBuf, ?_, rfl⟩, htook.trans h⟩
      rw [List.length_take, min_eq_left hle]
      exact hf
  unfold Conn.handleClientRead
  split
  · exact .inl (grows_refl s)
  · next need hf => exact hserve s.recvBuf s.queue need rfl hf
  · split
    · exact .inl (grows_refl s)
    · exact .inl (grows_refl s)
    · next bs rest hrecv =>
      have hsame : (s.recvBuf ++ bs) ++ rest = s.recvBuf ++ s.queue := by
        unfold recv at hrecv
        split at hrecv
        · cases hrecv
        · cases hrecv
        · split at hrecv
          · cases hrecv
          split at hrecv
          · cases hrecv
          cases hrecv
          rw [List.append_assoc, List.take_append_drop]
      unfold Conn.haveBytes
      split
      · exact .inl (grows_took rfl hsame rfl rfl rfl)
      · exact .inl (grows_took rfl hsame rfl rfl rfl)
      · next need hf => exact hserve _ _ need hsame hf

/-- The loop sends a part of the message, whether or not it ends in an
error. -/
theorem sendLoop_sent (s : Conn) (sends : List Sent) :
    ∃ bs rest, s.sendBuf.drop s.sendOffset = bs ++ rest ∧ (s.sendLoop sends).1 = s.sent bs := by
  induction sends generalizing s with
  | nil => exact ⟨[], _, rfl, by simp [Conn.sendLoop, Conn.sent]⟩
  | cons r sends ih =>
    by_cases hlt : s.sendOffset < s.sendBuf.length
    · cases r with
      | error => exact ⟨[], _, rfl, by simp [Conn.sendLoop, Conn.sent, hlt]⟩
      | bytes n =>
        let front := (s.sendBuf.drop s.sendOffset).take (max 1 n)
        obtain ⟨bs, rest, hsplit, hloop⟩ := ih (s.sent front)
        have hfront : s.sendBuf.drop s.sendOffset = front ++ (bs ++ rest) := by
          rw [← hsplit]
          show _ = front ++ s.sendBuf.drop (s.sendOffset + front.length)
          rw [← List.drop_drop]
          exact (List.prefix_iff_eq_append.mp (List.take_prefix _ _)).symm
        refine ⟨front ++ bs, rest, by rw [hfront, List.append_assoc], ?_⟩
        rw [← Conn.sent_sent, ← hloop]
        simp only [Conn.sendLoop, if_pos hlt]
        rfl
    · exact ⟨[], _, rfl, by simp [Conn.sendLoop, Conn.sent, hlt]⟩

theorem sent_grows {s : Conn} {bs rest : Bytes} (h : s.sendBuf.drop s.sendOffset = bs ++ rest) :
    Grows s (s.sent bs) [] where
  log := (List.append_nil _).symm
  received := rfl
  wire := List.prefix_append _ _
  wired hs := by
    have hoff := hs.offset
    have hlen : s.sendBuf.length - s.sendOffset = bs.length + rest.length := by
      rw [← List.length_drop, h, List.length_append]
    refine ⟨?_, ?_⟩
    · show s.sendOffset + bs.length ≤ s.sendBuf.length
      omega
    · show (s.wire ++ bs) ++ s.sendBuf.drop (s.sendOffset + bs.length) = flat s.log
      rw [← List.drop_drop, h, List.drop_left, List.append_assoc, ← h]
      exact hs.wire

/-- What only notifications were added to. -/
def Notifies (new : List Message) : Prop :=
  ∀ m ∈ new, ∃ ctx events, m = .notification (notification ctx events)

theorem notifies_nil : Notifies [] := fun _ h => nomatch h

theorem notifies_one (ctx : IpcContext) (events : UInt32) :
    Notifies [.notification (notification ctx events)] :=
  fun _ h => ⟨ctx, events, List.mem_singleton.mp h⟩

theorem flushed_grows {s : Conn} (h : s.sendBuf.length ≤ s.sendOffset) :
    ∃ new, Notifies new ∧ Grows s s.flushed new := by
  have hf := flushed_spec s
  have hwired : ∀ new, s.flushed.sendBuf = flat new → s.flushed.log = s.log ++ new → Wired s →
      Wired s.flushed := by
    intro new hbuf hlog hs
    refine ⟨by rw [hf.sendOffset]; exact Nat.zero_le _, ?_⟩
    have hwire := hs.wire
    rw [List.drop_eq_nil_of_le h, List.append_nil] at hwire
    rw [hf.wire, hf.sendOffset, List.drop_zero, hwire, hbuf, hlog]
    unfold flat
    rw [List.flatMap_append]
  rcases hf.next with ⟨hbuf, hlog⟩ | ⟨-, -, -, hlen, hlog⟩
  · refine ⟨[], notifies_nil,
      ⟨by rw [hlog, List.append_nil], by rw [hlog, hf.recvBuf, hf.queue], by rw [hf.wire],
      hwired [] hbuf (by rw [hlog, List.append_nil])⟩⟩
  · have hnotify : s.flushed.log = s.log ++ [.notification (notification s.ctx s.pendingEvents)] := by
      have hcases := flushed_log s
      split at hcases
      · exact hcases
      · rw [hlog] at hcases
        have := congrArg List.length hcases
        simp at this
    have hbuf : s.flushed.sendBuf = notification s.ctx s.pendingEvents := by
      rw [hlog] at hnotify
      simpa using hnotify
    refine ⟨_, notifies_one s.ctx s.pendingEvents, ⟨hnotify, ?_, by rw [hf.wire], hwired _ ?_ hnotify⟩⟩
    · rw [hlog, requests_notification, hf.recvBuf, hf.queue]
    · rw [hbuf]
      simp [flat, Message.bytes]

/-- **A write.** -/
theorem write_grows (s : Conn) (sends : List Sent) :
    ∃ new, Notifies new ∧ Grows s (s.handleClientWrite sends).1 new := by
  unfold Conn.handleClientWrite
  split
  · exact ⟨[], notifies_nil, grows_refl s⟩
  · obtain ⟨bs, rest, hsplit, hloop⟩ := sendLoop_sent s sends
    have hsent := sent_grows hsplit
    rw [← hloop] at hsent
    simp only
    split
    · exact ⟨[], notifies_nil, hsent⟩
    · split
      · next hend =>
        obtain ⟨new, hnew, hgrows⟩ := flushed_grows hend
        exact ⟨new, hnew, hsent.trans hgrows⟩
      · exact ⟨[], notifies_nil, hsent⟩

theorem notify_grows (s : Conn) (events : UInt32) :
    ∃ new, Notifies new ∧ Grows s (s.notifySubscribers events) new := by
  unfold Conn.notifySubscribers Conn.pushNotify
  split
  · simp only
    split
    · exact ⟨[], notifies_nil, grows_refl s⟩
    · split
      · exact ⟨[], notifies_nil, grows_took rfl rfl rfl rfl rfl⟩
      · next hidle =>
        refine ⟨_, notifies_one s.ctx (events &&& s.eventMask),
          ⟨rfl, ?_, List.prefix_refl _, fun hs => ⟨Nat.zero_le _, ?_⟩⟩⟩
        · show (requests (s.log ++ [.notification _])).flatten ++ _ = _
          rw [requests_notification]
          rfl
        · have hwire := hs.wire
          rw [List.drop_eq_nil_of_le (Nat.le_of_not_lt hidle), List.append_nil] at hwire
          show s.wire ++ (notification s.ctx (events &&& s.eventMask)).drop 0 = flat (s.log ++ [_])
          rw [List.drop_zero, flat_concat, hwire]
          rfl
  · exact ⟨[], notifies_nil, grows_refl s⟩

/-- What a step of the agent adds: at most one reply, to a request that it
serves, and notifications behind it. -/
def Adds (s : Conn) (ev : Event) (new : List Message) : Prop :=
  Notifies new ∨ ∃ e request bs more, ev = .ready e ∧ Serves s e request bs ∧ Notifies more ∧
    new = .reply request bs :: more

/-- **Step.** The agent does something else than get bytes. -/
theorem step_log (s : Conn) (ev : Event) (hev : ∀ bs, ev ≠ .arrive bs) :
    ∃ new, Adds s ev new ∧ Grows s (Ipc.step s ev) new := by
  unfold Ipc.step
  split
  · cases ev with
    | context ctx => exact ⟨[], .inl notifies_nil, grows_took rfl rfl rfl rfl rfl⟩
    | arrive bs => exact absurd rfl (hev bs)
    | notify events =>
      obtain ⟨new, hnew, hgrows⟩ := notify_grows s events
      exact ⟨new, .inl hnew, hgrows⟩
    | ready e =>
      have hread : ∀ t : Conn × Bool,
          t = (if e.epollin then s.handleClientRead e.served e.recv else (s, false)) →
          Grows s t.1 [] ∨ ∃ request bs, Serves s e request bs ∧ Grows s t.1 [.reply request bs] := by
        intro t ht
        split at ht
        · rw [ht]
          exact read_grows s e
        · rw [ht]
          exact .inl (grows_refl s)
      have hwrite : ∀ t u : Conn × Bool,
          u = (if e.epollout then t.1.handleClientWrite e.sends else (t.1, false)) →
          ∃ new, Notifies new ∧ Grows t.1 u.1 new := by
        intro t u hu
        split at hu
        · rw [hu]
          exact write_grows t.1 e.sends
        · rw [hu]
          exact ⟨[], notifies_nil, grows_refl _⟩
      have hclose : ∀ (t : Conn) (b : Bool) new, Grows s t new →
          Grows s (if b then { t with alive := false } else t) new := by
        intro t b new h
        split
        · exact ⟨h.log, h.received, h.wire, fun hs => ⟨(h.wired hs).offset, (h.wired hs).wire⟩⟩
        · exact h
      simp only [Conn.ipcProcess]
      obtain ⟨more, hmore, hgrows'⟩ := hwrite _ _ rfl
      rcases hread _ rfl with hgrows | ⟨request, bs, hserves, hgrows⟩
      · exact ⟨_, .inl hmore, hclose _ _ _ (hgrows.trans hgrows')⟩
      · exact ⟨_, .inr ⟨e, request, bs, more, rfl, hserves, hmore, rfl⟩,
          hclose _ _ _ (hgrows.trans hgrows')⟩
  · exact ⟨[], .inl notifies_nil, grows_refl s⟩

/-- **Step.** Bytes of the client come to a connection that is open. -/
theorem step_arrive (s : Conn) (bs : Bytes) :
    Ipc.step s (.arrive bs) = { s with queue := if s.alive then s.queue ++ bs else s.queue } := by
  unfold Ipc.step
  by_cases halive : s.alive = true
  · rw [if_pos halive, if_pos halive]
  · rw [if_neg halive, if_neg halive]

/-! ## What the two sides know of each other -/

/-- The replies, each behind its request. -/
def replies (log : List Message) : List (Bytes × Bytes) :=
  log.filterMap fun
    | .reply request bs => some (request, bs)
    | .notification _ => none

def notices (log : List Message) : List Bytes :=
  log.filterMap fun
    | .reply .. => none
    | .notification bs => some bs

theorem requests_eq (log : List Message) : requests log = (replies log).map Prod.fst := by
  induction log with
  | nil => rfl
  | cons m log ih =>
    cases m with
    | reply request bs => exact congrArg (request :: ·) ih
    | notification bs => exact ih

theorem flat_eq (log : List Message) : flat log = (log.map Message.bytes).flatten := List.flatMap_def

/-- The client tells replies from notifications. -/
theorem filter_bytes {log : List Message} (h : ∀ m ∈ log, Sound m) :
    (log.map Message.bytes).filter (fun f => !isNotify f) = (replies log).map Prod.snd ∧
      (log.map Message.bytes).filter isNotify = notices log := by
  induction log with
  | nil => exact ⟨rfl, rfl⟩
  | cons m log ih =>
    obtain ⟨hreplies, hnotices⟩ := ih fun m hm => h m (List.mem_cons_of_mem _ hm)
    have hkind := (h m List.mem_cons_self).kind
    cases m with
    | reply request bs =>
      have hkind : isNotify bs = false := hkind
      constructor
      · rw [List.map_cons, List.filter_cons_of_pos (by simpa [Message.bytes] using hkind), hreplies]
        rfl
      · rw [List.map_cons, List.filter_cons_of_neg (by simpa [Message.bytes] using hkind), hnotices]
        rfl
    | notification bs =>
      have hkind : isNotify bs = true := hkind
      constructor
      · rw [List.map_cons, List.filter_cons_of_neg (by simpa [Message.bytes] using hkind), hreplies]
        rfl
      · rw [List.map_cons, List.filter_cons_of_pos (by simpa [Message.bytes] using hkind), hnotices]
        rfl

/-- What the client has read is the first messages of the agent. -/
theorem frames_prefix {log : List Message} {frames : List Bytes} (hlog : ∀ m ∈ log, Sound m)
    (hframes : ∀ f ∈ frames, ipcFrame.Whole f) (h : frames.flatten <+: flat log) :
    frames <+: log.map Message.bytes := by
  rw [flat_eq] at h
  refine Delimited.prefix_of_flatten hframes (fun f hf => ?_) h
  obtain ⟨m, hm, rfl⟩ := List.mem_map.mp hf
  exact (hlog m hm).whole

theorem request_whole (c : Call) : ipcFrame.Whole c.request := by
  have hpay : c.payload.length < 256 ^ 4 := by
    unfold Call.payload
    split <;> simp
  have hlen : framePayloadLen c.request = c.payload.length := by
    unfold framePayloadLen Call.request
    rw [leAt_field _ (by simp), leAt_field _ (by simp), leAt_field _ (by simp)]
    simp only [toLE_length, Nat.reduceSub]
    exact leAt_toLE hpay _
  have hsize := LotaClient.request_length c
  rw [whole_iff, hlen]
  unfold responseSize
  omega

/-- Answers in the order of the replies, to requests in their order. -/
theorem pairs_prefix {α : Type} {f g : α → Bytes} {as : List α} {rs : List (Bytes × Bytes)}
    {rest : List Bytes}
    (hg : as.map g <+: rs.map Prod.snd) (hf : rs.map Prod.fst <+: as.map f ++ rest) :
    as.map (fun a => (f a, g a)) <+: rs := by
  induction as generalizing rs with
  | nil => exact List.nil_prefix
  | cons a as ih =>
    cases rs with
    | nil => exact absurd (List.prefix_nil.mp hg) (by simp)
    | cons r rs =>
      obtain ⟨hga, hg⟩ := List.cons_prefix_cons.mp hg
      obtain ⟨hfa, hf⟩ := List.cons_prefix_cons.mp hf
      rw [List.map_cons, hga, ← hfa]
      exact List.cons_prefix_cons.mpr ⟨rfl, ih hg hf⟩

/-- What the client told a callback of a frame. -/
def toldOf (f : Bytes) : WineHook.LotaStatus × UInt32 := told ((framePayload f).take notifySize)

/-- The client and its connection: what is under way between them, and that
each call has the frame behind the frames of the calls before it. -/
structure Inv (s : Session) : Prop where
  wired : Wired s.agent
  sound : ∀ m ∈ s.agent.log, Sound m
  asked : ∀ r ∈ requests s.agent.log, ipcFrame.Whole r
  down : s.client.frames.flatten ++ (s.client.buf ++ s.down) = s.agent.wire
  frames : ∀ f ∈ s.client.frames, ipcFrame.Whole f
  up : (requests s.agent.log).flatten ++ (s.agent.recvBuf ++ s.agent.queue) <+:
    s.client.sent.flatten ++ s.client.part
  alive : s.agent.alive = true →
    (requests s.agent.log).flatten ++ (s.agent.recvBuf ++ s.agent.queue) =
      s.client.sent.flatten ++ s.client.part
  placed : s.client.Placed
  sent : s.client.sent =
    s.client.answers.map (fun a => a.call.request) ++ s.client.awaited.toList.map Call.request
  answered : s.client.answers.map (fun a => a.frame) = s.client.frames.filter fun f => !isNotify f
  outcome : ∀ a ∈ s.client.answers, a.result = a.call.outcome a.frame
  dispatched : (s.client.dispatched.map Prod.snd).Sublist ((s.client.frames.filter isNotify).map toldOf)

namespace Inv
variable {s : Session}

theorem wire_prefix (h : Inv s) : s.agent.wire <+: flat s.agent.log := ⟨_, h.wired.wire⟩

theorem frames_log (h : Inv s) : s.client.frames <+: s.agent.log.map Message.bytes := by
  refine frames_prefix h.sound h.frames (List.IsPrefix.trans ?_ h.wire_prefix)
  rw [← h.down]
  exact List.prefix_append _ _

theorem answers_log (h : Inv s) :
    s.client.answers.map (fun a => a.frame) <+: (replies s.agent.log).map Prod.snd := by
  rw [h.answered, ← (filter_bytes h.sound).1]
  exact h.frames_log.filter _

/-- The agent has served the first requests of the client. -/
theorem requests_sent (h : Inv s) : requests s.agent.log <+: s.client.sent := by
  have hsent : ∀ r ∈ s.client.sent, ipcFrame.Whole r := by
    rw [h.sent]
    intro r hr
    rcases List.mem_append.mp hr with hr | hr
    · obtain ⟨a, -, rfl⟩ := List.mem_map.mp hr
      exact request_whole _
    · obtain ⟨c, -, rfl⟩ := List.mem_map.mp hr
      exact request_whole c
  have hup : (requests s.agent.log).flatten <+: s.client.sent.flatten ++ s.client.part :=
    (List.prefix_append _ _).trans h.up
  cases hp : s.client.phase with
  | sending c off =>
    have hpart : s.client.part = c.request.take off := by simp [LotaClient.part, hp]
    have hoff := h.placed.off c off hp
    rw [hpart] at hup
    refine Delimited.prefix_of_part h.asked hsent (request_whole c) (List.take_prefix _ _) ?_ hup
    rw [List.length_take]
    omega
  | idle | reading r | waiting wait n | more wait n =>
    have hpart : s.client.part = [] := by simp [LotaClient.part, hp]
    rw [hpart, List.append_nil] at hup
    exact Delimited.prefix_of_flatten h.asked hsent hup

/-- **One request, one reply.** -/
theorem pairs (h : Inv s) :
    s.client.answers.map (fun a => (a.call.request, a.frame)) <+: replies s.agent.log := by
  have hrequests := h.requests_sent
  rw [requests_eq, h.sent] at hrequests
  exact pairs_prefix h.answers_log hrequests

theorem replies_length (h : Inv s) :
    (replies s.agent.log).length ≤ s.client.answers.length + s.client.awaited.toList.length := by
  have hle := h.requests_sent.length_le
  rw [requests_eq, List.length_map, h.sent, List.length_append, List.length_map, List.length_map] at hle
  exact hle

end Inv

/-! ## Steps -/

/-- The client does not give up. -/
def Patient (s : Session) : Action → Prop
  | .client a => s.client.Patient a
  | _ => True

/-- What the agent puts into the send buffer is sound, and it answers whole
requests. -/
theorem Adds.sound {s : Conn} {ev : Event} {new : List Message} (h : Adds s ev new) :
    (∀ m ∈ new, Sound m) ∧ ∀ r ∈ requests new, ipcFrame.Whole r := by
  have hnotify : ∀ {l : List Message}, Notifies l → (∀ m ∈ l, Sound m) ∧ requests l = [] := by
    intro l hl
    constructor
    · intro m hm
      obtain ⟨ctx, events, rfl⟩ := hl m hm
      exact sound_notification ctx events
    · refine List.filterMap_eq_nil_iff.mpr fun m hm => ?_
      obtain ⟨ctx, events, rfl⟩ := hl m hm
      rfl
  rcases h with hnew | ⟨e, request, bs, more, -, ⟨recvBuf, queue, -, hfront, hframe, rfl⟩, hmore, rfl⟩
  · rw [(hnotify hnew).2]
    exact ⟨(hnotify hnew).1, (fun _ h => nomatch h)⟩
  · constructor
    · intro m hm
      rcases List.mem_cons.mp hm with rfl | hm
      · exact sound_reply _ _ _
      · exact (hnotify hmore).1 m hm
    · intro r hr
      have hone : r ∈ request :: requests more := hr
      rw [(hnotify hmore).2, List.mem_singleton] at hone
      rw [hone]
      exact whole_of_frame hfront hframe

theorem step_alive {s : Conn} {ev : Event} (h : (Ipc.step s ev).alive = true) : s.alive = true := by
  by_contra hs
  unfold Ipc.step at h
  rw [if_neg hs] at h
  exact hs h

/-- **Step.** The agent. -/
theorem inv_serve {s : Session} (h : Inv s) {ev : Event} (hev : ∀ bs, ev ≠ .arrive bs) :
    Inv (s.serve ev) := by
  obtain ⟨new, hadds, hgrows⟩ := step_log s.agent ev hev
  obtain ⟨hsound, hasked⟩ := hadds.sound
  have hlog : (s.serve ev).agent.log = s.agent.log ++ new := hgrows.log
  have hrequests : requests (s.agent.log ++ new) = requests s.agent.log ++ requests new :=
    List.filterMap_append
  obtain ⟨sent, hsent⟩ := hgrows.wire
  refine ⟨hgrows.wired h.wired, ?_, ?_, ?_, h.frames, ?_, ?_, h.placed, h.sent, h.answered,
    h.outcome, h.dispatched⟩
  · rw [hlog]
    intro m hm
    exact (List.mem_append.mp hm).elim (h.sound m) (hsound m)
  · rw [hlog, hrequests]
    intro r hr
    exact (List.mem_append.mp hr).elim (h.asked r) (hasked r)
  · show s.client.frames.flatten ++
        (s.client.buf ++ (s.down ++ (Ipc.step s.agent ev).wire.drop s.agent.wire.length)) =
      (Ipc.step s.agent ev).wire
    rw [← hsent, List.drop_left, ← List.append_assoc s.client.buf, ← List.append_assoc, h.down]
  · exact hgrows.received ▸ h.up
  · intro halive
    exact hgrows.received.trans (h.alive (step_alive halive))

/-- What the client reads next is a message of the agent. -/
theorem Inv.magic {s : Session} (h : Inv s) (hlong : responseSize ≤ (s.client.buf ++ s.down).length) :
    frameMagic (s.client.buf ++ s.down) = ipcMagic.toNat := by
  obtain ⟨rest, hrest⟩ := h.frames_log
  have hpre : s.client.frames.flatten ++ (s.client.buf ++ s.down) <+: s.client.frames.flatten ++
      rest.flatten := by
    rw [h.down, ← List.flatten_append, hrest, ← flat_eq]
    exact h.wire_prefix
  have hpre := (List.prefix_append_right_inj _).mp hpre
  cases rest with
  | nil =>
    rw [List.prefix_nil.mp hpre] at hlong
    exact absurd hlong (by decide)
  | cons b rest =>
    have hb : b ∈ s.agent.log.map Message.bytes := by
      rw [← hrest]
      exact List.mem_append_right _ List.mem_cons_self
    obtain ⟨m, hm, rfl⟩ := List.mem_map.mp hb
    have hhead := (whole_iff.mp (h.sound m hm).whole).1
    obtain ⟨more, hmore⟩ := hpre
    rw [← frameMagic_append hlong more, hmore, List.flatten_cons, frameMagic_append hhead]
    exact (h.sound m hm).magic

section
variable {s : Session} {t : LotaClient} {out pipe : Bytes}

/-- Behind an operation of the client. -/
def after (s : Session) (t : LotaClient) (out pipe : Bytes) : Session :=
  { agent := Ipc.step s.agent (.arrive out), client := t, down := pipe }

/-- The parts of the invariant that bytes to the agent do not touch. -/
theorem inv_after (h : Inv s) (hplaced : t.Placed)
    (hdown : t.frames.flatten ++ (t.buf ++ pipe) = s.client.frames.flatten ++ (s.client.buf ++ s.down))
    (hframes : ∀ f ∈ t.frames, ipcFrame.Whole f)
    (hup : t.sent.flatten ++ t.part = s.client.sent.flatten ++ s.client.part ++ out)
    (hsent : t.sent = t.answers.map (fun a => a.call.request) ++ t.awaited.toList.map Call.request)
    (hans : t.answers.map (fun a => a.frame) = t.frames.filter fun f => !isNotify f)
    (hout : ∀ a ∈ t.answers, a.result = a.call.outcome a.frame)
    (hdisp : (t.dispatched.map Prod.snd).Sublist ((t.frames.filter isNotify).map toldOf)) :
    Inv (after s t out pipe) := by
  have hagent := step_arrive s.agent out
  unfold after
  rw [hagent]
  refine ⟨⟨h.wired.offset, h.wired.wire⟩, h.sound, h.asked, hdown.trans h.down, hframes,
    ?_, ?_, hplaced, hsent, hans, hout, hdisp⟩
  · show (requests s.agent.log).flatten ++
        (s.agent.recvBuf ++ (if s.agent.alive then s.agent.queue ++ out else s.agent.queue)) <+: _
    rw [hup]
    split
    · next halive =>
      rw [← List.append_assoc s.agent.recvBuf, ← List.append_assoc, h.alive halive]
    · exact h.up.trans (List.prefix_append _ _)
  · intro halive
    have halive : s.agent.alive = true := halive
    show (requests s.agent.log).flatten ++
        (s.agent.recvBuf ++ (if s.agent.alive then s.agent.queue ++ out else s.agent.queue)) = _
    rw [if_pos halive, hup, ← List.append_assoc s.agent.recvBuf, ← List.append_assoc, h.alive halive]

/-- A response that nobody awaits does not come. -/
theorem Inv.awaits (h : Inv s) {f pipe : Bytes} (hwhole : ipcFrame.Whole f)
    (hread : f ++ pipe = s.client.buf ++ s.down)
    (hf : isNotify f = false) : s.client.awaited ≠ none := by
  intro hnone
  have hpre : s.client.frames ++ [f] <+: s.agent.log.map Message.bytes := by
    refine frames_prefix h.sound ?_ (List.IsPrefix.trans ?_ h.wire_prefix)
    · intro g hg
      rcases List.mem_append.mp hg with hg | hg
      · exact h.frames g hg
      · rw [List.mem_singleton.mp hg]
        exact hwhole
    · rw [← h.down, ← hread, List.flatten_append, List.flatten_singleton, ← List.append_assoc]
      exact List.prefix_append _ _
  have hcount := (hpre.filter fun f => !isNotify f).length_le
  rw [(filter_bytes h.sound).1, List.filter_append, ← h.answered,
    List.filter_cons_of_pos (by simp [hf]),
    List.length_append, List.length_map, List.length_map] at hcount
  have hreplies := h.replies_length
  rw [hnone] at hreplies
  simp only [Option.toList_none, List.filter_nil, List.length_nil,
    List.length_singleton] at hcount hreplies
  omega

theorem inv_took (h : Inv s) (hplaced : t.Placed) {f : Bytes} (htook : s.client.Took t f)
    (hwhole : ipcFrame.Whole f)
    (hread : f ++ pipe = s.client.buf ++ s.down) (hpart : s.client.part = []) :
    Inv (after s t [] pipe) := by
  have hframes : ∀ g ∈ t.frames, ipcFrame.Whole g := by
    rw [htook.frames]
    intro g hg
    rcases List.mem_append.mp hg with hg | hg
    · exact h.frames g hg
    · rw [List.mem_singleton.mp hg]
      exact hwhole
  have hdown : t.frames.flatten ++ (t.buf ++ pipe) = s.client.frames.flatten ++
      (s.client.buf ++ s.down) := by
    rw [htook.frames, htook.buf, List.flatten_append, List.flatten_singleton, List.nil_append,
      List.append_assoc, hread]
  have hup : t.sent.flatten ++ t.part = s.client.sent.flatten ++ s.client.part ++ [] := by
    rw [htook.sent, htook.part, hpart, List.append_nil, List.append_nil]
  have hdisp : (t.dispatched.map Prod.snd).Sublist ((t.frames.filter isNotify).map toldOf) := by
    rw [htook.frames, List.filter_append, List.map_append]
    rcases htook.dispatched with hsame | ⟨hn, cb, hnew⟩
    · rw [hsame]
      exact h.dispatched.trans (List.sublist_append_left _ _)
    · rw [hnew, List.map_append, List.filter_cons_of_pos hn]
      exact h.dispatched.append (List.Sublist.refl _)
  cases hn : isNotify f with
  | true =>
    obtain ⟨hans, hawaited⟩ := htook.notify hn
    refine inv_after h hplaced hdown hframes hup ?_ ?_ ?_ hdisp
    · rw [htook.sent, hans, hawaited]
      exact h.sent
    · rw [hans, htook.frames, List.filter_append, List.filter_cons_of_neg (by simp [hn]),
        List.filter_nil, List.append_nil]
      exact h.answered
    · rw [hans]
      exact h.outcome
  | false =>
    rcases htook.response hn with ⟨hnone, -, -⟩ | ⟨c, hc, hans, hidle⟩
    · exact absurd hnone (h.awaits hwhole hread hn)
    · refine inv_after h hplaced hdown hframes hup ?_ ?_ ?_ hdisp
      · rw [htook.sent, hans, LotaClient.awaited_of_idle hidle, h.sent, hc]
        simp
      · rw [hans, htook.frames, List.filter_append, List.filter_cons_of_pos (by simp [hn]),
          List.map_append, h.answered]
        rfl
      · rw [hans]
        intro a ha
        rcases List.mem_append.mp ha with ha | ha
        · exact h.outcome a ha
        · rw [List.mem_singleton.mp ha]

/-- No frame was completed. -/
theorem inv_unread (h : Inv s) (hplaced : t.Placed) (hframes : t.frames = s.client.frames)
    (hdisp : t.dispatched = s.client.dispatched) (hans : t.answers = s.client.answers)
    (hread : t.buf ++ pipe = s.client.buf ++ s.down)
    (hup : t.sent.flatten ++ t.part = s.client.sent.flatten ++ s.client.part ++ out)
    (hsent : t.sent =
      s.client.answers.map (fun a => a.call.request) ++ t.awaited.toList.map Call.request) :
    Inv (after s t out pipe) := by
  refine inv_after h hplaced ?_ ?_ hup ?_ ?_ ?_ ?_
  · rw [hframes, hread]
  · rw [hframes]
    exact h.frames
  · rw [hans]
    exact hsent
  · rw [hans, hframes]
    exact h.answered
  · rw [hans]
    exact h.outcome
  · rw [hdisp, hframes]
    exact h.dispatched

/-- **Step.** The client. -/
theorem inv_does (h : Inv s) (hplaced : t.Placed) (hd : s.client.Does s.down t out pipe) :
    Inv (after s t out pipe) := by
  cases hd with
  | quiet same part awaited =>
    refine inv_unread h hplaced same.frames same.dispatched same.answers ?_ ?_ ?_
    · rw [same.buf]
    · rw [same.sent, part, List.append_nil]
    · rw [same.sent, awaited]
      exact h.sent
  | sends same part awaited =>
    refine inv_unread h hplaced same.frames same.dispatched same.answers ?_ ?_ ?_
    · rw [same.buf]
    · rw [same.sent, part, List.append_assoc]
    · rw [same.sent, awaited.2, ← awaited.1]
      exact h.sent
  | sent same request sent part awaited =>
    refine inv_unread h hplaced same.frames same.dispatched same.answers ?_ ?_ ?_
    · rw [show t.buf = s.client.buf from same.buf]
    · rw [sent, part, List.flatten_append, List.flatten_singleton, ← request, List.append_nil,
        List.append_assoc]
    · rw [sent, awaited.2, h.sent, awaited.1]
      simp
  | reads same read part awaited =>
    have hsent : t.sent = s.client.sent := same.sent
    refine inv_unread h hplaced same.frames same.dispatched same.answers read ?_ ?_
    · rw [hsent, part, List.append_nil]
    · rw [hsent, awaited]
      exact h.sent
  | frame f took whole read part => exact inv_took h hplaced took whole read part
  | garbled long magic => exact absurd (h.magic long) magic

end

/-- **Step.** -/
theorem inv_act {s : Session} (h : Inv s) {a : Action} (ha : Patient s a) : Inv (act s a) := by
  cases a with
  | context ctx => exact inv_serve h (fun _ => nofun)
  | notify events => exact inv_serve h (fun _ => nofun)
  | ready e => exact inv_serve h (fun _ => nofun)
  | client a =>
    exact inv_does h (LotaClient.step_placed h.placed a s.down)
      (LotaClient.step_does h.placed ha s.down)

theorem inv_connected (ctx : IpcContext) (uid pid : UInt32) (ticks : UInt64) :
    Inv (connected ctx uid pid ticks) where
  wired := ⟨Nat.le_refl _, rfl⟩
  sound := (fun _ h => nomatch h)
  asked := (fun _ h => nomatch h)
  down := rfl
  frames := (fun _ h => nomatch h)
  up := List.prefix_refl _
  alive := fun _ => rfl
  placed := LotaClient.placed_of_nil rfl nofun
  sent := rfl
  answered := rfl
  outcome := (fun _ h => nomatch h)
  dispatched := List.Sublist.refl _

/-- **Run.** -/
theorem run_inv {s : Session} (h : Inv s) {as : List Action} (hp : session.AllSteps Patient s as) :
    Inv (session.run s as) :=
  Machine.run_inv (J := Inv) (fun _ _ h ha => inv_act h ha) h hp

/-! ## Calls and their moments -/

/-- The call came back with `f` as the `i`th that did. It was made when the one
before it had returned; behind it the agent served its request at the step `e`
with the reply `f`, and behind that it returned. -/
def Linear (s₀ : Session) (as : List Action) (i : Nat) (c : Call) (f : Bytes) : Prop :=
  ∃ pre m₁ e m₂ post, as = pre ++ .client (.call c) :: (m₁ ++ .ready e :: (m₂ ++ post)) ∧
    (session.run s₀ pre).client.phase = .idle ∧ (session.run s₀ pre).client.answers.length = i ∧
    Serves (session.run s₀ (pre ++ .client (.call c) :: m₁)).agent e c.request f ∧
    (session.run s₀ (pre ++ .client (.call c) :: (m₁ ++ .ready e :: m₂))).client.answers.length = i + 1

/-- The call is under way, and if the agent has replied to it, it did so behind
the call. -/
def Under (s₀ : Session) (as : List Action) (c : Call) : Prop :=
  ∃ pre mid, as = pre ++ .client (.call c) :: mid ∧ (session.run s₀ pre).client.phase = .idle ∧
    (session.run s₀ pre).client.answers.length = (session.run s₀ as).client.answers.length ∧
    ∀ f, (replies (session.run s₀ as).agent.log)[(session.run s₀ as).client.answers.length]? =
        some (c.request, f) →
      ∃ m₁ e m₂, mid = m₁ ++ .ready e :: m₂ ∧
        Serves (session.run s₀ (pre ++ .client (.call c) :: m₁)).agent e c.request f

structure Tracked (s₀ : Session) (as : List Action) : Prop where
  done : ∀ i a, (session.run s₀ as).client.answers[i]? = some a → Linear s₀ as i a.call a.frame
  under : ∀ c, (session.run s₀ as).client.calling = some c → Under s₀ as c

theorem run_snoc (s₀ : Session) (as : List Action) (a : Action) :
    session.run s₀ (as ++ [a]) = act (session.run s₀ as) a :=
  Machine.run_append session s₀ as [a]

theorem Linear.snoc {s₀ : Session} {as : List Action} {i : Nat} {c : Call} {f : Bytes}
    (h : Linear s₀ as i c f)
    (a : Action) : Linear s₀ (as ++ [a]) i c f := by
  obtain ⟨pre, m₁, e, m₂, post, rfl, hidle, hpre, hserves, hpost⟩ := h
  exact ⟨pre, m₁, e, m₂, post ++ [a], by simp, hidle, hpre, hserves, hpost⟩

theorem replies_append (log new : List Message) : replies (log ++ new) = replies log ++ replies new :=
  List.filterMap_append

theorem replies_notifies {new : List Message} (h : Notifies new) : replies new = [] := by
  refine List.filterMap_eq_nil_iff.mpr fun m hm => ?_
  obtain ⟨ctx, events, rfl⟩ := h m hm
  rfl

/-- **Step.** The agent does something. -/
theorem Tracked.serve {s₀ : Session} {as : List Action} (h : Tracked s₀ as) {a : Action} {ev : Event}
    (ha : act (session.run s₀ as) a = (session.run s₀ as).serve ev) (hev : ∀ bs, ev ≠ .arrive bs)
    (hready : ∀ e, ev = .ready e → a = .ready e) : Tracked s₀ (as ++ [a]) := by
  have hclient : (session.run s₀ (as ++ [a])).client = (session.run s₀ as).client := by
    rw [run_snoc, ha]
    rfl
  refine ⟨fun i x hx => ?_, fun c hc => ?_⟩
  · rw [hclient] at hx
    exact (h.done i x hx).snoc a
  · rw [hclient] at hc
    obtain ⟨pre, mid, has, hidle, hpre, hserved⟩ := h.under c hc
    refine ⟨pre, mid ++ [a], by rw [has]; simp, hidle, by rw [hclient]; exact hpre, fun f hf => ?_⟩
    obtain ⟨new, hadds, hgrows⟩ := step_log (session.run s₀ as).agent ev hev
    have hlog : (session.run s₀ (as ++ [a])).agent.log = (session.run s₀ as).agent.log ++ new := by
      rw [run_snoc, ha]
      exact hgrows.log
    rw [hclient, hlog, replies_append] at hf
    by_cases hold : (session.run s₀ as).client.answers.length <
      (replies (session.run s₀ as).agent.log).length
    · rw [List.getElem?_append_left hold] at hf
      obtain ⟨m₁, e, m₂, hmid, hserves⟩ := hserved f hf
      exact ⟨m₁, e, m₂ ++ [a], by rw [hmid]; simp, hserves⟩
    · -- the reply is the one that this step makes
      rw [List.getElem?_append_right (Nat.not_lt.mp hold)] at hf
      rcases hadds with hnew | ⟨e, request, bs, more, he, hserves, hmore, rfl⟩
      · rw [replies_notifies hnew] at hf
        cases hf
      · have hone : replies (.reply request bs :: more) = [(request, bs)] := by
          show (request, bs) :: replies more = _
          rw [replies_notifies hmore]
        rw [hone] at hf
        obtain ⟨hlt, hpair⟩ := List.getElem?_eq_some_iff.mp hf
        rw [List.getElem_singleton] at hpair
        cases hpair
        refine ⟨mid, e, [], by rw [hready e he], ?_⟩
        rw [← has]
        exact hserves

/-- What a step of the client returns: nothing with a response, or the call
that is under way. -/
theorem Inv.returns {s : Session} {t : LotaClient} {out pipe : Bytes} (h : Inv s)
    (hd : s.client.Does s.down t out pipe) :
    t.answers = s.client.answers ∨ ∃ c f, s.client.awaited = some c ∧
      t.answers = s.client.answers ++ [⟨c, f, c.outcome f⟩] ∧ t.phase = .idle := by
  cases hd with
  | quiet same => exact .inl same.answers
  | sends same => exact .inl same.answers
  | sent same => exact .inl same.answers
  | reads same => exact .inl same.answers
  | frame f took =>
    cases hn : isNotify f with
    | true => exact .inl (took.notify hn).1
    | false =>
      rcases took.response hn with ⟨-, hsame, -⟩ | ⟨c, hc, hans, hidle⟩
      · exact .inl hsame
      · exact .inr ⟨c, f, hc, hans, hidle⟩
  | garbled long magic => exact absurd (h.magic long) magic

/-- The call returns with the reply that the agent made behind it. -/
theorem Under.linear {s₀ : Session} {as : List Action} {a : Action} {c : Call} {f : Bytes}
    (h : Under s₀ as c)
    (hreply : (replies (session.run s₀ as).agent.log)[(session.run s₀ as).client.answers.length]? =
      some (c.request, f))
    (hret : (session.run s₀ (as ++ [a])).client.answers.length =
      (session.run s₀ as).client.answers.length + 1) :
    Linear s₀ (as ++ [a]) (session.run s₀ as).client.answers.length c f := by
  obtain ⟨pre, mid, has, hidle, hpre, hserved⟩ := h
  obtain ⟨m₁, e, m₂, hmid, hserves⟩ := hserved f hreply
  have hsplit : as ++ [a] = pre ++ .client (.call c) :: (m₁ ++ .ready e :: (m₂ ++ [a])) := by
    rw [has, hmid]
    simp
  refine ⟨pre, m₁, e, m₂ ++ [a], [], by rw [hsplit, List.append_nil], hidle, hpre, hserves, ?_⟩
  rw [← hsplit]
  exact hret

/-- **Step.** The client does something. -/
theorem Tracked.client {s₀ : Session} {as : List Action} (h : Tracked s₀ as)
    (hinv : Inv (session.run s₀ as))
    {a : Act} (ha : (session.run s₀ as).client.Patient a) : Tracked s₀ (as ++ [.client a]) := by
  have hrun := run_snoc s₀ as (.client a)
  have hdoes := LotaClient.step_does hinv.placed ha (session.run s₀ as).down
  have hinv' : Inv (session.run s₀ (as ++ [.client a])) := by
    rw [hrun]
    exact inv_act hinv ha
  have hclient : (session.run s₀ (as ++ [.client a])).client =
      ((session.run s₀ as).client.step a (session.run s₀ as).down).1 := by
    rw [hrun]
    rfl
  have hlog : (session.run s₀ (as ++ [.client a])).agent.log = (session.run s₀ as).agent.log := by
    rw [hrun]
    show (Ipc.step (session.run s₀ as).agent (.arrive _)).log = _
    rw [step_arrive]
  rcases hinv.returns hdoes with hsame | ⟨c, f, hc, hnew, hidle⟩
  · rw [← hclient] at hsame
    refine ⟨fun i x hx => ?_, fun c hc => ?_⟩
    · rw [hsame] at hx
      exact (h.done i x hx).snoc _
    · rw [hclient] at hc
      rcases LotaClient.step_calling hc with hold | ⟨hidle, rfl⟩
      · obtain ⟨pre, mid, has, hidle, hpre, hserved⟩ := h.under c hold
        refine ⟨pre, mid ++ [.client a],
          by rw [has]; simp, hidle, by rw [hsame]; exact hpre, fun f hf => ?_⟩
        rw [hlog, hsame] at hf
        obtain ⟨m₁, e, m₂, hmid, hserves⟩ := hserved f hf
        exact ⟨m₁, e, m₂ ++ [.client a], by rw [hmid]; simp, hserves⟩
      · -- the call is made by this step, and no reply is left over for it
        refine ⟨as, [], rfl, hidle, by rw [hsame], fun f hf => ?_⟩
        rw [hlog, hsame] at hf
        have hcount := hinv.replies_length
        rw [LotaClient.awaited_of_idle hidle] at hcount
        obtain ⟨hlt, -⟩ := List.getElem?_eq_some_iff.mp hf
        exact absurd hcount (Nat.not_le.mpr hlt)
  · rw [← hclient] at hnew hidle
    refine ⟨fun i x hx => ?_, fun c' hc' => ?_⟩
    · rw [hnew] at hx
      by_cases hi : i < (session.run s₀ as).client.answers.length
      · rw [List.getElem?_append_left hi] at hx
        exact (h.done i x hx).snoc _
      · obtain ⟨hlt, hlast⟩ := List.getElem?_eq_some_iff.mp hx
        rw [List.length_append, List.length_singleton] at hlt
        obtain rfl : i = (session.run s₀ as).client.answers.length := by omega
        rw [List.getElem_concat_length rfl] at hlast
        cases hlast
        refine (h.under c (LotaClient.calling_of_awaited hc)).linear ?_ (by rw [hnew]; simp)
        have hpairs := hinv'.pairs
        rw [hlog, hnew, List.map_append] at hpairs
        obtain ⟨rest, hrest⟩ := hpairs
        rw [← hrest]
        simp
    · simp [LotaClient.calling, hidle] at hc'

theorem tracked_run {s₀ : Session} (h₀ : Inv s₀) (hanswers : s₀.client.answers = [])
    (hcalling : s₀.client.calling = none)
    {as : List Action} (hp : session.AllSteps Patient s₀ as) : Tracked s₀ as := by
  induction as using List.reverseRecOn with
  | nil =>
    refine ⟨fun i x hx => ?_, fun c hc => ?_⟩
    · rw [show (session.run s₀ []).client.answers = [] from hanswers] at hx
      cases hx
    · exact absurd (hcalling.symm.trans hc) (by simp)
  | append_singleton as a ih =>
    obtain ⟨hbefore, hlast, -⟩ := Machine.allSteps_append.mp hp
    have hinv := run_inv h₀ hbefore
    cases a with
    | context ctx => exact (ih hbefore).serve rfl (fun _ => nofun) nofun
    | notify events => exact (ih hbefore).serve rfl (fun _ => nofun) nofun
    | ready e =>
      refine (ih hbefore).serve rfl (fun _ => nofun) fun _ he => ?_
      cases he
      rfl
    | client a => exact (ih hbefore).client hinv hlast

/-! ## What the answers say -/

def statusOf (ctx : IpcContext) : WineHook.LotaStatus :=
  ⟨ctx.statusFlags, ctx.lastAttestTime, ctx.validUntil, ctx.attestCount, ctx.failCount⟩

/-- The agent finds the call at the front of its buffer. -/
structure Reaches (buf : Bytes) (c : Call) : Prop where
  magic : leAt buf 0 4 = ipcMagic.toNat
  version : leAt buf 4 4 = ipcVersion
  cmd : leAt buf 8 4 = c.cmd
  payloadLen : leAt buf 12 4 = c.payload.length
  payload : (buf.drop ipcRequestSize).take c.payload.length = c.payload
  valid : validateRequestPayloadLen c.cmd c.payload.length = true

theorem reaches_extend {buf : Bytes} {c : Call} (h : c.request <+: buf) : Reaches buf c := by
  obtain ⟨rest, rfl⟩ := h
  have hpay : c.payload.length < 256 ^ 4 := by
    unfold Call.payload
    split <;> simp
  have hcmd : c.cmd < 256 ^ 4 := by
    unfold Call.cmd
    split <;> decide
  have hvalid : validateRequestPayloadLen c.cmd c.payload.length = true := by
    unfold Call.cmd Call.payload
    cases c with
    | getToken nonce => cases nonce <;> simp [validateRequestPayloadLen]
    | ping | getStatus | protectSelf pid | subscribe mask cb => simp [validateRequestPayloadLen]
  unfold Call.request
  simp only [List.append_assoc]
  refine ⟨leAt_toLE (by decide) _, ?_, ?_, ?_, ?_, hvalid⟩
  · rw [leAt_field _ (by simp)]
    simp only [toLE_length, Nat.sub_self]
    exact leAt_toLE (by decide) _
  · rw [leAt_field _ (by simp), leAt_field _ (by simp)]
    simp only [toLE_length, Nat.reduceSub]
    exact leAt_toLE hcmd _
  · rw [leAt_field _ (by simp), leAt_field _ (by simp), leAt_field _ (by simp)]
    simp only [toLE_length, Nat.reduceSub]
    exact leAt_toLE hpay _
  · unfold ipcRequestSize
    rw [drop_field _ (by simp), drop_field _ (by simp), drop_field _ (by simp), drop_field _ (by simp)]
    simp

/-- The outcome of a response of the agent that fits. -/
theorem outcome_response {c : Call} {result : Nat} {payload : Bytes} (hr : result < 256)
    (hp : payload.length ≤ ipcMaxPayload) (hfit : payload.length ≤ c.payloadSize) :
    c.outcome (response result payload) = c.read
    (.response ipcMagic (UInt32.ofNat result) payload) := by
  have hreads := response_reads hr hp
  unfold Call.outcome
  rw [hreads.magic, hreads.result, hreads.payloadLen, hreads.payload, UInt32.ofNat_toNat,
    if_neg (Nat.not_lt.mpr hfit)]

/-- A valid request is dispatched by its command. -/
theorem processRequest_call {s : Conn} {c : Call} (h : Reaches s.recvBuf c) (w : Served) :
    s.processRequest w = match c with
      | .ping => s.handlePing w
      | .getStatus => s.handleGetStatus
      | .getToken _ => s.handleGetToken w c.payload
      | .subscribe .. => s.handleSubscribe w c.payload
      | .protectSelf _ => s.handleProtectPidUpdate w c.payload true := by
  unfold Conn.processRequest
  simp only [h.magic, h.version, h.cmd, h.payloadLen, h.payload, h.valid]
  cases c <;> simp [Call.cmd]

/-- **Status.** The answer is the status that the agent has at that moment. -/
theorem serves_status {s : Conn} {e : Ready} {f : Bytes} (h : Serves s e (Call.request .getStatus) f) :
    Call.outcome .getStatus f = .ok (.status (statusOf s.ctx)) := by
  obtain ⟨recvBuf, queue, -, hfront, -, rfl⟩ := h
  rw [processRequest_call (reaches_extend hfront)]
  show Call.outcome .getStatus
      (response 0 (toLE 4 s.ctx.statusFlags.toNat ++ (toLE 4 0 ++ statusTail s.ctx))) = _
  have hlen : (toLE 4 s.ctx.statusFlags.toNat ++ (toLE 4 0 ++ statusTail s.ctx)).length = 36 := by
    simp [statusTail]
  rw [outcome_response (by decide) (by rw [hlen]; decide) (by rw [hlen]; decide)]
  simp only [Call.read, WineHook.readStatus, recvResponse, hlen, ipcStatusSize]
  simp [statusTail, leAt_field, ofNat_leAt_32, ofNat_leAt_64, statusOf, Except.map]

theorem replyPayload_nonce (token : IpcToken) :
    blobAt 32 (replyPayload token) 12 = token.clientNonce := by
  unfold replyPayload
  simp only [List.append_assoc]
  rw [blobAt_field _ (by simp), blobAt_field _ (by simp)]
  simp only [toLE_length, Nat.reduceSub]
  exact blobAt_toList _ _

/-- **Token.** It carries the nonce of the call. -/
theorem serves_token {s : Conn} {e : Ready} {f : Bytes} {nonce : Option L1.Report.Hash} {t : LotaToken}
    (h : Serves s e (Call.request (.getToken nonce)) f)
    (ht : Call.outcome (.getToken nonce) f = .ok (.token t)) :
    t.nonce = nonce.getD (List.Vector.replicate 32 0) := by
  obtain ⟨recvBuf, queue, -, hfront, -, rfl⟩ := h
  obtain ⟨hlong, hnonce⟩ := outcome_token ht
  rw [processRequest_call (reaches_extend hfront)] at hlong hnonce
  simp only [Conn.handleGetToken] at hlong hnonce
  split at hnonce
  · next token htoken =>
    obtain ⟨-, -, hissue⟩ := handleGetToken_ok htoken
    obtain ⟨quote, hi⟩ := issue_ok hissue
    have hpayload : framePayload (response 0 (replyPayload token)) = replyPayload token :=
      (response_reads (by decide) (replyPayload_fits htoken)).payload
    have hnonce : t.nonce = blobAt 32 (framePayload (response 0 (replyPayload token))) 12 := hnonce
    rw [hnonce, hpayload, replyPayload_nonce, hi.nonce]
    congr 1
    cases nonce with
    | none => rfl
    | some n =>
      show (if n.toList.length ≥ 32 then some (toBlob 32 n.toList) else none) = some n
      rw [if_pos (by rw [n.toList_length]), toBlob_toList]
  · next err herr =>
    rw [herr] at hlong
    exact absurd hlong
      (by simp [Conn.buildErrorResponse, Conn.buildResponse, framePayload, response, responseSize,
        ipcTokenHeaderSize])

/-! ## Every run -/

/-- **Answers are current.** The status that a call returns is the one the agent
had at a moment behind the call and before its return, and the token that a
call returns has the nonce of this call. -/
theorem answers_current (ctx : IpcContext) (uid pid : UInt32) (ticks : UInt64) {as : List Action}
    (hp : session.AllSteps Patient (connected ctx uid pid ticks) as) {i : Nat} {a : LotaClient.Answer}
    (ha : (session.run (connected ctx uid pid ticks) as).client.answers[i]? = some a) :
    (a.call = .getStatus → ∃ pre m₁ m₂ post,
      as = pre ++ .client (.call .getStatus) :: (m₁ ++ (m₂ ++ post)) ∧
      (session.run (connected ctx uid pid ticks) pre).client.answers.length = i ∧
      (session.run (connected ctx uid pid ticks)
        (pre ++ .client (.call .getStatus) :: (m₁ ++ m₂))).client.answers.length = i + 1 ∧
      a.result = .ok (.status (statusOf (session.run (connected ctx uid pid ticks)
        (pre ++ .client (.call .getStatus) :: m₁)).agent.ctx))) ∧
    ∀ nonce t, a.call = .getToken nonce → a.result = .ok (.token t) →
      t.nonce = nonce.getD (List.Vector.replicate 32 0) := by
  have hinv := run_inv (inv_connected ctx uid pid ticks) hp
  obtain ⟨pre, m₁, e, m₂, post, has, -, hpre, hserves, hret⟩ :=
    (tracked_run (inv_connected ctx uid pid ticks) rfl rfl hp).done i a ha
  have hresult := hinv.outcome a (List.mem_of_getElem? ha)
  refine ⟨fun hcall => ?_, fun nonce t hcall ht => ?_⟩
  · rw [hcall] at has hserves hret hresult
    exact ⟨pre, m₁, .ready e :: m₂, post, has, hpre, hret, hresult.trans (serves_status hserves)⟩
  · rw [hcall] at hserves hresult
    exact serves_token hserves (hresult.symm.trans ht)

/-- **Calls are linearizable.** While the client is patient, the requests that
went out are those of the calls that returned with a response and of the one
that awaits its own; the agent has served the first of them, once each and in
their order, and each call has the reply to its own request; the callbacks were
told of notifications of the agent, in their order and none twice. A call that
returned with a response was served at one moment behind the call and before
its return, and it returned what the reply says. -/
theorem calls_linearizable (ctx : IpcContext) (uid pid : UInt32) (ticks : UInt64) {as : List Action}
    (hp : session.AllSteps Patient (connected ctx uid pid ticks) as) :
    let s := session.run (connected ctx uid pid ticks) as
    s.client.sent =
        s.client.answers.map (fun a => a.call.request) ++ s.client.awaited.toList.map Call.request ∧
      (replies s.agent.log).map Prod.fst <+: s.client.sent ∧
      s.client.answers.map (fun a => (a.call.request, a.frame)) <+: replies s.agent.log ∧
      (s.client.dispatched.map Prod.snd).Sublist ((notices s.agent.log).map toldOf) ∧
      ∀ i a, s.client.answers[i]? = some a →
        a.result = a.call.outcome a.frame ∧
        Linear (connected ctx uid pid ticks) as i a.call a.frame := by
  have hinv := run_inv (inv_connected ctx uid pid ticks) hp
  have htracked := tracked_run (inv_connected ctx uid pid ticks) rfl rfl hp
  refine ⟨hinv.sent, ?_, hinv.pairs, ?_, fun i a ha => ⟨?_, htracked.done i a ha⟩⟩
  · rw [← requests_eq]
    exact hinv.requests_sent
  · refine hinv.dispatched.trans (List.Sublist.map _ ?_)
    rw [← (filter_bytes hinv.sound).2]
    exact (hinv.frames_log.filter _).sublist
  · exact hinv.outcome a (List.mem_of_getElem? ha)

/-! ## Two runs -/

/-- The agent receives up to `n` bytes, sends up to `n` bytes; the client sends
or receives up to `n` bytes. -/
def takes (n : Nat) : Action := .ready ⟨true, false, false, pingServed, .bytes n, []⟩
def gives (n : Nat) : Action := .ready ⟨false, true, false, pingServed, .bytes 1, [.bytes n]⟩
def moves (n : Nat) : Action := .client (.io (.bytes n))
def fails (f : Fault) : Action := .client (.io (.fault f))

/-- A game of a user that has a process protected. -/
def game : Session := connected pingContext 1000 100 7

/-- A ping that is never sent, a poll without events, and a status that goes in
pieces both ways. -/
def statusRun : List Action :=
  [.client (.call .ping), fails .timeout, .client (.poll .timed), fails .timeout,
    .client (.call .getStatus), moves 7, takes 20, moves 20, takes 20, gives 30, moves 10,
    moves 10, gives 30, moves 10, moves 30]

theorem calls_linearizable_status :
    (session.run game statusRun).client.answers.map (fun a => a.result) =
        [.ok (.status (statusOf pingContext))] ∧
      ∃ a, (session.run game statusRun).client.answers[0]? = some a ∧
        Linear game statusRun 0 a.call a.frame := by
  have hp : session.AllSteps Patient game statusRun :=
    ⟨trivial, rfl, trivial, trivial, trivial, trivial, trivial, trivial, trivial, trivial,
      trivial, trivial, trivial, trivial, trivial, trivial⟩
  refine ⟨rfl, _, rfl, ?_⟩
  exact ((calls_linearizable pingContext 1000 100 7 hp).2.2.2.2 0 _ rfl).2

/-- The ping gives up before its response is there. -/
def staleRun : List Action :=
  [.client (.call .ping), moves 20, fails .timeout, .client (.call .getStatus), moves 20,
    takes 40, gives 40, moves 16, moves 20]

/-- **A response too late.** Behind a ping that timed out, `lota_get_status`
takes the response to the ping for its own: it returns `LOTA_OK` and a status
of zeroes, while the agent is attested and has not seen its request. -/
theorem stale_status :
    ∃ a, (session.run game staleRun).client.answers = [a] ∧ a.call = .getStatus ∧
      a.result = .ok (.status .zero) ∧ (session.run game staleRun).agent.ctx.statusFlags =
      statusAttested ∧ requests (session.run game staleRun).agent.log = [Call.request .ping] :=
  ⟨_, rfl, rfl, rfl, rfl, rfl⟩

end Lota.L6.Sdk

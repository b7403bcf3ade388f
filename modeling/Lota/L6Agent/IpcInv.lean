import Lota.Core.Stream
import Lota.L6Agent.IpcConn

/-!
# What a connection keeps (`agent/ipc.c`)

A read receives and then serves, a write sends and then looks for the next
message. Between them nothing is lost: what has come from the client is what
was answered, what is in the receive buffer and what is in the socket; what
was put into the send buffer is what was sent and what is still to be sent.

* `handleClientRead_eq`, `handleClientWrite_cases`: the two halves.
* `processRequest_replied`: every request gets a reply.
* `inv_step`: requests are answered in order and once, and a message that is
  being sent has `EPOLLOUT` armed, as long as no notification is pushed to an
  idle connection.
-/
namespace Lota.L6.Ipc
open Lota.Core Lota.L4.Token Lota.L6.GetToken

/-! ## Frames -/

theorem frame_complete_iff {buf : Bytes} {need : Nat} :
    frame buf = .complete need ↔ ipcRequestSize ≤ buf.length ∧ leAt buf 12 4 ≤ ipcMaxPayload ∧
      need = ipcRequestSize + leAt buf 12 4 ∧ need ≤ buf.length := by
  unfold frame
  simp only
  split
  · simp
    omega
  · split
    · simp
      omega
    · split
      · simp
        omega
      · simp
        omega

/-- What is behind a complete request does not matter. -/
theorem frame_append {buf : Bytes} {need : Nat} (h : frame buf = .complete need) (c : Bytes) :
    frame (buf ++ c) = .complete need := by
  obtain ⟨hsize, hmax, rfl, hle⟩ := frame_complete_iff.mp h
  have hlen : leAt (buf ++ c) 12 4 = leAt buf 12 4 :=
    leAt_append (by unfold ipcRequestSize at hsize; omega) c
  rw [frame_complete_iff, hlen, List.length_append]
  omega

/-- A proper front part of a request is incomplete. -/
theorem frame_front {b c : Bytes} (h : frame (b ++ c) = .complete (b ++ c).length) (hc : c ≠ []) :
    frame b = .incomplete := by
  obtain ⟨hsize, hmax, hneed, -⟩ := frame_complete_iff.mp h
  have hpos := List.length_pos_iff.mpr hc
  rw [List.length_append] at hneed
  unfold frame
  simp only
  split
  · rfl
  · have hlen : leAt (b ++ c) 12 4 = leAt b 12 4 := leAt_append (by unfold ipcRequestSize at *; omega) c
    rw [hlen] at hmax hneed
    rw [if_neg (by omega), if_neg (by omega)]

section
variable {req : Nat → Bytes} (hreq : ∀ i, frame (req i) = .complete (req i).length)
include hreq

/-- A buffer has the first request of a stream, or it has nothing complete. -/
theorem stream_cases {b : Bytes} (h : Stream req b) :
    (req 0 <+: b ∧ frame b = .complete (req 0).length) ∨
    (b.length < (req 0).length ∧ frame b = .incomplete) := by
  rcases stream_head h with ⟨c, rfl⟩ | ⟨c, hnil, hc⟩
  · exact .inl ⟨List.prefix_append _ _, frame_append (hreq 0) c⟩
  · have hpos := List.length_pos_iff.mpr hnil
    have hfront := hreq 0
    rw [← hc] at hfront ⊢
    exact .inr ⟨by rw [List.length_append]; omega, frame_front hfront hnil⟩

end

/-! ## A read receives, then serves -/

@[simp] theorem requests_reply (log : List Message) (r bs : Bytes) :
    requests (log ++ [.reply r bs]) = requests log ++ [r] := by
  simp [requests]

@[simp] theorem requests_notification (log : List Message) (bs : Bytes) :
    requests (log ++ [.notification bs]) = requests log := by
  simp [requests]

@[simp] theorem flat_concat (log : List Message) (m : Message) :
    flat (log ++ [m]) = flat log ++ m.bytes := by
  simp [flat]

theorem response_length (result : Nat) (payload : Bytes) :
    (response result payload).length = 16 + payload.length := by
  simp [response]
  omega

theorem response_ne_nil (result : Nat) (payload : Bytes) : response result payload ≠ [] := by
  apply List.ne_nil_of_length_pos
  rw [response_length]
  omega

namespace Conn

/-- How many bytes a read asks for and gets, as far as the socket has them. -/
def asked (s : Conn) (n : Nat) : Nat :=
  if frame s.recvBuf = .incomplete then min (max 1 n) (recvBufSize - s.recvBuf.length) else 0

def receive (s : Conn) (n : Nat) : Conn :=
  { s with recvBuf := s.recvBuf ++ s.queue.take (s.asked n), queue := s.queue.drop (s.asked n) }

def serve (s : Conn) (w : Served) : Conn :=
  match frame s.recvBuf with
  | .complete need => s.haveRequest w need
  | _ => s

theorem receive_of_complete {s : Conn} {need : Nat} (h : frame s.recvBuf = .complete need) (n : Nat) :
    s.receive n = s := by
  simp [receive, asked, h]

theorem receive_of_empty {s : Conn} (h : s.queue = []) (n : Nat) : s.receive n = s := by
  unfold receive
  rw [h, List.take_nil, List.drop_nil, List.append_nil, ← h]

theorem handleClientRead_eq {s : Conn} {n : Nat} (h : frame s.recvBuf ≠ .oversized)
    (h' : frame (s.receive n).recvBuf ≠ .oversized)
    (hroom : frame s.recvBuf = .incomplete → s.recvBuf.length < recvBufSize) (w : Served) :
    s.handleClientRead w (.bytes n) = ((s.receive n).serve w, false) := by
  cases hf : frame s.recvBuf with
  | oversized => exact absurd hf h
  | complete need =>
    rw [receive_of_complete hf]
    simp only [handleClientRead, serve, hf]
  | incomplete =>
    have hspace : recvBufSize - s.recvBuf.length ≠ 0 := by
      have := hroom hf
      omega
    by_cases hq : s.queue = []
    · rw [receive_of_empty hq]
      simp only [handleClientRead, serve, hf, recv, if_neg hspace, if_pos hq]
    · have hasked : s.asked n = min (max 1 n) (recvBufSize - s.recvBuf.length) := if_pos hf
      simp only [handleClientRead, hf, recv, if_neg hspace, if_neg hq, ← hasked]
      change (s.receive n).haveBytes w = _
      unfold serve haveBytes
      cases hf' : frame (s.receive n).recvBuf with
      | oversized => exact absurd hf' h'
      | incomplete => rfl
      | complete need => rfl

end Conn

/-- A reply is in the send buffer, and the rest of the connection is as it
was. -/
structure Replied (s t : Conn) : Prop where
  recvBuf : t.recvBuf = s.recvBuf
  queue : t.queue = s.queue
  wire : t.wire = s.wire
  log : t.log = s.log
  alive : t.alive = s.alive
  sendBuf : t.sendBuf ≠ []
  sendOffset : t.sendOffset = 0

theorem replied_build {s s' : Conn} (result : Nat) (payload : Bytes) (h1 : s'.recvBuf = s.recvBuf)
    (h2 : s'.queue = s.queue) (h3 : s'.wire = s.wire) (h4 : s'.log = s.log) (h5 : s'.alive = s.alive) :
    Replied s (s'.buildResponse result payload) :=
  ⟨h1, h2, h3, h4, h5, response_ne_nil result payload, rfl⟩

section
variable (s : Conn) (w : Served) (payload : Bytes)

theorem handleGetToken_replied : Replied s (s.handleGetToken w payload) := by
  unfold Conn.handleGetToken
  simp only
  split
  · exact replied_build _ _ rfl rfl rfl rfl rfl
  · exact replied_build _ _ rfl rfl rfl rfl rfl

theorem handleSubscribe_replied : Replied s (s.handleSubscribe w payload) := by
  unfold Conn.handleSubscribe
  simp only
  split
  · exact replied_build _ _ rfl rfl rfl rfl rfl
  split
  · exact replied_build _ _ rfl rfl rfl rfl rfl
  split
  · exact replied_build _ _ rfl rfl rfl rfl rfl
  · exact replied_build _ _ rfl rfl rfl rfl rfl

theorem handleProtectPidUpdate_replied (add : Bool) :
    Replied s (s.handleProtectPidUpdate w payload add) := by
  unfold Conn.handleProtectPidUpdate
  simp only
  split
  · exact replied_build _ _ rfl rfl rfl rfl rfl
  · exact replied_build _ _ rfl rfl rfl rfl rfl

theorem handleShutdown_replied : Replied s (s.handleShutdown w payload) := by
  unfold Conn.handleShutdown
  split
  · exact replied_build _ _ rfl rfl rfl rfl rfl
  split
  · exact replied_build _ _ rfl rfl rfl rfl rfl
  · exact ⟨rfl, rfl, rfl, rfl, rfl, response_ne_nil _ _, rfl⟩

/-- Every command, known or not, is answered. -/
theorem processRequest_replied : Replied s (s.processRequest w) := by
  have hbuild : ∀ result payload, Replied s (s.buildResponse result payload) :=
    fun result payload => replied_build result payload rfl rfl rfl rfl rfl
  unfold Conn.processRequest
  simp only
  split
  · exact hbuild _ _
  split
  · exact hbuild _ _
  split
  · exact hbuild _ _
  split
  · exact hbuild _ _
  · exact hbuild _ _
  · exact handleGetToken_replied s w _
  · exact handleSubscribe_replied s w _
  · exact handleProtectPidUpdate_replied s w _ true
  · exact handleProtectPidUpdate_replied s w _ false
  · exact handleShutdown_replied s w _
  · exact hbuild _ _

end

namespace Conn

variable {s : Conn}

theorem serve_busy (h : s.sendBuf ≠ []) (w : Served) : s.serve w = s := by
  unfold serve haveRequest
  split
  · exact if_pos (List.length_pos_iff.mpr h)
  · rfl

theorem serve_incomplete (h : frame s.recvBuf = .incomplete) (w : Served) : s.serve w = s := by
  simp only [serve, h]

/-- The request at the front is answered. -/
theorem serve_idle {need : Nat} (hf : frame s.recvBuf = .complete need) (hs : s.sendBuf = [])
    (w : Served) : ∃ t, Replied s t ∧ s.serve w =
      { t with
        armed := true
        recvBuf := s.recvBuf.drop need
        log := s.log ++ [.reply (s.recvBuf.take need) t.sendBuf] } := by
  have hr := processRequest_replied s w
  refine ⟨s.processRequest w, hr, ?_⟩
  simp only [serve, hf, haveRequest, hs, List.length_nil, Nat.lt_irrefl, if_false,
    if_pos (List.length_pos_iff.mpr hr.sendBuf), hr.recvBuf, hr.log]

/-! ## A write -/

/-- `bs` has been sent. -/
def sent (s : Conn) (bs : Bytes) : Conn :=
  { s with sendOffset := s.sendOffset + bs.length, wire := s.wire ++ bs }

theorem sent_sent (s : Conn) (bs bs' : Bytes) : (s.sent bs).sent bs' = s.sent (bs ++ bs') := by
  unfold sent
  simp only [List.length_append, List.append_assoc, Nat.add_assoc]

theorem sendLoop_eq {sends : List Sent} (hsends : Sent.error ∉ sends) (s : Conn) :
    ∃ bs rest, s.sendBuf.drop s.sendOffset = bs ++ rest ∧
      (sends ≠ [] → s.sendOffset < s.sendBuf.length → bs ≠ []) ∧
      s.sendLoop sends = (s.sent bs, false) := by
  induction sends generalizing s with
  | nil => exact ⟨[], _, rfl, fun h => absurd rfl h, by simp [sendLoop, sent]⟩
  | cons r sends ih =>
    obtain ⟨hr, hrest⟩ := not_or.mp (mt List.mem_cons.mpr hsends)
    by_cases hlt : s.sendOffset < s.sendBuf.length
    · cases r with
      | error => exact absurd rfl hr
      | bytes n =>
        -- One `send`, then the rest of the loop from the new offset.
        let front := (s.sendBuf.drop s.sendOffset).take (max 1 n)
        obtain ⟨bs, rest, hsplit, -, hloop⟩ := ih hrest (s.sent front)
        have hfront : s.sendBuf.drop s.sendOffset = front ++ (bs ++ rest) := by
          rw [← hsplit]
          show _ = front ++ s.sendBuf.drop (s.sendOffset + front.length)
          rw [← List.drop_drop]
          exact (List.prefix_iff_eq_append.mp (List.take_prefix _ _)).symm
        refine ⟨front ++ bs, rest, by rw [hfront, List.append_assoc], fun _ _ hnil => ?_, ?_⟩
        · have hlen : front.length = 0 := by rw [(List.append_eq_nil_iff.mp hnil).1, List.length_nil]
          rw [List.length_take, List.length_drop] at hlen
          omega
        · rw [← sent_sent, ← hloop]
          simp only [sendLoop, if_pos hlt]
          rfl
    · refine ⟨[], _, rfl, fun _ h => absurd h hlt, ?_⟩
      simp only [sendLoop, if_neg hlt]
      simp [sent]

/-- The message goes out as far as the kernel takes it; when all of it is out
the buffer is used again. -/
theorem handleClientWrite_cases {sends : List Sent} (hsends : Sent.error ∉ sends)
    (hlt : s.sendOffset < s.sendBuf.length) :
    ∃ bs rest, s.sendBuf.drop s.sendOffset = bs ++ rest ∧ (sends ≠ [] → bs ≠ []) ∧
      s.handleClientWrite sends = (if rest = [] then (s.sent bs).flushed else s.sent bs, false) := by
  obtain ⟨bs, rest, hsplit, hbs, hloop⟩ := sendLoop_eq hsends s
  refine ⟨bs, rest, hsplit, fun h => hbs h hlt, ?_⟩
  have hlen : s.sendBuf.length - s.sendOffset = bs.length + rest.length := by
    rw [← List.length_drop, hsplit, List.length_append]
  unfold handleClientWrite
  rw [if_neg (by omega)]
  simp only [hloop]
  by_cases hrest : rest = []
  · subst hrest
    rw [if_pos rfl, if_neg (by decide)]
    refine if_pos ?_
    show s.sendBuf.length ≤ s.sendOffset + bs.length
    simp at hlen
    omega
  · have hpos := List.length_pos_iff.mpr hrest
    rw [if_neg hrest, if_neg (by decide)]
    refine if_neg ?_
    show ¬ s.sendBuf.length ≤ s.sendOffset + bs.length
    omega

theorem handleClientWrite_idle (h : s.sendBuf = []) (sends : List Sent) :
    s.handleClientWrite sends = (s, false) := by
  unfold handleClientWrite
  exact if_pos (by rw [h]; rfl)

end Conn

/-- What the end of a message changes: the connection is idle, or the
notification that was waiting takes its place. -/
structure Flushed (s t : Conn) : Prop where
  recvBuf : t.recvBuf = s.recvBuf
  queue : t.queue = s.queue
  wire : t.wire = s.wire
  alive : t.alive = s.alive
  sendOffset : t.sendOffset = 0
  next : (t.sendBuf = [] ∧ t.log = s.log) ∨
    (s.notifyPending = true ∧ t.notifyPending = false ∧ t.armed = s.armed ∧ t.sendBuf.length = 52 ∧
      t.log = s.log ++ [.notification t.sendBuf])

theorem notification_length (ctx : IpcContext) (events : UInt32) :
    (notification ctx events).length = 52 := by
  simp [notification, response_length, statusTail]

theorem Flushed.shutdown {s t : Conn} (h : Flushed s t) : Flushed s t.shutdownIfAsked := by
  unfold Conn.shutdownIfAsked
  split
  · exact ⟨h.recvBuf, h.queue, h.wire, h.alive, h.sendOffset, h.next⟩
  · exact h

theorem flushed_spec (s : Conn) : Flushed s s.flushed := by
  unfold Conn.flushed
  by_cases hpending : (s.subscribed && s.notifyPending) = true
  · have hlen := notification_length s.ctx s.pendingEvents
    have hnext : s.notifyPending = true := (Bool.and_eq_true_iff.mp hpending).2
    simp only [if_pos hpending]
    apply Flushed.shutdown
    unfold Conn.disarmIfIdle Conn.buildNotification
    rw [if_neg (by simp only [hlen]; decide)]
    exact ⟨rfl, rfl, rfl, rfl, rfl, .inr ⟨hnext, rfl, rfl, hlen, rfl⟩⟩
  · simp only [if_neg hpending]
    apply Flushed.shutdown
    exact ⟨rfl, rfl, rfl, rfl, rfl, .inl ⟨rfl, rfl⟩⟩

/-! ## The invariant -/

/-- The connection after `arrived` has come from the client. -/
structure Inv (req : Nat → Bytes) (arrived : Bytes) (s : Conn) : Prop where
  alive : s.alive = true
  served : ∃ j, requests s.log = firsts req j
  received : (requests s.log).flatten ++ (s.recvBuf ++ s.queue) = arrived
  room : s.recvBuf.length ≤ recvBufSize
  sending : s.sendBuf ≠ [] → s.sendOffset < s.sendBuf.length
  idle : s.sendBuf = [] → s.sendOffset = 0
  armed : s.sendBuf ≠ [] → s.armed = true
  wire : s.wire ++ s.sendBuf.drop s.sendOffset = flat s.log

theorem inv_accept (req : Nat → Bytes) (ctx : IpcContext) (uid pid : UInt32) (ticks : UInt64) :
    Inv req [] (accept ctx uid pid ticks) where
  alive := rfl
  served := ⟨0, rfl⟩
  received := rfl
  room := Nat.zero_le _
  sending := fun h => absurd rfl h
  idle := fun _ => rfl
  armed := fun h => absurd rfl h
  wire := rfl

section
variable {req : Nat → Bytes} (hreq : ∀ i, frame (req i) = .complete (req i).length)
  {arrived : Bytes} {s : Conn}

/-- The requests that are not answered yet, as far as they have come. -/
theorem Inv.waiting (h : Inv req arrived s) (hstream : Stream req arrived) {j : Nat}
    (hj : requests s.log = firsts req j) :
    Stream (fun i => req (j + i)) (s.recvBuf ++ s.queue) := by
  rw [← h.received, hj] at hstream
  exact stream_drop hstream

include hreq

/-- The receive buffer has the next request or a part of it. -/
theorem Inv.front (h : Inv req arrived s) (hstream : Stream req arrived) {j : Nat}
    (hj : requests s.log = firsts req j) :
    (req j <+: s.recvBuf ∧ frame s.recvBuf = .complete (req j).length) ∨
      (s.recvBuf.length < (req j).length ∧ frame s.recvBuf = .incomplete) :=
  stream_cases (fun i => hreq (j + i)) (stream_front (h.waiting hstream hj))

theorem Inv.frame_ne (h : Inv req arrived s) (hstream : Stream req arrived) :
    frame s.recvBuf ≠ .oversized := by
  obtain ⟨j, hj⟩ := h.served
  intro hf
  rcases h.front hreq hstream hj with ⟨-, hf'⟩ | ⟨-, hf'⟩
  · cases hf.symm.trans hf'
  · cases hf.symm.trans hf'

/-- A request that is not complete leaves room for more of it. -/
theorem Inv.space (h : Inv req arrived s) (hstream : Stream req arrived)
    (hf : frame s.recvBuf = .incomplete) : s.recvBuf.length < recvBufSize := by
  obtain ⟨j, hj⟩ := h.served
  obtain ⟨-, hmax, hneed, -⟩ := frame_complete_iff.mp (hreq j)
  rcases h.front hreq hstream hj with ⟨-, hf'⟩ | ⟨hlt, -⟩
  · cases hf.symm.trans hf'
  · unfold recvBufSize
    omega

omit hreq in
theorem receive_append (s : Conn) (n : Nat) :
    (s.receive n).recvBuf ++ (s.receive n).queue = s.recvBuf ++ s.queue := by
  show (s.recvBuf ++ s.queue.take _) ++ s.queue.drop _ = _
  rw [List.append_assoc, List.take_append_drop]

omit hreq in
theorem inv_receive (h : Inv req arrived s) (n : Nat) : Inv req arrived (s.receive n) where
  alive := h.alive
  served := h.served
  received := by
    rw [receive_append]
    exact h.received
  room := by
    have hroom := h.room
    show (s.recvBuf ++ s.queue.take (s.asked n)).length ≤ _
    rw [List.length_append, List.length_take]
    unfold Conn.asked
    split
    · omega
    · omega
  sending := h.sending
  idle := h.idle
  armed := h.armed
  wire := h.wire

theorem inv_serve (h : Inv req arrived s) (hstream : Stream req arrived) (w : Served) :
    Inv req arrived (s.serve w) := by
  by_cases hs : s.sendBuf = []
  · obtain ⟨j, hj⟩ := h.served
    rcases h.front hreq hstream hj with ⟨⟨rest, hrest⟩, hf⟩ | ⟨-, hf⟩
    · obtain ⟨t, ht, heq⟩ := Conn.serve_idle hf hs w
      have htake : s.recvBuf.take (req j).length = req j := by rw [← hrest, List.take_left]
      have hdrop : s.recvBuf.drop (req j).length = rest := by rw [← hrest, List.drop_left]
      have hpos := List.length_pos_iff.mpr ht.sendBuf
      rw [heq, htake, hdrop]
      refine ⟨ht.alive.trans h.alive, ⟨j + 1, ?_⟩, ?_, ?_, ?_, ?_, fun _ => rfl, ?_⟩
      · rw [requests_reply, hj, firsts_succ]
      · rw [requests_reply, List.flatten_append, List.flatten_singleton,
          List.append_assoc, ← h.received, ← hrest]
        show _ ++ (req j ++ (rest ++ t.queue)) = _
        rw [ht.queue, List.append_assoc]
      · have := h.room
        rw [← hrest, List.length_append] at this
        show rest.length ≤ _
        omega
      · intro _
        show t.sendOffset < t.sendBuf.length
        rw [ht.sendOffset]
        exact hpos
      · exact fun hnil => absurd hnil ht.sendBuf
      · have hwire := h.wire
        rw [hs, List.drop_nil, List.append_nil] at hwire
        show t.wire ++ t.sendBuf.drop t.sendOffset = _
        rw [ht.wire, ht.sendOffset, List.drop_zero, flat_concat, ← hwire]
        rfl
    · rw [Conn.serve_incomplete hf]
      exact h
  · rw [Conn.serve_busy hs]
    exact h

omit hreq

theorem inv_sent {bs rest : Bytes} (h : Inv req arrived s)
    (hsplit : s.sendBuf.drop s.sendOffset = bs ++ rest)
    (hrest : rest ≠ []) : Inv req arrived (s.sent bs) := by
  have hpos := List.length_pos_iff.mpr hrest
  have hlen : s.sendBuf.length - s.sendOffset = bs.length + rest.length := by
    rw [← List.length_drop, hsplit, List.length_append]
  have hdrop : s.sendBuf.drop (s.sendOffset + bs.length) = rest := by
    rw [← List.drop_drop, hsplit, List.drop_left]
  refine ⟨h.alive, h.served, h.received, h.room, fun _ => ?_, fun hnil => ?_, h.armed, ?_⟩
  · show s.sendOffset + bs.length < s.sendBuf.length
    omega
  · have hzero : s.sendBuf.length = 0 := by rw [show s.sendBuf = [] from hnil, List.length_nil]
    omega
  · show (s.wire ++ bs) ++ s.sendBuf.drop (s.sendOffset + bs.length) = _
    rw [hdrop, List.append_assoc, ← hsplit]
    exact h.wire

/-- The message has been sent to its end. -/
theorem inv_flushed {t : Conn} (h : Inv req arrived s) (hs : s.sendBuf ≠ [])
    (hf : Flushed (s.sent (s.sendBuf.drop s.sendOffset)) t) : Inv req arrived t := by
  have hwire : t.wire = flat s.log := hf.wire.trans h.wire
  have hrequests : requests t.log = requests s.log := by
    rcases hf.next with ⟨-, hlog⟩ | ⟨-, -, -, -, hlog⟩
    · rw [hlog]
      rfl
    · rw [hlog, requests_notification]
      rfl
  refine ⟨hf.alive.trans h.alive, hrequests ▸ h.served, ?_, ?_, fun hne => ?_,
    fun _ => hf.sendOffset, fun hne => ?_, ?_⟩
  · rw [hrequests, hf.recvBuf, hf.queue]
    exact h.received
  · rw [hf.recvBuf]
    exact h.room
  · rw [hf.sendOffset]
    exact List.length_pos_iff.mpr hne
  · rcases hf.next with ⟨hidle, -⟩ | ⟨-, -, harmed, -, -⟩
    · exact absurd hidle hne
    · exact harmed.trans (h.armed hs)
  · rw [hwire, hf.sendOffset, List.drop_zero]
    rcases hf.next with ⟨hidle, hlog⟩ | ⟨-, -, -, -, hlog⟩
    · rw [hidle, List.append_nil, hlog]
      rfl
    · rw [hlog, flat_concat]
      rfl

theorem inv_write {sends : List Sent} (h : Inv req arrived s) (hsends : Sent.error ∉ sends) :
    Inv req arrived (s.handleClientWrite sends).1 := by
  by_cases hs : s.sendBuf = []
  · rw [Conn.handleClientWrite_idle hs]
    exact h
  · obtain ⟨bs, rest, hsplit, -, heq⟩ := Conn.handleClientWrite_cases hsends (h.sending hs)
    rw [heq]
    show Inv req arrived (if rest = [] then _ else _)
    split
    · next hrest =>
      rw [hrest, List.append_nil] at hsplit
      rw [← hsplit]
      exact inv_flushed h hs (flushed_spec _)
    · next hrest => exact inv_sent h hsplit hrest

end

/-! ## Steps -/

/-- The client is subscribed to one of the events. -/
def Relevant (s : Conn) (events : UInt32) : Prop := s.subscribed = true ∧ events &&& s.eventMask ≠ 0

theorem notifySubscribers_irrelevant {s : Conn} {events : UInt32} (h : ¬ Relevant s events) :
    s.notifySubscribers events = s := by
  unfold Conn.notifySubscribers Conn.pushNotify
  by_cases hsub : s.subscribed = true
  · rw [if_pos hsub]
    exact if_pos (by_contra fun hne => h ⟨hsub, hne⟩)
  · exact if_neg hsub

theorem notifySubscribers_busy {s : Conn} {events : UInt32} (h : Relevant s events)
    (hlt : s.sendOffset < s.sendBuf.length) :
    s.notifySubscribers events =
      { s with notifyPending := true, pendingEvents := s.pendingEvents |||
                 (events &&& s.eventMask) } := by
  unfold Conn.notifySubscribers Conn.pushNotify
  rw [if_pos h.1]
  simp only [if_neg h.2]
  exact if_pos hlt

theorem step_alive {s : Conn} (h : s.alive = true) (ev : Event) :
    step s ev = match ev with
      | .context ctx => { s with ctx }
      | .arrive bs => { s with queue := s.queue ++ bs }
      | .notify events => s.notifySubscribers events
      | .ready e => s.ipcProcess e :=
  if_pos h

/-- The client stays and the kernel reports no error. -/
structure Ready.Clean (e : Ready) : Prop where
  hup : e.hup = false
  recv : ∃ n, e.recv = .bytes n
  sends : Sent.error ∉ e.sends

/-- How many bytes the read asks for. -/
def Ready.bytes (e : Ready) : Nat :=
  match e.recv with
  | .bytes n => n
  | _ => 0

namespace Conn

def readPart (s : Conn) (e : Ready) : Conn :=
  if e.epollin then (s.receive e.bytes).serve e.served else s

def writePart (s : Conn) (e : Ready) : Conn := if e.epollout then (s.handleClientWrite e.sends).1 else s

end Conn

/-- What the client sends with the event. -/
def Event.bytes : Event → Bytes
  | .arrive bs => bs
  | _ => []

/-- A step in which the client stays, and no notification is pushed to an idle
connection. -/
def Kept (s : Conn) : Event → Prop
  | .context _ => True
  | .arrive _ => True
  | .notify events => Relevant s events → s.sendBuf ≠ []
  | .ready e => e.Clean

section
variable {req : Nat → Bytes} (hreq : ∀ i, frame (req i) = .complete (req i).length)
  {arrived : Bytes} {s : Conn}
include hreq

theorem inv_readPart (h : Inv req arrived s) (hstream : Stream req arrived) (e : Ready) :
    Inv req arrived (s.readPart e) := by
  unfold Conn.readPart
  split
  · exact inv_serve hreq (inv_receive h e.bytes) hstream e.served
  · exact h

omit hreq in
theorem inv_writePart {e : Ready} (h : Inv req arrived s) (he : e.Clean) :
    Inv req arrived (s.writePart e) := by
  unfold Conn.writePart
  split
  · exact inv_write h he.sends
  · exact h

/-- One entry of `epoll_wait` is a read and then a write. -/
theorem step_ready {e : Ready} (h : Inv req arrived s) (hstream : Stream req arrived) (he : e.Clean) :
    step s (.ready e) = (s.readPart e).writePart e := by
  obtain ⟨n, hn⟩ := he.recv
  have hbytes : e.bytes = n := by simp only [Ready.bytes, hn]
  have hread : (if e.epollin = true then s.handleClientRead e.served e.recv else (s, false)) =
      (s.readPart e, false) := by
    unfold Conn.readPart
    split
    · rw [hn, hbytes]
      exact Conn.handleClientRead_eq (h.frame_ne hreq hstream) ((inv_receive h n).frame_ne hreq hstream)
        (h.space hreq hstream) e.served
    · rfl
  have hwrite : (if e.epollout = true then (s.readPart e).handleClientWrite e.sends
      else (s.readPart e, false)) = ((s.readPart e).writePart e, false) := by
    have hinv := inv_readPart hreq h hstream e
    unfold Conn.writePart
    split
    · by_cases hs : (s.readPart e).sendBuf = []
      · rw [Conn.handleClientWrite_idle hs]
      · obtain ⟨bs, rest, -, -, heq⟩ := Conn.handleClientWrite_cases he.sends (hinv.sending hs)
        rw [heq]
    · rfl
  rw [step_alive h.alive]
  simp only [Conn.ipcProcess, hread, hwrite, he.hup, Bool.or_false, Bool.false_eq_true, if_false]

/-- **One step.** -/
theorem inv_step {ev : Event} (h : Inv req arrived s) (hstream : Stream req arrived) (hev : Kept s ev) :
    Inv req (arrived ++ ev.bytes) (step s ev) := by
  cases ev with
  | context ctx =>
    rw [step_alive h.alive]
    show Inv req (arrived ++ []) _
    rw [List.append_nil]
    exact ⟨h.alive, h.served, h.received, h.room, h.sending, h.idle, h.armed, h.wire⟩
  | arrive bs =>
    rw [step_alive h.alive]
    refine ⟨h.alive, h.served, ?_, h.room, h.sending, h.idle, h.armed, h.wire⟩
    show _ ++ (s.recvBuf ++ (s.queue ++ bs)) = arrived ++ bs
    rw [← h.received]
    simp only [List.append_assoc]
  | notify events =>
    rw [step_alive h.alive]
    show Inv req (arrived ++ []) (s.notifySubscribers events)
    rw [List.append_nil]
    by_cases hrel : Relevant s events
    · rw [notifySubscribers_busy hrel (h.sending (hev hrel))]
      exact ⟨h.alive, h.served, h.received, h.room, h.sending, h.idle, h.armed, h.wire⟩
    · rw [notifySubscribers_irrelevant hrel]
      exact h
  | ready e =>
    rw [step_ready hreq h hstream hev]
    show Inv req (arrived ++ []) _
    rw [List.append_nil]
    exact inv_writePart (inv_readPart hreq h hstream e) hev

end

end Lota.L6.Ipc

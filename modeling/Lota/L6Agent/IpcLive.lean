import Lota.L6Agent.IpcInv

/-!
# When every request is answered (`agent/ipc.c`)

The loop runs forever over a client that sends well-formed requests and stays
connected. The kernel cuts and joins the bytes as it likes; it reports a
socket with bytes, and a writable one while `EPOLLOUT` is armed.

A read answers one request. When it also takes the last byte of the socket and
leaves another complete request in the receive buffer, no event is left that
would bring the loop back to it: `EPOLLIN` reports the socket, not the buffer.
The same holds for a request that comes in while a message is being sent.

* `quiet_step`, `read_step`: what a step does to the buffers and to the
  requests.
* `variant_step`, `leadsTo_idle`: a message is sent to its end.
* `stranded_before`: how a complete request comes to wait for an empty socket.
* `served_next`, `requests_answered_iff`: all requests are answered exactly
  when every read that strands one is followed by more input.
* `pipelined_ping_lost`: two pings in one `recv`.
-/
namespace Lota.L6.Ipc
open Lota.Core Lota.L4.Gaming Lota.L6.GetToken

/-! ## Runs -/

/-- What the client has sent in the first `n` events. -/
def arrived (σ : Nat → Event) : Nat → Bytes
  | 0 => []
  | n + 1 => arrived σ n ++ (σ n).bytes

/-- The client sends the requests `req 0`, `req 1` and so on, each complete
and within the limit, and perhaps a part of one more. -/
structure Requests (req : Nat → Bytes) (σ : Nat → Event) : Prop where
  framed : ∀ i, frame (req i) = .complete (req i).length
  stream : ∀ n, Stream req (arrived σ n)

/-- The kernel and the client: epoll reports what is there and what was asked
for, every unread byte is reported at last, an armed socket takes at least one
byte at last, and nothing fails. -/
structure Fair (s₀ : Conn) (σ : Nat → Event) : Prop where
  clean : ∀ n e, σ n = .ready e → e.Clean
  epollin : ∀ n e, σ n = .ready e → e.epollin = true → (loop.trace s₀ σ n).queue ≠ []
  epollout : ∀ n e, σ n = .ready e → e.epollout = true → (loop.trace s₀ σ n).armed = true
  readable : ∀ n, (loop.trace s₀ σ n).queue ≠ [] → ∃ m e, n ≤ m ∧ σ m = .ready e ∧ e.epollin = true
  writable : ∀ n, (loop.trace s₀ σ n).armed = true →
    ∃ m e, n ≤ m ∧ σ m = .ready e ∧ e.epollout = true ∧ e.sends ≠ []

/-- The last message is a reply. -/
def Conn.replying (s : Conn) : Bool :=
  match s.log.getLast? with
  | some (.reply _ _) => true
  | _ => false

/-- Notifications that concern the client are raised while a message is being
sent, and from some time on while it is a reply. -/
structure NotifiesBusy (s₀ : Conn) (σ : Nat → Event) : Prop where
  busy : ∀ n events, σ n = .notify events → Relevant (loop.trace s₀ σ n) events →
    (loop.trace s₀ σ n).sendBuf ≠ []
  settled : ∃ N, ∀ n events, N ≤ n → σ n = .notify events → Relevant (loop.trace s₀ σ n) events →
    (loop.trace s₀ σ n).replying = true

/-- The replies are to the first requests, in their order, and what is on the
wire is made of them and of notifications; and the replies to all requests
that have come are on the wire at last. -/
structure Answered (req : Nat → Bytes) (s₀ : Conn) (σ : Nat → Event) : Prop where
  inOrder : ∀ n, (∃ j, requests (loop.trace s₀ σ n).log = firsts req j) ∧
    (loop.trace s₀ σ n).wire <+: flat (loop.trace s₀ σ n).log
  eventually : ∀ n k, (firsts req k).flatten <+: arrived σ n → ∃ m log, n ≤ m ∧
    log <+: (loop.trace s₀ σ m).log ∧
    flat log <+: (loop.trace s₀ σ m).wire ∧ firsts req k <+: requests log

/-- What serving leaves in the receive buffer: a complete request at its front
is taken, unless a message is being sent. -/
def Conn.unserved (s : Conn) : Bytes :=
  match s.sendBuf, frame s.recvBuf with
  | [], .complete need => s.recvBuf.drop need
  | _, _ => s.recvBuf

/-- A complete request, and no byte in the socket that would bring the loop
back to it. -/
structure Stuck (recvBuf queue : Bytes) : Prop where
  queue : queue = []
  request : ∃ need, frame recvBuf = .complete need

/-- The read takes the last byte of the socket and leaves a complete request. -/
def Strands (s : Conn) : Event → Prop
  | .ready e => e.epollin = true ∧ Stuck (s.receive e.bytes).unserved (s.receive e.bytes).queue
  | _ => False

theorem Strands.ready {s : Conn} {ev : Event} (h : Strands s ev) :
    ∃ e, ev = .ready e ∧ e.epollin = true ∧
    Stuck (s.receive e.bytes).unserved (s.receive e.bytes).queue := by
  cases ev with
  | ready e => exact ⟨e, rfl, h⟩
  | context ctx => exact h.elim
  | arrive bs => exact h.elim
  | notify events => exact h.elim

/-- A read that strands a request is followed by more input. -/
def Revived (s₀ : Conn) (σ : Nat → Event) : Prop :=
  ∀ n, Strands (loop.trace s₀ σ n) (σ n) → ∃ m, n < m ∧ (σ m).bytes ≠ []

/-! ## What a step does -/

/-- A step that reads nothing. -/
structure Quiet (s : Conn) (ev : Event) (t : Conn) : Prop where
  recvBuf : t.recvBuf = s.recvBuf
  queue : t.queue = s.queue ++ ev.bytes
  requests : requests t.log = requests s.log
  idle : s.sendBuf = [] → t.sendBuf = []

/-- What a write leaves alone. -/
structure Written (s t : Conn) : Prop where
  recvBuf : t.recvBuf = s.recvBuf
  queue : t.queue = s.queue
  requests : requests t.log = requests s.log
  idle : s.sendBuf = [] → t.sendBuf = []

section
variable {req : Nat → Bytes} {bytes : Bytes} {s : Conn}

theorem writePart_written {e : Ready} (h : Inv req bytes s) (he : e.Clean) :
    Written s (s.writePart e) := by
  unfold Conn.writePart
  split
  · by_cases hs : s.sendBuf = []
    · rw [Conn.handleClientWrite_idle hs]
      exact ⟨rfl, rfl, rfl, id⟩
    · obtain ⟨bs, rest, -, -, heq⟩ := Conn.handleClientWrite_cases he.sends (h.sending hs)
      rw [heq]
      show Written s (if rest = [] then _ else _)
      split
      · have hf := flushed_spec (s.sent bs)
        refine ⟨hf.recvBuf, hf.queue, ?_, fun hnil => absurd hnil hs⟩
        rcases hf.next with ⟨-, hlog⟩ | ⟨-, -, -, -, hlog⟩
        · rw [hlog]
          rfl
        · rw [hlog, requests_notification]
          rfl
      · exact ⟨rfl, rfl, rfl, fun hnil => absurd hnil hs⟩
  · exact ⟨rfl, rfl, rfl, id⟩

variable (hreq : ∀ i, frame (req i) = .complete (req i).length)
include hreq

theorem quiet_step {ev : Event} (h : Inv req bytes s) (hstream : Stream req bytes) (hev : Kept s ev)
    (hread : ∀ e, ev = .ready e → e.epollin = false) : Quiet s ev (step s ev) := by
  cases ev with
  | context ctx =>
    rw [step_alive h.alive]
    exact ⟨rfl, (List.append_nil _).symm, rfl, id⟩
  | arrive bs =>
    rw [step_alive h.alive]
    exact ⟨rfl, rfl, rfl, id⟩
  | notify events =>
    rw [step_alive h.alive]
    show Quiet s _ (s.notifySubscribers events)
    by_cases hrel : Relevant s events
    · rw [notifySubscribers_busy hrel (h.sending (hev hrel))]
      exact ⟨rfl, (List.append_nil _).symm, rfl, id⟩
    · rw [notifySubscribers_irrelevant hrel]
      exact ⟨rfl, (List.append_nil _).symm, rfl, id⟩
  | ready e =>
    have hpart : s.readPart e = s := if_neg (by rw [hread e rfl]; decide)
    rw [step_ready hreq h hstream hev, hpart]
    have hw := writePart_written h hev
    exact ⟨hw.recvBuf, hw.queue.trans (List.append_nil _).symm, hw.requests, hw.idle⟩

omit hreq in
theorem serve_buffers (s : Conn) (w : Served) :
    (s.serve w).recvBuf = s.unserved ∧ (s.serve w).queue = s.queue := by
  unfold Conn.unserved
  cases hs : s.sendBuf with
  | cons b bs =>
    rw [Conn.serve_busy (by rw [hs]; exact List.cons_ne_nil _ _)]
    exact ⟨rfl, rfl⟩
  | nil =>
    cases hf : frame s.recvBuf with
    | complete need =>
      obtain ⟨t, ht, heq⟩ := Conn.serve_idle hf hs w
      rw [heq]
      exact ⟨rfl, ht.queue⟩
    | incomplete =>
      rw [Conn.serve_incomplete hf]
      exact ⟨rfl, rfl⟩
    | oversized =>
      simp only [Conn.serve, hf]
      exact ⟨trivial, trivial⟩

/-- A step that reads, with the connection `s.receive e.bytes` before it
serves. -/
structure ReadStep (r t : Conn) : Prop where
  recvBuf : t.recvBuf = r.unserved
  queue : t.queue = r.queue
  served : ∀ need, r.sendBuf = [] → frame r.recvBuf = .complete need →
    requests t.log = requests r.log ++ [r.recvBuf.take need]
  waited : r.sendBuf ≠ [] ∨ frame r.recvBuf = .incomplete → requests t.log = requests r.log
  idle : r.sendBuf = [] → frame r.recvBuf = .incomplete → t.sendBuf = []

theorem read_step {e : Ready} (h : Inv req bytes s) (hstream : Stream req bytes) (he : e.Clean)
    (hread : e.epollin = true) : ReadStep (s.receive e.bytes) (step s (.ready e)) := by
  have hpart : s.readPart e = (s.receive e.bytes).serve e.served := if_pos hread
  have hw := writePart_written (inv_readPart hreq h hstream e) he
  rw [step_ready hreq h hstream he]
  rw [hpart] at hw ⊢
  obtain ⟨hbuf, hqueue⟩ := serve_buffers (s.receive e.bytes) e.served
  refine ⟨hw.recvBuf.trans hbuf, hw.queue.trans hqueue, fun need hs hf => ?_, fun hwait => ?_,
    fun hs hf => ?_⟩
  · obtain ⟨t, -, heq⟩ := Conn.serve_idle hf hs e.served
    rw [hw.requests, heq, requests_reply]
  · rw [hw.requests]
    rcases hwait with hs | hf
    · rw [Conn.serve_busy hs]
    · rw [Conn.serve_incomplete hf]
  · apply hw.idle
    rw [Conn.serve_incomplete hf]
    exact hs

/-! ## A message is sent to its end -/

omit hreq

/-- What is left of the message, and a notification that may come behind it. -/
def Conn.variant (s : Conn) : Nat :=
  (s.sendBuf.length - s.sendOffset) + if (s.notifyPending || s.replying) = true then 53 else 0

theorem replying_notification {t : Conn} {log : List Message} {bs : Bytes}
    (h : t.log = log ++ [.notification bs]) : t.replying = false := by
  unfold Conn.replying
  rw [h, List.getLast?_concat]

/-- A write of a message: it is shorter afterwards, or it is complete and the
connection is idle or sends the last notification. -/
theorem variant_write {sends : List Sent} (h : Inv req bytes s) (hsends : Sent.error ∉ sends)
    (hs : s.sendBuf ≠ []) : (s.handleClientWrite sends).1.sendBuf = [] ∨
      ((s.handleClientWrite sends).1.variant ≤ s.variant ∧
        (sends ≠ [] → (s.handleClientWrite sends).1.variant < s.variant)) := by
  have hlt := h.sending hs
  obtain ⟨bs, rest, hsplit, hbs, heq⟩ := Conn.handleClientWrite_cases hsends hlt
  have hlen : s.sendBuf.length - s.sendOffset = bs.length + rest.length := by
    rw [← List.length_drop, hsplit, List.length_append]
  rw [heq]
  by_cases hrest : rest = []
  · have hf := flushed_spec (s.sent bs)
    rw [if_pos hrest]
    dsimp only
    rcases hf.next with ⟨hidle, -⟩ | ⟨hpending, hdone, -, hsize, hlog⟩
    · exact .inl hidle
    · have hafter : (s.sent bs).flushed.variant = 52 := by
        unfold Conn.variant
        rw [hdone, replying_notification hlog, hf.sendOffset, hsize]
        rfl
      have hbefore : s.variant = (s.sendBuf.length - s.sendOffset) + 53 := by
        unfold Conn.variant
        rw [show s.notifyPending = true from hpending, Bool.true_or, if_pos rfl]
      exact .inr ⟨by omega, fun _ => by omega⟩
  · rw [if_neg hrest]
    dsimp only
    have hafter : (s.sent bs).variant + bs.length = s.variant := by
      unfold Conn.variant
      show (s.sendBuf.length - (s.sendOffset + bs.length)) + _ + bs.length = _ + _
      have : (s.sent bs).replying = s.replying := rfl
      rw [this, show (s.sent bs).notifyPending = s.notifyPending from rfl]
      omega
    refine .inr ⟨by omega, fun hne => ?_⟩
    have := List.length_pos_iff.mpr (hbs hne)
    omega

include hreq in
theorem variant_step {ev : Event} (h : Inv req bytes s) (hstream : Stream req bytes) (hev : Kept s ev)
    (hs : s.sendBuf ≠ []) (hsettled : ∀ events, ev = .notify events → Relevant s events →
      s.replying = true) :
    (step s ev).sendBuf = [] ∨ ((step s ev).variant ≤ s.variant ∧
      ∀ e, ev = .ready e → e.epollout = true → e.sends ≠ [] → (step s ev).variant < s.variant) := by
  cases ev with
  | context ctx =>
    rw [step_alive h.alive]
    exact .inr ⟨Nat.le_refl _, nofun⟩
  | arrive bs =>
    rw [step_alive h.alive]
    exact .inr ⟨Nat.le_refl _, nofun⟩
  | notify events =>
    rw [step_alive h.alive]
    refine .inr ⟨?_, nofun⟩
    show (s.notifySubscribers events).variant ≤ _
    by_cases hrel : Relevant s events
    · rw [notifySubscribers_busy hrel (h.sending hs)]
      have hreply := hsettled events rfl hrel
      unfold Conn.variant
      rw [hreply, Bool.or_true, if_pos rfl]
      show _ + (if (true || s.replying) = true then 53 else 0) ≤ _
      rw [Bool.true_or, if_pos rfl]
    · rw [notifySubscribers_irrelevant hrel]
  | ready e =>
    rw [step_ready hreq h hstream hev]
    -- While a message is being sent, a read leaves everything about it alone.
    have hpart : (s.readPart e).sendBuf ≠ [] ∧ (s.readPart e).variant = s.variant := by
      unfold Conn.readPart
      split
      · rw [Conn.serve_busy (show (s.receive e.bytes).sendBuf ≠ [] from hs)]
        exact ⟨hs, rfl⟩
      · exact ⟨hs, rfl⟩
    rw [← hpart.2]
    unfold Conn.writePart
    split
    · rcases variant_write (inv_readPart hreq h hstream e) hev.sends hpart.1 with hidle | ⟨hle, hfall⟩
      · exact .inl hidle
      · refine .inr ⟨hle, ?_⟩
        rintro e' ⟨⟩ - hsends
        exact hfall hsends
    · next hout =>
      refine .inr ⟨Nat.le_refl _, ?_⟩
      rintro e' ⟨⟩ hout' -
      exact absurd hout' hout

end

/-! ## A fair run -/

theorem arrived_mono (σ : Nat → Event) {n m : Nat} (h : n ≤ m) : arrived σ n <+: arrived σ m := by
  induction m, h using Nat.le_induction with
  | base => exact List.prefix_refl _
  | succ m _ ih => exact ih.trans (List.prefix_append _ _)

theorem reads_or (ev : Event) :
    (∃ e, ev = .ready e ∧ e.epollin = true) ∨ ∀ e, ev = .ready e → e.epollin = false := by
  by_cases h : ∃ e, ev = .ready e ∧ e.epollin = true
  · exact .inl h
  · exact .inr fun e he => Bool.eq_false_iff.mpr fun hin => h ⟨e, he, hin⟩

section
variable {req : Nat → Bytes} {s₀ : Conn} {σ : Nat → Event} (h₀ : Inv req [] s₀) (hreq : Requests req σ)
  (hfair : Fair s₀ σ) (hbusy : NotifiesBusy s₀ σ)

include hfair hbusy in
theorem trace_kept (n : Nat) : Kept (loop.trace s₀ σ n) (σ n) := by
  cases hev : σ n with
  | context ctx => trivial
  | arrive bs => trivial
  | notify events => exact hbusy.busy n events hev
  | ready e => exact hfair.clean n e hev

include h₀ hreq hfair hbusy

/-- **The invariant of a run.** -/
theorem trace_keeps (n : Nat) : Inv req (arrived σ n) (loop.trace s₀ σ n) :=
  Machine.trace_inv (J := fun n s => Inv req (arrived σ n) s) h₀
    (fun n h => inv_step hreq.framed h (hreq.stream n) (trace_kept hfair hbusy n)) n

theorem trace_quiet {n : Nat} (hread : ∀ e, σ n = .ready e → e.epollin = false) :
    Quiet (loop.trace s₀ σ n) (σ n) (loop.trace s₀ σ (n + 1)) :=
  quiet_step hreq.framed (trace_keeps h₀ hreq hfair hbusy n) (hreq.stream n)
    (trace_kept hfair hbusy n) hread

theorem trace_read {n : Nat} {e : Ready} (hev : σ n = .ready e) (hread : e.epollin = true) :
    ReadStep ((loop.trace s₀ σ n).receive e.bytes) (loop.trace s₀ σ (n + 1)) := by
  rw [Machine.trace_succ, hev]
  exact read_step hreq.framed (trace_keeps h₀ hreq hfair hbusy n) (hreq.stream n)
    (hfair.clean n e hev) hread

/-- A step answers the next request or none. -/
theorem served_step {n j : Nat} (hj : requests (loop.trace s₀ σ n).log = firsts req j) :
    requests (loop.trace s₀ σ (n + 1)).log = firsts req (j + 1) ∨
      requests (loop.trace s₀ σ (n + 1)).log = firsts req j := by
  rcases reads_or (σ n) with ⟨e, hev, hread⟩ | hquiet
  · have hr := trace_read h₀ hreq hfair hbusy hev hread
    have hinv := inv_receive (trace_keeps h₀ hreq hfair hbusy n) e.bytes
    by_cases hs : ((loop.trace s₀ σ n).receive e.bytes).sendBuf = []
    · rcases hinv.front hreq.framed (hreq.stream n) hj with ⟨⟨rest, hrest⟩, hf⟩ | ⟨-, hf⟩
      · refine .inl ((hr.served _ hs hf).trans ?_)
        rw [← hrest, List.take_left, firsts_succ, ← hj]
        rfl
      · exact .inr ((hr.waited (.inr hf)).trans hj)
    · exact .inr ((hr.waited (.inl hs)).trans hj)
  · exact .inr ((trace_quiet h₀ hreq hfair hbusy hquiet).requests.trans hj)

/-- The next request, when it has come, is in the buffer and the socket. -/
theorem next_request {n j : Nat} (hj : requests (loop.trace s₀ σ n).log = firsts req j)
    (hcome : (firsts req (j + 1)).flatten <+: arrived σ n) :
    req j <+: (loop.trace s₀ σ n).recvBuf ++ (loop.trace s₀ σ n).queue := by
  rw [← (trace_keeps h₀ hreq hfair hbusy n).received, hj, firsts_succ, List.flatten_append,
    List.prefix_append_right_inj, List.flatten_singleton] at hcome
  exact hcome

/-- Every message is sent to its end. -/
theorem leadsTo_idle (n : Nat) : ∃ m, n ≤ m ∧ (loop.trace s₀ σ m).sendBuf = [] := by
  obtain ⟨N, hN⟩ := hbusy.settled
  have hlead : LeadsTo (fun k => N ≤ k ∧ (loop.trace s₀ σ k).sendBuf ≠ [])
      (fun k => (loop.trace s₀ σ k).sendBuf = []) := by
    have hstep : ∀ k, N ≤ k → (loop.trace s₀ σ k).sendBuf ≠ [] →
        (loop.trace s₀ σ (k + 1)).sendBuf = [] ∨
        ((loop.trace s₀ σ (k + 1)).variant ≤ (loop.trace s₀ σ k).variant ∧ ∀ e, σ k = .ready e →
          e.epollout = true →
          e.sends ≠ [] →
          (loop.trace s₀ σ (k + 1)).variant < (loop.trace s₀ σ k).variant) := fun k hk hs =>
      variant_step hreq.framed (trace_keeps h₀ hreq hfair hbusy k) (hreq.stream k)
        (trace_kept hfair hbusy k) hs
        fun events hev => hN k events hk hev
    apply leadsTo_of_variant fun k => (loop.trace s₀ σ k).variant
    · rintro k ⟨hk, hs⟩
      by_cases hidle : (loop.trace s₀ σ (k + 1)).sendBuf = []
      · exact .inl hidle
      · rcases hstep k hk hs with hidle' | ⟨hle, -⟩
        · exact .inl hidle'
        · exact .inr ⟨⟨Nat.le_succ_of_le hk, hidle⟩, hle⟩
    · rintro k ⟨-, hs⟩
      obtain ⟨m, e, hkm, hev, hout, hsends⟩ :=
        hfair.writable k ((trace_keeps h₀ hreq hfair hbusy k).armed hs)
      refine ⟨m, hkm, ?_⟩
      rintro ⟨hm, hs'⟩
      rcases hstep m hm hs' with hidle | ⟨-, hfall⟩
      · exact .inl hidle
      · exact .inr (hfall e hev hout hsends)
  by_cases hs : (loop.trace s₀ σ (max n N)).sendBuf = []
  · exact ⟨max n N, Nat.le_max_left _ _, hs⟩
  · obtain ⟨m, hm, hidle⟩ := hlead (max n N) ⟨Nat.le_max_right _ _, hs⟩
    exact ⟨m, by omega, hidle⟩

/-! ## A stranded request -/

omit h₀ hreq hbusy in
theorem no_read {n : Nat} (hq : (loop.trace s₀ σ n).queue = []) :
    ∀ e, σ n = .ready e → e.epollin = false :=
  fun e hev => Bool.eq_false_iff.mpr fun hin => hfair.epollin n e hev hin hq

/-- Nothing moves while the socket is empty and the client is silent. -/
theorem stuck_step {n : Nat} (hq : (loop.trace s₀ σ n).queue = []) (hsilent : (σ n).bytes = []) :
    (loop.trace s₀ σ (n + 1)).recvBuf = (loop.trace s₀ σ n).recvBuf ∧
    (loop.trace s₀ σ (n + 1)).queue = [] ∧
      requests (loop.trace s₀ σ (n + 1)).log = requests (loop.trace s₀ σ n).log := by
  have h := trace_quiet h₀ hreq hfair hbusy (no_read hfair hq)
  exact ⟨h.recvBuf, by rw [h.queue, hq, hsilent, List.append_nil], h.requests⟩

/-- A request comes to wait for an empty socket by a read that strands it. -/
theorem stranded_before {n : Nat} (h : Stuck (loop.trace s₀ σ n).recvBuf (loop.trace s₀ σ n).queue) :
    ∃ i, i < n ∧ Strands (loop.trace s₀ σ i) (σ i) ∧ ∀ m, i < m → m < n → (σ m).bytes = [] := by
  induction n with
  | zero =>
    -- At the start the receive buffer is empty.
    obtain ⟨-, need, hf⟩ := h
    have hempty : s₀.recvBuf = [] :=
      (List.append_eq_nil_iff.mp (List.append_eq_nil_iff.mp h₀.received).2).1
    rw [show (loop.trace s₀ σ 0).recvBuf = [] from hempty] at hf
    cases hf
  | succ n ih =>
    rcases reads_or (σ n) with ⟨e, hev, hread⟩ | hquiet
    · have hr := trace_read h₀ hreq hfair hbusy hev hread
      rw [hr.recvBuf, hr.queue] at h
      refine ⟨n, Nat.lt_succ_self n, ?_, fun m hnm hmn => by omega⟩
      rw [hev]
      exact ⟨hread, h⟩
    · have hq := trace_quiet h₀ hreq hfair hbusy hquiet
      rw [hq.recvBuf, hq.queue] at h
      obtain ⟨hnil, hsilent⟩ := List.append_eq_nil_iff.mp h.queue
      obtain ⟨i, hin, hstrands, hbetween⟩ := ih ⟨hnil, h.request⟩
      refine ⟨i, by omega, hstrands, fun m him hmn => ?_⟩
      by_cases hm : m = n
      · rw [hm]
        exact hsilent
      · exact hbetween m him (by omega)

/-- After a read that strands a request and is not followed by input, the
request waits forever. -/
theorem stranded_forever {n : Nat} (h : Strands (loop.trace s₀ σ n) (σ n))
    (hsilent : ∀ m, n < m → (σ m).bytes = [])
    {m : Nat} (hm : n + 1 ≤ m) :
    Stuck (loop.trace s₀ σ m).recvBuf (loop.trace s₀ σ m).queue ∧
      requests (loop.trace s₀ σ m).log = requests (loop.trace s₀ σ (n + 1)).log := by
  induction m, hm using Nat.le_induction with
  | base =>
    obtain ⟨e, hev, hread, hstuck⟩ := h.ready
    have hr := trace_read h₀ hreq hfair hbusy hev hread
    rw [hr.recvBuf, hr.queue]
    exact ⟨hstuck, rfl⟩
  | succ m hm ih =>
    obtain ⟨hbuf, hqueue, hlog⟩ := stuck_step h₀ hreq hfair hbusy ih.1.queue (hsilent m (by omega))
    refine ⟨⟨hqueue, ?_⟩, hlog.trans ih.2⟩
    rw [hbuf]
    exact ih.1.request

/-! ## The next request is answered -/

/-- The connection is idle, has unread bytes, and has answered the first `j`
requests. -/
structure Reading (req : Nat → Bytes) (j : Nat) (s : Conn) : Prop where
  idle : s.sendBuf = []
  unread : s.queue ≠ []
  served : requests s.log = firsts req j

/-- What the receive buffer lacks of the next request. -/
def missing (req : Nat → Bytes) (j : Nat) (s : Conn) : Nat := (req j).length - s.recvBuf.length

omit h₀ hfair hbusy in
theorem receive_grows {s : Conn} {n : Nat} (h : Inv req (arrived σ n) s)
    (hf : frame s.recvBuf = .incomplete)
    (hq : s.queue ≠ []) (k : Nat) : s.recvBuf.length < (s.receive k).recvBuf.length := by
  have hspace := h.space hreq.framed (hreq.stream n) hf
  have hpos := List.length_pos_iff.mpr hq
  have hasked : s.asked k = min (max 1 k) (recvBufSize - s.recvBuf.length) := if_pos hf
  show _ < (s.recvBuf ++ s.queue.take (s.asked k)).length
  rw [List.length_append, List.length_take, hasked]
  omega

omit h₀ hreq hfair hbusy in
theorem unserved_incomplete {s : Conn} (h : frame s.recvBuf = .incomplete) :
    s.unserved = s.recvBuf := by
  unfold Conn.unserved
  rw [h]
  split
  · next heq => cases heq
  · rfl

/-- A read serves the request or brings more of it. -/
theorem reading_read {n j : Nat} {e : Ready} (hr : Reading req j (loop.trace s₀ σ n))
    (hcome : (firsts req (j + 1)).flatten <+: arrived σ n) (hev : σ n = .ready e)
    (hread : e.epollin = true) : requests (loop.trace s₀ σ (n + 1)).log = firsts req (j + 1) ∨
      (Reading req j (loop.trace s₀ σ (n + 1)) ∧
        missing req j (loop.trace s₀ σ (n + 1)) < missing req j (loop.trace s₀ σ n)) := by
  have hinv := trace_keeps h₀ hreq hfair hbusy n
  have hstep := trace_read h₀ hreq hfair hbusy hev hread
  have hbytes := next_request h₀ hreq hfair hbusy hr.served hcome
  have hjoin : ((loop.trace s₀ σ n).receive e.bytes).recvBuf ++
      ((loop.trace s₀ σ n).receive e.bytes).queue =
      (loop.trace s₀ σ n).recvBuf ++ (loop.trace s₀ σ n).queue := receive_append _ _
  rcases (inv_receive hinv e.bytes).front hreq.framed (hreq.stream n) hr.served with ⟨⟨rest, hrest⟩,
    hf⟩ | ⟨hlt, hf⟩
  · left
    rw [hstep.served _ hr.idle hf, ← hrest, List.take_left, firsts_succ, ← hr.served]
    rfl
  · right
    -- Before the read the request was incomplete too, so bytes were received.
    have hbefore : frame (loop.trace s₀ σ n).recvBuf = .incomplete := by
      rcases hinv.front hreq.framed (hreq.stream n) hr.served with ⟨-, hf'⟩ | ⟨-, hf'⟩
      · rw [Conn.receive_of_complete hf', hf'] at hf
        cases hf
      · exact hf'
    have hgrow := receive_grows hreq hinv hbefore hr.unread e.bytes
    have hbuf : (loop.trace s₀ σ (n + 1)).recvBuf = ((loop.trace s₀ σ n).receive e.bytes).recvBuf :=
      hstep.recvBuf.trans (unserved_incomplete hf)
    refine ⟨⟨hstep.idle hr.idle hf, ?_, (hstep.waited (.inr hf)).trans hr.served⟩, ?_⟩
    · rw [hstep.queue]
      intro hnil
      have hlen := hbytes.length_le
      rw [← hjoin, hnil, List.append_nil] at hlen
      omega
    · unfold missing
      rw [hbuf]
      omega

/-- From an idle connection with unread bytes. -/
theorem leadsTo_read {n₀ j : Nat} (hcome : (firsts req (j + 1)).flatten <+: arrived σ n₀) :
    LeadsTo (fun n => n₀ ≤ n ∧ Reading req j (loop.trace s₀ σ n))
      (fun n => requests (loop.trace s₀ σ n).log = firsts req (j + 1)) := by
  apply leadsTo_of_variant fun n => missing req j (loop.trace s₀ σ n)
  · rintro n ⟨hn, hr⟩
    rcases reads_or (σ n) with ⟨e, hev, hread⟩ | hquiet
    · rcases reading_read h₀ hreq hfair hbusy hr (hcome.trans (arrived_mono σ hn)) hev
        hread with hserved | ⟨hr', hlt⟩
      · exact .inl hserved
      · exact .inr ⟨⟨by omega, hr'⟩, by omega⟩
    · have h := trace_quiet h₀ hreq hfair hbusy hquiet
      refine .inr ⟨⟨by omega, h.idle hr.idle, ?_, h.requests.trans hr.served⟩, ?_⟩
      · rw [h.queue]
        exact fun hnil => hr.unread (List.append_eq_nil_iff.mp hnil).1
      · unfold missing
        rw [h.recvBuf]
  · rintro n ⟨-, hr⟩
    obtain ⟨m, e, hnm, hev, hread⟩ := hfair.readable n hr.unread
    refine ⟨m, hnm, ?_⟩
    rintro ⟨hm, hr'⟩
    rcases reading_read h₀ hreq hfair hbusy hr' (hcome.trans (arrived_mono σ hm)) hev
      hread with hserved | ⟨-, hlt⟩
    · exact .inl hserved
    · exact .inr hlt

/-- The connection is idle, has read all bytes, and has answered the first `j`
requests. -/
structure Drained (req : Nat → Bytes) (j : Nat) (s : Conn) : Prop where
  idle : s.sendBuf = []
  read : s.queue = []
  served : requests s.log = firsts req j

/-- Only more input changes it. -/
theorem drained_step {n j : Nat} (h : Drained req j (loop.trace s₀ σ n)) :
    if (σ n).bytes = [] then Drained req j (loop.trace s₀ σ (n + 1))
      else Reading req j (loop.trace s₀ σ (n + 1)) := by
  have hstep := trace_quiet h₀ hreq hfair hbusy (no_read hfair h.read)
  have hqueue : (loop.trace s₀ σ (n + 1)).queue = (σ n).bytes := by
    rw [hstep.queue, h.read, List.nil_append]
  split
  · next hsilent => exact ⟨hstep.idle h.idle, hqueue.trans hsilent, hstep.requests.trans h.served⟩
  · next harrive => exact ⟨hstep.idle h.idle, hqueue ▸ harrive, hstep.requests.trans h.served⟩

theorem leadsTo_unread (hcond : Revived s₀ σ) {n j : Nat} (h : Drained req j (loop.trace s₀ σ n))
    (hcome : (firsts req (j + 1)).flatten <+: arrived σ n) :
    ∃ m, n ≤ m ∧ Reading req j (loop.trace s₀ σ m) := by
  have hstuck : Stuck (loop.trace s₀ σ n).recvBuf (loop.trace s₀ σ n).queue := by
    refine ⟨h.read, (req j).length, ?_⟩
    have hbytes := next_request h₀ hreq hfair hbusy h.served hcome
    rw [h.read, List.append_nil] at hbytes
    obtain ⟨rest, hrest⟩ := hbytes
    rw [← hrest]
    exact frame_append (hreq.framed j) rest
  obtain ⟨i, hin, hstrands, hbetween⟩ := stranded_before h₀ hreq hfair hbusy hstuck
  obtain ⟨m, him, harrive⟩ := hcond i hstrands
  have hnm : n ≤ m := by
    by_contra hlt
    exact harrive (hbetween m him (by omega))
  have hstep : ∀ k, Drained req j (loop.trace s₀ σ k) →
      Reading req j (loop.trace s₀ σ (k + 1)) ∨ Drained req j (loop.trace s₀ σ (k + 1)) := by
    intro k hk
    have := drained_step h₀ hreq hfair hbusy hk
    split at this
    · exact .inr this
    · exact .inl this
  rcases holds_until (P := fun k => Drained req j (loop.trace s₀ σ k))
    (Q := fun k => Reading req j (loop.trace s₀ σ k))
    hstep hnm h with ⟨k, hnk, -, hk⟩ | hm
  · exact ⟨k, hnk, hk⟩
  · have hread := drained_step h₀ hreq hfair hbusy hm
    rw [if_neg harrive] at hread
    exact ⟨m + 1, by omega, hread⟩

/-- **Progress.** A request that has come is answered. -/
theorem served_next (hcond : Revived s₀ σ) {n j : Nat}
    (hj : requests (loop.trace s₀ σ n).log = firsts req j)
    (hcome : (firsts req (j + 1)).flatten <+: arrived σ n) :
    ∃ m, n ≤ m ∧ requests (loop.trace s₀ σ m).log = firsts req (j + 1) := by
  obtain ⟨m, hnm, hidle⟩ := leadsTo_idle h₀ hreq hfair hbusy n
  rcases holds_until (P := fun k => requests (loop.trace s₀ σ k).log = firsts req j)
    (Q := fun k => requests (loop.trace s₀ σ k).log = firsts req (j + 1))
    (fun k hk => served_step h₀ hreq hfair hbusy hk) hnm hj with ⟨i, hni, -, hi⟩ | hm
  · exact ⟨i, hni, hi⟩
  · have hcome' := hcome.trans (arrived_mono σ hnm)
    have hreading : ∃ k, m ≤ k ∧ Reading req j (loop.trace s₀ σ k) := by
      by_cases hq : (loop.trace s₀ σ m).queue = []
      · exact leadsTo_unread h₀ hreq hfair hbusy hcond ⟨hidle, hq, hm⟩ hcome'
      · exact ⟨m, Nat.le_refl m, hidle, hq, hm⟩
    obtain ⟨k, hmk, hk⟩ := hreading
    obtain ⟨i, hki, hi⟩ := leadsTo_read h₀ hreq hfair hbusy hcome k ⟨hnm.trans hmk, hk⟩
    exact ⟨i, by omega, hi⟩

theorem served_mono {n m j : Nat} (hnm : n ≤ m) (hj : requests (loop.trace s₀ σ n).log = firsts req j) :
    ∃ j', j ≤ j' ∧ requests (loop.trace s₀ σ m).log = firsts req j' := by
  induction m, hnm using Nat.le_induction with
  | base => exact ⟨j, Nat.le_refl j, hj⟩
  | succ m _ ih =>
    obtain ⟨j', hle, hj'⟩ := ih
    rcases served_step h₀ hreq hfair hbusy hj' with h | h
    · exact ⟨j' + 1, by omega, h⟩
    · exact ⟨j', hle, h⟩

theorem all_served (hcond : Revived s₀ σ) (k : Nat) {n : Nat}
    (hcome : (firsts req k).flatten <+: arrived σ n) :
    ∃ m j, n ≤ m ∧ k ≤ j ∧ requests (loop.trace s₀ σ m).log = firsts req j := by
  induction k with
  | zero =>
    obtain ⟨j, hj⟩ := (trace_keeps h₀ hreq hfair hbusy n).served
    exact ⟨n, j, Nat.le_refl n, Nat.zero_le j, hj⟩
  | succ k ih =>
    have hshort : (firsts req k).flatten <+: arrived σ n := by
      refine List.IsPrefix.trans ?_ hcome
      rw [firsts_succ, List.flatten_append]
      exact List.prefix_append _ _
    obtain ⟨m, j, hnm, hkj, hj⟩ := ih hshort
    by_cases hlt : k < j
    · exact ⟨m, j, hnm, hlt, hj⟩
    · have hjk : j = k := by omega
      subst hjk
      obtain ⟨i, hmi, hi⟩ := served_next h₀ hreq hfair hbusy hcond hj (hcome.trans (arrived_mono σ hnm))
      exact ⟨i, j + 1, by omega, Nat.le_refl _, hi⟩

/-! ## All requests -/

theorem answered_of_revived (hcond : Revived s₀ σ) : Answered req s₀ σ where
  inOrder n := by
    have h := trace_keeps h₀ hreq hfair hbusy n
    exact ⟨h.served, h.wire ▸ List.prefix_append _ _⟩
  eventually n k hcome := by
    obtain ⟨m, j, hnm, hkj, hj⟩ := all_served h₀ hreq hfair hbusy hcond k hcome
    obtain ⟨i, hmi, hidle⟩ := leadsTo_idle h₀ hreq hfair hbusy m
    obtain ⟨j', hjj', hj'⟩ := served_mono h₀ hreq hfair hbusy hmi hj
    have hwire := (trace_keeps h₀ hreq hfair hbusy i).wire
    rw [hidle, List.drop_nil, List.append_nil] at hwire
    refine ⟨i, (loop.trace s₀ σ i).log, by omega, List.prefix_refl _, hwire ▸ List.prefix_refl _, ?_⟩
    obtain ⟨d, rfl⟩ := Nat.exists_eq_add_of_le (hkj.trans hjj')
    rw [hj', firsts_add]
    exact List.prefix_append _ _

theorem revived_of_answered (h : Answered req s₀ σ) : Revived s₀ σ := by
  intro n hstrands
  by_contra hno
  have hsilent : ∀ m, n < m → (σ m).bytes = [] := fun m hm => by_contra fun hne => hno ⟨m, hm, hne⟩
  have hforever := fun {m : Nat} => stranded_forever h₀ hreq hfair hbusy hstrands hsilent (m := m)
  have hinv := trace_keeps h₀ hreq hfair hbusy (n + 1)
  obtain ⟨⟨hqueue, need, hf⟩, -⟩ := hforever (Nat.le_refl (n + 1))
  obtain ⟨j, hj⟩ := hinv.served
  -- The request that waits is the one after those that were answered.
  have hcome : (firsts req (j + 1)).flatten <+: arrived σ (n + 1) := by
    rcases hinv.front hreq.framed (hreq.stream (n + 1)) hj with ⟨hfront, -⟩ | ⟨-, hf'⟩
    · rw [← hinv.received, hj, hqueue, List.append_nil, firsts_succ, List.flatten_append,
        List.flatten_singleton]
      exact (List.prefix_append_right_inj _).mpr hfront
    · cases hf.symm.trans hf'
  obtain ⟨m, log, hnm, hlog, -, hserved⟩ := h.eventually (n + 1) (j + 1) hcome
  have hlen := (hserved.trans (hlog.filterMap _)).length_le
  change _ ≤ (requests (loop.trace s₀ σ m).log).length at hlen
  rw [(hforever hnm).2, hj, firsts_length, firsts_length] at hlen
  omega

end

/-- **Every request is answered, in order and once,** exactly when every read
that takes the last byte of the socket and leaves a complete request is
followed by more input. -/
theorem requests_answered_iff {req : Nat → Bytes} {σ : Nat → Event} (ctx : IpcContext)
    (uid pid : UInt32) (ticks : UInt64)
    (hreq : Requests req σ) (hfair : Fair (accept ctx uid pid ticks) σ)
    (hbusy : NotifiesBusy (accept ctx uid pid ticks) σ) :
    Answered req (accept ctx uid pid ticks) σ ↔ Revived (accept ctx uid pid ticks) σ :=
  have h₀ := inv_accept req ctx uid pid ticks
  ⟨revived_of_answered h₀ hreq hfair hbusy, answered_of_revived h₀ hreq hfair hbusy⟩

/-! ## Two runs -/

def pingRequest : Bytes := toLE 4 ipcMagic.toNat ++ (toLE 4 ipcVersion ++ (toLE 4 1 ++ toLE 4 0))

def pingContext : IpcContext where
  toIpcState := clientProtected
  startTimeSec := 0
  lastAttestTime := 0
  attestCount := 0
  failCount := 0
  mode := 0

def pingConn : Conn := accept pingContext 1000 100 7

def pingServed : Served where
  now := 500
  time := 1700000500
  geteuid := 0
  getpid := 50
  privileged := false
  withinRate := true
  proc := fun _ => none
  procfs := (clientCall noVerity).procfs
  tpmQuote := smallQuote

/-- The events of a list, and then nothing that concerns the connection. -/
def script (evs : List Event) (n : Nat) : Event := evs.getD n (.context pingContext)

theorem script_end {evs : List Event} {n : Nat} (h : evs.length ≤ n) :
    script evs n = .context pingContext :=
  List.getD_eq_default evs _ h

theorem script_arrived (evs : List Event) (n : Nat) :
    arrived (script evs) n <+: arrived (script evs) evs.length := by
  rcases Nat.le_total n evs.length with h | h
  · exact arrived_mono _ h
  · induction n, h using Nat.le_induction with
    | base => exact List.prefix_refl _
    | succ n hn ih =>
      rw [arrived, script_end hn]
      simpa [Event.bytes] using ih

theorem script_still {s₀ : Conn} {evs : List Event} {n : Nat} (h : evs.length ≤ n) :
    (loop.trace s₀ (script evs) n).queue = (loop.trace s₀ (script evs) evs.length).queue ∧
      (loop.trace s₀ (script evs) n).armed = (loop.trace s₀ (script evs) evs.length).armed := by
  induction n, h using Nat.le_induction with
  | base => exact ⟨rfl, rfl⟩
  | succ n hn ih =>
    have hstep : loop.trace s₀ (script evs) (n + 1) = step (loop.trace s₀ (script evs) n)
        (script evs n) := rfl
    rw [hstep, script_end hn, ← ih.1, ← ih.2]
    unfold step
    split
    · exact ⟨rfl, rfl⟩
    · exact ⟨rfl, rfl⟩

/-- The kernel may report this. -/
def reportable (s : Conn) : Event → Bool
  | .ready ⟨epollin, epollout, hup, _, .bytes _, sends⟩ =>
    !hup && !sends.contains .error && (!epollin || !s.queue.isEmpty) && (!epollout || s.armed)
  | .ready _ => false
  | _ => true

def Event.isNotify : Event → Bool
  | .notify _ => true
  | _ => false

def reads : Event → Bool
  | .ready e => e.epollin
  | _ => false

def writes : Event → Bool
  | .ready e => e.epollout && !e.sends.isEmpty
  | _ => false

theorem reads_ready {ev : Event} (h : reads ev = true) : ∃ e, ev = .ready e ∧ e.epollin = true := by
  cases ev with
  | ready e => exact ⟨e, rfl, h⟩
  | context ctx => cases h
  | arrive bs => cases h
  | notify events => cases h

theorem writes_ready {ev : Event} (h : writes ev = true) :
    ∃ e, ev = .ready e ∧ e.epollout = true ∧ e.sends ≠ [] := by
  cases ev with
  | ready e =>
    simp only [writes, Bool.and_eq_true, Bool.not_eq_true', List.isEmpty_eq_false_iff] at h
    exact ⟨e, rfl, h⟩
  | context ctx => cases h
  | arrive bs => cases h
  | notify events => cases h

theorem reportable_ready {s : Conn} {e : Ready} (h : reportable s (.ready e) = true) :
    e.Clean ∧ (e.epollin = true → s.queue ≠ []) ∧ (e.epollout = true → s.armed = true) := by
  obtain ⟨epollin, epollout, hup, served, recv, sends⟩ := e
  cases recv with
  | eof => cases h
  | error => cases h
  | bytes n =>
    simp only [reportable, Bool.and_eq_true, Bool.or_eq_true, Bool.not_eq_true',
      List.contains_eq_mem, decide_eq_false_iff_not, List.isEmpty_eq_false_iff] at h
    obtain ⟨⟨⟨hhup, hsends⟩, hin⟩, hout⟩ := h
    refine ⟨⟨hhup, ⟨n, rfl⟩, hsends⟩, fun h => ?_, fun h => ?_⟩
    · exact hin.resolve_left fun hoff => Bool.false_ne_true (hoff.symm.trans h)
    · exact hout.resolve_left fun hoff => Bool.false_ne_true (hoff.symm.trans h)

/-- A run of finitely many events is fair when they are, and nothing is left
to read or to send behind them. -/
theorem script_fair {s₀ : Conn} {evs : List Event}
    (hreport : ∀ n < evs.length, reportable (loop.trace s₀ (script evs) n) (script evs n) = true)
    (hread : ∀ n < evs.length, (loop.trace s₀ (script evs) n).queue.isEmpty = true ∨
      ∃ m < evs.length, n ≤ m ∧ reads (script evs m) = true)
    (hwrite : ∀ n < evs.length, (loop.trace s₀ (script evs) n).armed = false ∨
      ∃ m < evs.length, n ≤ m ∧ writes (script evs m) = true)
    (hqueue : (loop.trace s₀ (script evs) evs.length).queue = [])
    (harmed : (loop.trace s₀ (script evs) evs.length).armed = false) : Fair s₀ (script evs) := by
  have hready : ∀ n e, script evs n = .ready e →
      reportable (loop.trace s₀ (script evs) n) (.ready e) = true := by
    intro n e hev
    by_cases hn : n < evs.length
    · rw [← hev]
      exact hreport n hn
    · rw [script_end (by omega)] at hev
      cases hev
  constructor
  case clean => exact fun n e hev => (reportable_ready (hready n e hev)).1
  case epollin => exact fun n e hev => (reportable_ready (hready n e hev)).2.1
  case epollout => exact fun n e hev => (reportable_ready (hready n e hev)).2.2
  case readable =>
    intro n hq
    by_cases hn : n < evs.length
    · rcases hread n hn with hnil | ⟨m, -, hnm, hm⟩
      · exact absurd (List.isEmpty_iff.mp hnil) hq
      · obtain ⟨e, hev, hin⟩ := reads_ready hm
        exact ⟨m, e, hnm, hev, hin⟩
    · exact absurd ((script_still (by omega)).1.trans hqueue) hq
  case writable =>
    intro n ha
    by_cases hn : n < evs.length
    · rcases hwrite n hn with hoff | ⟨m, -, hnm, hm⟩
      · rw [hoff] at ha
        cases ha
      · obtain ⟨e, hev, hout, hsends⟩ := writes_ready hm
        exact ⟨m, e, hnm, hev, hout, hsends⟩
    · rw [(script_still (by omega)).2, harmed] at ha
      cases ha

/-- A run without notifications. -/
theorem script_ne_notify {evs : List Event} (h : ∀ n < evs.length, (script evs n).isNotify = false)
    (n : Nat)
    (events : UInt32) : script evs n ≠ .notify events := by
  intro hev
  by_cases hn : n < evs.length
  · have hno := h n hn
    rw [hev] at hno
    cases hno
  · rw [script_end (by omega)] at hev
    cases hev

theorem script_quiet {s₀ : Conn} {evs : List Event}
    (h : ∀ n < evs.length, (script evs n).isNotify = false) : NotifiesBusy s₀ (script evs) :=
  ⟨fun n events hev => absurd hev (script_ne_notify h n events), 0,
    fun n events _ hev => absurd hev (script_ne_notify h n events)⟩

/-- The event leaves no complete request in the receive buffer. -/
def drains (s : Conn) : Event → Bool
  | .ready e => !e.epollin || frame (s.receive e.bytes).unserved == .incomplete
  | _ => true

theorem script_revived {s₀ : Conn} {evs : List Event}
    (h : ∀ n < evs.length, drains (loop.trace s₀ (script evs) n) (script evs n) = true) :
    Revived s₀ (script evs) := by
  intro n hstrands
  obtain ⟨e, hev, hin, -, need, hf⟩ := hstrands.ready
  by_cases hn : n < evs.length
  · have hdrains := h n hn
    rw [hev] at hdrains
    simp only [drains, hin, Bool.not_true, Bool.false_or, beq_iff_eq, hf] at hdrains
    cases hdrains
  · rw [script_end (by omega)] at hev
    cases hev

/-- A `recv` and a `send` of at most `n` bytes. -/
def readEvent (n : Nat) : Event := .ready ⟨true, false, false, pingServed, .bytes n, []⟩

def writeEvent (n : Nat) : Event := .ready ⟨false, true, false, pingServed, .bytes 1, [.bytes n]⟩

/-- Two pings come in one piece. The first `recv` ends inside the first one,
the second inside the second one, and the second reply goes out in two
pieces. -/
def splitScript : List Event :=
  [.arrive (pingRequest ++ pingRequest), readEvent 10, readEvent 16, writeEvent 28, readEvent 16,
    writeEvent 20, writeEvent 8]

/-- Both pings are answered. -/
theorem requests_answered_iff_split :
    (loop.trace pingConn (script splitScript) 3).recvBuf = pingRequest.take 10 ∧
      (loop.trace pingConn (script splitScript) 7).wire.length = 56 ∧
      Answered (fun _ => pingRequest) pingConn (script splitScript) := by
  have hreq : Requests (fun _ => pingRequest) (script splitScript) :=
    ⟨fun _ => by decide, fun n => ⟨2, (script_arrived splitScript n).trans (by decide +kernel)⟩⟩
  have hfair : Fair pingConn (script splitScript) :=
    script_fair (by decide +kernel) (by decide +kernel) (by decide +kernel) (by decide +kernel)
      (by decide +kernel)
  refine ⟨by decide +kernel, by decide +kernel,
    (requests_answered_iff pingContext 1000 100 7 hreq hfair (script_quiet (by decide))).mpr ?_⟩
  -- no read leaves a complete request in the buffer
  exact script_revived (by decide +kernel)

/-- Two pings that come with one `recv`. -/
def pipelinedScript : List Event :=
  [.arrive (pingRequest ++ pingRequest), readEvent recvBufSize, writeEvent 28]

/-- The second waits in the receive buffer forever. -/
theorem pipelined_ping_lost :
    Requests (fun _ => pingRequest) (script pipelinedScript) ∧ Fair pingConn (script pipelinedScript) ∧
      (∀ n events, script pipelinedScript n ≠ .notify events) ∧
      ¬ Answered (fun _ => pingRequest) pingConn (script pipelinedScript) := by
  have hreq : Requests (fun _ => pingRequest) (script pipelinedScript) :=
    ⟨fun _ => by decide, fun n => ⟨2, (script_arrived pipelinedScript n).trans (by decide +kernel)⟩⟩
  have hfair : Fair pingConn (script pipelinedScript) :=
    script_fair (by decide +kernel) (by decide +kernel) (by decide +kernel) (by decide +kernel)
      (by decide +kernel)
  have hquiet : ∀ n events, script pipelinedScript n ≠ .notify events := script_ne_notify (by decide)
  refine ⟨hreq, hfair, hquiet, fun hanswered => ?_⟩
  have hrevived :=
    revived_of_answered (inv_accept _ pingContext 1000 100 7) hreq hfair
      (script_quiet (by decide)) hanswered
  have hstrands : Strands (loop.trace pingConn (script pipelinedScript) 1) (script pipelinedScript 1) :=
    ⟨rfl, by decide +kernel, 16, by decide +kernel⟩
  -- nothing arrives behind it
  obtain ⟨m, hm, harrive⟩ := hrevived 1 hstrands
  rcases m with _ | _ | _ | m
  · omega
  · omega
  · exact harrive rfl
  · exact harrive rfl

end Lota.L6.Ipc

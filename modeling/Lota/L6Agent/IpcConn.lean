import Lota.Core.LeadsTo
import Lota.L6Agent.TokenReply

/-!
# One connection of the IPC server (`agent/ipc.c`)

The agent serves its clients from one epoll loop. A connection has a receive
buffer for one maximal request and a send buffer for one message. The loop
reads when the socket has bytes, answers at most one request per read and none
while a message is being sent, and writes while `EPOLLOUT` is armed.

The state has the client, the bytes of the socket that the agent has not
received, and two histories: the bytes it has sent, and the messages it has
put into the send buffer, each reply with its request.

* `processRequest`: the dispatcher and its handlers.
* `handleClientRead`, `handleClientWrite`: the two halves of an event.
* `loop`: the connection as a machine over what the kernel, the client and the
  rest of the agent do.
-/
namespace Lota.L6.Ipc
open Lota.Core Lota.L1.Report Lota.L4.Token Lota.L4.Gaming Lota.L6.ProtectedSet Lota.L6.RuntimeImage
open Lota.L6.GetToken Lota.L6.TokenReply

/-! ## The state -/

def ipcVersion : Nat := 1
def ipcRequestSize : Nat := 16
def ipcNotify : Nat := 0x80

/-- `sizeof(client->recv_buf)` -/
def recvBufSize : Nat := ipcRequestSize + ipcMaxPayload

/-- `struct ipc_context`, with `g_agent` behind it. -/
structure IpcContext extends IpcState where
  startTimeSec : UInt64
  lastAttestTime : UInt64
  attestCount : UInt32
  failCount : UInt32
  mode : UInt8

/-- mirrors src/agent/ipc.c:182-199; the buffers up to their lengths -/
structure Client where
  peerUid : UInt32
  peerPid : UInt32
  peerStartTimeTicks : UInt64
  recvBuf : Bytes
  sendBuf : Bytes
  sendOffset : Nat
  subscribed : Bool
  eventMask : UInt32
  notifyPending : Bool
  pendingEvents : UInt32
  shutdownOnFlush : Bool

inductive Message where
  | reply (request bytes : Bytes)
  | notification (bytes : Bytes)
  deriving DecidableEq

def Message.bytes : Message → Bytes
  | .reply _ bs => bs
  | .notification bs => bs

/-- The requests that were answered, in the order of the answers. -/
def requests (log : List Message) : List Bytes :=
  log.filterMap fun
    | .reply request _ => some request
    | .notification _ => none

def flat (log : List Message) : Bytes := log.flatMap Message.bytes

structure Conn extends Client where
  ctx : IpcContext
  /-- `EPOLLOUT` is in the epoll mask. -/
  armed : Bool
  /-- What the client has sent and the agent has not received. -/
  queue : Bytes
  /-- What the agent has sent. -/
  wire : Bytes
  /-- What was put into the send buffer. -/
  log : List Message
  /-- `client_destroy` has not been called. -/
  alive : Bool
  /-- `g_agent.running` -/
  running : Bool

/-- mirrors src/agent/ipc.c:485-515 and 1674-1729 -/
def accept (ctx : IpcContext) (peerUid peerPid : UInt32) (peerStartTimeTicks : UInt64) : Conn where
  peerUid := peerUid
  peerPid := peerPid
  peerStartTimeTicks := peerStartTimeTicks
  recvBuf := []
  sendBuf := []
  sendOffset := 0
  subscribed := false
  eventMask := 0
  notifyPending := false
  pendingEvents := 0
  shutdownOnFlush := false
  ctx := ctx
  armed := false
  queue := []
  wire := []
  log := []
  alive := true
  running := true

/-! ## Messages -/

/-- `struct lota_ipc_response` and its payload. -/
def response (result : Nat) (payload : Bytes) : Bytes :=
  toLE 4 ipcMagic.toNat ++ (toLE 4 ipcVersion ++ (toLE 4 result ++ (toLE 4 payload.length ++ payload)))

/-- mirrors include/lota_ipc.h:47-59 -/
def resultCode : IpcResult → Nat
  | .ok => 0x00
  | .badRequest => 0x02
  | .notAttested => 0x03
  | .tpmFailure => 0x04
  | .internal => 0x05
  | .rateLimited => 0x06
  | .accessDenied => 0x07
  | .tpmLockout => 0x09

def errUnknownCmd : Nat := 0x01
def errBadVersion : Nat := 0x08

/-- The fields that `struct lota_ipc_status` and `struct lota_ipc_notify` have
behind their flags. -/
def statusTail (ctx : IpcContext) : Bytes :=
  toLE 8 ctx.lastAttestTime.toNat ++ (toLE 8 ctx.validUntil.toNat ++ (toLE 4 ctx.attestCount.toNat ++
    (toLE 4 ctx.failCount.toNat ++ [ctx.mode, 0, 0, 0])))

/-- mirrors src/agent/ipc.c:613-636 -/
def notification (ctx : IpcContext) (events : UInt32) : Bytes :=
  response ipcNotify (toLE 4 events.toNat ++ (toLE 4 ctx.statusFlags.toNat ++ statusTail ctx))

namespace Conn

def buildResponse (s : Conn) (result : Nat) (payload : Bytes) : Conn :=
  { s with sendBuf := response result payload, sendOffset := 0 }

/-- mirrors src/agent/ipc.c:549-562 -/
def buildErrorResponse (s : Conn) (result : Nat) : Conn := s.buildResponse result []

def buildNotification (s : Conn) (events : UInt32) : Conn :=
  { s with
    sendBuf := notification s.ctx events
    sendOffset := 0
    log := s.log ++ [.notification (notification s.ctx events)] }

/-- mirrors src/agent/ipc.c:638-654 -/
def pushNotify (s : Conn) (events : UInt32) : Conn :=
  let relevant := events &&& s.eventMask
  if relevant = 0 then s
  else if s.sendBuf.length > s.sendOffset then
    { s with notifyPending := true, pendingEvents := s.pendingEvents ||| relevant }
  else s.buildNotification relevant

/-- mirrors src/agent/ipc.c:656-664, for this client -/
def notifySubscribers (s : Conn) (events : UInt32) : Conn :=
  if s.subscribed then s.pushNotify events else s

end Conn

/-! ## Requests -/

/-- What the agent finds while it serves a request. -/
structure Served where
  /-- `monotonic_now_sec` -/
  now : UInt64
  /-- `time(NULL)` -/
  time : UInt64
  geteuid : UInt32
  getpid : UInt32
  /-- `ipc_client_is_privileged` -/
  privileged : Bool
  /-- `check_protect_pid_rate_limit` -/
  withinRate : Bool
  proc : Proc
  procfs : Procfs
  tpmQuote : Hash → UInt32 → Except QuoteError QuoteResponse

namespace Conn

/-- mirrors src/agent/ipc.c:666-687 -/
def handlePing (s : Conn) (w : Served) : Conn :=
  let uptimeSec := if w.now ≥ s.ctx.startTimeSec then w.now - s.ctx.startTimeSec else 0
  s.buildResponse 0 (toLE 8 uptimeSec.toNat ++ toLE 4 w.getpid.toNat)

/-- mirrors src/agent/ipc.c:689-712 -/
def handleGetStatus (s : Conn) : Conn :=
  s.buildResponse 0 (toLE 4 s.ctx.statusFlags.toNat ++ (toLE 4 0 ++ statusTail s.ctx))

def tokenCall (s : Conn) (w : Served) (payload : Bytes) : TokenCall where
  peerUid := s.peerUid
  nonce := if payload.length ≥ 32 then some (toBlob 32 payload) else none
  now := w.now
  procfs := w.procfs
  tpmQuote := w.tpmQuote

/-- A quote that finds the TPM locked out goes through `ipc_update_status`,
which stamps the time. It is the only path that changes the flags. A
notification to this client is overwritten by the error.
mirrors src/agent/ipc.c:723-985 -/
def handleGetToken (s : Conn) (w : Served) (payload : Bytes) : Conn :=
  let r := GetToken.handleGetToken s.ctx.toIpcState (s.tokenCall w payload)
  let stamp := if r.1.statusFlags = s.ctx.statusFlags then s.ctx.lastAttestTime else w.time
  let s := { s with ctx := { s.ctx with toIpcState := r.1, lastAttestTime := stamp } }
  match r.2 with
  | .ok token => s.buildResponse 0 (replyPayload token)
  | .error e => s.buildErrorResponse (resultCode e)

/-- mirrors src/agent/ipc.c:602-611 -/
def isAgentSelf (s : Conn) (w : Served) : Bool := s.peerUid = w.geteuid && s.peerPid = w.getpid

/-- mirrors src/agent/ipc.c:993-1031 -/
def handleSubscribe (s : Conn) (w : Served) (payload : Bytes) : Conn :=
  if s.isAgentSelf w = false then s.buildErrorResponse (resultCode .accessDenied)
  else if payload.length < 4 then s.buildErrorResponse (resultCode .badRequest)
  else
    let eventMask := UInt32.ofNat (leAt payload 0 4)
    if eventMask = 0 then
      { s with subscribed := false, eventMask := 0, notifyPending := false,
               pendingEvents := 0 }.buildResponse 0 []
    else { s with subscribed := true, eventMask }.buildResponse 0 []

def pidRequest (s : Conn) (w : Served) (payload : Bytes) (add : Bool) : PidRequest where
  add := add
  payloadOk := payload.length ≥ 4
  pid := UInt32.ofNat (leAt payload 0 4)
  peerPid := s.peerPid
  peerStartTimeTicks := s.peerStartTimeTicks
  privileged := w.privileged
  withinRate := w.withinRate
  proc := w.proc

/-- mirrors src/agent/ipc.c:1187-1391 -/
def handleProtectPidUpdate (s : Conn) (w : Served) (payload : Bytes) (add : Bool) : Conn :=
  let r := ProtectedSet.handleProtectPidUpdate s.ctx.agent (s.pidRequest w payload add)
  let s := { s with ctx := { s.ctx with agent := r.1 } }
  if r.2 = .ok then
    s.buildResponse 0 (s.ctx.policyDigest.toList ++
      (toLE 4 s.ctx.agent.policyProtectPids.length ++ toLE 4 0))
  else s.buildErrorResponse (resultCode r.2)

/-- mirrors src/agent/ipc.c:1393-1421 -/
def handleShutdown (s : Conn) (w : Served) (payload : Bytes) : Conn :=
  if payload.length ≠ 0 then s.buildErrorResponse (resultCode .badRequest)
  else if w.privileged = false then s.buildErrorResponse (resultCode .accessDenied)
  else { s.buildResponse 0 [] with shutdownOnFlush := true }

end Conn

/-- The commands by their numbers. mirrors src/agent/ipc.c:1423-1457 -/
def validateRequestPayloadLen (cmd payloadLen : Nat) : Bool :=
  if cmd = 3 then payloadLen = 0 || payloadLen = 32
  else if cmd = 4 ∨ cmd = 5 ∨ cmd = 6 then payloadLen = 4
  else payloadLen = 0

/-- The request is at the front of the receive buffer.
mirrors src/agent/ipc.c:1459-1522 -/
def Conn.processRequest (s : Conn) (w : Served) : Conn :=
  let cmd := leAt s.recvBuf 8 4
  let payloadLen := leAt s.recvBuf 12 4
  let payload := (s.recvBuf.drop ipcRequestSize).take payloadLen
  if leAt s.recvBuf 0 4 ≠ ipcMagic.toNat then s.buildErrorResponse (resultCode .badRequest)
  else if leAt s.recvBuf 4 4 ≠ ipcVersion then s.buildErrorResponse errBadVersion
  else if validateRequestPayloadLen cmd payloadLen = false then s.buildErrorResponse
    (resultCode .badRequest)
  else match cmd with
    | 1 => s.handlePing w
    | 2 => s.handleGetStatus
    | 3 => s.handleGetToken w payload
    | 4 => s.handleSubscribe w payload
    | 5 => s.handleProtectPidUpdate w payload true
    | 6 => s.handleProtectPidUpdate w payload false
    | 7 => s.handleShutdown w payload
    | _ => s.buildErrorResponse errUnknownCmd

/-! ## Reading -/

/-- What a buffer has at its front. -/
inductive Frame where
  | incomplete
  | oversized
  | complete (need : Nat)
  deriving DecidableEq

/-- mirrors src/agent/ipc.c:1535-1548 and 1565-1578 -/
def frame (buf : Bytes) : Frame :=
  if buf.length < ipcRequestSize then .incomplete
  else
    let payloadLen := leAt buf 12 4
    if payloadLen > ipcMaxPayload then .oversized
    else if buf.length ≥ ipcRequestSize + payloadLen then .complete (ipcRequestSize + payloadLen)
    else .incomplete

/-- How the kernel answers `recv`: with up to `n` bytes, at least one, with
the end of the stream, or with an error. -/
inductive Recv where
  | bytes (n : Nat)
  | eof
  | error

inductive Received where
  | again
  | failed
  | data (bs rest : Bytes)

/-- `recv` into `room` bytes. A call for no bytes returns 0, like the end of
the stream. -/
def recv (r : Recv) (room : Nat) (queue : Bytes) : Received :=
  match r with
  | .eof => .failed
  | .error => .failed
  | .bytes n =>
    if room = 0 then .failed
    else if queue = [] then .again
    else .data (queue.take (min (max 1 n) room)) (queue.drop (min (max 1 n) room))

namespace Conn

/-- From the label `have_request` on.
mirrors src/agent/ipc.c:1581-1608 -/
def haveRequest (s : Conn) (w : Served) (need : Nat) : Conn :=
  if s.sendBuf.length > 0 then s
  else
    let t := s.processRequest w
    { t with
      armed := if t.sendBuf.length > 0 then true else t.armed
      recvBuf := t.recvBuf.drop need
      log := t.log ++ [.reply (t.recvBuf.take need) t.sendBuf] }

/-- What a buffer that is not read into any more leads to, with `true` for a
negative result. mirrors src/agent/ipc.c:1565-1581 -/
def haveBytes (s : Conn) (w : Served) : Conn × Bool :=
  match frame s.recvBuf with
  | .oversized => (s, true)
  | .incomplete => (s, false)
  | .complete need => (s.haveRequest w need, false)

/-- mirrors src/agent/ipc.c:1524-1609 -/
def handleClientRead (s : Conn) (w : Served) (r : Recv) : Conn × Bool :=
  match frame s.recvBuf with
  | .oversized => (s, true)
  | .complete need => (s.haveRequest w need, false)
  | .incomplete =>
    match recv r (recvBufSize - s.recvBuf.length) s.queue with
    | .again => (s, false)
    | .failed => (s, true)
    | .data bs rest => { s with recvBuf := s.recvBuf ++ bs, queue := rest }.haveBytes w

end Conn

/-! ## Writing -/

/-- How the kernel answers one `send`; the end of a list of answers is
`EAGAIN`. -/
inductive Sent where
  | bytes (n : Nat)
  | error
  deriving DecidableEq

namespace Conn

/-- The loop, with `true` for an error.
mirrors src/agent/ipc.c:1620-1633 -/
def sendLoop (s : Conn) : List Sent → Conn × Bool
  | [] => (s, false)
  | r :: rest =>
    if s.sendOffset < s.sendBuf.length then
      match r with
      | .error => (s, true)
      | .bytes n =>
        let bs := (s.sendBuf.drop s.sendOffset).take (max 1 n)
        sendLoop { s with sendOffset := s.sendOffset + bs.length, wire := s.wire ++ bs } rest
    else (s, false)

def disarmIfIdle (s : Conn) : Conn := if s.sendBuf.length = 0 then { s with armed := false } else s

def shutdownIfAsked (s : Conn) : Conn :=
  if s.shutdownOnFlush then { s with shutdownOnFlush := false, running := false } else s

/-- The message is complete. mirrors src/agent/ipc.c:1635-1669 -/
def flushed (s : Conn) : Conn :=
  let s := { s with sendBuf := [], sendOffset := 0 }
  let s :=
    if s.subscribed && s.notifyPending then
      { s with notifyPending := false, pendingEvents := 0 }.buildNotification s.pendingEvents
    else s
  s.disarmIfIdle.shutdownIfAsked

/-- mirrors src/agent/ipc.c:1611-1672 -/
def handleClientWrite (s : Conn) (sends : List Sent) : Conn × Bool :=
  if s.sendBuf.length = 0 then (s, false)
  else
    let r := s.sendLoop sends
    if r.2 then (r.1, true)
    else if r.1.sendOffset ≥ r.1.sendBuf.length then (r.1.flushed, false)
    else (r.1, false)

end Conn

/-! ## The loop -/

/-- One entry of `epoll_wait` for the client. -/
structure Ready where
  epollin : Bool
  epollout : Bool
  /-- `EPOLLERR` or `EPOLLHUP` -/
  hup : Bool
  served : Served
  recv : Recv
  sends : List Sent

inductive Event where
  /-- The agent does something else and leaves this context. -/
  | context (ctx : IpcContext)
  /-- The client sends. -/
  | arrive (bs : Bytes)
  /-- `notify_subscribers` is called. -/
  | notify (events : UInt32)
  | ready (e : Ready)

/-- mirrors src/agent/ipc.c:1966-1991 -/
def Conn.ipcProcess (s : Conn) (e : Ready) : Conn :=
  let r := if e.epollin then s.handleClientRead e.served e.recv else (s, false)
  let q := if e.epollout then r.1.handleClientWrite e.sends else (r.1, false)
  if e.hup || (r.2 || q.2) then { q.1 with alive := false } else q.1

def step (s : Conn) (ev : Event) : Conn :=
  if s.alive then
    match ev with
    | .context ctx => { s with ctx }
    | .arrive bs => { s with queue := s.queue ++ bs }
    | .notify events => s.notifySubscribers events
    | .ready e => s.ipcProcess e
  else s

def loop : Machine Conn Event Unit := ⟨fun s ev => (step s ev, ())⟩

end Lota.L6.Ipc

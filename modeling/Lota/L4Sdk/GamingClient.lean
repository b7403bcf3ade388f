import Lota.Core.Delimited
import Lota.L4Sdk.WineHook

/-!
# A connection of the gaming SDK (`sdk/lota_gaming.c`)

A call sends one request and reads until it has a response; the notifications
that come before it go to the callback. `lota_poll_events` waits for
notifications and throws away a response that it meets. Any operation on the
socket may time out or fail, and the connection stays open then: the response
to a call that has given up is still to come.

* `Call.request`, `Call.outcome`: what a call sends, and what it makes of a
  response.
* `LotaClient.step`: one operation on the socket, with the answer of the
  kernel.
* `Patient`: the operation does not fail while something is half sent, half
  read or awaited.
* `step_does`: what one operation of a patient client can do.
-/
namespace Lota.L4.Gaming
open Lota.Core Lota.L1.Report Lota.L4.Token Lota.L4.WineHook

/-! ## Frames -/

def responseSize : Nat := 16

/-- `sizeof(struct lota_ipc_notify)` -/
def notifySize : Nat := 36

def frameMagic (frame : Bytes) : Nat := leAt frame 0 4
def frameResult (frame : Bytes) : UInt32 := UInt32.ofNat (leAt frame 8 4)
def framePayloadLen (frame : Bytes) : Nat := leAt frame 12 4
def framePayload (frame : Bytes) : Bytes := frame.drop responseSize

/-- `LOTA_IPC_NOTIFY` -/
def resultNotify : UInt32 := 0x80

/-- What `recv_response` takes for a notification. -/
def isNotify (frame : Bytes) : Bool := frameResult frame = resultNotify && framePayloadLen frame > 0

/-- A header of 16 bytes, with the length of what follows at its end. -/
def ipcFrame : Delimited UInt8 where
  head := 16
  size h := 16 + leAt h 12 4
  head_pos := by decide

theorem leAt_take {b : Bytes} {n off k : Nat} (h : off + k ≤ n) (hn : n ≤ b.length) :
    leAt (b.take n) off k = leAt b off k := by
  have happ : leAt (b.take n ++ b.drop n) off k = leAt (b.take n) off k :=
    leAt_append (by rw [List.length_take]; omega) (b.drop n)
  rw [List.take_append_drop] at happ
  exact happ.symm

theorem frameMagic_append {b : Bytes} (h : responseSize ≤ b.length) (c : Bytes) :
    frameMagic (b ++ c) = frameMagic b :=
  leAt_append (by unfold responseSize at h; omega) c

theorem whole_iff {b : Bytes} :
    ipcFrame.Whole b ↔ responseSize ≤ b.length ∧ b.length = responseSize + framePayloadLen b := by
  have hhead : ipcFrame.head = 16 := rfl
  have hsize : 16 ≤ b.length → ipcFrame.size (b.take 16) = 16 + framePayloadLen b :=
    fun h => congrArg (16 + ·) (leAt_take (by decide) h)
  unfold responseSize
  constructor
  · rintro ⟨hle, hlen⟩
    rw [hhead] at hle hlen
    exact ⟨hle, hlen.trans (hsize hle)⟩
  · rintro ⟨hle, hlen⟩
    refine ⟨hle, ?_⟩
    rw [hhead, hsize hle]
    exact hlen

/-! ## Calls -/

/-- `callback` with its `user_data`. -/
abbrev Callback := Nat

inductive Call where
  | ping
  | protectSelf (pid : UInt32)
  | getStatus
  | getToken (nonce : Option Hash)
  | subscribe (eventMask : UInt32) (callback : Option Callback)
  deriving DecidableEq

inductive Value where
  | uptime (sec : Option UInt64)
  | status (status : LotaStatus)
  | token (token : LotaToken)
  | done
  deriving DecidableEq

namespace Call

def cmd : Call → Nat
  | .ping => 1
  | .getStatus => 2
  | .getToken _ => 3
  | .subscribe .. => 4
  | .protectSelf _ => 5

def payload : Call → Bytes
  | .ping => []
  | .getStatus => []
  | .getToken none => []
  | .getToken (some nonce) => nonce.toList
  | .subscribe eventMask _ => toLE 4 eventMask.toNat
  | .protectSelf pid => toLE 4 pid.toNat

/-- `struct lota_ipc_request` and its payload.
mirrors src/sdk/lota_gaming.c:518-523, 555-563, 595-600, 659-673 and 948-954 -/
def request (c : Call) : Bytes :=
  toLE 4 ipcMagic.toNat ++ (toLE 4 1 ++ (toLE 4 c.cmd ++ (toLE 4 c.payload.length ++ c.payload)))

/-- The room for the payload of the response. -/
def payloadSize : Call → Nat
  | .ping => 12
  | .getStatus => ipcStatusSize
  | .getToken _ => ipcTokenMaxSize
  | .subscribe .. => 0
  | .protectSelf _ => 40

/-- What a call makes of its response.
mirrors src/sdk/lota_gaming.c:530-542, 571-579, 608-628, 681-796 and 962-970 -/
def read (c : Call) (reply : Reply) : Except LotaError Value :=
  match c with
  | .ping =>
    (recvResponse reply 12).map fun payload =>
      .uptime (if payload.length ≥ 12 then some (UInt64.ofNat (leAt payload 0 8)) else none)
  | .getStatus => (readStatus reply).map Value.status
  | .getToken _ => (Gaming.getToken reply).map Value.token
  | .subscribe .. => (recvResponse reply 0).map fun _ => .done
  | .protectSelf _ => (recvResponse reply 40).map fun _ => .done

/-- What a call makes of the frame that it takes for its response.
mirrors src/sdk/lota_gaming.c:238-257 -/
def outcome (c : Call) (frame : Bytes) : Except LotaError Value :=
  if framePayloadLen frame > c.payloadSize then .error .protocol
  else c.read (.response (UInt32.ofNat (frameMagic frame)) (frameResult frame) (framePayload frame))

/-- mirrors src/sdk/lota_gaming.c:945-946 -/
def refused : Call → Bool
  | .subscribe eventMask none => eventMask ≠ 0
  | _ => false

end Call

/-- A token has the nonce of the reply. -/
theorem getToken_nonce {magic result : UInt32} {payload : Bytes} {t : LotaToken}
    (h : getToken (.response magic result payload) = .ok t) :
    ipcTokenHeaderSize ≤ payload.length ∧ t.nonce = blobAt 32 payload 12 := by
  have hrecv : ∀ buf, recvResponse (.response magic result payload) ipcTokenMaxSize = .ok buf →
      buf = payload := by
    intro buf hbuf
    unfold recvResponse at hbuf
    simp only at hbuf
    repeat' split at hbuf
    all_goals cases hbuf
    rfl
  unfold getToken at h
  split at h
  · cases h
  · next buf hbuf =>
    rw [hrecv buf hbuf] at h
    split at h
    · cases h
    · next hlong =>
      refine ⟨Nat.not_lt.mp hlong, ?_⟩
      unfold parseIpcToken at h
      simp only at h
      repeat' split at h
      all_goals cases h <;> rfl

theorem outcome_token {nonce : Option Hash} {f : Bytes} {t : LotaToken}
    (h : Call.outcome (.getToken nonce) f = .ok (.token t)) :
    ipcTokenHeaderSize ≤ (framePayload f).length ∧ t.nonce = blobAt 32 (framePayload f) 12 := by
  unfold Call.outcome at h
  split at h
  · cases h
  · unfold Call.read at h
    simp only at h
    cases hget :
      getToken (.response (UInt32.ofNat (frameMagic f)) (frameResult f) (framePayload f)) with
    | error e =>
      rw [hget] at h
      cases h
    | ok t' =>
      rw [hget] at h
      cases h
      exact getToken_nonce hget

/-! ## The client -/

/-- The `timeout_ms` of `lota_poll_events`. -/
inductive Wait where
  | nonblocking
  | timed
  | infinite
  deriving DecidableEq

/-- Who reads: a call, or `lota_poll_events` with what it has dispatched. -/
inductive Reader where
  | call (c : Call)
  | poll (wait : Wait) (dispatched : Nat)

inductive Phase where
  | idle
  /-- `off` bytes of the request are out. -/
  | sending (c : Call) (off : Nat)
  | reading (r : Reader)
  /-- `lota_poll_events` waits for the socket: before it reads, and behind a
  notification. -/
  | waiting (wait : Wait) (dispatched : Nat)
  | more (wait : Wait) (dispatched : Nat)

/-- What was returned; a call with the frame that it took for its response. -/
inductive Done where
  | call (c : Call) (answer : Option Bytes) (r : Except LotaError Value)
  | poll (r : Except LotaError Nat)

/-- `struct lota_client`, where its thread is, and the histories: the requests
that went out, the frames that came in, what the callbacks were called with,
and what was returned. -/
structure LotaClient where
  phase : Phase
  /-- What has been read of a frame. -/
  buf : Bytes
  callback : Option Callback
  sent : List Bytes
  frames : List Bytes
  dispatched : List (Callback × LotaStatus × UInt32)
  returned : List Done

/-- mirrors src/sdk/lota_gaming.c:441-487 -/
def lotaConnect : LotaClient where
  phase := .idle
  buf := []
  callback := none
  sent := []
  frames := []
  dispatched := []
  returned := []

/-- How a socket operation fails: `-ETIMEDOUT`, `-ECONNRESET`, or another
error. -/
inductive Fault where
  | timeout
  | reset
  | error
  deriving DecidableEq

def Fault.toError : Fault → LotaError
  | .timeout => .timeout
  | .reset => .protocol
  | .error => .protocol

/-- How the kernel answers. -/
inductive Io where
  | bytes (n : Nat)
  | ready
  | fault (f : Fault)

inductive Act where
  | call (c : Call)
  | poll (wait : Wait)
  | io (a : Io)

/-- What a notification tells: the status and the events. -/
def told (payload : Bytes) : LotaStatus × UInt32 :=
  ({ flags := UInt32.ofNat (leAt payload 4 4)
     lastAttestTime := UInt64.ofNat (leAt payload 8 8)
     validUntil := UInt64.ofNat (leAt payload 16 8)
     attestCount := UInt32.ofNat (leAt payload 24 4)
     failCount := UInt32.ofNat (leAt payload 28 4) },
    UInt32.ofNat (leAt payload 0 4))

namespace LotaClient

def ret (s : LotaClient) (d : Done) : LotaClient :=
  { s with phase := .idle, buf := [], returned := s.returned ++ [d] }

/-- mirrors src/sdk/lota_gaming.c:284-305 -/
def dispatchNotification (s : LotaClient) (payload : Bytes) : LotaClient × Nat :=
  match s.callback with
  | none => (s, 0)
  | some callback =>
    if payload.length < notifySize then (s, 0)
    else ({ s with dispatched := s.dispatched ++ [(callback, told payload)] }, 1)

/-- How many bytes of the payload are kept. The rest is drained. -/
def keep (r : Reader) (frame : Bytes) : Nat :=
  match r with
  | .call c =>
    if isNotify frame then min (framePayloadLen frame) notifySize
    else if framePayloadLen frame > c.payloadSize then 0
    else framePayloadLen frame
  | .poll .. => if frameResult frame = resultNotify then min (framePayloadLen frame) notifySize else 0

/-- How many bytes the next `recv` may return: of the header, of what is kept,
or of what is drained. -/
def missing (r : Reader) (buf : Bytes) : Nat :=
  if buf.length < responseSize then responseSize - buf.length
  else if buf.length < responseSize + keep r buf then responseSize + keep r buf - buf.length
  else min 256 (responseSize + framePayloadLen buf - buf.length)

def setCallback (s : LotaClient) (c : Call) (r : Except LotaError Value) : LotaClient :=
  match c, r with
  | .subscribe _ callback, .ok _ => { s with callback }
  | _, _ => s

/-- Behind a frame. mirrors src/sdk/lota_gaming.c:208-257 and 1046-1093 -/
def afterFrame (s : LotaClient) (r : Reader) (frame : Bytes) : LotaClient :=
  let nbuf := (framePayload frame).take notifySize
  match r with
  | .call c =>
    if isNotify frame then { (s.dispatchNotification nbuf).1 with buf := [] }
    else (s.ret (.call c (some frame) (c.outcome frame))).setCallback c (c.outcome frame)
  | .poll wait n =>
    if frameResult frame ≠ resultNotify then { s with buf := [] }
    else if framePayloadLen frame > 0 then
      { (s.dispatchNotification nbuf).1 with
        phase := .more wait (n + (s.dispatchNotification nbuf).2), buf := [] }
    else { s with phase := .more wait n, buf := [] }

/-- `lota_poll_events` has read what was queued.
mirrors src/sdk/lota_gaming.c:1095-1103 -/
def drained (s : LotaClient) (wait : Wait) (n : Nat) : LotaClient :=
  match wait with
  | .nonblocking => s.ret (.poll (.ok n))
  | .infinite =>
    if n > 0 then s.ret (.poll (.ok n)) else { s with phase := .waiting wait n, buf := [] }
  | .timed => { s with phase := .waiting wait n, buf := [] }

def hungUp (s : LotaClient) (n : Nat) : LotaClient :=
  s.ret (.poll (if n > 0 then .ok n else .error .notConnected))

/-- `recv` returns bytes of the socket `pipe`; also what is left in it.
mirrors src/sdk/lota_gaming.c:144-257 and 1031-1080 -/
def readBytes (s : LotaClient) (r : Reader) (n : Nat) (pipe : Bytes) : LotaClient × Bytes :=
  let m := min (max 1 n) (missing r s.buf)
  let buf := s.buf ++ pipe.take m
  if buf.length < responseSize then ({ s with buf }, pipe.drop m)
  else if frameMagic buf ≠ ipcMagic.toNat then
    match r with
    | .call c => (s.ret (.call c none (.error .protocol)), pipe.drop m)
    | .poll .. => (s.ret (.poll (.error .protocol)), pipe.drop m)
  else if buf.length < responseSize + framePayloadLen buf then ({ s with buf }, pipe.drop m)
  else ({ s with frames := s.frames ++ [buf] }.afterFrame r buf, pipe.drop m)

/-- What is being read fails. A failure of `drain_payload` is not looked at.
mirrors src/sdk/lota_gaming.c:203-252 and 1031-1080 -/
def readFault (s : LotaClient) (r : Reader) (f : Fault) : LotaClient :=
  if responseSize ≤ s.buf.length ∧ responseSize + keep r s.buf ≤ s.buf.length then
    s.afterFrame r s.buf
  else match r, f with
    | .call c, f => s.ret (.call c none (.error f.toError))
    | .poll _ n, .reset => s.hungUp n
    | .poll wait n, .timeout =>
      if s.buf.length < responseSize then s.drained wait n else s.ret (.poll (.error .protocol))
    | .poll .., .error => s.ret (.poll (.error .protocol))

/-- `send_request`. mirrors src/sdk/lota_gaming.c:46-65 and 104-127 -/
def sendBytes (s : LotaClient) (c : Call) (off n : Nat) : LotaClient × Bytes :=
  let out := (c.request.drop off).take (max 1 n)
  if off + out.length < c.request.length then
    ({ s with phase := .sending c (off + out.length) }, out)
  else ({ s with phase := .reading (.call c), buf := [], sent := s.sent ++ [c.request] }, out)

/-- The client, what it sends, and what it leaves in the socket.
mirrors src/sdk/lota_gaming.c:507-580, 933-972 and 986-1107 -/
def step (s : LotaClient) (a : Act) (pipe : Bytes) : LotaClient × Bytes × Bytes :=
  match s.phase, a with
  | .idle, .call c =>
    if c.refused then (s.ret (.call c none (.error .invalidArg)), [], pipe)
    else ({ s with phase := .sending c 0 }, [], pipe)
  | .idle, .poll wait => ({ s with phase := .waiting wait 0 }, [], pipe)
  | .sending c off, .io (.bytes n) => ((s.sendBytes c off n).1, (s.sendBytes c off n).2, pipe)
  | .sending c _, .io (.fault f) => (s.ret (.call c none (.error f.toError)), [], pipe)
  | .reading r, .io (.bytes n) => ((s.readBytes r n pipe).1, [], (s.readBytes r n pipe).2)
  | .reading r, .io (.fault f) => (s.readFault r f, [], pipe)
  | .waiting wait n, .io .ready => ({ s with phase := .reading (.poll wait n), buf := [] }, [], pipe)
  | .waiting _ n, .io (.fault .timeout) => (s.ret (.poll (.ok n)), [], pipe)
  | .waiting _ n, .io (.fault .reset) => (s.hungUp n, [], pipe)
  | .waiting _ _, .io (.fault .error) => (s.ret (.poll (.error .protocol)), [], pipe)
  | .more wait n, .io .ready => ({ s with phase := .reading (.poll wait n), buf := [] }, [], pipe)
  | .more wait n, .io (.fault .timeout) => (s.drained wait n, [], pipe)
  | .more _ n, .io (.fault .reset) => (s.hungUp n, [], pipe)
  | .more wait n, .io (.fault .error) =>
    ({ s with phase := .reading (.poll wait n), buf := [] }, [], pipe)
  | _, _ => (s, [], pipe)

/-! ## What an operation can do -/

/-- A call that has its response, and what it returned. -/
structure Answer where
  call : Call
  frame : Bytes
  result : Except LotaError Value

/-- The calls that returned with a response, in their order. -/
def answers (s : LotaClient) : List Answer :=
  s.returned.filterMap fun
    | .call call (some frame) result => some ⟨call, frame, result⟩
    | _ => none

/-- The call whose response is awaited. -/
def awaited (s : LotaClient) : Option Call :=
  match s.phase with
  | .reading (.call c) => some c
  | _ => none

/-- The call that is under way. -/
def calling (s : LotaClient) : Option Call :=
  match s.phase with
  | .sending c _ => some c
  | .reading (.call c) => some c
  | _ => none

/-- What is out of the request that is being sent. -/
def part (s : LotaClient) : Bytes :=
  match s.phase with
  | .sending c off => c.request.take off
  | _ => []

/-- No failure while a request is half sent, a response awaited or a frame half
read. -/
def Patient (s : LotaClient) : Act → Prop
  | .io (.fault _) =>
    match s.phase with
    | .sending _ off => off = 0
    | .reading (.call _) => False
    | .reading (.poll ..) => s.buf = []
    | _ => True
  | _ => True

/-- Where the client is in a frame and in a request. -/
structure Placed (s : LotaClient) : Prop where
  buf : s.buf.length < responseSize ∨ s.buf.length < responseSize + framePayloadLen s.buf
  off : ∀ c off, s.phase = .sending c off → off < c.request.length
  between : (∀ r, s.phase ≠ .reading r) → s.buf = []

/-- The same but for the callback and what was returned without a response. -/
structure Same (s t : LotaClient) : Prop where
  buf : t.buf = s.buf
  sent : t.sent = s.sent
  frames : t.frames = s.frames
  dispatched : t.dispatched = s.dispatched
  answers : t.answers = s.answers

/-- Behind the frame `f`: who read it, what was dispatched and what was
returned. -/
structure Took (s t : LotaClient) (f : Bytes) : Prop where
  buf : t.buf = []
  part : t.part = []
  sent : t.sent = s.sent
  frames : t.frames = s.frames ++ [f]
  dispatched : t.dispatched = s.dispatched ∨
    isNotify f = true ∧ ∃ cb, t.dispatched = s.dispatched ++
    [(cb, told ((framePayload f).take notifySize))]
  notify : isNotify f = true → t.answers = s.answers ∧ t.awaited = s.awaited
  response : isNotify f = false →
    (s.awaited = none ∧ t.answers = s.answers ∧ t.awaited = none) ∨
    ∃ c, s.awaited = some c ∧ t.answers = s.answers ++ [⟨c, f, c.outcome f⟩] ∧ t.phase = .idle

/-- What one operation does with what is in the socket: nothing, or it sends,
reads a piece, or reads the last piece of a frame; or what it reads is no
frame. -/
inductive Does (s : LotaClient) (pipe : Bytes) : LotaClient → Bytes → Bytes → Prop where
  | quiet {t : LotaClient} (same : Same s t) (part : t.part = s.part)
    (awaited : t.awaited = s.awaited) : Does s pipe t [] pipe
  | sends {t : LotaClient} {out : Bytes} (same : Same s t) (part : t.part = s.part ++ out)
    (awaited : s.awaited = none ∧ t.awaited = none) : Does s pipe t out pipe
  | sent {t : LotaClient} {c : Call} {out : Bytes} (same : Same s { t with sent := s.sent })
    (request : s.part ++ out = c.request) (sent : t.sent = s.sent ++ [c.request]) (part : t.part = [])
    (awaited : s.awaited = none ∧ t.awaited = some c) : Does s pipe t out pipe
  | reads {t : LotaClient} {pipe' : Bytes} (same : Same s { t with buf := s.buf })
    (read : t.buf ++ pipe' = s.buf ++ pipe) (part : t.part = s.part) (awaited : t.awaited = s.awaited) :
    Does s pipe t [] pipe'
  | frame {t : LotaClient} {pipe' : Bytes} (f : Bytes) (took : Took s t f) (whole : ipcFrame.Whole f)
    (read : f ++ pipe' = s.buf ++ pipe) (part : s.part = []) : Does s pipe t [] pipe'
  | garbled {t : LotaClient} {pipe' : Bytes} (long : responseSize ≤ (s.buf ++ pipe).length)
    (magic : frameMagic (s.buf ++ pipe) ≠ ipcMagic.toNat) : Does s pipe t [] pipe'

variable {s t : LotaClient} {pipe : Bytes}

@[simp] theorem answers_ret_poll (s : LotaClient) (r : Except LotaError Nat) :
    (s.ret (.poll r)).answers = s.answers := by
  simp [answers, ret]

@[simp] theorem answers_ret_none (s : LotaClient) (c : Call) (r : Except LotaError Value) :
    (s.ret (.call c none r)).answers = s.answers := by
  simp [answers, ret]

@[simp] theorem answers_ret_some (s : LotaClient) (c : Call) (f : Bytes) (r : Except LotaError Value) :
    (s.ret (.call c (some f) r)).answers = s.answers ++ [⟨c, f, r⟩] := by
  simp [answers, ret]

theorem setCallback_eq (s : LotaClient) (c : Call) (r : Except LotaError Value) :
    ∃ callback, s.setCallback c r = { s with callback } := by
  unfold setCallback
  split
  · exact ⟨_, rfl⟩
  · exact ⟨s.callback, rfl⟩

theorem dispatch_eq (s : LotaClient) (payload : Bytes) :
    ∃ dispatched, (s.dispatchNotification payload).1 = { s with dispatched } ∧
      (dispatched = s.dispatched ∨ ∃ cb, dispatched = s.dispatched ++ [(cb, told payload)]) := by
  unfold dispatchNotification
  split
  · exact ⟨s.dispatched, rfl, .inl rfl⟩
  · next cb hcb =>
    split
    · exact ⟨s.dispatched, rfl, .inl rfl⟩
    · exact ⟨_, rfl, .inr ⟨cb, rfl⟩⟩

/-! ### Where the client is -/

theorem placed_of_nil (hbuf : s.buf = [])
    (hoff : ∀ c off, s.phase = .sending c off → off < c.request.length) : Placed s :=
  ⟨.inl (by rw [hbuf]; decide), hoff, fun _ => hbuf⟩

theorem placed_ret (s : LotaClient) (d : Done) : Placed (s.ret d) := placed_of_nil rfl nofun

theorem placed_drained (s : LotaClient) (wait : Wait) (n : Nat) : Placed (s.drained wait n) := by
  unfold drained
  split
  · exact placed_ret s _
  · split
    · exact placed_ret s _
    · exact placed_of_nil rfl nofun
  · exact placed_of_nil rfl nofun

theorem placed_afterFrame {r : Reader} (h : s.phase = .reading r) (f : Bytes) :
    Placed (s.afterFrame r f) := by
  have hphase : ∀ c off, s.phase = .sending c off → off < c.request.length := by
    intro c off hc
    rw [h] at hc
    cases hc
  obtain ⟨dispatched, hd, -⟩ := dispatch_eq s ((framePayload f).take notifySize)
  unfold afterFrame
  simp only [hd]
  split
  · split
    · exact placed_of_nil rfl hphase
    · obtain ⟨callback, hset⟩ :=
        setCallback_eq (s.ret (.call _ (some f) (Call.outcome _ f))) _ (Call.outcome _ f)
      rw [hset]
      exact placed_of_nil rfl nofun
  · split
    · exact placed_of_nil rfl hphase
    · split
      · exact placed_of_nil rfl nofun
      · exact placed_of_nil rfl nofun

theorem request_length (c : Call) : c.request.length = 16 + c.payload.length := by
  simp [Call.request]
  omega

/-- **Step.** -/
theorem step_placed (h : Placed s) (a : Act) (pipe : Bytes) : Placed (s.step a pipe).1 := by
  unfold step
  split
  case h_1 c hp =>
    split
    · exact placed_ret s _
    · refine placed_of_nil (h.between fun r hr => ?_) fun c' off hc => ?_
      · rw [hp] at hr
        cases hr
      · cases hc
        rw [request_length]
        omega
  case h_2 wait hp =>
    refine placed_of_nil (h.between fun r hr => ?_) nofun
    rw [hp] at hr
    cases hr
  case h_3 c off n hp =>
    unfold sendBytes
    simp only
    split
    · next hlt =>
      refine placed_of_nil (h.between fun r hr => ?_) fun c' off' hc => ?_
      · rw [hp] at hr
        cases hr
      · cases hc
        exact hlt
    · exact placed_of_nil rfl nofun
  case h_4 => exact placed_ret s _
  case h_5 r n hp =>
    unfold readBytes
    simp only
    have hphase : ∀ c off, s.phase = .sending c off → off < c.request.length := h.off
    split
    · next hlt => exact ⟨.inl hlt, hphase, fun hr => absurd hp (hr r)⟩
    · split
      · split
        · exact placed_ret s _
        · exact placed_ret s _
      · split
        · next hlt => exact ⟨.inr hlt, hphase, fun hr => absurd hp (hr r)⟩
        · refine placed_afterFrame ?_ _
          exact hp
  case h_6 r f hp =>
    unfold readFault
    split
    · exact placed_afterFrame hp _
    · split
      · exact placed_ret s _
      · exact placed_ret s _
      · split
        · exact placed_drained s _ _
        · exact placed_ret s _
      · exact placed_ret s _
  case h_7 => exact placed_of_nil rfl nofun
  case h_8 => exact placed_ret s _
  case h_9 => exact placed_ret s _
  case h_10 => exact placed_ret s _
  case h_11 => exact placed_of_nil rfl nofun
  case h_12 => exact placed_drained s _ _
  case h_13 => exact placed_ret s _
  case h_14 => exact placed_of_nil rfl nofun
  case h_15 => exact h

/-! ### What it does -/

/-- The client sends nothing, awaits nothing and is between two frames. -/
structure Rests (s : LotaClient) : Prop where
  buf : s.buf = []
  part : s.part = []
  awaited : s.awaited = none

theorem rests_ret (s : LotaClient) (d : Done) : Rests (s.ret d) := ⟨rfl, rfl, rfl⟩

theorem Rests.quiet (hs : Rests s) (ht : Rests t) (hsent : t.sent = s.sent)
    (hframes : t.frames = s.frames)
    (hdisp : t.dispatched = s.dispatched) (hans : t.answers = s.answers) : Does s pipe t [] pipe :=
  .quiet ⟨ht.buf.trans hs.buf.symm, hsent, hframes, hdisp, hans⟩ (ht.part.trans hs.part.symm)
    (ht.awaited.trans hs.awaited.symm)

theorem Rests.waits (hs : Rests s) {phase : Phase} (ht : Rests { s with phase, buf := [] }) :
    Does s pipe { s with phase, buf := [] } [] pipe :=
  hs.quiet ht rfl rfl rfl rfl

theorem Rests.drained (hs : Rests s) (wait : Wait) (n : Nat) :
    Does s pipe (s.drained wait n) [] pipe := by
  have hret : Does s pipe (s.ret (.poll (.ok n))) [] pipe :=
    hs.quiet (rests_ret s _) rfl rfl rfl (answers_ret_poll s _)
  unfold LotaClient.drained
  split
  · exact hret
  · split
    · exact hret
    · exact hs.waits ⟨rfl, rfl, rfl⟩
  · exact hs.waits ⟨rfl, rfl, rfl⟩

theorem Rests.hungUp (hs : Rests s) (n : Nat) : Does s pipe (s.hungUp n) [] pipe :=
  hs.quiet (rests_ret s _) rfl rfl rfl (answers_ret_poll s _)

theorem keep_le (r : Reader) (f : Bytes) : keep r f ≤ framePayloadLen f := by
  unfold keep
  split
  · split
    · exact Nat.min_le_left _ _
    · split
      · exact Nat.zero_le _
      · exact Nat.le_refl _
  · split
    · exact Nat.min_le_left _ _
    · exact Nat.zero_le _

/-- No more is read than what belongs to the frame. -/
theorem missing_le {r : Reader} (h : responseSize ≤ s.buf.length) :
    s.buf.length + missing r s.buf ≤ max s.buf.length (responseSize + framePayloadLen s.buf) := by
  have hkeep := keep_le r s.buf
  unfold missing
  rw [if_neg (Nat.not_lt.mpr h)]
  split
  · omega
  · omega

/-- The last piece of a frame makes it whole. -/
theorem whole_of_read {r : Reader} {n : Nat} (h : Placed s)
    (hlong : responseSize ≤ (s.buf ++ pipe.take (min (max 1 n) (missing r s.buf))).length)
    (hdone : responseSize + framePayloadLen (s.buf ++ pipe.take (min (max 1 n) (missing r s.buf))) ≤
      (s.buf ++ pipe.take (min (max 1 n) (missing r s.buf))).length) :
    ipcFrame.Whole (s.buf ++ pipe.take (min (max 1 n) (missing r s.buf))) := by
  refine whole_iff.mpr ⟨hlong, Nat.le_antisymm ?_ hdone⟩
  have hread : (s.buf ++ pipe.take (min (max 1 n) (missing r s.buf))).length ≤ s.buf.length +
      missing r s.buf := by
    rw [List.length_append, List.length_take]
    omega
  by_cases hhead : responseSize ≤ s.buf.length
  · have hsame : framePayloadLen (s.buf ++ pipe.take (min (max 1 n) (missing r s.buf))) =
        framePayloadLen s.buf :=
      leAt_append (by unfold responseSize at hhead; omega) _
    have hmissing := missing_le (r := r) hhead
    have hbuf := h.buf
    rw [hsame]
    omega
  · -- only the header was asked for
    have hmissing : missing r s.buf = responseSize - s.buf.length := if_pos (Nat.not_le.mp hhead)
    omega

theorem took_afterFrame {r : Reader} (hp : s.phase = .reading r) (f : Bytes) :
    Took s ({ s with frames := s.frames ++ [f] }.afterFrame r f) f := by
  have hpart : s.part = [] := by
    unfold LotaClient.part
    rw [hp]
  obtain ⟨dispatched, hd, hnew⟩ :=
    dispatch_eq { s with frames := s.frames ++ [f] } ((framePayload f).take notifySize)
  unfold afterFrame
  simp only [hd]
  cases r with
  | call c =>
    have hawaited : s.awaited = some c := by
      unfold LotaClient.awaited
      rw [hp]
    simp only
    by_cases hn : isNotify f = true
    · rw [if_pos hn]
      exact ⟨rfl, hpart, rfl, rfl, hnew.imp_right fun h => ⟨hn, h⟩, fun _ => ⟨rfl, rfl⟩,
        fun hf => absurd (hn.symm.trans hf) (by decide)⟩
    · rw [if_neg hn]
      obtain ⟨callback, hset⟩ := setCallback_eq
        (({ s with frames := s.frames ++ [f] } : LotaClient).ret (.call c (some f) (c.outcome f)))
          c (c.outcome f)
      rw [hset]
      refine ⟨rfl, rfl, rfl, rfl, .inl rfl, fun hf => absurd hf hn,
        fun _ => .inr ⟨c, hawaited, ?_, rfl⟩⟩
      exact answers_ret_some { s with frames := s.frames ++ [f] } c f _
  | poll wait n =>
    have hawaited : s.awaited = none := by
      unfold LotaClient.awaited
      rw [hp]
    simp only
    by_cases hr : frameResult f = resultNotify
    · rw [if_neg (not_not.mpr hr)]
      by_cases hlen : framePayloadLen f > 0
      · have hn : isNotify f = true := by simp [isNotify, hr, hlen]
        rw [if_pos hlen]
        exact ⟨rfl, rfl, rfl, rfl, hnew.imp_right fun h => ⟨hn, h⟩, fun _ => ⟨rfl, hawaited.symm⟩,
          fun hf => absurd (hn.symm.trans hf) (by decide)⟩
      · have hn : isNotify f = false := by simp [isNotify, hlen]
        rw [if_neg hlen]
        exact ⟨rfl, rfl, rfl, rfl, .inl rfl, fun hf => absurd (hf.symm.trans hn) (by decide),
          fun _ => .inl ⟨hawaited, rfl, rfl⟩⟩
    · have hn : isNotify f = false := by simp [isNotify, hr]
      rw [if_pos hr]
      exact ⟨rfl, hpart, rfl, rfl, .inl rfl, fun hf => absurd (hf.symm.trans hn) (by decide),
        fun _ => .inl ⟨hawaited, rfl, hawaited⟩⟩

theorem awaited_of_idle (h : s.phase = .idle) : s.awaited = none := by
  unfold LotaClient.awaited
  rw [h]

theorem calling_of_awaited {c : Call} (h : s.awaited = some c) : s.calling = some c := by
  unfold LotaClient.awaited at h
  split at h
  · next hp =>
    cases h
    unfold LotaClient.calling
    rw [hp]
  · cases h

theorem readBytes_does (h : Placed s) {r : Reader} (hp : s.phase = .reading r) (n : Nat)
    (pipe : Bytes) : Does s pipe (s.readBytes r n pipe).1 [] (s.readBytes r n pipe).2 := by
  have hread : (s.buf ++ pipe.take (min (max 1 n) (missing r s.buf))) ++
      pipe.drop (min (max 1 n) (missing r s.buf)) = s.buf ++ pipe := by
    rw [List.append_assoc, List.take_append_drop]
  have hpart : s.part = [] := by
    unfold LotaClient.part
    rw [hp]
  have hpiece : Does s pipe { s with buf := s.buf ++ pipe.take (min (max 1 n) (missing r s.buf)) } []
      (pipe.drop (min (max 1 n) (missing r s.buf))) :=
    .reads ⟨rfl, rfl, rfl, rfl, rfl⟩ hread rfl rfl
  unfold readBytes
  simp only
  split
  · exact hpiece
  · next hlong =>
    have hlong := Nat.not_lt.mp hlong
    split
    · next hmagic =>
      have hbad : ∀ t pipe', Does s pipe t [] pipe' := by
        intro t pipe'
        refine .garbled ?_ ?_
        · rw [← hread, List.length_append]
          omega
        · rw [← hread, frameMagic_append hlong]
          exact hmagic
      split
      · exact hbad _ _
      · exact hbad _ _
    · split
      · exact hpiece
      · next hdone =>
        exact .frame _ (took_afterFrame hp _) (whole_of_read h hlong (Nat.not_lt.mp hdone)) hread hpart

theorem sendBytes_does (h : Placed s) {c : Call} {off : Nat} (hp : s.phase = .sending c off)
    (n : Nat) (pipe : Bytes) :
    Does s pipe (s.sendBytes c off n).1 (s.sendBytes c off n).2 pipe := by
  have hpart : s.part = c.request.take off := by
    unfold LotaClient.part
    rw [hp]
  have hawaited : s.awaited = none := by
    unfold LotaClient.awaited
    rw [hp]
  have hbuf : s.buf = [] := h.between fun r hr => by
    rw [hp] at hr
    cases hr
  have hoff := h.off c off hp
  have hout : c.request.take off ++ (c.request.drop off).take (max 1 n) =
      c.request.take (off + max 1 n) :=
    List.take_add.symm
  unfold sendBytes
  simp only
  split
  · next hlt =>
    refine .sends ⟨rfl, rfl, rfl, rfl, rfl⟩ ?_ ⟨hawaited, rfl⟩
    show c.request.take (off + ((c.request.drop off).take (max 1 n)).length) = _
    rw [hpart, hout]
    rw [List.length_take, List.length_drop] at hlt ⊢
    congr 1
    omega
  · next hge =>
    refine .sent ⟨hbuf.symm, rfl, rfl, rfl, rfl⟩ ?_ rfl rfl ⟨hawaited, rfl⟩
    rw [hpart, hout]
    apply List.take_of_length_le
    rw [List.length_take, List.length_drop] at hge
    omega

/-- **Step.** One operation of a patient client. -/
theorem step_does (h : Placed s) {a : Act} (ha : Patient s a) (pipe : Bytes) :
    Does s pipe (s.step a pipe).1 (s.step a pipe).2.1 (s.step a pipe).2.2 := by
  have hrest : (∀ r, s.phase ≠ .reading r) → (∀ c off, s.phase = .sending c off → off = 0) →
      Rests s := by
    intro hr hc
    refine ⟨h.between hr, ?_, ?_⟩
    · unfold LotaClient.part
      split
      · next c off hp =>
        rw [hc c off hp]
        rfl
      · rfl
    · unfold LotaClient.awaited
      split
      · next c hp => exact absurd hp (hr _)
      · rfl
  unfold step
  split
  case h_1 c hp =>
    have hs : Rests s := hrest (by simp [hp]) (by simp [hp])
    split
    · exact hs.quiet (rests_ret s _) rfl rfl rfl (answers_ret_none s _ _)
    · exact hs.quiet ⟨hs.buf, rfl, rfl⟩ rfl rfl rfl rfl
  case h_2 wait hp =>
    have hs : Rests s := hrest (by simp [hp]) (by simp [hp])
    exact hs.quiet ⟨hs.buf, rfl, rfl⟩ rfl rfl rfl rfl
  case h_3 c off n hp => exact sendBytes_does h hp n pipe
  case h_4 c off f hp =>
    have hoff : off = 0 := by simpa [Patient, hp] using ha
    have hs : Rests s := hrest (by simp [hp]) (by simp [hp, hoff])
    exact hs.quiet (rests_ret s _) rfl rfl rfl (answers_ret_none s _ _)
  case h_5 r n hp => exact readBytes_does h hp n pipe
  case h_6 r f hp =>
    cases r with
    | call c => exact absurd ha (by simp [Patient, hp])
    | poll wait n =>
      have hbuf : s.buf = [] := by simpa [Patient, hp] using ha
      have hs : Rests s := ⟨hbuf, by simp [LotaClient.part, hp], by simp [LotaClient.awaited, hp]⟩
      unfold readFault
      rw [if_neg (by simp [hbuf, responseSize])]
      cases f with
      | timeout =>
        simp only
        rw [if_pos (by rw [hbuf]; decide)]
        exact hs.drained wait n
      | reset => exact hs.hungUp n
      | error => exact hs.quiet (rests_ret s _) rfl rfl rfl (answers_ret_poll s _)
  case h_7 wait n hp =>
    have hs : Rests s := hrest (by simp [hp]) (by simp [hp])
    exact hs.waits ⟨rfl, rfl, rfl⟩
  case h_8 wait n hp =>
    have hs : Rests s := hrest (by simp [hp]) (by simp [hp])
    exact hs.quiet (rests_ret s _) rfl rfl rfl (answers_ret_poll s _)
  case h_9 wait n hp =>
    have hs : Rests s := hrest (by simp [hp]) (by simp [hp])
    exact hs.hungUp n
  case h_10 wait n hp =>
    have hs : Rests s := hrest (by simp [hp]) (by simp [hp])
    exact hs.quiet (rests_ret s _) rfl rfl rfl (answers_ret_poll s _)
  case h_11 wait n hp =>
    have hs : Rests s := hrest (by simp [hp]) (by simp [hp])
    exact hs.waits ⟨rfl, rfl, rfl⟩
  case h_12 wait n hp =>
    have hs : Rests s := hrest (by simp [hp]) (by simp [hp])
    exact hs.drained wait n
  case h_13 wait n hp =>
    have hs : Rests s := hrest (by simp [hp]) (by simp [hp])
    exact hs.hungUp n
  case h_14 wait n hp =>
    have hs : Rests s := hrest (by simp [hp]) (by simp [hp])
    exact hs.waits ⟨rfl, rfl, rfl⟩
  case h_15 => exact .quiet ⟨rfl, rfl, rfl, rfl, rfl⟩ rfl rfl

theorem calling_drained (s : LotaClient) (wait : Wait) (n : Nat) :
    (s.drained wait n).calling = none := by
  unfold drained
  split
  · rfl
  · split <;> rfl
  · rfl

theorem calling_afterFrame {r : Reader} {c : Call} {f : Bytes}
    (h : (s.afterFrame r f).calling = some c) : s.calling = some c := by
  obtain ⟨dispatched, hd, -⟩ := dispatch_eq s ((framePayload f).take notifySize)
  unfold afterFrame at h
  simp only [hd] at h
  split at h
  · split at h
    · exact h
    · next c' _ =>
      obtain ⟨callback, hset⟩ :=
        setCallback_eq (s.ret (.call c' (some f) (c'.outcome f))) c' (c'.outcome f)
      rw [hset] at h
      cases h
  · split at h
    · exact h
    · split at h <;> cases h

/-- A call that is under way was under way, or is made by this step. -/
theorem step_calling {a : Act} {c : Call} (h : (s.step a pipe).1.calling = some c) :
    s.calling = some c ∨ s.phase = .idle ∧ a = .call c := by
  unfold step at h
  split at h
  case h_1 c' hp =>
    split at h
    · cases h
    · cases h
      exact .inr ⟨hp, rfl⟩
  case h_3 c' off n hp =>
    unfold sendBytes at h
    simp only at h
    split at h
    · cases h
      exact .inl (by simp [LotaClient.calling, hp])
    · cases h
      exact .inl (by simp [LotaClient.calling, hp])
  case h_5 r n hp =>
    unfold readBytes at h
    simp only at h
    split at h
    · exact .inl h
    · split at h
      · split at h <;> cases h
      · split at h
        · exact .inl h
        · have hframe := calling_afterFrame h
          exact .inl hframe
  case h_6 r f hp =>
    unfold readFault at h
    split at h
    · exact .inl (calling_afterFrame h)
    · split at h
      · cases h
      · cases h
      · split at h
        · rw [calling_drained] at h
          cases h
        · cases h
      · cases h
  case h_12 wait n hp =>
    rw [calling_drained] at h
    cases h
  case h_15 => exact .inl h
  all_goals cases h

end LotaClient

end Lota.L4.Gaming

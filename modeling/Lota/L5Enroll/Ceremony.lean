import Lota.Core.Dialogue
import Lota.L5Enroll.BeginRate
import Lota.L5Enroll.EnrollRuns
import Lota.L5Enroll.WireC
import Mathlib.Data.List.TakeWhile

/-!
# The enrollment ceremony: agent and CA over one connection

`enroll_to_ca` (`agent/enroll_client.c`) and `handle`
(`attestca/server/server.go`) as the programs they are, over frames that go
by pieces (`Core.Dialogue`). Any number of agents enroll at the same time; the
handlers share the service and the limiter, and go on in any order.

* `enrollToCa`, `handle`: the two sides, with every error path.
* `serve`: what the service does with a question of a handler. `Begin` and
  `Complete` are two questions each, as they hold the lock in one part only.
* `act`: one step of one of the parties.

What the TPM, the file system and the network answer, the clock readings and
the random draws come with the steps.
-/
namespace Lota.L5.Ceremony
open Lota.Core Lota.Core.Dialogue
open Lota.L5.BeginRate (Config RateTable allowBegin)
open Lota.L5.Enroll (Service EnrollError Prepared Taken)
open Lota.L5.Wire

/-! ## Frames -/

def maxFrame : Nat := 16 * 1024

/-- The body length, big-endian, then the body.
mirrors src/agent/enroll_client.c:22-60 and src/attestca/wire/wire.go:297-328 -/
def framing : Framing where
  len := 4
  header := fun b => toBE 4 b.length
  size := fun h => if ofBE h > maxFrame then none else some (ofBE h)
  fits := fun b => decide (b.length ≤ maxFrame)
  len_pos := by decide
  header_length := fun b _ => toBE_length 4 b.length
  size_header := by
    intro b hb
    have hle : b.length ≤ maxFrame := of_decide_eq_true hb
    have hlt : b.length < 256 ^ 4 := Nat.lt_of_le_of_lt hle (by decide)
    rw [ofBE_toBE 4 _ hlt, if_neg (Nat.not_lt.mpr hle)]

/-! ## The agent -/

def statusOK : UInt16 := 0
def statusBadRequest : UInt16 := 1
def statusEKRejected : UInt16 := 2
def statusAIKRejected : UInt16 := 3
def statusActivationFail : UInt16 := 4
def statusUnknownSession : UInt16 := 5
def statusInternalError : UInt16 := 6
def statusRateLimited : UInt16 := 7

/-- The negative results of `enroll_to_ca`. -/
inductive Fault where
  | wire (f : Fail)
  | eacces
  | sys (errno : Nat)

/-- What `enroll_to_ca` asks of the TPM, the network and the file system. -/
inductive Ask where
  | ekCert
  | aikPublic
  | connect
  | activate (credBlob encSecret : Bytes)
  | storeCert (der : Bytes)

def Told : Ask → Type
  | .ekCert | .aikPublic | .activate _ _ => Except Fault Bytes
  | .connect | .storeCert _ => Except Fault Unit

/-- `uint8_t body[LOTA_ENROLL_MAX_FRAME]` -/
def frameBuf : Bytes := List.replicate maxFrame 0

/-- `ch.session_id` as a string. -/
def sessionString (id : Blob (maxSessionIDSize + 1)) : CString :=
  ⟨cString id.toList, fun h => by simpa using List.mem_takeWhile_imp h⟩

abbrev Agent := Prog Fault Ask Told (Except Fault Unit)

/-- mirrors src/agent/enroll_client.c:197-228 -/
def complete (ch : EnrollChallenge) (secret : Bytes) : Agent :=
  match enrollEncodeComplete (some frameBuf) (some (sessionString ch.sessionId)) (some secret) with
  | .error f => .ret (.error (.wire f))
  | .ok (blen, body) => .send (body.take blen) fun
    | .error e => .ret (.error e)
    | .ok () => .recv fun
      | .error e => .ret (.error e)
      | .ok rbuf =>
        match enrollDecodeResult (some rbuf) with
        | .error f => .ret (.error (.wire f))
        | .ok res =>
          if res.status ≠ statusOK then .ret (.error .eacces)
          else .call (.storeCert res.aikCert) fun
            | .error e => .ret (.error e)
            | .ok () => .ret (.ok ())

/-- mirrors src/agent/enroll_client.c:113-235 -/
def enrollToCa : Agent :=
  .call .ekCert fun
  | .error e => .ret (.error e)
  | .ok ek => .call .aikPublic fun
    | .error e => .ret (.error e)
    | .ok aik => .call .connect fun
      | .error e => .ret (.error e)
      | .ok () =>
        match enrollEncodeBegin (some frameBuf) (some ek) (some aik) with
        | .error f => .ret (.error (.wire f))
        | .ok (blen, body) => .send (body.take blen) fun
          | .error e => .ret (.error e)
          | .ok () => .recv fun
            | .error e => .ret (.error e)
            | .ok rbuf =>
              match enrollDecodeChallenge (some rbuf) with
              | .error f => .ret (.error (.wire f))
              | .ok ch =>
                if ch.status ≠ statusOK then .ret (.error .eacces)
                else .call (.activate ch.credBlob ch.encSecret) fun
                  | .error e => .ret (.error e)
                  | .ok secret => complete ch secret

/-! ## The CA -/

/-- How a read or a write may fail. -/
inductive NetError where
  | tooLarge
  | io

/-- What a handler asks of the limiter and the service. -/
inductive Query where
  | allowBegin (remote : Bytes)
  | prepare (ekCertDER aikPublic : Bytes)
  | commit (p : Prepared)
  | take (sessionID : String) (secret : Bytes)
  | finish (t : Taken)

def Answer : Query → Type
  | .allowBegin _ => Bool
  | .prepare _ _ => Except EnrollError Prepared
  | .commit _ => Except EnrollError Unit
  | .take _ _ => Option Taken
  | .finish _ => Except EnrollError (Bytes × String)

/-- Every error of `VerifyEKCertificate` is one of the first line's.
mirrors src/attestca/server/server.go:328-343 -/
def beginStatus : EnrollError → UInt16
  | .ekVerification _ | .ekKeyType => statusEKRejected
  | .aikDecode _ | .aikTemplate _ | .aikName | .aikKeyType => statusAIKRejected
  | .tooManyPending => statusRateLimited
  | _ => statusInternalError

/-- mirrors src/attestca/server/server.go:345-354 -/
def completeStatus : EnrollError → UInt16
  | .unknownSession | .sessionExpired => statusUnknownSession
  | .activationMismatch => statusActivationFail
  | _ => statusInternalError

/-- A Go string of these bytes. -/
def goString (bs : Bytes) : String := String.ofList (bs.map fun b => Char.ofNat b.toNat)

abbrev Handler := Prog NetError Query Answer Unit

/-- Encode and write, then go on; an error of either ends the handler.
mirrors src/attestca/server/server.go:305-326 -/
def writeReply (body : Except WireError Bytes) (k : Handler) : Handler :=
  match body with
  | .error _ => .ret ()
  | .ok body => .send body fun
    | .error _ => .ret ()
    | .ok () => k

def refuseBegin (status : UInt16) : Handler :=
  writeReply (encodeChallenge ⟨status, [], [], []⟩) (.ret ())

def refuseComplete (status : UInt16) : Handler := writeReply (encodeResult ⟨status, [], []⟩) (.ret ())

/-! `handle` from its end to its beginning, by the questions it asks. -/

/-- mirrors src/attestca/server/server.go:217-235 -/
def handleFinish (t : Taken) : Handler :=
  .call (.finish t) fun
  | .error e => refuseComplete (completeStatus e)
  | .ok (der, deviceID) => writeReply (encodeResult ⟨statusOK, der, ascii deviceID⟩) (.ret ())

def handleTake (req : CompleteRequest) : Handler :=
  .call (.take (goString req.sessionID) req.secret) fun
  | none => refuseComplete (completeStatus .unknownSession)
  | some t => handleFinish t

/-- mirrors src/attestca/server/server.go:211-235 -/
def handleComplete : Handler :=
  .recv fun
  | .error _ => .ret ()
  | .ok body =>
    match decodeComplete body with
    | .error _ => .ret ()
    | .ok req => handleTake req

/-- mirrors src/attestca/server/server.go:191-209 -/
def handleCommit (p : Prepared) : Handler :=
  .call (.commit p) fun
  | .error e => refuseBegin (beginStatus e)
  | .ok () =>
    writeReply (encodeChallenge ⟨statusOK, ascii p.sessionID, p.credentialBlob, p.encryptedSecret⟩)
      handleComplete

def handlePrepare (req : BeginRequest) : Handler :=
  .call (.prepare req.ekCertDER req.aikPublic) fun
  | .error e => refuseBegin (beginStatus e)
  | .ok p => handleCommit p

/-- mirrors src/attestca/server/server.go:182-190 -/
def handleBegin (remote : Bytes) (req : BeginRequest) : Handler :=
  .call (.allowBegin remote) fun
  | false => refuseBegin statusRateLimited
  | true => handlePrepare req

/-- mirrors src/attestca/server/server.go:173-236 -/
def handle (remote : Bytes) : Handler :=
  .recv fun
  | .error _ => .ret ()
  | .ok body =>
    match decodeBegin body with
    | .error _ => .ret ()
    | .ok req => handleBegin remote req

/-! ## Any interleaving -/

structure Conn where
  agent : Party Fault Ask Told (Except Fault Unit)
  handler : Party NetError Query Answer Unit
  /-- On the way to the CA. -/
  up : Bytes
  /-- On the way to the agent. -/
  down : Bytes

structure Server where
  service : Service
  table : RateTable
  conns : List Conn

/-- A clock reading and the two draws of `Begin`. -/
structure Env where
  now : Time
  secret : Except String Bytes
  sessionID : Except String Bytes

section
variable (C : Enroll.CA) (cfg : Config) (maxConns : Nat)

/-- mirrors src/attestca/server/server.go:242-273 and src/attestca/enroll/enroll.go:135-219 -/
def serve (s : Server) (env : Env) : (q : Query) → Server × Answer q
  | .allowBegin remote =>
    let (table, ok) := allowBegin cfg s.table remote env.now
    ({ s with table }, ok)
  | .prepare ekCertDER aikPublic =>
    (s, s.service.prepare C { now := env.now, ekCertDER, aikTPMTPublic := aikPublic,
                              secret := env.secret, sessionID := env.sessionID })
  | .commit p =>
    let (service, r) := s.service.commit p
    ({ s with service }, r)
  | .take sessionID secret =>
    let (service, t) := s.service.take { now := env.now, sessionID, recoveredSecret := secret }
    ({ s with service }, t)
  | .finish t => (s, Enroll.finish C s.service.ttl t)

inductive Action where
  /-- `Serve` accepts a connection. -/
  | accept (remote : Bytes)
  | write (i n : Nat)
  | read (i n : Nat)
  | fail (i : Nat)
  | serve (i : Nat) (env : Env)
  | agentWrite (i n : Nat)
  | agentRead (i n : Nat)
  | agentFail (i : Nat) (e : Fault)
  /-- The TPM, the network or the file system answers. -/
  | agentTold (i : Nat) (answer : (q : Ask) → Told q)

/-- The handler has not returned. -/
def Conn.running (c : Conn) : Bool :=
  match c.handler.prog with
  | .ret () => false
  | _ => true

def opened (h : Handler) : Conn :=
  { agent := { prog := enrollToCa }, handler := { prog := h }, up := [], down := [] }

/-- A step of connection `i`. -/
def Server.modify (s : Server) (i : Nat) (f : Conn → Conn) : Server :=
  match s.conns[i]? with
  | some c => { s with conns := s.conns.set i (f c) }
  | none => s

/-- mirrors src/attestca/server/server.go:138-171 (`accept`) -/
def act (s : Server) : Action → Server
  | .accept remote =>
    -- at capacity the connection is closed
    if maxConns ≤ s.conns.countP Conn.running then { s with conns := s.conns ++ [opened (.ret ())] }
    else { s with conns := s.conns ++ [opened (handle remote)] }
  | .write i n => s.modify i fun c =>
    { c with handler := (c.handler.write framing .tooLarge n).1, down := c.down ++
               (c.handler.write framing .tooLarge n).2 }
  | .read i n => s.modify i fun c =>
    { c with handler := (c.handler.read framing .tooLarge n c.up).1,
             up := (c.handler.read framing .tooLarge n c.up).2 }
  | .fail i => s.modify i fun c => { c with handler := c.handler.fail .io }
  | .serve i env =>
    match s.conns[i]? with
    | none => s
    | some c =>
      match c.handler.prog with
      | .call q k =>
        let r := serve C cfg s env q
        { r.1 with conns := s.conns.set i { c with handler := c.handler.answered k r.2 } }
      | _ => s
  | .agentWrite i n => s.modify i fun c =>
    { c with agent := (c.agent.write framing (.wire (.err .emsgsize)) n).1
             up := c.up ++ (c.agent.write framing (.wire (.err .emsgsize)) n).2 }
  | .agentRead i n => s.modify i fun c =>
    { c with agent := (c.agent.read framing (.wire (.err .emsgsize)) n c.down).1
             down := (c.agent.read framing (.wire (.err .emsgsize)) n c.down).2 }
  | .agentFail i e => s.modify i fun c => { c with agent := c.agent.fail e }
  | .agentTold i answer => s.modify i fun c =>
    match c.agent.prog with
    | .call q k => { c with agent := c.agent.answered k (answer q) }
    | _ => c

def server : Machine Server Action Unit := ⟨fun s a => (act C cfg maxConns s a, ())⟩

/-- No connection yet. -/
def booted (service : Service) : Server := { service, table := ∅, conns := [] }

end

end Lota.L5.Ceremony

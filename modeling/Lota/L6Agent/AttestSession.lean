import Lota.L3Verifier.Verify
import Lota.L6Agent.AttestOnce

/-!
# Attestation sessions (`agent/net.c`, `verifier/server/server.go`)

Any number of agents talk to one server. On each connection the verifier sends
its challenge, the agent answers with a report, and the verifier sends the
result. `net_attest` and `handleConnection` read and write in loops, so the
bytes of a message may arrive in any pieces; both sides, and the steps of all
connections, take turns in any order, and every read, write and draw may fail.

A connection carries the bytes that were written and not yet read, one way and
the other. The server keeps the list of its `VerifyReport` calls.

* `parseChallenge_serialize`, `parseResult_serialize`: what the Go side writes
  the C side reads back.
* `Wrote.challenge`, `Wrote.result`: what the bytes on the way to the agent
  are.
* `moves_start`, `moves_read`, `moves_fail`: how a handler moves.
-/
namespace Lota.L6.Session
open Lota.Core Lota.L1.Report Lota.L3.Verify Lota.L3.Signature Lota.L6.AttestOnce
open Lota.L2.Nonce (GenerateEnv)

/-! ## The messages of the verifier -/

/-- mirrors src/verifier/types/report.go:389-397 -/
def serializeChallenge (c : Challenge) : Bytes :=
  toLE 4 c.magic.toNat ++
    (toLE 4 c.version.toNat ++ (c.nonce.toList ++ (toLE 4 c.pcrMask.toNat ++ toLE 4 c.flags.toNat)))

/-- mirrors src/verifier/types/report.go:400-409 -/
def serializeResult (r : VerifyResult) : Bytes :=
  toLE 4 r.magic.toNat ++
    (toLE 4 r.version.toNat ++ (toLE 4 r.result.toUInt32.toNat ++ (toLE 4 r.flags.toNat ++
    (toLE 8 r.validUntil.toNat ++ r.sessionToken.toList))))

inductive Errno where
  | eio | eproto | einval
  | other (code : Int)
  deriving DecidableEq

/-- mirrors src/agent/net.h:51-58 -/
structure VerifierResult where
  magic : UInt32
  version : UInt32
  result : UInt32
  flags : UInt32
  validUntil : UInt64
  sessionToken : Blob 32
  deriving DecidableEq

def challengeSize : Nat := 48
def resultSize : Nat := 56

/-- `memcpy(&x, buf + off, n)` and `le32toh`. -/
def field (buf : Bytes) (off n : Nat) : Bytes := (buf.drop off).take n

def word (buf : Bytes) (off : Nat) : UInt32 := UInt32.ofNat (ofLE (field buf off 4))

/-- mirrors src/agent/net.c:525-541 -/
def parseChallenge (buf : Bytes) : Except Errno Challenge :=
  let challenge : Challenge :=
    { magic := word buf 0, version := word buf 4, nonce := toBlob 32 (field buf 8 32)
      pcrMask := word buf 40, flags := word buf 44 }
  if challenge.magic ≠ reportMagic then .error .eproto else .ok challenge

/-- mirrors src/agent/net.c:600-617 -/
def parseResult (buf : Bytes) : Except Errno VerifierResult :=
  let result : VerifierResult :=
    { magic := word buf 0, version := word buf 4, result := word buf 8, flags := word buf 12
      validUntil := UInt64.ofNat (ofLE (field buf 16 8)), sessionToken := toBlob 32 (field buf 24 32) }
  if result.magic ≠ reportMagic then .error .eproto else .ok result

/-- The result as the agent sees it. -/
def toC (r : VerifyResult) : VerifierResult :=
  { magic := r.magic, version := r.version, result := r.result.toUInt32, flags := r.flags
    validUntil := r.validUntil, sessionToken := r.sessionToken }

/-! ## The agent -/

/-- Where `net_attest` is, with the variables it needs from there on. -/
inductive Agent where
  /-- In the loop of `net_recv_challenge`. -/
  | recvChallenge (buf : Bytes)
  /-- In the loop of `net_send_report`, `total` bytes are out. -/
  | sendReport (challenge : Challenge) (report : Bytes) (total : Nat)
  /-- In the loop of `net_recv_result`. -/
  | recvResult (challenge : Challenge) (report : Bytes) (buf : Bytes)
  /-- With what was built and how much of it was sent. -/
  | returned (built : Option (Challenge × Bytes)) (sent : Bytes) (ret : Except Errno VerifierResult)

/-- The bytes of the report that are out. -/
def Agent.sent : Agent → Bytes
  | .recvChallenge _ => []
  | .sendReport _ report total => report.take total
  | .recvResult _ report _ => report
  | .returned _ sent _ => sent

def Agent.built : Agent → Option (Challenge × Bytes)
  | .recvChallenge _ => none
  | .sendReport challenge report _ => some (challenge, report)
  | .recvResult challenge report _ => some (challenge, report)
  | .returned built _ _ => built

/-- One `SSL_read` that returns at most `n` bytes of what is there; none is
`SSL_ERROR_WANT_READ`. `build` is `build_report`.
mirrors src/agent/net.c:499-542, 573-617, 677-710 -/
def Agent.read (build : Challenge → Except Errno Bytes) (n : Nat) (down : Bytes) : Agent → Agent
  | .recvChallenge buf =>
    let buf := buf ++ down.take (min n (challengeSize - buf.length))
    if buf.length < challengeSize then .recvChallenge buf
    else match parseChallenge buf with
      | .error e => .returned none [] (.error e)
      | .ok challenge =>
        match build challenge with
        | .error e => .returned none [] (.error e)
        | .ok report =>
          if report = [] then .returned none [] (.error .einval) else .sendReport challenge report 0
  | .recvResult challenge report buf =>
    let buf := buf ++ down.take (min n (resultSize - buf.length))
    if buf.length < resultSize then .recvResult challenge report buf
    else .returned (some (challenge, report)) report (parseResult buf)
  | a => a

/-- What the read leaves on the connection. -/
def Agent.rest (n : Nat) (down : Bytes) : Agent → Bytes
  | .recvChallenge buf => down.drop (min n (challengeSize - buf.length))
  | .recvResult _ _ buf => down.drop (min n (resultSize - buf.length))
  | _ => down

/-- One `SSL_write` that takes at most `n` bytes.
mirrors src/agent/net.c:544-571 -/
def Agent.write (n : Nat) : Agent → Agent × Bytes
  | .sendReport challenge report total =>
    let k := min n (report.length - total)
    (if total + k < report.length then .sendReport challenge report (total + k)
      else .recvResult challenge report [], (report.drop total).take k)
  | a => (a, [])

/-- A read or write fails, or a wait for it. -/
def Agent.fail (e : Errno) : Agent → Agent
  | .returned built sent ret => .returned built sent ret
  | a => .returned a.built a.sent (.error e)

/-! ## The server -/

/-- What `handleConnection` answered. -/
inductive Served where
  | refused (headerBuf : Bytes)
  | verified (reportData : Bytes) (result : VerifyResult)

def Served.result : Served → VerifyResult
  | .refused _ => { result := .oldVersion }
  | .verified _ result => result

/-- Where `handleConnection` is. -/
inductive Handler where
  | accepted
  | header (id : String) (challenge : Challenge) (headerBuf : Bytes)
  | body (id : String) (challenge : Challenge) (totalSize : Nat) (reportData : Bytes)
  /-- `VerifyReport` does not return. -/
  | hung (id : String) (challenge : Challenge)
  | replied (id : String) (challenge : Challenge) (served : Served)
  | closed (challenge : Option Challenge)

def Handler.challenge : Handler → Option Challenge
  | .accepted => none
  | .header _ challenge _ | .body _ challenge _ _ | .hung _ challenge
  | .replied _ challenge _ => some challenge
  | .closed challenge => challenge

/-- The handler has not returned, so it has its slot. -/
def Handler.running : Handler → Bool
  | .replied .. | .closed _ => false
  | _ => true

structure Conn where
  handler : Handler
  agent : Agent
  /-- On the way to the agent. -/
  down : Bytes
  /-- On the way to the server. -/
  up : Bytes

/-- A call of `VerifyReport` for the connection `conn`. -/
structure VerifyCall where
  conn : Nat
  id : String
  reportData : Bytes
  reply : Reply

structure Server where
  verifier : Verifier
  slots : Nat
  calls : List VerifyCall
  conns : List Conn

/-- `conn.Write`: everything, or the first bytes and an error. -/
def put (fails : Option Nat) (data : Bytes) : Bytes := fails.elim data data.take

section
variable (K : Crypto) (maxConnections : Nat)

/-- The magic and the size in the first 32 bytes, if the server goes on.
mirrors src/verifier/server/server.go:383-401 -/
def reportSize (headerBuf : Bytes) : Option Nat :=
  if ofLE (headerBuf.take 4) ≠ reportMagic.toNat then none
  else
    let totalSize := ofLE ((headerBuf.drop 8).take 4)
    if totalSize < 32 ∨ totalSize > 64 * 1024 then none else some totalSize

/-- What a step of a handler yields: the handler, what it wrote, and the call
it made. -/
structure Handled where
  handler : Handler
  out : Bytes := []
  verifier : Verifier
  call : Option (String × Bytes × Reply) := none

/-- `GenerateChallenge` and the challenge.
mirrors src/verifier/server/server.go:341-369 -/
def start (v : Verifier) (id : Except Unit String) (env : GenerateEnv) (fails : Option Nat) : Handled :=
  match id with
  | .error () => { handler := .closed none, verifier := v }
  | .ok id =>
    match Lota.L3.Verify.generateChallenge v env id with
    | (v, .error _) => { handler := .closed none, verifier := v }
    | (v, .ok challenge) =>
      { handler := if fails.isSome then .closed (some challenge) else .header id challenge []
        out := put fails (serializeChallenge challenge), verifier := v }

/-- `VerifyReport` and the result.
mirrors src/verifier/server/server.go:419-429 -/
def verify (v : Verifier) (env : ReportEnv) (id : String) (challenge : Challenge) (reportData : Bytes)
    (fails : Option Nat) : Handled :=
  let (v, reply) := Lota.L3.Verify.verifyReport K v env id reportData
  match reply with
  | .hangs => { handler := .hung id challenge, verifier := v, call := some (id, reportData, reply) }
  | .returns result _ =>
    { handler := .replied id challenge (.verified reportData result),
      out := put fails (serializeResult result)
      verifier := v, call := some (id, reportData, reply) }

/-- One read of `io.ReadFull` that returns at most `n` bytes.
mirrors src/verifier/server/server.go:374-429 -/
def read (v : Verifier) (env : ReportEnv) (fails : Option Nat) (n : Nat) (up : Bytes) :
    Handler → Handled
  | .header id challenge buf =>
    let buf := buf ++ up.take (min n (32 - buf.length))
    if buf.length < 32 then { handler := .header id challenge buf, verifier := v }
    else match reportSize buf with
      | none =>
        { handler := .replied id challenge (.refused buf)
          out := put fails (serializeResult { result := .oldVersion }), verifier := v }
      | some totalSize =>
        if totalSize > 32 then { handler := .body id challenge totalSize buf, verifier := v }
        else verify K v env id challenge buf fails
  | .body id challenge totalSize buf =>
    let buf := buf ++ up.take (min n (totalSize - buf.length))
    if buf.length < totalSize then { handler := .body id challenge totalSize buf, verifier := v }
    else verify K v env id challenge buf fails
  | h => { handler := h, verifier := v }

/-- What the read leaves on the connection. -/
def unread (n : Nat) (up : Bytes) : Handler → Bytes
  | .header _ _ buf => up.drop (min n (32 - buf.length))
  | .body _ _ totalSize buf => up.drop (min n (totalSize - buf.length))
  | _ => up

/-- A read fails or its deadline passes. -/
def Handler.fail : Handler → Handler
  | .header _ challenge _ | .body _ challenge _ _ => .closed (some challenge)
  | h => h

/-! ## Any interleaving -/

inductive Action where
  /-- `acceptLoop` accepts a connection. -/
  | accept
  /-- The handler of connection `i` starts. -/
  | start (i : Nat) (id : Except Unit String) (env : GenerateEnv) (fails : Option Nat)
  | read (i n : Nat) (env : ReportEnv) (fails : Option Nat)
  | fail (i : Nat)
  | agentRead (i n : Nat) (build : Challenge → Except Errno Bytes)
  | agentWrite (i n : Nat)
  | agentFail (i : Nat) (e : Errno)

/-- A step of the handler of connection `i`; a handler that returns gives its
slot back. -/
def settle (s : Server) (i : Nat) (c : Conn) (h : Handled) (up : Bytes) : Server :=
  { verifier := h.verifier
    slots := if c.handler.running && !h.handler.running then s.slots - 1 else s.slots
    calls := s.calls ++ (h.call.map fun x => ⟨i, x.1, x.2.1, x.2.2⟩).toList
    conns := s.conns.set i { c with handler := h.handler, down := c.down ++ h.out, up } }

/-- A connection before its handler and its agent do anything. -/
def opened (h : Handler) : Conn := { handler := h, agent := .recvChallenge [], down := [], up := [] }

/-- mirrors src/verifier/server/server.go:293-324 (`acceptLoop`) -/
def act (s : Server) : Action → Server
  | .accept =>
    if maxConnections ≠ 0 ∧ maxConnections ≤ s.slots
      then { s with conns := s.conns ++ [opened (.closed none)] }
    else { s with slots := s.slots + 1, conns := s.conns ++ [opened .accepted] }
  | .start i id env fails =>
    match s.conns[i]? with
    | some c =>
      match c.handler with
      | .accepted => settle s i c (start s.verifier id env fails) c.up
      | _ => s
    | none => s
  | .read i n env fails =>
    match s.conns[i]? with
    | some c => settle s i c (read K s.verifier env fails n c.up c.handler) (unread n c.up c.handler)
    | none => s
  | .fail i =>
    match s.conns[i]? with
    | some c => settle s i c { handler := c.handler.fail, verifier := s.verifier } c.up
    | none => s
  | .agentRead i n build =>
    match s.conns[i]? with
    | some c =>
      { s with conns := s.conns.set i
                 { c with agent := c.agent.read build n c.down, down := c.agent.rest n c.down } }
    | none => s
  | .agentWrite i n =>
    match s.conns[i]? with
    | some c =>
      { s with conns := s.conns.set i
                 { c with agent := (c.agent.write n).1, up := c.up ++ (c.agent.write n).2 } }
    | none => s
  | .agentFail i e =>
    match s.conns[i]? with
    | some c => { s with conns := s.conns.set i { c with agent := c.agent.fail e } }
    | none => s

def server : Machine Server Action Unit := ⟨fun s a => (act K maxConnections s a, ())⟩

/-- No connection yet. -/
def booted (v : Verifier) : Server := { verifier := v, slots := 0, calls := [], conns := [] }

end

/-! ## Round trips -/

theorem field_append {a b rest : Bytes} {off n : Nat} (ha : a.length = off) (hb : b.length = n) :
    field (a ++ (b ++ rest)) off n = b := by
  unfold field
  rw [List.drop_left' ha, List.take_left' hb]

theorem field_last {a b : Bytes} {off n : Nat} (ha : a.length = off) (hb : b.length = n) :
    field (a ++ b) off n = b := by
  have h : field (a ++ (b ++ [])) off n = b := field_append ha hb
  rwa [List.append_nil] at h

theorem word_append {a rest : Bytes} {off : Nat} (x : UInt32) (ha : a.length = off) :
    word (a ++ (toLE 4 x.toNat ++ rest)) off = x := by
  unfold word
  rw [field_append ha (toLE_length 4 _), ofLE_toLE 4 _ x.toNat_lt]
  exact UInt32.ofNat_toNat

theorem toBlob_toList {n : Nat} (b : Blob n) : toBlob n b.toList = b := by
  apply List.Vector.eq
  show (b.toList ++ List.replicate n 0).take n = b.toList
  exact List.take_left' b.toList_length

@[simp] theorem serializeChallenge_length (c : Challenge) :
    (serializeChallenge c).length = challengeSize := by
  simp [serializeChallenge, challengeSize]

@[simp] theorem serializeResult_length (r : VerifyResult) :
    (serializeResult r).length = resultSize := by
  simp [serializeResult, resultSize]

/-- **Round trip.** -/
theorem parseChallenge_serialize (c : Challenge) :
    parseChallenge (serializeChallenge c) = if c.magic ≠ reportMagic then .error .eproto
    else .ok c := by
  have hmagic : word (serializeChallenge c) 0 = c.magic := word_append (a := []) _ rfl
  have hversion : word (serializeChallenge c) 4 = c.version := word_append _ (toLE_length 4 _)
  have hnonce : field (serializeChallenge c) 8 32 = c.nonce.toList := by
    unfold serializeChallenge
    rw [← List.append_assoc]
    exact field_append (by simp) c.nonce.toList_length
  have hmask : word (serializeChallenge c) 40 = c.pcrMask := by
    unfold serializeChallenge
    rw [← List.append_assoc, ← List.append_assoc]
    exact word_append _ (by simp)
  have hflags : word (serializeChallenge c) 44 = c.flags := by
    unfold serializeChallenge
    rw [← List.append_assoc, ← List.append_assoc, ← List.append_assoc, ← List.append_nil
      (toLE 4 c.flags.toNat)]
    exact word_append _ (by simp)
  unfold parseChallenge
  rw [hmagic, hversion, hnonce, hmask, hflags, toBlob_toList]

/-- **Round trip.** -/
theorem parseResult_serialize (r : VerifyResult) :
    parseResult (serializeResult r) = if r.magic ≠ reportMagic then .error .eproto
    else .ok (toC r) := by
  have hmagic : word (serializeResult r) 0 = r.magic := word_append (a := []) _ rfl
  have hversion : word (serializeResult r) 4 = r.version := word_append _ (toLE_length 4 _)
  have hresult : word (serializeResult r) 8 = r.result.toUInt32 := by
    unfold serializeResult
    rw [← List.append_assoc]
    exact word_append _ (by simp)
  have hflags : word (serializeResult r) 12 = r.flags := by
    unfold serializeResult
    rw [← List.append_assoc, ← List.append_assoc]
    exact word_append _ (by simp)
  have hbytes : field (serializeResult r) 16 8 = toLE 8 r.validUntil.toNat := by
    unfold serializeResult
    rw [← List.append_assoc, ← List.append_assoc, ← List.append_assoc]
    exact field_append (by simp) (toLE_length 8 _)
  have hvalid : UInt64.ofNat (ofLE (field (serializeResult r) 16 8)) = r.validUntil := by
    rw [hbytes, ofLE_toLE 8 _ r.validUntil.toNat_lt]
    exact UInt64.ofNat_toNat
  have htoken : field (serializeResult r) 24 32 = r.sessionToken.toList := by
    unfold serializeResult
    rw [← List.append_assoc, ← List.append_assoc, ← List.append_assoc, ← List.append_assoc]
    exact field_last (by simp) r.sessionToken.toList_length
  unfold parseResult
  rw [hmagic, hversion, hresult, hflags, hvalid, htoken, toBlob_toList]
  rfl

/-! ## What the server has written -/

def Handler.result : Handler → Option VerifyResult
  | .replied _ _ served => some served.result
  | _ => none

/-- `w` is everything the handler has written so far. -/
def Wrote (w : Bytes) : Handler → Prop
  | .accepted | .closed none => w = []
  | .header _ challenge _ | .body _ challenge _ _ | .hung _ challenge =>
    w = serializeChallenge challenge
  | .closed (some challenge) => w <+: serializeChallenge challenge
  | .replied _ challenge served => w <+: serializeChallenge challenge ++ serializeResult served.result

/-- From one handler to the next, with `out` written. -/
structure Moves (h h' : Handler) (out : Bytes) : Prop where
  wrote : ∀ w, Wrote w h → Wrote (w ++ out) h'
  challenge : ∀ ch, h.challenge = some ch → h'.challenge = some ch
  result : ∀ r, h.result = some r → h'.result = some r

theorem Moves.refl (h : Handler) : Moves h h [] :=
  ⟨fun w hw => by rwa [List.append_nil], fun _ h => h, fun _ h => h⟩

theorem put_isPart (fails : Option Nat) (data : Bytes) : put fails data <+: data := by
  cases fails with
  | none => exact List.prefix_refl _
  | some n => exact List.take_prefix n data

/-- The first 48 bytes are the challenge of the connection. -/
theorem Wrote.challenge {h : Handler} {buf rest : Bytes} (hw : Wrote (buf ++ rest) h)
    (hbuf : buf.length = challengeSize) :
    ∃ ch, h.challenge = some ch ∧ buf = serializeChallenge ch := by
  have hpos : buf ++ rest ≠ [] := by
    intro hnil
    rw [List.append_eq_nil_iff.mp hnil |>.1] at hbuf
    cases hbuf
  have hcut : ∀ {ch : Challenge} {tail : Bytes}, buf ++ rest <+: serializeChallenge ch ++ tail →
      buf = serializeChallenge ch := by
    intro ch tail hpre
    have hfirst : buf <+: serializeChallenge ch ++ tail := (List.prefix_append buf rest).trans hpre
    exact (List.prefix_of_prefix_length_le hfirst (List.prefix_append _ _)
      (by simp [hbuf])).eq_of_length (by simp [hbuf])
  have hpart : ∀ {ch : Challenge}, buf ++ rest <+: serializeChallenge ch →
      buf = serializeChallenge ch :=
    fun hpre => hcut (hpre.trans (List.prefix_append _ []))
  have hwhole : ∀ {ch : Challenge}, buf ++ rest = serializeChallenge ch → buf = serializeChallenge ch :=
    fun heq => hpart (heq ▸ List.prefix_refl _)
  cases h with
  | accepted => exact absurd hw hpos
  | header id ch b => exact ⟨ch, rfl, hwhole hw⟩
  | body id ch n b => exact ⟨ch, rfl, hwhole hw⟩
  | hung id ch => exact ⟨ch, rfl, hwhole hw⟩
  | replied id ch served => exact ⟨ch, rfl, hcut hw⟩
  | closed ch =>
    cases ch with
    | none => exact absurd hw hpos
    | some ch => exact ⟨ch, rfl, hpart hw⟩

/-- The 56 bytes behind it are the result of the connection. -/
theorem Wrote.result {h : Handler} {ch : Challenge} {buf rest : Bytes}
    (hw : Wrote (serializeChallenge ch ++ (buf ++ rest)) h) (hch : h.challenge = some ch)
    (hbuf : buf.length = resultSize) : ∃ r, h.result = some r ∧ buf = serializeResult r := by
  have hlen : (serializeChallenge ch ++ (buf ++ rest)).length = challengeSize +
      (resultSize + rest.length) := by
    rw [List.length_append, List.length_append, serializeChallenge_length, hbuf]
  -- every other handler has written no more than a challenge
  have hmore : ∀ {ch' : Challenge}, ¬ serializeChallenge ch ++ (buf ++ rest) <+:
      serializeChallenge ch' := by
    intro ch' hpre
    have hle := hpre.length_le
    rw [hlen, serializeChallenge_length] at hle
    unfold resultSize at hle
    omega
  cases h with
  | accepted => cases hch
  | header id ch' b =>
    exact absurd (show _ <+: serializeChallenge ch' from hw ▸ List.prefix_refl _) hmore
  | body id ch' n b =>
    exact absurd (show _ <+: serializeChallenge ch' from hw ▸ List.prefix_refl _) hmore
  | hung id ch' => exact absurd (show _ <+: serializeChallenge ch' from hw ▸ List.prefix_refl _) hmore
  | closed ch' =>
    cases ch' with
    | none => cases hch
    | some ch' => exact absurd hw hmore
  | replied id ch' served =>
    cases hch
    refine ⟨served.result, rfl, ?_⟩
    have hpre : buf ++ rest <+: serializeResult served.result := (List.prefix_append_right_inj _).mp hw
    exact ((List.prefix_append buf rest).trans hpre).eq_of_length (by simp [hbuf])

/-! ## How a handler moves -/

section
variable {K : Crypto} {v : Verifier}

theorem moves_start (id : Except Unit String) (env : GenerateEnv) (fails : Option Nat) :
    Moves .accepted (start v id env fails).handler (start v id env fails).out := by
  refine ⟨?_, (fun ch h => nomatch h), (fun r h => nomatch h)⟩
  rintro w rfl
  unfold start
  cases id with
  | error => exact rfl
  | ok id =>
    simp only
    cases Lota.L3.Verify.generateChallenge v env id with
    | mk v' r =>
      cases r with
      | error e => exact rfl
      | ok ch =>
        cases fails with
        | none => exact rfl
        | some n => exact List.take_prefix n (serializeChallenge ch)

/-- After the challenge is out, an answer may follow or not. -/
theorem moves_reply {h : Handler} {id : String} {ch : Challenge} (served : Served) {fails : Option Nat}
    (hw : ∀ w, Wrote w h → w = serializeChallenge ch) (hch : h.challenge = some ch)
    (hres : h.result = none) :
    Moves h (.replied id ch served) (put fails (serializeResult served.result)) := by
  refine ⟨?_, ?_, ?_⟩
  · intro w hwrote
    rw [hw w hwrote]
    exact (List.prefix_append_right_inj _).mpr (put_isPart fails _)
  · intro ch' hch'
    rw [hch] at hch'
    exact hch'
  · intro r hr
    rw [hres] at hr
    cases hr

theorem moves_verify {h : Handler} {env : ReportEnv} {id : String} {ch : Challenge} {data : Bytes}
    {fails : Option Nat}
    (hw : ∀ w, Wrote w h → w = serializeChallenge ch) (hch : h.challenge = some ch)
    (hres : h.result = none) :
    Moves h (verify K v env id ch data fails).handler (verify K v env id ch data fails).out := by
  unfold verify
  cases Lota.L3.Verify.verifyReport K v env id data with
  | mk v' reply =>
    cases reply with
    | hangs =>
      refine ⟨?_, ?_, ?_⟩
      · intro w hwrote
        rw [List.append_nil]
        exact hw w hwrote
      · intro ch' hch'
        rwa [hch] at hch'
      · intro r hr
        rw [hres] at hr
        cases hr
    | returns result err => exact moves_reply (.verified data result) hw hch hres

theorem moves_read (env : ReportEnv) (fails : Option Nat) (n : Nat) (up : Bytes) (h : Handler) :
    Moves h (read K v env fails n up h).handler (read K v env fails n up h).out := by
  cases h with
  | header id ch buf =>
    have hw : ∀ w, Wrote w (.header id ch buf) → w = serializeChallenge ch := fun w hw => hw
    unfold read
    simp only
    split
    · exact ⟨fun w hw => by rw [List.append_nil]; exact hw, fun _ h => h, fun _ h => h⟩
    · split
      · exact moves_reply (.refused _) hw rfl rfl
      · split
        · exact ⟨fun w hw => by rw [List.append_nil]; exact hw, fun _ h => h, fun _ h => h⟩
        · exact moves_verify hw rfl rfl
  | body id ch size buf =>
    have hw : ∀ w, Wrote w (.body id ch size buf) → w = serializeChallenge ch := fun w hw => hw
    unfold read
    simp only
    split
    · exact ⟨fun w hw => by rw [List.append_nil]; exact hw, fun _ h => h, fun _ h => h⟩
    · exact moves_verify hw rfl rfl
  | accepted => exact .refl _
  | hung id ch => exact .refl _
  | replied id ch served => exact .refl _
  | closed ch => exact .refl _

theorem moves_fail (h : Handler) : Moves h h.fail [] := by
  cases h with
  | header id ch buf =>
    refine ⟨?_, fun _ h => h, fun _ h => nomatch h⟩
    rintro w rfl
    rw [List.append_nil]
    exact List.prefix_refl _
  | body id ch size buf =>
    refine ⟨?_, fun _ h => h, fun _ h => nomatch h⟩
    rintro w rfl
    rw [List.append_nil]
    exact List.prefix_refl _
  | accepted => exact .refl _
  | hung id ch => exact .refl _
  | replied id ch served => exact .refl _
  | closed ch => exact .refl _

end

end Lota.L6.Session

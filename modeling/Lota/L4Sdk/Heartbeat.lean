import Lota.L4Sdk.Gaming
import Lota.L4Sdk.ServerC

/-!
# Heartbeats of the anti-cheat layer (`sdk/lota_anticheat.c`)

A direct-mode session asks the agent for its status, measures its own image,
hashes session, sequence, flags, time, game and measurement into a nonce and
asks the agent for a token over that nonce. The packet is a 110-byte header
in front of the token. The server rebuilds the nonce from the header and
verifies the token against it.

* `heartbeat_ok`: what a packet consists of when `lota_ac_heartbeat`
  returns 0.
* `verifyHeartbeat_ok_iff`: what acceptance means.
* `nonceMessage_inj`: the bytes behind the nonce determine the header
  fields, apart from the measurement in domain version 1.
-/
namespace Lota.L4.Heartbeat
open Lota.Core Lota.L1.Report Lota.L3.Signature Lota.L4.Token Lota.L4.Gaming
open Lota.L4.Server (ServerError)

def acMagic : UInt32 := 0x4C414348
def acVersion : UInt8 := 3
def acHeaderSize : Nat := 110
def acMaxToken : Nat := 1608
def acMaxHeartbeatAgeSec : UInt64 := 120

/-- `enum lota_ac_provider`. -/
inductive Provider where
  | eac | battleye
  deriving DecidableEq, Repr

def Provider.toUInt8 : Provider → UInt8
  | .eac => 1
  | .battleye => 2

def Provider.ofUInt8 (b : UInt8) : Option Provider :=
  if b = 1 then some .eac else if b = 2 then some .battleye else none

theorem Provider.ofUInt8_toUInt8 (p : Provider) : ofUInt8 p.toUInt8 = some p := by
  cases p <;> rfl

/-- `enum lota_ac_state`. -/
inductive AcState where
  | idle | running | trusted | untrusted | error
  deriving DecidableEq, Repr

/-- The negative `errno` results. -/
inductive Errno where
  | eopnotsupp | enotconn | eio | enodata | eproto | enospc | enomem | e2big | enoent | einval
  deriving DecidableEq, Repr

/-! ## The nonce -/

/-- mirrors src/sdk/lota_anticheat.c:41-46; the game binding string is used by
`compute_game_id_hash` only. -/
structure DomainStrings where
  heartbeatNonce : String
  bindRuntime : Bool
  deriving DecidableEq

def domainVersionV1 : UInt32 := 1
def domainVersionV2 : UInt32 := 2
def domainVersionCurrent : UInt32 := domainVersionV2

/-- mirrors src/sdk/lota_anticheat.c:48-67 -/
def domainLookup (version : UInt32) : Option DomainStrings :=
  if version = domainVersionV1
    then some { heartbeatNonce := "lota-ac-heartbeat:v1", bindRuntime := false }
  else if version = domainVersionV2
    then some { heartbeatNonce := "lota-ac-heartbeat:v2", bindRuntime := true }
  else none

/-- mirrors include/lota_anticheat.h:153-166 -/
structure HeartbeatWire where
  magic : UInt32
  version : UInt8
  provider : UInt8
  totalSize : UInt16
  sessionId : Blob 16
  sequence : UInt32
  lotaFlags : UInt32
  timestamp : UInt64
  gameIdHash : Hash
  tokenSize : UInt16
  domainVersion : UInt32
  runtimeMeasure : Hash
  deriving DecidableEq

/-- The fields every domain binds, behind the domain string. -/
def HeartbeatWire.boundFields (w : HeartbeatWire) : Bytes :=
  w.sessionId.toList ++
    (toLE 1 w.provider.toNat ++ (toLE 4 w.sequence.toNat ++ (toLE 4 w.lotaFlags.toNat ++
  (toLE 8 w.timestamp.toNat ++ (w.gameIdHash.toList ++ toLE 4 w.domainVersion.toNat)))))

/-- The bytes behind the nonce; domain version 1 leaves the measurement out. -/
def HeartbeatWire.nonceMessage (w : HeartbeatWire) (dom : DomainStrings) : Bytes :=
  ascii dom.heartbeatNonce ++ [0] ++
    (w.boundFields ++ if dom.bindRuntime then w.runtimeMeasure.toList else [])

/-- mirrors src/sdk/lota_anticheat.c:770-830 (`compute_heartbeat_nonce`) -/
def computeHeartbeatNonce (w : HeartbeatWire) : Option Hash :=
  (domainLookup w.domainVersion).map fun dom => sha256 (w.nonceMessage dom)

/-! ## The packet -/

/-- mirrors src/sdk/lota_anticheat.c:1270-1278 and the uses of `data` behind it -/
def HeartbeatWire.decode (data : Bytes) : HeartbeatWire where
  magic := UInt32.ofNat (leAt data 0 4)
  version := UInt8.ofNat (leAt data 4 1)
  provider := UInt8.ofNat (leAt data 5 1)
  totalSize := UInt16.ofNat (leAt data 6 2)
  sessionId := blobAt 16 data 8
  sequence := UInt32.ofNat (leAt data 24 4)
  lotaFlags := UInt32.ofNat (leAt data 28 4)
  timestamp := UInt64.ofNat (leAt data 32 8)
  gameIdHash := blobAt 32 data 40
  tokenSize := UInt16.ofNat (leAt data 72 2)
  domainVersion := UInt32.ofNat (leAt data 74 4)
  runtimeMeasure := blobAt 32 data 78

/-- mirrors src/sdk/lota_anticheat.c:1230-1241 -/
def HeartbeatWire.headerBytes (w : HeartbeatWire) : Bytes :=
  toLE 4 w.magic.toNat ++
    (toLE 1 w.version.toNat ++ (toLE 1 w.provider.toNat ++ (toLE 2 w.totalSize.toNat ++
  (w.sessionId.toList ++
    (toLE 4 w.sequence.toNat ++ (toLE 4 w.lotaFlags.toNat ++ (toLE 8 w.timestamp.toNat ++
  (w.gameIdHash.toList ++ (toLE 2 w.tokenSize.toNat ++ (toLE 4 w.domainVersion.toNat ++
  w.runtimeMeasure.toList))))))))))

theorem ofNat_leAt_8 (x : UInt8) (ys : Bytes) : UInt8.ofNat (leAt (toLE 1 x.toNat ++ ys) 0 1) = x := by
  rw [leAt_toLE x.toNat_lt, UInt8.ofNat_toNat]

theorem headerBytes_length (w : HeartbeatWire) : w.headerBytes.length = acHeaderSize := by
  simp [HeartbeatWire.headerBytes, acHeaderSize]

/-- **Header round trip.** -/
theorem decode_headerBytes (w : HeartbeatWire) (rest : Bytes) :
    HeartbeatWire.decode (w.headerBytes ++ rest) = w := by
  unfold HeartbeatWire.decode HeartbeatWire.headerBytes
  simp [leAt_field, blobAt_field, ofNat_leAt_8, ofNat_leAt_16, ofNat_leAt_32, ofNat_leAt_64,
    blobAt_toList]

/-- The embedded token. -/
def HeartbeatWire.token (w : HeartbeatWire) (data : Bytes) : Bytes :=
  (data.drop acHeaderSize).take w.tokenSize.toNat

/-! ## The producer -/

/-- `struct lota_ac_session` of a direct-mode session; the fields of file
mode are left out, `connected` is `client != NULL`. -/
structure Session where
  provider : Provider
  state : AcState
  sessionId : Blob 16
  gameIdHash : Hash
  lastHeartbeat : UInt64
  heartbeatSeq : UInt32
  requiredFlags : UInt32
  lotaFlags : UInt32
  direct : Bool
  connected : Bool
  tokenBuf : Bytes
  deriving DecidableEq

/-- What one call to `lota_ac_heartbeat` meets: the reply to `GET_STATUS`,
the clock, the measurement of the image, and the reply to `GET_TOKEN`, which
depends on the nonce. -/
structure Env where
  status : Reply
  now : Int64
  measure : Except Errno Hash
  token : Hash → Reply

/-- mirrors src/sdk/lota_anticheat.c:953-958 -/
def isTrusted (flags required : UInt32) : Bool :=
  if required ≠ 0 then flags &&& required == required else flags != 0

/-- The header without its sizes, as the nonce is made from it. -/
def Session.header (s : Session) (flags : UInt32) (now : Int64) (measure : Hash) : HeartbeatWire where
  magic := acMagic
  version := acVersion
  provider := s.provider.toUInt8
  totalSize := 0
  sessionId := s.sessionId
  sequence := s.heartbeatSeq
  lotaFlags := flags
  timestamp := now.toUInt64
  gameIdHash := s.gameIdHash
  tokenSize := 0
  domainVersion := domainVersionCurrent
  runtimeMeasure := measure

/-- The header in front of a token of `tokenLen` bytes. -/
def Session.sizedHeader (s : Session) (flags : UInt32) (now : Int64) (measure : Hash) (tokenLen : Nat) :
    HeartbeatWire :=
  { s.header flags now measure with
    totalSize := UInt16.ofNat (acHeaderSize + tokenLen), tokenSize := UInt16.ofNat tokenLen }

/-- mirrors src/sdk/lota_anticheat.c:1134-1253 (`lota_ac_heartbeat`) -/
def heartbeat (s : Session) (buflen : Nat) (env : Env) : Session × Except Errno Bytes :=
  if s.direct = false then (s, .error .eopnotsupp)
  else if s.connected = false then (s, .error .enotconn)
  else match getStatus env.status with
  | .error _ => ({ s with state := .error }, .error .eio)
  | .ok flags =>
    let s₁ := { s with lotaFlags := flags }
    match env.measure with
    | .error e => (s₁, .error e)
    | .ok measure =>
      match computeHeartbeatNonce (s.header flags env.now measure) with
      | none => (s₁, .error .einval)
      | some nonce =>
        match getToken (env.token nonce) with
        | .error .notAttested => (s₁, .error .enodata)
        | .error _ => (s₁, .error .eio)
        | .ok token =>
          if token.nonce ≠ nonce then (s₁, .error .eproto)
          else
            let s₂ := { s₁ with
              lotaFlags := token.flags
              state := if isTrusted token.flags s.requiredFlags then .trusted else .untrusted }
            match token.serialize acMaxToken with
            | .error _ => (s₂, .error .eio)
            | .ok buf =>
              let s₃ := { s₂ with tokenBuf := buf }
              if buf.length = 0 then (s₃, .error .enodata)
              else if buflen < acHeaderSize + buf.length then (s₃, .error .enospc)
              else
                ({ s₃ with heartbeatSeq := s.heartbeatSeq + 1, lastHeartbeat := env.now.toUInt64 },
                 .ok ((s.sizedHeader token.flags env.now measure buf.length).headerBytes ++ buf))

/-! ## The verifier -/

/-- mirrors include/lota_anticheat.h:168-182 -/
structure AcInfo where
  provider : Provider
  state : AcState
  sessionId : Blob 16
  sessionStart : UInt64
  lastHeartbeat : UInt64
  heartbeatSeq : UInt32
  lotaFlags : UInt32
  gameIdHash : Hash
  trusted : Bool
  deriving DecidableEq

/-- `now` is the reading of `lota_ac_verify_heartbeat`, `tokenNow` the one of
`lota_server_verify_token`.
mirrors src/sdk/lota_anticheat.c:1255-1361 -/
def verifyHeartbeat (K : Crypto) (data aikPubDer : Bytes)
    (expectedGameIdHash expectedRuntimeMeasure : Hash)
    (now tokenNow : Int64) : Except ServerError AcInfo :=
  if data.length < acHeaderSize then .error .badToken
  else
    let w := HeartbeatWire.decode data
    if w.magic ≠ acMagic then .error .badToken
    else if w.version ≠ acVersion then .error .badVersion
    else if w.totalSize.toNat > data.length then .error .badToken
    else if w.totalSize.toNat ≠ acHeaderSize + w.tokenSize.toNat then .error .badToken
    else if w.tokenSize = 0 ∨ w.tokenSize.toNat > acMaxToken then .error .badToken
    else match Provider.ofUInt8 w.provider with
    | none => .error .badToken
    | some provider =>
      if domainLookup w.domainVersion = none then .error .badVersion
      else if w.gameIdHash ≠ expectedGameIdHash then .error .badToken
      else if w.runtimeMeasure ≠ expectedRuntimeMeasure then .error .badToken
      else if w.timestamp > now.toUInt64 + acMaxHeartbeatAgeSec then .error .badToken
      else if w.timestamp + acMaxHeartbeatAgeSec < now.toUInt64 then .error .badToken
      else match computeHeartbeatNonce w with
      | none => .error .crypto
      | some expectedNonce =>
        if aikPubDer.length = 0 then .error .invalidArg
        else match Server.verifyToken K (w.token data) aikPubDer expectedNonce tokenNow with
        | .error e => .error e
        | .ok claims =>
          if claims.nonce ≠ expectedNonce then .error .nonceFail
          else if w.lotaFlags ≠ claims.flags then .error .badToken
          else .ok
            { provider, state := if claims.flags != 0 then .trusted else .untrusted,
              sessionId := w.sessionId,
              sessionStart := 0, lastHeartbeat := w.timestamp, heartbeatSeq := w.sequence,
              lotaFlags := claims.flags, gameIdHash := w.gameIdHash, trusted := claims.flags != 0 }

/-! ## What the nonce binds -/

/-- The header fields two packets share. -/
structure SameHeader (w w' : HeartbeatWire) : Prop where
  sessionId : w.sessionId = w'.sessionId
  provider : w.provider = w'.provider
  sequence : w.sequence = w'.sequence
  lotaFlags : w.lotaFlags = w'.lotaFlags
  timestamp : w.timestamp = w'.timestamp
  gameIdHash : w.gameIdHash = w'.gameIdHash
  domainVersion : w.domainVersion = w'.domainVersion

theorem domainLookup_some {v : UInt32} {dom : DomainStrings} (h : domainLookup v = some dom) :
    (v = domainVersionV1 ∧ dom = { heartbeatNonce := "lota-ac-heartbeat:v1", bindRuntime := false }) ∨
    (v = domainVersionV2 ∧
      dom = { heartbeatNonce := "lota-ac-heartbeat:v2", bindRuntime := true }) := by
  unfold domainLookup at h
  split at h
  · rename_i hv
    exact .inl ⟨hv, (Option.some.inj h).symm⟩
  · split at h
    · rename_i hv
      exact .inr ⟨hv, (Option.some.inj h).symm⟩
    · cases h

/-- The domain strings have one length. -/
theorem domainLookup_length {v : UInt32} {dom : DomainStrings} (h : domainLookup v = some dom) :
    (ascii dom.heartbeatNonce ++ [0]).length = 21 := by
  obtain ⟨-, rfl⟩ | ⟨-, rfl⟩ := domainLookup_some h
  · decide
  · decide

theorem boundFields_inj {w w' : HeartbeatWire} {xs ys : Bytes}
    (h : w.boundFields ++ xs = w'.boundFields ++ ys) : SameHeader w w' ∧ xs = ys := by
  unfold HeartbeatWire.boundFields at h
  simp only [List.append_assoc] at h
  obtain ⟨h1, h⟩ := append_blob_inj h
  obtain ⟨h2, h⟩ := append_word_inj w.provider.toNat_lt w'.provider.toNat_lt h
  obtain ⟨h3, h⟩ := append_word_inj w.sequence.toNat_lt w'.sequence.toNat_lt h
  obtain ⟨h4, h⟩ := append_word_inj w.lotaFlags.toNat_lt w'.lotaFlags.toNat_lt h
  obtain ⟨h5, h⟩ := append_word_inj w.timestamp.toNat_lt w'.timestamp.toNat_lt h
  obtain ⟨h6, h⟩ := append_blob_inj h
  obtain ⟨h7, h⟩ := append_word_inj w.domainVersion.toNat_lt w'.domainVersion.toNat_lt h
  exact ⟨⟨h1, UInt8.toNat_inj.mp h2, UInt32.toNat_inj.mp h3, UInt32.toNat_inj.mp h4,
    UInt64.toNat_inj.mp h5, h6, UInt32.toNat_inj.mp h7⟩, h⟩

/-- **Nonce message.** It determines the header and, where the domain binds
it, the measurement. -/
theorem nonceMessage_inj {w w' : HeartbeatWire} {dom dom' : DomainStrings}
    (hdom : domainLookup w.domainVersion = some dom) (hdom' : domainLookup w'.domainVersion = some dom')
    (h : w.nonceMessage dom = w'.nonceMessage dom') :
    SameHeader w w' ∧ (dom.bindRuntime = true → w.runtimeMeasure = w'.runtimeMeasure) := by
  unfold HeartbeatWire.nonceMessage at h
  obtain ⟨-, h⟩ := List.append_inj h ((domainLookup_length hdom).trans (domainLookup_length hdom').symm)
  obtain ⟨hsame, htail⟩ := boundFields_inj h
  refine ⟨hsame, fun hb => ?_⟩
  have hd : dom = dom' := by
    rw [← hsame.domainVersion, hdom] at hdom'
    exact Option.some.inj hdom'
  rw [← hd, if_pos hb, if_pos hb] at htail
  exact List.Vector.toList_injective htail

/-! ## What the two functions do -/

/-- The header checks of `lota_ac_verify_heartbeat`. -/
structure PacketOK (data : Bytes) (w : HeartbeatWire) (gameIdHash measure : Hash) (now : Int64) :
    Prop where
  decode : HeartbeatWire.decode data = w
  length : acHeaderSize ≤ data.length
  magic : w.magic = acMagic
  version : w.version = acVersion
  total : w.totalSize.toNat ≤ data.length
  sizes : w.totalSize.toNat = acHeaderSize + w.tokenSize.toNat
  token : w.tokenSize ≠ 0 ∧ w.tokenSize.toNat ≤ acMaxToken
  provider : ∃ p, Provider.ofUInt8 w.provider = some p
  game : w.gameIdHash = gameIdHash
  runtime : w.runtimeMeasure = measure
  notAhead : w.timestamp ≤ now.toUInt64 + acMaxHeartbeatAgeSec
  notBehind : now.toUInt64 ≤ w.timestamp + acMaxHeartbeatAgeSec

theorem verifyHeartbeat_ok_iff {K : Crypto} {data der : Bytes} {game measure : Hash}
    {now tokenNow : Int64} :
    (∃ info, verifyHeartbeat K data der game measure now tokenNow = .ok info) ↔
      ∃ w dom claims, PacketOK data w game measure now ∧ domainLookup w.domainVersion = some dom ∧
        Server.verifyToken K (w.token data) der (sha256 (w.nonceMessage dom)) tokenNow = .ok claims ∧
        w.lotaFlags = claims.flags := by
  constructor
  · intro ⟨info, h⟩
    unfold verifyHeartbeat at h
    obtain ⟨hlen, h⟩ := except_guard_ok.mp h
    obtain ⟨hmagic, h⟩ := except_guard_ok.mp h
    obtain ⟨hversion, h⟩ := except_guard_ok.mp h
    obtain ⟨htotal, h⟩ := except_guard_ok.mp h
    obtain ⟨hsizes, h⟩ := except_guard_ok.mp h
    obtain ⟨htok, h⟩ := except_guard_ok.mp h
    obtain ⟨htok0, htokMax⟩ := not_or.mp htok
    cases hp : Provider.ofUInt8 (HeartbeatWire.decode data).provider with
    | none => rw [hp] at h; cases h
    | some p =>
    rw [hp] at h
    obtain ⟨-, h⟩ := except_guard_ok.mp h
    obtain ⟨hgame, h⟩ := except_guard_ok.mp h
    obtain ⟨hmeasure, h⟩ := except_guard_ok.mp h
    obtain ⟨hahead, h⟩ := except_guard_ok.mp h
    obtain ⟨hbehind, h⟩ := except_guard_ok.mp h
    cases hdom : domainLookup (HeartbeatWire.decode data).domainVersion with
    | none =>
      unfold computeHeartbeatNonce at h
      rw [hdom] at h
      cases h
    | some dom =>
    unfold computeHeartbeatNonce at h
    rw [hdom, Option.map_some] at h
    obtain ⟨-, h⟩ := except_guard_ok.mp h
    cases hv : Server.verifyToken K ((HeartbeatWire.decode data).token data) der
        (sha256 ((HeartbeatWire.decode data).nonceMessage dom)) tokenNow with
    | error e => rw [hv] at h; cases h
    | ok claims =>
    rw [hv] at h
    obtain ⟨-, h⟩ := except_guard_ok.mp h
    obtain ⟨hflags, -⟩ := except_guard_ok.mp h
    exact ⟨_, dom, claims, ⟨rfl, Nat.not_lt.mp hlen, not_not.mp hmagic, not_not.mp hversion,
      Nat.not_lt.mp htotal,
      not_not.mp hsizes, ⟨htok0, Nat.not_lt.mp htokMax⟩, ⟨p, hp⟩, not_not.mp hgame, not_not.mp hmeasure,
      UInt64.not_lt.mp hahead, UInt64.not_lt.mp hbehind⟩, hdom, hv, not_not.mp hflags⟩
  · intro ⟨w, dom, claims, hpk, hdom, hv, hflags⟩
    obtain ⟨hdr, attest, key, d, -, -, hc, hr, -, hcl⟩ := Server.verifyToken_ok_iff.mp hv
    have hnonce : claims.nonce = sha256 (w.nonceMessage dom) := by
      rw [hcl]
      exact List.Vector.toList_injective hc.nonce
    obtain ⟨rfl, hlen, hmagic, hversion, htotal, hsizes, htok, ⟨p, hp⟩, hgame, hmeasure, hahead,
        hbehind⟩ := hpk
    refine ⟨{ provider := p, state := if claims.flags != 0 then .trusted else .untrusted,
              sessionId := (HeartbeatWire.decode data).sessionId, sessionStart := 0,
              lastHeartbeat := (HeartbeatWire.decode data).timestamp,
              heartbeatSeq := (HeartbeatWire.decode data).sequence, lotaFlags := claims.flags,
              gameIdHash := (HeartbeatWire.decode data).gameIdHash, trusted := claims.flags != 0 }, ?_⟩
    unfold verifyHeartbeat computeHeartbeatNonce
    rw [if_neg (Nat.not_lt.mpr hlen)]
    dsimp only
    rw [if_neg (not_not.mpr hmagic), if_neg (not_not.mpr hversion), if_neg (Nat.not_lt.mpr htotal),
      if_neg (not_not.mpr hsizes), if_neg (not_or.mpr ⟨htok.1, Nat.not_lt.mpr htok.2⟩), hp]
    dsimp only
    rw [hdom, if_neg (by simp), if_neg (not_not.mpr hgame), if_neg (not_not.mpr hmeasure),
      if_neg (UInt64.not_lt.mpr hahead), if_neg (UInt64.not_lt.mpr hbehind), Option.map_some]
    dsimp only
    rw [if_neg hr.aik.1, hv]
    dsimp only
    rw [if_neg (not_not.mpr hnonce), if_neg (not_not.mpr hflags)]

/-- What a call that returns 0 went through. -/
structure Beat (s : Session) (env : Env) (flags : UInt32) (measure : Hash) (token : LotaToken)
    (buf packet : Bytes) : Prop where
  status : getStatus env.status = .ok flags
  measured : env.measure = .ok measure
  reply : getToken (env.token token.nonce) = .ok token
  nonce : computeHeartbeatNonce (s.header flags env.now measure) = some token.nonce
  written : token.serialize acMaxToken = .ok buf
  packet : packet = (s.sizedHeader token.flags env.now measure buf.length).headerBytes ++ buf

theorem heartbeat_ok {s s' : Session} {buflen : Nat} {env : Env} {packet : Bytes}
    (h : heartbeat s buflen env = (s', .ok packet)) :
    ∃ flags measure token buf, Beat s env flags measure token buf packet := by
  unfold heartbeat at h
  split at h
  · cases h
  split at h
  · cases h
  cases hstatus : getStatus env.status with
  | error e => rw [hstatus] at h; cases h
  | ok flags =>
  rw [hstatus] at h
  cases hmeasure : env.measure with
  | error e => simp only [hmeasure] at h; cases h
  | ok measure =>
  simp only [hmeasure] at h
  cases hnonce : computeHeartbeatNonce (s.header flags env.now measure) with
  | none => rw [hnonce] at h; cases h
  | some nonce =>
  rw [hnonce] at h
  cases htoken : getToken (env.token nonce) with
  | error e => cases e <;> (simp only [htoken] at h; cases h)
  | ok token =>
  simp only [htoken] at h
  split at h
  · cases h
  rename_i heq
  have htn : token.nonce = nonce := not_not.mp heq
  cases hbuf : token.serialize acMaxToken with
  | error e => rw [hbuf] at h; cases h
  | ok buf =>
  simp only [hbuf] at h
  split at h
  · cases h
  split at h
  · cases h
  obtain ⟨-, hp⟩ := Prod.mk.inj h
  exact ⟨flags, measure, token, buf, hstatus, hmeasure,
    by rw [htn]; exact htoken, by rw [htn]; exact hnonce, hbuf, (Except.ok.inj hp).symm⟩

end Lota.L4.Heartbeat

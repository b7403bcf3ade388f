import Lota.L4Sdk.HeartbeatBinding
import Lota.L4Sdk.IpcToken

/-!
# Heartbeats: which packets of a session are accepted

`lota_ac_heartbeat` makes the nonce with the flags of `GET_STATUS` and puts
the flags of the token into the header. `lota_ac_verify_heartbeat` makes the
nonce with the flags of the header.

* `heartbeat_accepted_iff`: a packet around a signed token is accepted within
  the maximum age exactly when the two replies of the agent carry the same
  flags and the token meets the rules of the server SDK.
* `status_change_rejected`: an agent that becomes attested between the two
  calls makes a session emit a packet that is refused at once.
-/
namespace Lota.L4.Heartbeat
open Lota.Core Lota.L1.Report Lota.L3.Signature Lota.L4.Token Lota.L4.Gaming Lota.L4.Binding
  Lota.L4.Agreement

/-! ## Acceptance of a beat -/

/-- The verifier reads its clock at most `LOTA_AC_MAX_HEARTBEAT_AGE_SEC` away
from the producer, both after 1970. -/
structure WithinAge (sent now : Int64) : Prop where
  sentEpoch : 0 ≤ sent.toInt
  nowEpoch : 0 ≤ now.toInt
  ahead : sent.toInt ≤ now.toInt + 120
  behind : now.toInt ≤ sent.toInt + 120

theorem toNat_toUInt64 {x : Int64} (h : 0 ≤ x.toInt) :
    (x.toUInt64.toNat : Int) = x.toInt ∧ x.toUInt64.toNat < 2 ^ 63 := by
  have hx : (0 : Int64) ≤ x := Int64.le_iff_toInt_le.mpr (by simpa using h)
  have hlt := x.toInt_lt
  rw [Int64.toNat_toUInt64_of_le hx]
  unfold Int64.toNatClampNeg
  omega

theorem toNat_add_age {x : UInt64} (h : x.toNat < 2 ^ 63) :
    (x + acMaxHeartbeatAgeSec).toNat = x.toNat + 120 := by
  have hage : acMaxHeartbeatAgeSec.toNat = 120 := rfl
  rw [UInt64.toNat_add, hage]
  omega

theorem WithinAge.fits {sent now : Int64} (h : WithinAge sent now) (s : Session) (flags : UInt32)
    (measure : Hash) : HeaderFits (s.header flags sent measure) now := by
  obtain ⟨hs, hslt⟩ := toNat_toUInt64 h.sentEpoch
  obtain ⟨hn, hnlt⟩ := toNat_toUInt64 h.nowEpoch
  have ha := h.ahead
  have hb := h.behind
  refine ⟨rfl, rfl, ⟨s.provider, s.provider.ofUInt8_toUInt8⟩, ?_, ?_⟩
  · show sent.toUInt64 ≤ now.toUInt64 + acMaxHeartbeatAgeSec
    rw [UInt64.le_iff_toNat_le, toNat_add_age hnlt]
    omega
  · show now.toUInt64 ≤ sent.toUInt64 + acMaxHeartbeatAgeSec
    rw [UInt64.le_iff_toNat_le, toNat_add_age hslt]
    omega

/-- The domain new packets use. -/
def currentDomain : DomainStrings := { heartbeatNonce := "lota-ac-heartbeat:v2", bindRuntime := true }

theorem header_domain (s : Session) (flags : UInt32) (now : Int64) (measure : Hash) :
    domainLookup (s.header flags now measure).domainVersion = some currentDomain := rfl

/-- What is hashed into the nonce of a session. -/
def Session.message (s : Session) (flags : UInt32) (now : Int64) (measure : Hash) : Bytes :=
  (s.header flags now measure).nonceMessage currentDomain

theorem message_flags {s : Session} {flags flags' : UInt32} {now : Int64} {measure : Hash}
    (h : s.message flags now measure = s.message flags' now measure) : flags = flags' :=
  (nonceMessage_inj (header_domain s flags now measure) (header_domain s flags' now measure)
    h).1.lotaFlags

section
variable {s : Session} {env : Env} {flags : UInt32} {measure : Hash} {token : LotaToken}
  {buf packet : Bytes}

theorem Beat.nonce_eq (h : Beat s env flags measure token buf packet) :
    token.nonce = sha256 (s.message flags env.now measure) := by
  have hn := h.nonce
  unfold computeHeartbeatNonce at hn
  rw [header_domain] at hn
  exact (Option.some.inj hn).symm

theorem Beat.buf_size (h : Beat s env flags measure token buf packet) :
    buf ≠ [] ∧ buf.length ≤ acMaxToken := by
  have hw := h.written
  have hlen := (serialize_parts hw).length
  have hsize := (serialize_parts hw).size
  unfold LotaToken.serialize at hw
  obtain ⟨-, hw⟩ := except_guard_ok.mp hw
  obtain ⟨hfit, -⟩ := except_guard_ok.mp hw
  have hpos : 0 < buf.length := by
    unfold tokenHeaderSize at hsize
    omega
  exact ⟨List.length_pos_iff.mp hpos, by omega⟩

/-- The server takes the token for a nonce exactly when it is the token's own
and the rules hold. -/
theorem signed_server_iff {K : Crypto} {key : RSAPublicKey} {der : Bytes} {attest : Go.AttestParts}
    {nonce : Hash}
    {now : Int64} (hkey : K.parsePKIXPublicKey der = .ok (.rsa key)) (hbits : 2048 ≤ key.bitLen)
    (hsigned : Signed K key token attest) {buflen : Nat} (hw : token.serialize buflen = .ok buf) :
    (∃ c, Server.verifyToken K buf der nonce now = .ok c ∧ token.flags = c.flags) ↔
      token.nonce = nonce ∧ Server.ServerRules der token.wire attest now := by
  have hc := hsigned.checked hw
  constructor
  · intro ⟨c, hv, _⟩
    obtain ⟨hdr, attest', hc', hr⟩ := (server_accepts_iff hkey hbits).mp ⟨c, hv⟩
    obtain ⟨rfl, rfl⟩ := checked_unique hc hc'
    exact ⟨List.Vector.toList_injective hc'.nonce, hr⟩
  · intro ⟨hn, hr⟩
    subst hn
    obtain ⟨d, hd, -⟩ := hr.digest
    exact ⟨_, Server.verifyToken_ok_iff.mpr ⟨_, _, _, d, hkey, hbits, hc, hr, hd, rfl⟩, rfl⟩

/-- The packet of a beat is accepted exactly when status and token agree on
the flags and the token meets the rules. -/
theorem beat_accepted_iff (h : Beat s env flags measure token buf packet) {K : Crypto}
    {key : RSAPublicKey} {der : Bytes}
    {attest : Go.AttestParts} {now tokenNow : Int64} (hkey : K.parsePKIXPublicKey der = .ok (.rsa key))
    (hbits : 2048 ≤ key.bitLen) (hsigned : Signed K key token attest) (hage : WithinAge env.now now)
    (hcol : NoCollision (s.message flags env.now measure) (s.message token.flags env.now measure)) :
    (∃ info, verifyHeartbeat K packet der s.gameIdHash measure now tokenNow = .ok info) ↔
      token.flags = flags ∧ Server.ServerRules der token.wire attest tokenNow := by
  obtain ⟨h0, hmax⟩ := h.buf_size
  have hpacket : packet = packetOf (s.header token.flags env.now measure) buf := h.packet
  have hiff := packetOf_accepted_iff K der tokenNow
    (hage.fits s token.flags measure) h0 hmax (header_domain s token.flags env.now measure)
  rw [hpacket]
  refine hiff.trans ((signed_server_iff hkey hbits hsigned h.written).trans ?_)
  refine and_congr_left fun _ => ?_
  constructor
  · intro hn
    rw [h.nonce_eq] at hn
    exact (message_flags (hcol hn)).symm
  · intro hf
    rw [h.nonce_eq, hf]
    rfl

end

/-- **Completeness.** For every session and every agent, a call that returns 0
received a status, a measurement and a token; its packet is accepted within
the maximum age, under the AIK that signed the token, exactly when the flags
of the token are the flags of the status and the token meets the rules of the
server SDK. -/
theorem heartbeat_accepted_iff {s s' : Session} {buflen : Nat} {env : Env} {packet : Bytes}
    (h : heartbeat s buflen env = (s', .ok packet)) :
    ∃ flags measure token, getStatus env.status = .ok flags ∧ env.measure = .ok measure ∧
      getToken (env.token token.nonce) = .ok token ∧
      ∀ (K : Crypto) (key : RSAPublicKey) (der : Bytes) (attest : Go.AttestParts)
      (now tokenNow : Int64),
        K.parsePKIXPublicKey der = .ok (.rsa key) → 2048 ≤ key.bitLen → Signed K key token attest →
        WithinAge env.now now →
        NoCollision (s.message flags env.now measure) (s.message token.flags env.now measure) →
        ((∃ info, verifyHeartbeat K packet der s.gameIdHash measure now tokenNow = .ok info) ↔
          token.flags = flags ∧ Server.ServerRules der token.wire attest tokenNow) := by
  obtain ⟨flags, measure, token, buf, hb⟩ := heartbeat_ok h
  refine ⟨flags, measure, token, hb.status, hb.measured, hb.reply, ?_⟩
  intro K key der attest now tokenNow hkey hbits hsigned hage hcol
  exact beat_accepted_iff hb hkey hbits hsigned hage hcol

/-! ## Agents that answer -/

/-- A sealed token without PIDs fits the reply. -/
theorem getToken_sealed (flags : UInt32) (nonce : Hash) :
    getToken (.response ipcMagic 0 (ipcTokenBytes (sealed (plainToken 0 0 flags nonce)))) =
      .ok (sealed (plainToken 0 0 flags nonce)) := by
  have hattest : (sealed (plainToken 0 0 flags nonce)).attestData.length = 111 := quoteOf_length _
  have hsig : (sealed (plainToken 0 0 flags nonce)).signature.length = 256 := sampleSignature_length _
  have hlimits : IpcLimits (sealed (plainToken 0 0 flags nonce)) := by
    refine ⟨Nat.zero_le _, fun _ => rfl, (by decide : (0 : UInt16) ≤ runtimeProtectV2), ?_, ?_⟩
    · rw [hattest]
      decide
    · rw [hsig]
      decide
  have hpids : (sealed (plainToken 0 0 flags nonce)).protectedPIDs.length = 0 := rfl
  have himages : (sealed (plainToken 0 0 flags nonce)).imagesSize = 0 := rfl
  rw [getToken_reply hlimits,
    if_pos (by rw [ipcTokenBytes_length, hattest, hsig, hpids, himages]; decide)]

/-- A direct-mode session at its first heartbeat. -/
def firstSession : Session where
  provider := .eac
  state := .running
  sessionId := Blob.zero 16
  gameIdHash := Blob.zero 32
  lastHeartbeat := 0
  heartbeatSeq := 0
  requiredFlags := 0
  lotaFlags := 0
  direct := true
  connected := true
  tokenBuf := []

/-- An agent that reports the flags `status` and then issues a token with
`flags`. -/
def agentEnv (status flags : UInt32) : Env where
  status := .response ipcMagic 0 (toLE 4 status.toNat ++ List.replicate 32 0)
  now := 0
  measure := .ok (Blob.zero 32)
  token := fun nonce => .response ipcMagic 0 (ipcTokenBytes (sealed (plainToken 0 0 flags nonce)))

theorem agentEnv_status (status flags : UInt32) :
    getStatus (agentEnv status flags).status = .ok status := by
  have hlen : (toLE 4 status.toNat ++ List.replicate 32 (0 : UInt8)).length = ipcStatusSize := by
    rw [List.length_append, toLE_length, List.length_replicate]
    rfl
  unfold getStatus agentEnv recvResponse
  simp only
  rw [if_neg (by simp), if_neg (by omega), if_neg (by simp)]
  simp only
  rw [if_pos (by omega), ofNat_leAt_32]

theorem agentEnv_token (status flags : UInt32) (nonce : Hash) :
    getToken ((agentEnv status flags).token nonce) = .ok (sealed (plainToken 0 0 flags nonce)) :=
  getToken_sealed flags nonce

/-- Against this agent the call returns 0. -/
theorem agentEnv_beat (status flags : UInt32) :
    ∃ s' packet, heartbeat firstSession 2000 (agentEnv status flags) = (s', .ok packet) := by
  have hstatus := agentEnv_status status flags
  have hmeasure : (agentEnv status flags).measure = .ok (Blob.zero 32) := rfl
  have hnonce :
      computeHeartbeatNonce (firstSession.header status (agentEnv status flags).now (Blob.zero 32)) =
      some (sha256 (firstSession.message status (agentEnv status flags).now (Blob.zero 32))) := by
    unfold computeHeartbeatNonce
    rw [header_domain]
    rfl
  generalize sha256 (firstSession.message status (agentEnv status flags).now (Blob.zero 32)) =
    nonce at hnonce
  have htoken := agentEnv_token status flags nonce
  have hn : (sealed (plainToken 0 0 flags nonce)).nonce = nonce := rfl
  have hp : (plainToken 0 0 flags nonce).protectedPIDs = [] := rfl
  have hw := sealed_serialize hp (by decide : 511 ≤ acMaxToken)
  have hlen := sealed_bytes_length hp
  generalize sealed (plainToken 0 0 flags nonce) = token at *
  unfold heartbeat
  rw [if_neg (by decide), if_neg (by decide), hstatus]
  simp only [hmeasure, hnonce, htoken]
  rw [if_neg (not_not.mpr hn)]
  simp only [hw]
  rw [if_neg (by omega), if_neg (by rw [hlen]; decide)]
  exact ⟨_, _, rfl⟩

/-- What the agent's token is to the server. -/
theorem agentEnv_valid {status flags : UInt32} {token : LotaToken}
    (h : getToken ((agentEnv status flags).token token.nonce) = .ok token) :
    ∃ key der attest, rsaCrypto.parsePKIXPublicKey der = .ok (.rsa key) ∧ 2048 ≤ key.bitLen ∧
      Signed rsaCrypto key token attest ∧ token.flags = flags ∧
      Server.ServerRules der token.wire attest 0 := by
  rw [agentEnv_token] at h
  have heq := Except.ok.inj h
  generalize htn : token.nonce = nonce at heq
  have hv : (plainToken 0 0 flags nonce).runtimeProtectVersion ≤ runtimeProtectV2 := by
    simp only [plainToken]
    decide
  have hp : (plainToken 0 0 flags nonce).protectedPIDs = [] := rfl
  have hcanon : canonicalPIDs (plainToken 0 0 flags nonce).protectedPIDs = true := rfl
  have hflags : (sealed (plainToken 0 0 flags nonce)).flags = flags := rfl
  have hvu : (plainToken 0 0 flags nonce).validUntil = 0 := rfl
  generalize plainToken 0 0 flags nonce = t at *
  have hr := sealed_rules hv hp 0 (sealed_checked (.plain hv hp)) (by rw [hvu]; decide) (.inl hvu)
  rw [← heq]
  exact ⟨_, _, _, sealDer_parse t, sealKey_bits t, sealed_signed hv hcanon, hflags, hr⟩

theorem withinAge_zero : WithinAge 0 0 := ⟨by decide, by decide, by decide, by decide⟩

/-- With a steady status the packet is accepted. -/
theorem heartbeat_accepted_steady :
    ∃ s' packet der info, heartbeat firstSession 2000 (agentEnv 7 7) = (s', .ok packet) ∧
      verifyHeartbeat rsaCrypto packet der (Blob.zero 32) (Blob.zero 32) 0 0 = .ok info := by
  obtain ⟨s', packet, h⟩ := agentEnv_beat 7 7
  obtain ⟨flags, measure, token, hs, hm, ht, hall⟩ := heartbeat_accepted_iff h
  obtain ⟨key, der, attest, hkey, hbits, hsigned, hflags, hr⟩ := agentEnv_valid ht
  cases (agentEnv_status 7 7).symm.trans hs
  cases hm
  have hcol : NoCollision (firstSession.message 7 (agentEnv 7 7).now (Blob.zero 32))
      (firstSession.message token.flags (agentEnv 7 7).now (Blob.zero 32)) := by
    rw [hflags]
    exact fun _ => rfl
  obtain ⟨info, hinfo⟩ :=
    (hall rsaCrypto key der attest 0 0 hkey hbits hsigned withinAge_zero hcol).mpr ⟨hflags, hr⟩
  exact ⟨s', packet, der, info, h, hinfo⟩

theorem message_noCollision :
    NoCollision (firstSession.message 1 0 (Blob.zero 32))
    (firstSession.message 3 0 (Blob.zero 32)) := by
  intro h
  exact absurd h (by decide +kernel)

/-- **Counterexample.** The agent answers status 1 and then issues a token
with flags 3. The call returns 0, the token is signed and unexpired, and the
verifier refuses the packet in the same second. -/
theorem status_change_rejected :
    ∃ s' packet token key der attest, heartbeat firstSession 2000 (agentEnv 1 3) = (s', .ok packet) ∧
      getStatus (agentEnv 1 3).status = .ok 1 ∧
      getToken ((agentEnv 1 3).token token.nonce) = .ok token ∧
      rsaCrypto.parsePKIXPublicKey der = .ok (.rsa key) ∧ Signed rsaCrypto key token attest ∧
      Server.ServerRules der token.wire attest 0 ∧ WithinAge (agentEnv 1 3).now 0 ∧
      ¬ ∃ info, verifyHeartbeat rsaCrypto packet der (Blob.zero 32) (Blob.zero 32) 0 0 = .ok info := by
  obtain ⟨s', packet, h⟩ := agentEnv_beat 1 3
  obtain ⟨flags, measure, token, buf, hb⟩ := heartbeat_ok h
  obtain ⟨key, der, attest, hkey, hbits, hsigned, hflags, hr⟩ := agentEnv_valid hb.reply
  have hs := hb.status
  have hm := hb.measured
  cases (agentEnv_status 1 3).symm.trans hs
  cases hm
  refine ⟨s', packet, token, key, der, attest, h, hs, hb.reply, hkey, hsigned, hr, withinAge_zero, ?_⟩
  have hcol : NoCollision (firstSession.message 1 (agentEnv 1 3).now (Blob.zero 32))
      (firstSession.message token.flags (agentEnv 1 3).now (Blob.zero 32)) := by
    rw [hflags]
    exact message_noCollision
  intro hacc
  have hf := ((beat_accepted_iff hb hkey hbits hsigned withinAge_zero hcol).mp hacc).1
  rw [hflags] at hf
  exact absurd hf (by decide)

end Lota.L4.Heartbeat

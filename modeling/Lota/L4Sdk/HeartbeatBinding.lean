import Lota.L4Sdk.Heartbeat
import Lota.L4Sdk.SdkAgreement

/-!
# Heartbeats: what the token of a packet binds

The verifier rebuilds the nonce from the header and lets the packet choose
the domain of the nonce.

* `packets_equal_iff`: two accepted packets around one token are the same
  packet, unless they name domain version 1 and were checked against two
  different measurements. Version 1 leaves the measurement out of the nonce.
* `v1_measure_unbound`: such a pair.
-/
namespace Lota.L4.Heartbeat
open Lota.Core Lota.L1.Report Lota.L3.Signature Lota.L4.Token Lota.L4.Gaming Lota.L4.Binding
  Lota.L4.Agreement

/-! ## Two packets around one token -/

/-- What the nonce of a packet is the hash of. -/
def HeartbeatWire.nonceBytes (w : HeartbeatWire) : Bytes :=
  (domainLookup w.domainVersion).elim [] w.nonceMessage

theorem nonceBytes_eq {w : HeartbeatWire} (dom : DomainStrings)
    (h : domainLookup w.domainVersion = some dom) : w.nonceBytes = w.nonceMessage dom := by
  unfold HeartbeatWire.nonceBytes
  rw [h]
  rfl

/-- A token is accepted for one nonce only. -/
theorem verifyToken_nonce {K : Crypto} {data der der' : Bytes} {nonce nonce' : Hash} {now now' : Int64}
    {c c' : Server.ServerClaims} (h : Server.verifyToken K data der nonce now = .ok c)
    (h' : Server.verifyToken K data der' nonce' now' = .ok c') : nonce = nonce' := by
  obtain ⟨hdr, attest, key, d, -, -, hc, -⟩ := Server.verifyToken_ok_iff.mp h
  obtain ⟨hdr', attest', key', d', -, -, hc', -⟩ := Server.verifyToken_ok_iff.mp h'
  have hh : hdr = hdr' := hc.header.decode.symm.trans hc'.header.decode
  apply List.Vector.toList_injective
  rw [← hc.nonce, ← hc'.nonce, hh]

section
variable {K : Crypto} {data data' der : Bytes} {game game' measure measure' : Hash}
  {now tokenNow now' tokenNow' : Int64}

/-- **Packets are bound.** Two packets accepted under one AIK around one
token agree in every field exactly when the domain is not version 1 or both
calls expected the same measurement. -/
theorem packets_equal_iff
    (h : ∃ info, verifyHeartbeat K data der game measure now tokenNow = .ok info)
    (h' : ∃ info, verifyHeartbeat K data' der game' measure' now' tokenNow' = .ok info)
    (htoken : (HeartbeatWire.decode data).token data = (HeartbeatWire.decode data').token data')
    (hn : NoCollision (HeartbeatWire.decode data).nonceBytes (HeartbeatWire.decode data').nonceBytes) :
    (SameHeader (HeartbeatWire.decode data) (HeartbeatWire.decode data') ∧
      (HeartbeatWire.decode data).runtimeMeasure = (HeartbeatWire.decode data').runtimeMeasure) ↔
    ((HeartbeatWire.decode data).domainVersion ≠ domainVersionV1 ∨ measure = measure') := by
  obtain ⟨w, dom, c, hpk, hdom, hv, -⟩ := verifyHeartbeat_ok_iff.mp h
  obtain ⟨w', dom', c', hpk', hdom', hv', -⟩ := verifyHeartbeat_ok_iff.mp h'
  rw [hpk.decode, hpk'.decode] at *
  have hmsg : w.nonceMessage dom = w'.nonceMessage dom' := by
    rw [nonceBytes_eq _ hdom, nonceBytes_eq _ hdom'] at hn
    apply hn
    rw [htoken] at hv
    exact verifyToken_nonce hv hv'
  obtain ⟨hsame, hbind⟩ := nonceMessage_inj hdom hdom' hmsg
  constructor
  · intro hboth
    have hm := hboth.2
    rw [hpk.runtime, hpk'.runtime] at hm
    exact .inr hm
  · intro hcond
    refine ⟨hsame, ?_⟩
    rcases hcond with hv1 | hm
    · apply hbind
      obtain ⟨hver, -⟩ | ⟨-, rfl⟩ := domainLookup_some hdom
      · exact absurd hver hv1
      · rfl
    · rw [hpk.runtime, hpk'.runtime, hm]

end

/-! ## Packets that are accepted -/

/-- A header with its sizes around a token. -/
def packetOf (w : HeartbeatWire) (token : Bytes) : Bytes :=
  ({ w with totalSize := UInt16.ofNat (acHeaderSize + token.length),
            tokenSize := UInt16.ofNat token.length } :
    HeartbeatWire).headerBytes ++ token

theorem decode_packetOf (w : HeartbeatWire) (token : Bytes) :
    HeartbeatWire.decode (packetOf w token) =
      { w with totalSize := UInt16.ofNat (acHeaderSize + token.length),
               tokenSize := UInt16.ofNat token.length } :=
  decode_headerBytes _ _

/-- The header passes if its constants are right and the times fit. -/
structure HeaderFits (w : HeartbeatWire) (now : Int64) : Prop where
  magic : w.magic = acMagic
  version : w.version = acVersion
  provider : ∃ p, Provider.ofUInt8 w.provider = some p
  notAhead : w.timestamp ≤ now.toUInt64 + acMaxHeartbeatAgeSec
  notBehind : now.toUInt64 ≤ w.timestamp + acMaxHeartbeatAgeSec

theorem packetOf_sizes {token : Bytes} (hmax : token.length ≤ acMaxToken) :
    (UInt16.ofNat token.length).toNat = token.length ∧
      (UInt16.ofNat (acHeaderSize + token.length)).toNat = acHeaderSize + token.length := by
  unfold acMaxToken at hmax
  unfold acHeaderSize
  rw [UInt16.toNat_ofNat', UInt16.toNat_ofNat']
  omega

theorem packetOf_token {w : HeartbeatWire} {token : Bytes} (hmax : token.length ≤ acMaxToken) :
    (HeartbeatWire.decode (packetOf w token)).token (packetOf w token) = token := by
  rw [decode_packetOf]
  unfold HeartbeatWire.token packetOf
  simp only
  rw [(packetOf_sizes hmax).1, List.drop_left' (headerBytes_length _),
    List.take_of_length_le (Nat.le_refl _)]

/-- A packet is accepted exactly when its token is, for the nonce of its
header and with the flags of its header. -/
theorem packetOf_accepted_iff (K : Crypto) {w : HeartbeatWire} {token : Bytes}
    (der : Bytes) {now : Int64}
    (tokenNow : Int64) (hfit : HeaderFits w now) (h0 : token ≠ [])
    (hmax : token.length ≤ acMaxToken) {dom : DomainStrings}
    (hdom : domainLookup w.domainVersion = some dom) :
    (∃ info, verifyHeartbeat K (packetOf w token) der w.gameIdHash w.runtimeMeasure now
      tokenNow = .ok info) ↔
      ∃ c, Server.verifyToken K token der (sha256 (w.nonceMessage dom)) tokenNow = .ok c ∧
      w.lotaFlags = c.flags := by
  have htok := packetOf_token (w := w) hmax
  have hdec := decode_packetOf w token
  obtain ⟨hs1, hs2⟩ := packetOf_sizes hmax
  have hlen : (packetOf w token).length = acHeaderSize + token.length := by
    unfold packetOf
    rw [List.length_append, headerBytes_length]
  rw [verifyHeartbeat_ok_iff]
  constructor
  · intro ⟨w', dom', c, hpk, hdom', hv, hflags⟩
    have hw := hpk.decode.symm.trans hdec
    rw [← hpk.decode, htok, hdec] at hv
    rw [hw] at hdom' hflags
    cases hdom.symm.trans hdom'
    exact ⟨c, hv, hflags⟩
  · intro ⟨c, hv, hflags⟩
    refine ⟨_, dom, c, ⟨rfl, by omega, ?_, ?_, ?_, ?_, ?_, ?_, ?_, ?_, ?_, ?_⟩, ?_, ?_, ?_⟩
    all_goals rw [hdec]
    · exact hfit.magic
    · exact hfit.version
    · rw [hlen]
      exact Nat.le_of_eq hs2
    · show (UInt16.ofNat (acHeaderSize + token.length)).toNat = acHeaderSize +
          (UInt16.ofNat token.length).toNat
      rw [hs1, hs2]
    · refine ⟨UInt16.ne_zero_of_toNat hs1 (List.length_pos_iff.mpr h0), ?_⟩
      show (UInt16.ofNat token.length).toNat ≤ acMaxToken
      rw [hs1]
      exact hmax
    · exact hfit.provider
    · exact hfit.notAhead
    · exact hfit.notBehind
    · exact hdom
    · rw [hdec] at htok
      rw [htok]
      exact hv
    · exact hflags

/-! ## Two measurements under one token -/

section
variable {t : LotaToken} (hv : t.runtimeProtectVersion ≤ runtimeProtectV2) (hp : t.protectedPIDs = [])
include hv hp

/-- The C server accepts a sealed token for its own nonce. -/
theorem sealed_server {now : Int64} (hf : t.validUntil ≤ Server.futureCutoff now.toUInt64)
    (hl : t.validUntil = 0 ∨ now.toUInt64 ≤ t.validUntil) :
    ∃ c, Server.verifyToken rsaCrypto (sealed t).bytes (sealDer t) t.nonce now = .ok c ∧
    c.flags = t.flags := by
  have hc := sealed_checked (.plain hv hp)
  have hr := sealed_rules hv hp now hc hf hl
  obtain ⟨d, hd, -⟩ := hr.digest
  exact ⟨_, Server.verifyToken_ok_iff.mpr ⟨_, _, _, d, sealDer_parse t, sealKey_bits t, hc, hr,
    hd, rfl⟩, rfl⟩

omit hv in
theorem sealed_bytes_length : (sealed t).bytes.length = 511 := by
  rw [(serialize_parts (sealed_serialize hp (Nat.le_refl 511))).length, sealed_serializedSize hp]

/-- A packet around a token sealed for its nonce is accepted if it carries
the flags of the token. -/
theorem sealed_packet_accepted {w : HeartbeatWire} {now tokenNow : Int64} (hfit : HeaderFits w now)
    {dom : DomainStrings} (hdom : domainLookup w.domainVersion = some dom)
    (hnonce : t.nonce = sha256 (w.nonceMessage dom))
    (hflags : w.lotaFlags = t.flags) (hf : t.validUntil ≤ Server.futureCutoff tokenNow.toUInt64)
    (hl : t.validUntil = 0 ∨ tokenNow.toUInt64 ≤ t.validUntil) :
    ∃ info, verifyHeartbeat rsaCrypto (packetOf w (sealed t).bytes)
    (sealDer t) w.gameIdHash w.runtimeMeasure now
      tokenNow = .ok info := by
  have hlen := sealed_bytes_length hp
  have h0 : (sealed t).bytes ≠ [] := by
    intro h
    rw [h] at hlen
    cases hlen
  have hmax : (sealed t).bytes.length ≤ acMaxToken := by
    rw [hlen]
    decide
  obtain ⟨c, hver, hcf⟩ := sealed_server hv hp hf hl
  refine (packetOf_accepted_iff _ _ _ hfit h0 hmax hdom).mpr ⟨c, ?_, by rw [hflags, hcf]⟩
  rw [← hnonce]
  exact hver

end

/-- A version 1 header that reports the measurement `m`. -/
def v1Header (m : Hash) : HeartbeatWire where
  magic := acMagic
  version := acVersion
  provider := 1
  totalSize := 0
  sessionId := Blob.zero 16
  sequence := 0
  lotaFlags := 7
  timestamp := 0
  gameIdHash := Blob.zero 32
  tokenSize := 0
  domainVersion := domainVersionV1
  runtimeMeasure := m

/-- Another measurement. -/
def oneHash : Hash := List.Vector.replicate 32 1

theorem zero_ne_oneHash : Blob.zero 32 ≠ oneHash := by decide

def v1Domain : DomainStrings := { heartbeatNonce := "lota-ac-heartbeat:v1", bindRuntime := false }

/-- The token both packets carry: its nonce does not depend on `m`. -/
def v1Token : LotaToken := plainToken 0 0 7 (sha256 ((v1Header (Blob.zero 32)).nonceMessage v1Domain))

def v1Packet (m : Hash) : Bytes := packetOf (v1Header m) (sealed v1Token).bytes

theorem v1Packet_accepted (m : Hash) :
    ∃ info, verifyHeartbeat rsaCrypto (v1Packet m) (sealDer v1Token) (Blob.zero 32) m 0 0 =
    .ok info := by
  have hfit : HeaderFits (v1Header m) 0 := by
    refine ⟨rfl, rfl, ⟨.eac, rfl⟩, ?_, ?_⟩
    · show (0 : UInt64) ≤ Int64.toUInt64 0 + acMaxHeartbeatAgeSec
      decide
    · show Int64.toUInt64 0 ≤ (0 : UInt64) + acMaxHeartbeatAgeSec
      decide
  have hnonce : v1Token.nonce = sha256 ((v1Header m).nonceMessage v1Domain) := by
    simp only [v1Token, plainToken, HeartbeatWire.nonceMessage, HeartbeatWire.boundFields,
      v1Header, v1Domain, Bool.false_eq_true, if_false]
  have hv : v1Token.runtimeProtectVersion ≤ runtimeProtectV2 := by
    simp only [v1Token, plainToken]
    decide
  have hp : v1Token.protectedPIDs = [] := by simp only [v1Token, plainToken]
  have hvu : v1Token.validUntil = 0 := by simp only [v1Token, plainToken]
  have hflags : (v1Header m).lotaFlags = v1Token.flags := by simp only [v1Token, plainToken, v1Header]
  refine sealed_packet_accepted hv hp hfit (by rfl : domainLookup _ = some v1Domain) hnonce
    hflags ?_ (.inl hvu)
  rw [hvu]
  decide

theorem v1Packet_token (m : Hash) :
    (HeartbeatWire.decode (v1Packet m)).token (v1Packet m) = (sealed v1Token).bytes := by
  have hlen : (sealed v1Token).bytes.length = 511 := by
    apply sealed_bytes_length
    simp only [v1Token, plainToken]
  apply packetOf_token
  rw [hlen]
  decide

theorem v1Packet_measure (m : Hash) : (HeartbeatWire.decode (v1Packet m)).runtimeMeasure = m := by
  unfold v1Packet
  rw [decode_packetOf]
  rfl

theorem v1Packet_domain (m : Hash) :
    (HeartbeatWire.decode (v1Packet m)).domainVersion = domainVersionV1 := by
  unfold v1Packet
  rw [decode_packetOf]
  rfl

theorem v1Packet_nonceBytes (m m' : Hash) :
    (HeartbeatWire.decode (v1Packet m)).nonceBytes =
    (HeartbeatWire.decode (v1Packet m')).nonceBytes := by
  unfold v1Packet
  rw [decode_packetOf, decode_packetOf, nonceBytes_eq v1Domain rfl, nonceBytes_eq v1Domain rfl]
  simp only [HeartbeatWire.nonceMessage, HeartbeatWire.boundFields, v1Header, v1Domain,
    Bool.false_eq_true, if_false]

/-- The two version 1 packets do not agree. -/
theorem packets_equal_v1 :
    ¬ (SameHeader (HeartbeatWire.decode (v1Packet (Blob.zero 32)))
      (HeartbeatWire.decode (v1Packet oneHash)) ∧
      (HeartbeatWire.decode (v1Packet (Blob.zero 32))).runtimeMeasure =
        (HeartbeatWire.decode (v1Packet oneHash)).runtimeMeasure) := by
  rw [packets_equal_iff (v1Packet_accepted _) (v1Packet_accepted _)
    ((v1Packet_token _).trans (v1Packet_token _).symm) (fun _ => v1Packet_nonceBytes _ _)]
  intro h
  rcases h with h | h
  · exact h (v1Packet_domain _)
  · exact zero_ne_oneHash h

/-- **Counterexample.** One token in two packets that differ in the
measurement alone, both accepted under one AIK. -/
theorem v1_measure_unbound :
    (∃ info, verifyHeartbeat rsaCrypto (v1Packet (Blob.zero 32)) (sealDer v1Token) (Blob.zero 32)
      (Blob.zero 32) 0 0 = .ok info) ∧
    (∃ info, verifyHeartbeat rsaCrypto (v1Packet oneHash) (sealDer v1Token) (Blob.zero 32) oneHash 0
      0 = .ok info) ∧
    (HeartbeatWire.decode (v1Packet (Blob.zero 32))).token (v1Packet (Blob.zero 32)) =
      (HeartbeatWire.decode (v1Packet oneHash)).token (v1Packet oneHash) ∧
    (HeartbeatWire.decode (v1Packet (Blob.zero 32))).runtimeMeasure ≠
      (HeartbeatWire.decode (v1Packet oneHash)).runtimeMeasure := by
  refine ⟨v1Packet_accepted _, v1Packet_accepted _,
    (v1Packet_token _).trans (v1Packet_token _).symm, ?_⟩
  rw [v1Packet_measure, v1Packet_measure]
  exact zero_ne_oneHash

end Lota.L4.Heartbeat

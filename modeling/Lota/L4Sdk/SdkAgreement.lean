import Lota.L4Sdk.ServerC
import Lota.L4Sdk.TokenBinding

/-!
# The two server SDKs against each other

Both SDKs make the checks of `Checked`. Then Go compares the clock with
`valid_until` in signed arithmetic, and C applies its `ServerRules`. So the
two agree on a token exactly when it fails a common check or the clock test
of the one comes out as the rules of the other.

* `sdks_agree_iff`: the condition, for every token, key, nonce and clock.
* `far_future_token_split`: a signed token valid for longer than two hours is
  accepted in Go and refused in C. The Go documentation promises the refusal
  ("issued in future") and `ErrFutureToken` is never returned.
-/
namespace Lota.L4.Agreement
open Lota.Core Lota.L1.Report Lota.L3.Signature Lota.L4.Token Lota.L4.Gaming Lota.L4.Binding
open Lota.L4.Go (Checked)

/-- The claims both SDKs report. -/
structure SameClaims (c : Go.Claims) (c' : Server.ServerClaims) : Prop where
  validUntil : c.expiresAt = c'.validUntil.toInt64
  flags : c.flags = c'.flags
  nonce : c.nonce = c'.nonce
  pcrMask : c.pcrMask = c'.pcrMask
  policyDigest : c.policyDigest = c'.policyDigest
  runtimeProtectDigest : c.runtimeProtectDigest = c'.runtimeProtectDigest
  protectPIDCount : c.protectPIDCount = c'.protectPidCount
  runtimeProtectEpoch : c.runtimeProtectEpoch = c'.runtimeProtectEpoch
  pcrDigest : c.pcrDigest = some (c'.pcrDigest.toList.take c'.pcrDigestLen)

/-- Success in one is success in the other, with the same claims. -/
structure SdksAgree (K : Crypto) (data der : Bytes) (key : RSAPublicKey) (nonce : Hash)
    (now : Int64) : Prop where
  accepts : (∃ c, Go.verifyToken K data key nonce.toList now = .ok c) ↔
    ∃ c', Server.verifyToken K data der nonce now = .ok c'
  claims : ∀ c c', Go.verifyToken K data key nonce.toList now = .ok c →
    Server.verifyToken K data der nonce now = .ok c' → SameClaims c c'

/-- Go's clock test: `valid_until` as a signed number. -/
def GoLive (hdr : TokenWire) (now : Int64) : Prop := hdr.validUntil = 0 ∨ now ≤ hdr.validUntil.toInt64

section
variable {K : Crypto} {data der : Bytes} {key : RSAPublicKey} {nonce : Hash} {now : Int64}

theorem checked_unique {hdr hdr' : TokenWire} {attest attest' : Go.AttestParts} {nonce nonce' : Bytes}
    (h : Checked K data key nonce hdr attest) (h' : Checked K data key nonce' hdr' attest') :
    hdr = hdr' ∧ attest = attest' := by
  have hh : hdr = hdr' := h.header.decode.symm.trans h'.header.decode
  subst hh
  exact ⟨rfl, Except.ok.inj (h.parsed.symm.trans h'.parsed)⟩

theorem go_accepts_iff : (∃ c, Go.verifyToken K data key nonce.toList now = .ok c) ↔
    ∃ hdr attest, Checked K data key nonce.toList hdr attest ∧ GoLive hdr now := by
  constructor
  · intro ⟨c, h⟩
    obtain ⟨⟨hdr, attest, hc, -⟩, hlive⟩ := Go.verifyToken_ok.mp h
    rw [hc.header.decode] at hlive
    exact ⟨hdr, attest, hc, hlive⟩
  · intro ⟨hdr, attest, hc, hlive⟩
    refine ⟨Go.claimsOf hdr attest, Go.verifyToken_ok.mpr ⟨⟨hdr, attest, hc, rfl⟩, ?_⟩⟩
    rw [hc.header.decode]
    exact hlive

theorem server_accepts_iff (hkey : K.parsePKIXPublicKey der = .ok (.rsa key))
    (hbits : 2048 ≤ key.bitLen) : (∃ c, Server.verifyToken K data der nonce now = .ok c) ↔
      ∃ hdr attest, Checked K data key nonce.toList hdr attest ∧
      Server.ServerRules der hdr attest now := by
  constructor
  · intro ⟨c, h⟩
    obtain ⟨hdr, attest, key', d, hk, -, hc, hr, -⟩ := Server.verifyToken_ok_iff.mp h
    cases hkey.symm.trans hk
    exact ⟨hdr, attest, hc, hr⟩
  · intro ⟨hdr, attest, hc, hr⟩
    obtain ⟨d, hd, -⟩ := hr.digest
    exact ⟨_, Server.verifyToken_ok_iff.mpr ⟨hdr, attest, key, d, hkey, hbits, hc, hr, hd, rfl⟩⟩

/-- A digest of at most 64 bytes survives the copy into `claims`. -/
theorem take_toBlob {d : Bytes} (h : d.length ≤ 64) : (toBlob 64 d).toList.take d.length = d := by
  show ((d ++ List.replicate 64 0).take 64).take d.length = d
  rw [List.take_take, Nat.min_eq_left h, List.take_left' rfl]

theorem same_claims (hkey : K.parsePKIXPublicKey der = .ok (.rsa key)) {c : Go.Claims}
    {c' : Server.ServerClaims}
    (h : Go.verifyToken K data key nonce.toList now = .ok c)
    (h' : Server.verifyToken K data der nonce now = .ok c') : SameClaims c c' := by
  obtain ⟨⟨hdr, attest, hc, rfl⟩, -⟩ := Go.verifyToken_ok.mp h
  obtain ⟨hdr', attest', key', d, hk, -, hc', hr, hd, rfl⟩ := Server.verifyToken_ok_iff.mp h'
  cases hkey.symm.trans hk
  obtain ⟨rfl, rfl⟩ := checked_unique hc hc'
  obtain ⟨d', hd', hlen⟩ := hr.digest
  cases hd.symm.trans hd'
  have hmax : d.length ≤ 64 := by
    rw [hlen]
    exact Server.hashAlgDigestLen_le _
  refine ⟨rfl, rfl, rfl, rfl, rfl, rfl, rfl, rfl, ?_⟩
  show attest.pcrDigest = some ((toBlob 64 d).toList.take d.length)
  rw [take_toBlob hmax, hd]

/-- **The SDKs.** For every token, every RSA key of at least 2048 bits, every
nonce and every clock reading the two SDKs agree exactly when a token that
passes the common checks is unexpired for Go if and only if it meets the
rules of C: an AIK encoding of at most 512 bytes, a quote whose PCR digest
has the size of the token's hash, and a `valid_until` that is at most two
hours ahead and not behind the unsigned clock. -/
theorem sdks_agree_iff (hkey : K.parsePKIXPublicKey der = .ok (.rsa key)) (hbits : 2048 ≤ key.bitLen) :
    SdksAgree K data der key nonce now ↔
      ∀ hdr attest, Checked K data key nonce.toList hdr attest →
        (GoLive hdr now ↔ Server.ServerRules der hdr attest now) := by
  constructor
  · intro h hdr attest hc
    constructor
    · intro hlive
      obtain ⟨hdr', attest', hc', hr⟩ :=
        (server_accepts_iff hkey hbits).mp (h.accepts.mp (go_accepts_iff.mpr ⟨hdr, attest, hc, hlive⟩))
      obtain ⟨rfl, rfl⟩ := checked_unique hc hc'
      exact hr
    · intro hr
      obtain ⟨hdr', attest', hc', hlive⟩ :=
        go_accepts_iff.mp (h.accepts.mpr ((server_accepts_iff hkey hbits).mpr ⟨hdr, attest, hc, hr⟩))
      obtain ⟨rfl, rfl⟩ := checked_unique hc hc'
      exact hlive
  · intro h
    refine ⟨?_, fun c c' => same_claims hkey⟩
    rw [go_accepts_iff, server_accepts_iff hkey hbits]
    constructor
    · intro ⟨hdr, attest, hc, hlive⟩
      exact ⟨hdr, attest, hc, (h hdr attest hc).mp hlive⟩
    · intro ⟨hdr, attest, hc, hr⟩
      exact ⟨hdr, attest, hc, (h hdr attest hc).mpr hr⟩

end

/-! ## A token each way -/

/-- The encoding of a sealed token's AIK. -/
def sealDer (t : LotaToken) : Bytes := marshalSPKI (sealKey t).n

theorem rsaCrypto_parse {digest : Bytes} (h : digest.length = 32) :
    rsaCrypto.parsePKIXPublicKey (marshalSPKI (sampleKey digest).n) =
    .ok (.rsa (sampleKey digest)) := by
  have hp := parseSPKI_sampleKey h
  simp only [rsaCrypto, hp]

theorem sealDer_parse (t : LotaToken) :
    rsaCrypto.parsePKIXPublicKey (sealDer t) = .ok (.rsa (sealKey t)) := by
  have h : (sha256 (quoteOf t)).toList.length = 32 := List.Vector.toList_length _
  have hp := rsaCrypto_parse h
  rw [sealDer, sealKey]
  exact hp

theorem sealDer_ok (t : LotaToken) : Server.AikOK (sealDer t) := by
  unfold Server.AikOK sealDer
  rw [marshalSPKI_length]
  exact ⟨by decide, by decide⟩

theorem sealKey_bits (t : LotaToken) : 2048 ≤ (sealKey t).bitLen := by
  unfold sealKey
  rw [sampleKey_bitLen (List.Vector.toList_length _)]

section
variable {t : LotaToken} (hv : t.runtimeProtectVersion ≤ runtimeProtectV2) (hp : t.protectedPIDs = [])
include hv hp

/-- What the checks find in a sealed token. -/
theorem sealed_found {nonce : Bytes} {hdr : TokenWire} {attest : Go.AttestParts}
    (h : Checked rsaCrypto (sealed t).bytes (sealKey t) nonce hdr attest) :
    hdr.validUntil = t.validUntil ∧ hdr.hashAlg = tpmAlgSHA256 ∧
      attest.pcrDigest = some (sha256 (Blob.zero 32).toList).toList := by
  obtain ⟨rfl, rfl⟩ := checked_unique h (sealed_checked (.plain hv hp))
  exact ⟨rfl, rfl, rfl⟩

/-- A sealed token meets the rules of the C SDK if the clock allows it. -/
theorem sealed_rules {nonce : Bytes} {hdr : TokenWire} {attest : Go.AttestParts} (now : Int64)
    (h : Checked rsaCrypto (sealed t).bytes (sealKey t) nonce hdr attest)
    (hf : t.validUntil ≤ Server.futureCutoff now.toUInt64)
    (hl : t.validUntil = 0 ∨ now.toUInt64 ≤ t.validUntil) :
    Server.ServerRules (sealDer t) hdr attest now := by
  obtain ⟨hvu, halg, hd⟩ := sealed_found hv hp h
  refine ⟨sealDer_ok t, ⟨_, hd, ?_⟩, by rw [hvu]; exact hf, by rw [hvu]; exact hl⟩
  rw [halg, List.Vector.toList_length]
  rfl

end

/-- A token that is valid for another hour is accepted by both. -/
theorem sdks_agree_hour :
    let t := plainToken 0 3600 7 (Blob.zero 32)
    (∃ c, Go.verifyToken rsaCrypto (sealed t).bytes (sealKey t) (Blob.zero 32).toList 0 = .ok c) ∧
      SdksAgree rsaCrypto (sealed t).bytes (sealDer t) (sealKey t) (Blob.zero 32) 0 := by
  generalize ht : plainToken 0 3600 7 (Blob.zero 32) = t
  have hv : t.runtimeProtectVersion ≤ runtimeProtectV2 := by rw [← ht]; decide
  have hp : t.protectedPIDs = [] := by rw [← ht]; rfl
  have hn : t.nonce = Blob.zero 32 := by rw [← ht]; rfl
  have hvu : t.validUntil = 3600 := by rw [← ht]; rfl
  have hgo := sealed_verifyToken (.plain hv hp) 0 (.inr (by rw [hvu]; decide))
  rw [hn] at hgo
  refine ⟨⟨_, hgo⟩, (sdks_agree_iff (sealDer_parse t) (sealKey_bits t)).mpr ?_⟩
  intro hdr attest hc
  have hr := sealed_rules hv hp 0 hc (by rw [hvu]; decide) (.inr (by rw [hvu]; decide))
  have hlive : GoLive hdr 0 := by
    refine .inr ?_
    rw [(sealed_found hv hp hc).1, hvu]
    decide
  exact ⟨fun _ => hr, fun _ => hlive⟩

/-- **Counterexample.** A token signed for 10000 seconds from now: Go accepts
it, C does not. -/
theorem far_future_token_split :
    let t := plainToken 0 10000 7 (Blob.zero 32)
    rsaCrypto.parsePKIXPublicKey (sealDer t) = .ok (.rsa (sealKey t)) ∧ 2048 ≤ (sealKey t).bitLen ∧
      (∃ c, Go.verifyToken rsaCrypto (sealed t).bytes (sealKey t) (Blob.zero 32).toList 0 = .ok c) ∧
      (¬ ∃ c, Server.verifyToken rsaCrypto (sealed t).bytes (sealDer t) (Blob.zero 32) 0 = .ok c) ∧
      ¬ SdksAgree rsaCrypto (sealed t).bytes (sealDer t) (sealKey t) (Blob.zero 32) 0 := by
  generalize ht : plainToken 0 10000 7 (Blob.zero 32) = t
  have hv : t.runtimeProtectVersion ≤ runtimeProtectV2 := by rw [← ht]; decide
  have hp : t.protectedPIDs = [] := by rw [← ht]; rfl
  have hn : t.nonce = Blob.zero 32 := by rw [← ht]; rfl
  have hvu : t.validUntil = 10000 := by rw [← ht]; rfl
  have hgo := sealed_verifyToken (.plain hv hp) 0 (.inr (by rw [hvu]; decide))
  rw [hn] at hgo
  have hserver : ¬ ∃ c, Server.verifyToken rsaCrypto (sealed t).bytes (sealDer t) (Blob.zero 32)
      0 = .ok c := by
    intro h
    obtain ⟨hdr, attest, hc, hr⟩ := (server_accepts_iff (sealDer_parse t) (sealKey_bits t)).mp h
    have hf := hr.horizon
    rw [(sealed_found hv hp hc).1, hvu] at hf
    exact absurd hf (by decide)
  exact ⟨sealDer_parse t, sealKey_bits t, ⟨_, hgo⟩, hserver, fun h => hserver (h.accepts.mp ⟨_, hgo⟩)⟩

end Lota.L4.Agreement

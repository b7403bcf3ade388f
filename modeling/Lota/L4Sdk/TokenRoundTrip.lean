import Lota.L4Sdk.TokenBinding
import Lota.L4Sdk.ServerC

/-!
# Writers and readers of a token (`sdk/server/verify.go`, `sdk/lota_server.c`)

Three functions write a token and two parse one without verifying it. The
game's client has `lota_token_serialize`; the Go SDK has `SerializeToken` for
PIDs alone and `SerializeTokenV2` for PIDs with their image digests. The
servers have `ParseToken` and `lota_server_parse_token`.

* `serializeToken_eq`, `serializeTokenV2_eq`: the Go writers write what the C
  writer writes for the same token.
* `parseToken_written`, `parseToken_writtenC`: what each parser returns for a
  written token.
* `token_round_trip_iff`: when both parsers return the fields that were
  written. `ParseToken` never fills in the epoch.
-/
namespace Lota.L4.Go
open Lota.Core Lota.L1.Report Lota.L4.Token

/-! ## The Go parser -/

/-- `now` is `time.Now().Unix()`.
mirrors src/sdk/server/verify.go:285-322 -/
def parseToken (tokenData : Bytes) (now : Int64) : Except String Claims :=
  match parseWireHeader tokenData with
  | .error e => .error e
  | .ok hdr =>
    let pcrDigest :=
      if hdr.attestSize > 0 then
        match parseTPMSAttest (hdr.attestData tokenData) with
        | .ok attest => attest.pcrDigest
        | .error _ => none
      else none
    .ok { expiresAt := hdr.validUntil.toInt64, flags := hdr.flags, nonce := hdr.nonce,
          pcrMask := hdr.pcrMask,
          policyDigest := hdr.policy, runtimeProtectDigest := hdr.runtimeProtectDigest,
          protectPIDCount := hdr.protectPIDCount
          -- the field is not in the literal, so that it keeps its zero value
          runtimeProtectEpoch := 0
          pcrDigest := pcrDigest, sigAlg := hdr.sigAlg, hashAlg := hdr.hashAlg
          expired := hdr.validUntil > 0 && now > hdr.validUntil.toInt64 }

/-! ## The Go writers -/

/-- mirrors src/sdk/server/verify.go:576-583 -/
def validateCanonicalPIDList (pids : List UInt32) : Except String Unit :=
  if canonicalPIDs pids then .ok () else .error "pid list must be strictly increasing"

/-- mirrors src/sdk/server/verify.go:328-380 -/
def serializeToken (validUntil : UInt64) (flags : UInt32) (nonce : Hash) (sigAlg hashAlg : UInt16)
    (pcrMask : UInt32) (policyDigest runtimeProtectDigest : Hash) (protectedPIDs : List UInt32)
    (attestData signature : Bytes) : Except String Bytes :=
  if attestData.length > maxAttestSize then
    .error s!"attest_data too large: {attestData.length} > {maxAttestSize}"
  else if signature.length > maxSigSize then
    .error s!"signature too large: {signature.length} > {maxSigSize}"
  else if protectedPIDs.length > maxProtectPIDs then
    .error s!"protected_pids too large: {protectedPIDs.length} > {maxProtectPIDs}"
  else match validateCanonicalPIDList protectedPIDs with
  | .error e => .error ("invalid protected_pids: " ++ e)
  | .ok () =>
    let pidListSize := protectedPIDs.length * 4
    let totalSize := tokenHeaderSize + attestData.length + signature.length + pidListSize
    let header : TokenWire :=
      { magic := tokenMagic, version := tokenVersion, totalSize := UInt16.ofNat totalSize
        validUntil, flags, nonce, sigAlg, hashAlg, pcrMask, policy := policyDigest, runtimeProtectDigest
        protectPIDCount := UInt32.ofNat protectedPIDs.length, runtimeProtectEpoch := 0
        pidListSize := UInt16.ofNat pidListSize, attestSize := UInt16.ofNat attestData.length
        sigSize := UInt16.ofNat signature.length, runtimeProtectVersion := 0 }
    .ok (header.headerBytes ++ (wirePIDs protectedPIDs ++ (attestData ++ signature)))

/-- mirrors src/sdk/server/verify.go:386-446 -/
def serializeTokenV2 (validUntil : UInt64) (flags : UInt32) (nonce : Hash) (sigAlg hashAlg : UInt16)
    (pcrMask : UInt32) (policyDigest runtimeProtectDigest : Hash) (runtimeProtectEpoch : UInt64)
    (protectedPIDs : List UInt32) (imageDigests : List Hash) (attestData signature : Bytes) :
    Except String Bytes :=
  if attestData.length > maxAttestSize then
    .error s!"attest_data too large: {attestData.length} > {maxAttestSize}"
  else if signature.length > maxSigSize then
    .error s!"signature too large: {signature.length} > {maxSigSize}"
  else if protectedPIDs.length > maxProtectPIDs then
    .error s!"protected_pids too large: {protectedPIDs.length} > {maxProtectPIDs}"
  else if imageDigests.length ≠ protectedPIDs.length then
    .error s!"image digest count {imageDigests.length} != pid count {protectedPIDs.length}"
  else match validateCanonicalPIDList protectedPIDs with
  | .error e => .error ("invalid protected_pids: " ++ e)
  | .ok () =>
    let pidListSize := protectedPIDs.length * 4
    let imageListSize := protectedPIDs.length * imageDigestSize
    let totalSize :=
      tokenHeaderSize + pidListSize + imageListSize + attestData.length + signature.length
    let header : TokenWire :=
      { magic := tokenMagic, version := tokenVersion, totalSize := UInt16.ofNat totalSize
        validUntil, flags, nonce, sigAlg, hashAlg, pcrMask, policy := policyDigest, runtimeProtectDigest
        protectPIDCount := UInt32.ofNat protectedPIDs.length, runtimeProtectEpoch
        pidListSize := UInt16.ofNat pidListSize, attestSize := UInt16.ofNat attestData.length
        sigSize := UInt16.ofNat signature.length, runtimeProtectVersion := runtimeProtectV2 }
    .ok (header.headerBytes ++ (wirePIDs protectedPIDs ++ (imageDigests.flatMap List.Vector.toList ++
      (attestData ++ signature))))

end Lota.L4.Go

namespace Lota.L4.Server
open Lota.Core Lota.L1.Report Lota.L4.Token

/-- The digest in the attest data, if it has the size of the hash algorithm.
mirrors src/sdk/lota_server.c:608-632 -/
def foundDigest (hdr : TokenWire) (tokenData : Bytes) : Bytes :=
  if hdr.attestSize > 0 then
    match parseTpmsAttest (hdr.attestData tokenData) with
    | none => []
    | some attest =>
      match attest.pcrDigest with
      | none => []
      | some d =>
        if d.length ≤ maxPcrDigestSize ∧ d.length = hashAlgDigestLen hdr.hashAlg then d else []
  else []

/-- mirrors src/sdk/lota_server.c:584-641 -/
def parseToken (tokenData : Bytes) (now : Int64) : Except ServerError ServerClaims :=
  match parseWireHeader tokenData with
  | .error e => .error e
  | .ok hdr =>
    .ok { claimsOf hdr (foundDigest hdr tokenData) with
          expired := hdr.validUntil > 0 && now.toUInt64 > hdr.validUntil }

end Lota.L4.Server

namespace Lota.L4.RoundTrip
open Lota.Core Lota.L1.Report Lota.L4.Token Lota.L4.Gaming Lota.L4.Binding

/-! ## What should come back -/

/-- The fields that every writer takes and both parsers return. -/
structure Fields where
  validUntil : UInt64
  flags : UInt32
  nonce : Hash
  pcrMask : UInt32
  policyDigest : Hash
  runtimeProtectDigest : Hash
  protectPidCount : UInt32
  runtimeProtectEpoch : UInt64
  deriving DecidableEq

def tokenFields (t : LotaToken) : Fields where
  validUntil := t.validUntil
  flags := t.flags
  nonce := t.nonce
  pcrMask := t.pcrMask
  policyDigest := t.policyDigest
  runtimeProtectDigest := t.runtimeProtectDigest
  protectPidCount := UInt32.ofNat t.protectedPIDs.length
  runtimeProtectEpoch := t.runtimeProtectEpoch

/-- `ExpiresAt.Unix()` gives the seconds back. -/
def goFields (c : Go.Claims) : Fields where
  validUntil := c.expiresAt.toUInt64
  flags := c.flags
  nonce := c.nonce
  pcrMask := c.pcrMask
  policyDigest := c.policyDigest
  runtimeProtectDigest := c.runtimeProtectDigest
  protectPidCount := c.protectPIDCount
  runtimeProtectEpoch := c.runtimeProtectEpoch

def serverFields (c : Server.ServerClaims) : Fields where
  validUntil := c.validUntil
  flags := c.flags
  nonce := c.nonce
  pcrMask := c.pcrMask
  policyDigest := c.policyDigest
  runtimeProtectDigest := c.runtimeProtectDigest
  protectPidCount := c.protectPidCount
  runtimeProtectEpoch := c.runtimeProtectEpoch

/-- Both parsers accept `bs` and return `f`. -/
structure Returned (f : Fields) (bs : Bytes) (now : Int64) : Prop where
  go : ∃ c, Go.parseToken bs now = .ok c ∧ goFields c = f
  server : ∃ c, Server.parseToken bs now = .ok c ∧ serverFields c = f

/-- Within the size limits, with a strictly increasing PID list. -/
structure InLimits (t : LotaToken) : Prop where
  attestData : t.attestData.length ≤ maxAttestSize
  signature : t.signature.length ≤ maxSigSize
  protectedPIDs : t.protectedPIDs.length ≤ maxProtectPIDs
  canonical : canonicalPIDs t.protectedPIDs = true

/-- What both parsers need to see: a runtime protect version they know, a hash
algorithm that `lota_server.c` knows, and no epoch for `ParseToken` to lose. -/
structure Readable (t : LotaToken) : Prop where
  version : t.runtimeProtectVersion ≤ runtimeProtectV2
  hashAlg : t.hashAlg = tpmAlgSHA256 ∨ t.hashAlg = tpmAlgSHA384 ∨ t.hashAlg = tpmAlgSHA512
  epoch : t.runtimeProtectEpoch = 0

/-! ## Reading a written token -/

section
variable {t : LotaToken} {bs : Bytes} (h : Written t bs) (now : Int64)

theorem hashAlg_known {alg : UInt16} :
    Server.hashAlgDigestLen alg ≠ 0 ↔ alg = tpmAlgSHA256 ∨ alg = tpmAlgSHA384 ∨ alg = tpmAlgSHA512 := by
  constructor
  · intro hne
    unfold Server.hashAlgDigestLen at hne
    split at hne
    · exact .inl ‹_›
    split at hne
    · exact .inr (.inl ‹_›)
    split at hne
    · exact .inr (.inr ‹_›)
    exact absurd rfl hne
  · rintro (rfl | rfl | rfl) <;> decide

include h in
/-- A header that passes is the header that was written. -/
theorem headerOK_iff {hdr : TokenWire} :
    Go.HeaderOK bs hdr ↔ hdr = t.wire ∧ t.runtimeProtectVersion ≤ runtimeProtectV2 := by
  constructor
  · intro hok
    have hdr_eq : hdr = t.wire := hok.decode.symm.trans h.decode
    subst hdr_eq
    exact ⟨rfl, hok.protectVersion⟩
  · rintro ⟨rfl, hv⟩
    exact headerOK_of_written h hv

include h in
theorem parseToken_written :
    (∃ c, Go.parseToken bs now = .ok c ∧ goFields c = tokenFields t) ↔
      t.runtimeProtectVersion ≤ runtimeProtectV2 ∧ t.runtimeProtectEpoch = 0 := by
  unfold Go.parseToken
  constructor
  · rintro ⟨c, hc, hf⟩
    cases hh : Go.parseWireHeader bs with
    | error e => rw [hh] at hc; cases hc
    | ok hdr =>
      rw [hh] at hc
      obtain ⟨-, hv⟩ := (headerOK_iff h).mp (Go.parseWireHeader_ok.mp hh)
      obtain rfl := Except.ok.inj hc
      exact ⟨hv, (congrArg Fields.runtimeProtectEpoch hf).symm⟩
  · rintro ⟨hv, he⟩
    rw [Go.parseWireHeader_ok.mpr (headerOK_of_written h hv)]
    refine ⟨_, rfl, ?_⟩
    simp only [goFields, tokenFields, he]
    rfl

include h in
theorem parseToken_writtenC :
    (∃ c, Server.parseToken bs now = .ok c ∧ serverFields c = tokenFields t) ↔
      t.runtimeProtectVersion ≤ runtimeProtectV2 ∧ Server.hashAlgDigestLen t.hashAlg ≠ 0 := by
  unfold Server.parseToken
  constructor
  · rintro ⟨c, hc, -⟩
    cases hh : Server.parseWireHeader bs with
    | error e => rw [hh] at hc; cases hc
    | ok hdr =>
      obtain ⟨hok, halg⟩ := Server.parseWireHeader_ok.mp hh
      obtain ⟨rfl, hv⟩ := (headerOK_iff h).mp hok
      exact ⟨hv, halg⟩
  · rintro ⟨hv, halg⟩
    rw [Server.parseWireHeader_ok.mpr ⟨headerOK_of_written h hv, halg⟩]
    exact ⟨_, rfl, rfl⟩

include h in
theorem returned_iff : Returned (tokenFields t) bs now ↔ Readable t := by
  constructor
  · rintro ⟨hgo, hserver⟩
    obtain ⟨hv, he⟩ := (parseToken_written h now).mp hgo
    obtain ⟨-, halg⟩ := (parseToken_writtenC h now).mp hserver
    exact ⟨hv, hashAlg_known.mp halg, he⟩
  · rintro ⟨hv, halg, he⟩
    exact ⟨(parseToken_written h now).mpr ⟨hv, he⟩,
      (parseToken_writtenC h now).mpr ⟨hv, hashAlg_known.mpr halg⟩⟩

end

/-! ## Three writers, one format -/

/-- A token in the limits has a size, far below what 16 bits hold. -/
theorem serializedSize_eq {t : LotaToken} (h : InLimits t) :
    t.serializedSize =
      tokenHeaderSize + t.protectedPIDs.length * 4 + t.attestData.length + t.signature.length +
      t.imagesSize :=
  serializedSize_sum h.attestData h.signature h.protectedPIDs

theorem serialize_bytes {t : LotaToken} (h : InLimits t) {buflen : Nat}
    (hb : t.serializedSize ≤ buflen) : t.serialize buflen = .ok t.bytes := by
  have hpos : t.serializedSize ≠ 0 := by
    rw [serializedSize_eq h]
    unfold tokenHeaderSize
    omega
  unfold LotaToken.serialize
  rw [if_neg hpos, if_neg (Nat.not_lt.mpr hb)]

theorem written_bytes {t : LotaToken} (h : InLimits t) : Written t t.bytes :=
  serialize_parts (serialize_bytes h (Nat.le_refl _))

/-- The token that `SerializeToken` writes: PIDs alone, no epoch. -/
def withoutImages (t : LotaToken) : LotaToken :=
  { t with
    runtimeProtectEpoch := 0
    runtimeProtectVersion := 0
    protectedImageDigests := []
    images_length := fun h => absurd h (by decide) }

theorem withoutImages_inLimits {t : LotaToken} (h : InLimits t) : InLimits (withoutImages t) :=
  ⟨h.attestData, h.signature, h.protectedPIDs, h.canonical⟩

theorem serializeToken_eq {t : LotaToken} (h : InLimits t) :
    Go.serializeToken t.validUntil t.flags t.nonce t.sigAlg t.hashAlg t.pcrMask t.policyDigest
      t.runtimeProtectDigest t.protectedPIDs t.attestData t.signature =
      .ok (withoutImages t).bytes := by
  have hsize : (withoutImages t).serializedSize =
      tokenHeaderSize + t.attestData.length + t.signature.length + t.protectedPIDs.length * 4 := by
    rw [serializedSize_eq (withoutImages_inLimits h)]
    show _ + t.protectedPIDs.length * 4 + t.attestData.length + t.signature.length + 0 = _
    omega
  unfold Go.serializeToken Go.validateCanonicalPIDList
  rw [if_neg (Nat.not_lt.mpr h.attestData), if_neg (Nat.not_lt.mpr h.signature),
    if_neg (Nat.not_lt.mpr h.protectedPIDs), if_pos h.canonical]
  simp only [← hsize]
  rfl

theorem serializeTokenV2_eq {t : LotaToken} (h : InLimits t)
    (hv : t.runtimeProtectVersion = runtimeProtectV2) :
    Go.serializeTokenV2 t.validUntil t.flags t.nonce t.sigAlg t.hashAlg t.pcrMask t.policyDigest
      t.runtimeProtectDigest t.runtimeProtectEpoch t.protectedPIDs t.protectedImageDigests t.attestData
      t.signature = .ok t.bytes := by
  have hsize : t.serializedSize = tokenHeaderSize + t.protectedPIDs.length * 4 +
      t.protectedPIDs.length * imageDigestSize + t.attestData.length + t.signature.length := by
    rw [serializedSize_eq h, LotaToken.imagesSize, if_pos hv]
    omega
  have himages : t.imageBytes = t.protectedImageDigests.flatMap List.Vector.toList := if_pos hv
  unfold Go.serializeTokenV2 Go.validateCanonicalPIDList
  rw [if_neg (Nat.not_lt.mpr h.attestData), if_neg (Nat.not_lt.mpr h.signature),
    if_neg (Nat.not_lt.mpr h.protectedPIDs), if_neg (not_not.mpr (t.images_length hv)),
    if_pos h.canonical]
  simp only [← hsize, ← himages, ← hv]
  rfl

/-- **Token round trip.** For a token in the limits every writer succeeds, the
C writer with as many bytes as it announces, and both parsers return the
fields that were written exactly when they know the version and the hash
algorithm and the epoch that was written is zero. -/
theorem token_round_trip_iff (t : LotaToken) (h : InLimits t) (now : Int64) :
    (∀ buflen ≥ t.serializedSize, ∃ bs, t.serialize buflen = .ok bs ∧ bs.length = t.serializedSize ∧
      (Returned (tokenFields t) bs now ↔ Readable t)) ∧
    (∃ bs, Go.serializeToken t.validUntil t.flags t.nonce t.sigAlg t.hashAlg t.pcrMask t.policyDigest
        t.runtimeProtectDigest t.protectedPIDs t.attestData t.signature = .ok bs ∧
      (Returned { tokenFields t with runtimeProtectEpoch := 0 } bs now ↔
        t.hashAlg = tpmAlgSHA256 ∨ t.hashAlg = tpmAlgSHA384 ∨ t.hashAlg = tpmAlgSHA512)) ∧
    (t.runtimeProtectVersion = runtimeProtectV2 →
      ∃ bs, Go.serializeTokenV2 t.validUntil t.flags t.nonce t.sigAlg t.hashAlg t.pcrMask t.policyDigest
          t.runtimeProtectDigest t.runtimeProtectEpoch t.protectedPIDs
          t.protectedImageDigests t.attestData
          t.signature = .ok bs ∧
        (Returned (tokenFields t) bs now ↔ Readable t)) := by
  refine ⟨?_, ?_, ?_⟩
  · intro buflen hb
    exact ⟨_, serialize_bytes h hb, (written_bytes h).length, returned_iff (written_bytes h) now⟩
  · have hr := returned_iff (written_bytes (withoutImages_inLimits h)) now
    have hversion : (withoutImages t).runtimeProtectVersion ≤ runtimeProtectV2 := UInt16.zero_le
    refine ⟨_, serializeToken_eq h, ?_⟩
    show Returned (tokenFields (withoutImages t)) _ now ↔ _
    rw [hr]
    exact ⟨fun r => r.hashAlg, fun halg => ⟨hversion, halg, rfl⟩⟩
  · intro hv
    exact ⟨_, serializeTokenV2_eq h hv, returned_iff (written_bytes h) now⟩

/-- A token of version 2 without PIDs, with an epoch. -/
def epochToken (hashAlg : UInt16) (epoch : UInt64) : LotaToken :=
  { plainToken runtimeProtectV2 900 3 (Blob.zero 32) with
    hashAlg := hashAlg, runtimeProtectEpoch := epoch }

theorem epochToken_inLimits (hashAlg : UInt16) (epoch : UInt64) : InLimits (epochToken hashAlg epoch) :=
  ⟨Nat.zero_le _, Nat.zero_le _, Nat.zero_le _, rfl⟩

theorem token_round_trip_iff_zero :
    ∃ bs, (epochToken tpmAlgSHA256 0).serialize 144 = .ok bs ∧
      Returned (tokenFields (epochToken tpmAlgSHA256 0)) bs 0 := by
  have hlimits := epochToken_inLimits tpmAlgSHA256 0
  obtain ⟨bs, hs, -, hr⟩ :=
    (token_round_trip_iff (epochToken tpmAlgSHA256 0) hlimits 0).1 144 (by decide)
  exact ⟨bs, hs, hr.mpr ⟨by decide, .inl rfl, rfl⟩⟩

/-- The epoch of a token that all three sides accept is lost in `ParseToken`. -/
theorem epoch_lost :
    ∃ bs, InLimits (epochToken tpmAlgSHA256 7) ∧ (epochToken tpmAlgSHA256 7).serialize 144 = .ok bs ∧
      (∃ c, Go.parseToken bs 0 = .ok c ∧ c.runtimeProtectEpoch = 0) ∧
      (∃ c, Server.parseToken bs 0 = .ok c ∧ c.runtimeProtectEpoch = 7) ∧
      ¬ Returned (tokenFields (epochToken tpmAlgSHA256 7)) bs 0 := by
  have hlimits := epochToken_inLimits tpmAlgSHA256 7
  have hw := written_bytes hlimits
  have hok : Go.HeaderOK (epochToken tpmAlgSHA256 7).bytes (epochToken tpmAlgSHA256 7).wire :=
    headerOK_of_written hw (by decide)
  refine ⟨_, hlimits, serialize_bytes hlimits (by decide), ?_, ?_, ?_⟩
  · unfold Go.parseToken
    rw [Go.parseWireHeader_ok.mpr hok]
    exact ⟨_, rfl, rfl⟩
  · unfold Server.parseToken
    rw [Server.parseWireHeader_ok.mpr ⟨hok, by decide⟩]
    exact ⟨_, rfl, rfl⟩
  · rw [returned_iff hw]
    intro hr
    exact absurd hr.epoch (by decide)

end Lota.L4.RoundTrip

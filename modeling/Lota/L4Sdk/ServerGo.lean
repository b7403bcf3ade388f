import Lota.L3Verifier.Signature
import Lota.L4Sdk.TokenWire

/-!
# Token verification in the Go server SDK (`sdk/server/verify.go`)

`VerifyToken` parses the header, recomputes the runtime protect digest,
checks the signature over the attest data and compares the quote's PCR
mask and nonce with the header; then it looks at the clock.

* `parseWireHeader_ok`, `checkToken_ok`: what a passed check means, once for
  the header and once for the whole token (`Checked`).
* `verifyToken_ok`: a token is accepted if it passes the checks and has not
  expired.
-/
namespace Lota.L4.Go
open Lota.Core Lota.L1.Report Lota.L3.Signature Lota.L4.Token

def errInvalidArg : String := "lota: invalid argument"
def errBadToken : String := "lota: malformed token"
def errBadVersion : String := "lota: unsupported token version"
def errSigFail : String := "lota: signature verification failed"
def errNonceFail : String := "lota: nonce mismatch"
def errAttestParse : String := "lota: failed to parse TPMS_ATTEST"
def errBadMagic : String := "lota: invalid TPM magic in TPMS_ATTEST"
def errNoSignature : String := "lota: token contains no signature"
def errNoAttestData : String := "lota: token contains no attestation data"

/-! ## The header -/

/-- mirrors src/sdk/server/verify.go:459-518 -/
def parseWireHeader (data : Bytes) : Except String TokenWire :=
  if data.length < tokenHeaderSize then
    .error (errBadToken ++ s!": too short ({data.length} bytes, need {tokenHeaderSize})")
  else
    let hdr := TokenWire.decode data
    if hdr.magic ≠ tokenMagic then
      .error (errBadToken ++ ": bad magic 0x" ++ fmtX 8 hdr.magic.toNat ++ " (expected 0x" ++
        fmtX 8 tokenMagic.toNat ++ ")")
    else if hdr.version ≠ tokenVersion then
      .error (errBadVersion ++ s!": version {hdr.version.toNat} (expected {tokenVersion.toNat})")
    else if hdr.totalSize.toNat > data.length ∨ hdr.totalSize.toNat < tokenHeaderSize then
      .error (errBadToken ++ s!": total_size {hdr.totalSize.toNat} invalid (have {data.length} bytes)")
    else if hdr.runtimeProtectVersion > runtimeProtectV2 then
      .error (errBadToken ++ ": unsupported runtime protect version")
    else if hdr.protectPIDCount.toNat > maxProtectPIDs then
      .error (errBadToken ++ ": protect_pid_count too large")
    else if hdr.pidListSize ≠ (hdr.protectPIDCount * 4).toUInt16 then
      .error (errBadToken ++ ": pid list size mismatch")
    else if tokenHeaderSize + hdr.pidListSize.toNat + hdr.imageListSize + hdr.attestSize.toNat +
      hdr.sigSize.toNat >
        hdr.totalSize.toNat then
      .error (errBadToken ++ ": data sizes exceed total_size")
    else if hdr.attestSize.toNat > maxAttestSize ∨ hdr.sigSize.toNat > maxSigSize then
      .error (errBadToken ++
        s!": attest_size={hdr.attestSize.toNat} sig_size={hdr.sigSize.toNat} exceed limits")
    else .ok hdr

/-- A header that passes. -/
structure HeaderOK (data : Bytes) (hdr : TokenWire) : Prop where
  decode : TokenWire.decode data = hdr
  length : tokenHeaderSize ≤ data.length
  magic : hdr.magic = tokenMagic
  version : hdr.version = tokenVersion
  totalSize : hdr.totalSize.toNat ≤ data.length ∧ tokenHeaderSize ≤ hdr.totalSize.toNat
  protectVersion : hdr.runtimeProtectVersion ≤ runtimeProtectV2
  count : hdr.protectPIDCount.toNat ≤ maxProtectPIDs
  pidListSize : hdr.pidListSize = (hdr.protectPIDCount * 4).toUInt16
  fits : tokenHeaderSize + hdr.pidListSize.toNat + hdr.imageListSize + hdr.attestSize.toNat +
    hdr.sigSize.toNat ≤ hdr.totalSize.toNat
  attestSize : hdr.attestSize.toNat ≤ maxAttestSize
  sigSize : hdr.sigSize.toNat ≤ maxSigSize

theorem parseWireHeader_ok {data : Bytes} {hdr : TokenWire} :
    parseWireHeader data = .ok hdr ↔ HeaderOK data hdr := by
  unfold parseWireHeader
  simp only [except_guard_ok, Except.ok.injEq, not_or, not_not, Nat.not_lt, gt_iff_lt,
    UInt16.not_lt, ne_eq]
  constructor
  · intro h
    obtain ⟨hlen, hmagic, hversion, htotal, hpv, hcount, hpid, hfits, ⟨hs1, hs2⟩, rfl⟩ := h
    exact ⟨rfl, hlen, hmagic, hversion, htotal, hpv, hcount, hpid, hfits, hs1, hs2⟩
  · intro h
    obtain ⟨rfl, hlen, hmagic, hversion, htotal, hpv, hcount, hpid, hfits, hs1, hs2⟩ := h
    exact ⟨hlen, hmagic, hversion, htotal, hpv, hcount, hpid, hfits, ⟨hs1, hs2⟩, rfl⟩

namespace HeaderOK

variable {data : Bytes} {hdr : TokenWire}

/-- The 16-bit list size is exact: at most 1024 PIDs fit. -/
theorem pidListSize_toNat (h : HeaderOK data hdr) :
    hdr.pidListSize.toNat = 4 * hdr.protectPIDCount.toNat := by
  have hc : hdr.protectPIDCount.toNat ≤ 1024 := h.count
  rw [h.pidListSize, UInt32.toNat_toUInt16, UInt32.toNat_mul]
  show hdr.protectPIDCount.toNat * 4 % 2 ^ 32 % 2 ^ 16 = _
  omega

theorem pidListData_length (h : HeaderOK data hdr) :
    (hdr.pidListData data).length = 4 * hdr.protectPIDCount.toNat := by
  have h1 := h.fits
  have h2 := h.totalSize.1
  have h3 := h.pidListSize_toNat
  unfold TokenWire.pidListData
  rw [List.length_take, List.length_drop]
  omega

theorem imageListData_length (h : HeaderOK data hdr) :
    (hdr.imageListData data).length = hdr.imageListSize := by
  have h1 := h.fits
  have h2 := h.totalSize.1
  unfold TokenWire.imageListData TokenWire.pidListEnd
  rw [List.length_take, List.length_drop]
  omega

end HeaderOK

/-! ## The attest data -/

/-- What `parseTPMSAttest` returns; `none` is the nil digest of an
attestation that is no quote. -/
structure AttestParts where
  extraData : Bytes
  pcrMask : UInt32
  pcrDigest : Option Bytes
  deriving DecidableEq

/-- The next `n` bytes, if that many are left. -/
def needLen (what : String) (n : Nat) : Reader Bytes := ⟨fun r =>
  if n ≤ r.length then .ok (r.take n, r.drop n)
    else .error (what ++ s!": need {n} bytes, have {r.length}")⟩

/-- The loop over the bytes of one `pcrSelect`: three bytes of mask, zeros
behind them.
mirrors src/sdk/server/verify.go:727-733 and src/sdk/lota_server.c:213-225 -/
def selectMask : (j : Nat) → (pcrMask : UInt32) → Bytes → Option UInt32
  | _, pcrMask, [] => some pcrMask
  | j, pcrMask, sel :: rest =>
    if j < 3 then selectMask (j + 1) (pcrMask ||| sel.toUInt32 <<< UInt32.ofNat (8 * j)) rest
    else if sel ≠ 0 then none
    else selectMask (j + 1) pcrMask rest

/-- mirrors src/sdk/server/verify.go:708-734 -/
def readSelections : Nat → (pcrMask : UInt32) → Reader UInt32
  | 0, pcrMask => pure pcrMask
  | n + 1, pcrMask => do
    let hashAlg ← .wrap "read pcr selection hash alg" readU16BE
    if hashAlg ≠ tpmAlgSHA256 then
      .fail ("unsupported/mixed PCR bank hash alg: 0x" ++ fmtX 4 hashAlg.toNat)
    else
      let selectSize ← .wrap "read pcr selection sizeofSelect" readU8
      let selectBuf ← needLen "pcr selection truncated" selectSize.toNat
      match selectMask 0 pcrMask selectBuf with
      | none => .fail "pcr selection contains unsupported PCR index >= 24"
      | some pcrMask => readSelections n pcrMask

/-- mirrors src/sdk/server/verify.go:697-747 -/
def readQuote : Reader (UInt32 × Bytes) := do
  let pcrSelCount ← .wrap "read pcr selection count" readU32BE
  if pcrSelCount > 16 then .fail s!"pcr selection count too large: {pcrSelCount.toNat}"
  else
    let pcrMask ← readSelections pcrSelCount.toNat 0
    let digestSize ← .wrap "read pcrDigest size" readU16BE
    let pcrDigest ← needLen "pcrDigest truncated" digestSize.toNat
    pure (pcrMask, pcrDigest)

/-- mirrors src/sdk/server/verify.go:642-749 -/
def readAttest : Reader AttestParts := do
  let magic ← .wrap "read magic" readU32BE
  if magic ≠ 0xff544347 then .fail (errBadMagic ++ ": got 0x" ++ fmtX 8 magic.toNat)
  else
    let attestType ← .wrap "read type" readU16BE
    let signerSize ← .wrap "read signer size" readU16BE
    let _ ← needLen "qualifiedSigner truncated" signerSize.toNat
    let extraSize ← .wrap "read extraData size" readU16BE
    let extraData ← needLen "extraData truncated" extraSize.toNat
    let _ ← .wrap "read clockInfo" (readFull 17)
    let _ ← .wrap "read firmwareVersion" (readFull 8)
    if attestType = 0x8018 then
      let (pcrMask, pcrDigest) ← readQuote
      pure { extraData, pcrMask, pcrDigest := some pcrDigest }
    else pure { extraData, pcrMask := 0, pcrDigest := none }

/-- mirrors src/sdk/server/verify.go:637-752 -/
def parseTPMSAttest (data : Bytes) : Except String AttestParts :=
  if data.length < 10 then .error s!"attest data too short: {data.length} bytes"
  else (readAttest.run data).map Prod.fst

/-! ## The signature -/

/-- mirrors src/sdk/server/verify.go:270-281 -/
def tpmHashAlgToCryptoHash (hashAlg : UInt16) : Except String CryptoHash :=
  if hashAlg = tpmAlgSHA256 then .ok .sha256
  else if hashAlg = tpmAlgSHA384 then .ok .sha384
  else if hashAlg = tpmAlgSHA512 then .ok .sha512
  else .error ("unsupported hash algorithm: 0x" ++ fmtX 4 hashAlg.toNat)

/-- mirrors src/sdk/server/verify.go:521-548 -/
def verifyRSASignature (K : Crypto) (attestData signature : Bytes) (sigAlg hashAlg : UInt16)
    (aikPub : RSAPublicKey) : Except String Unit :=
  match tpmHashAlgToCryptoHash hashAlg with
  | .error e => .error e
  | .ok h =>
    let sum := K.sum h attestData
    if sigAlg = tpmAlgRSAPSS then K.verifyPSS aikPub h sum signature
    else if sigAlg = tpmAlgRSASSA then K.verifyPKCS1v15 aikPub h sum signature
    else .error ("unsupported signature algorithm: 0x" ++ fmtX 4 sigAlg.toNat)

/-! ## The token -/

/-- mirrors src/sdk/server/verify.go:94-133; `expiresAt` counts Unix seconds. -/
structure Claims where
  expiresAt : Int64
  flags : UInt32
  nonce : Hash
  pcrMask : UInt32
  policyDigest : Hash
  runtimeProtectDigest : Hash
  protectPIDCount : UInt32
  runtimeProtectEpoch : UInt64
  pcrDigest : Option Bytes
  sigAlg : UInt16
  hashAlg : UInt16
  expired : Bool
  deriving DecidableEq

/-- mirrors src/sdk/server/verify.go:585-598 -/
def parseProtectedPIDs (data : Bytes) (count : UInt32) : Except String (List UInt32) :=
  if data.length ≠ count.toNat * 4 then .error "pid list byte size mismatch"
  else
    let pids := readPIDs count.toNat data
    if canonicalPIDs pids then .ok pids else .error "pid list must be strictly increasing"

def claimsOf (hdr : TokenWire) (attest : AttestParts) : Claims :=
  { expiresAt := hdr.validUntil.toInt64, flags := hdr.flags, nonce := hdr.nonce, pcrMask := hdr.pcrMask,
    policyDigest := hdr.policy, runtimeProtectDigest := hdr.runtimeProtectDigest,
    protectPIDCount := hdr.protectPIDCount, runtimeProtectEpoch := hdr.runtimeProtectEpoch,
    pcrDigest := attest.pcrDigest, sigAlg := hdr.sigAlg, hashAlg := hdr.hashAlg, expired := false }

/-- Everything before the clock is read.
mirrors src/sdk/server/verify.go:173-249 -/
def checkToken (K : Crypto) (tokenData : Bytes) (aikPub : RSAPublicKey) (expectedNonce : Bytes) :
    Except String Claims :=
  if expectedNonce.length ≠ 32 then .error errInvalidArg
  else match parseWireHeader tokenData with
  | .error e => .error e
  | .ok hdr =>
    if hdr.attestSize = 0 then .error errNoAttestData
    else if hdr.sigSize = 0 then .error errNoSignature
    else
      let attestData := hdr.attestData tokenData
      match parseProtectedPIDs (hdr.pidListData tokenData) hdr.protectPIDCount with
      | .error e => .error (errBadToken ++ ": " ++ e)
      | .ok protectedPIDs =>
        let runtimeDigest :=
          if hdr.runtimeProtectVersion = runtimeProtectV2 then
            sha256 (protectMessageV2 protectedPIDs (hdr.imageListData tokenData))
          else sha256 (protectMessageV1 protectedPIDs)
        if runtimeDigest ≠ hdr.runtimeProtectDigest then
          .error (errNonceFail ++ ": runtime protected PID digest mismatch")
        else match verifyRSASignature K attestData (hdr.signature tokenData) hdr.sigAlg
          hdr.hashAlg aikPub with
        | .error e => .error (errSigFail ++ ": " ++ e)
        | .ok () =>
          match parseTPMSAttest attestData with
          | .error e => .error (errAttestParse ++ ": " ++ e)
          | .ok attest =>
            if attest.pcrMask ≠ hdr.pcrMask then
              .error (errNonceFail ++ ": pcr_mask header does not match signed quote")
            else if attest.extraData ≠ (sha256 hdr.nonceMessage).toList then
              .error (errNonceFail ++ ": extraData does not match SHA256(metadata||nonce)")
            else if hdr.nonce.toList ≠ expectedNonce then
              .error (errNonceFail ++ ": client nonce does not match expected")
            else .ok (claimsOf hdr attest)

/-- `(claims, nil)`, `(claims, ErrExpired)` or `(nil, err)`. -/
inductive Outcome where
  | ok (claims : Claims)
  | expired (claims : Claims)
  | fail (err : String)
  deriving DecidableEq

/-- `now` is `time.Now().Unix()`.
mirrors src/sdk/server/verify.go:172-268 -/
def verifyToken (K : Crypto) (tokenData : Bytes) (aikPub : RSAPublicKey) (expectedNonce : Bytes)
    (now : Int64) : Outcome :=
  match checkToken K tokenData aikPub expectedNonce with
  | .error e => .fail e
  | .ok claims =>
    if (TokenWire.decode tokenData).validUntil > 0 ∧ now > claims.expiresAt then
      .expired { claims with expired := true }
    else .ok claims

/-! ## What a passed check means -/

/-- Every check before the clock passed: the header `hdr`, the parsed attest
data `attest` and what ties them to each other. -/
structure Checked (K : Crypto) (data : Bytes) (key : RSAPublicKey) (nonce : Bytes) (hdr : TokenWire)
    (attest : AttestParts) : Prop where
  header : HeaderOK data hdr
  attestSize : hdr.attestSize ≠ 0
  sigSize : hdr.sigSize ≠ 0
  pids : canonicalPIDs (hdr.pids data) = true
  digest : sha256 (hdr.protectMessage data) = hdr.runtimeProtectDigest
  signed : verifyRSASignature K (hdr.attestData data) (hdr.signature data) hdr.sigAlg
    hdr.hashAlg key = .ok ()
  parsed : parseTPMSAttest (hdr.attestData data) = .ok attest
  pcrMask : attest.pcrMask = hdr.pcrMask
  extraData : attest.extraData = (sha256 hdr.nonceMessage).toList
  nonce : hdr.nonce.toList = nonce

theorem parseProtectedPIDs_ok {data : Bytes} {count : UInt32} {pids : List UInt32} :
    parseProtectedPIDs data count = .ok pids ↔
      data.length = count.toNat * 4 ∧ readPIDs count.toNat data = pids ∧ canonicalPIDs pids = true := by
  unfold parseProtectedPIDs
  simp only
  constructor
  · intro h
    split at h
    · cases h
    · rename_i hlen
      split at h
      · rename_i hc
        cases h
        exact ⟨not_not.mp hlen, rfl, hc⟩
      · cases h
  · intro h
    obtain ⟨hlen, rfl, hc⟩ := h
    rw [if_neg (not_not.mpr hlen), if_pos hc]

/-- The two digests are one digest over the message of the version. -/
theorem runtimeDigest_eq (hdr : TokenWire) (data : Bytes) :
    (if hdr.runtimeProtectVersion = runtimeProtectV2 then
      sha256 (protectMessageV2 (hdr.pids data) (hdr.imageListData data))
    else sha256 (protectMessageV1 (hdr.pids data))) = sha256 (hdr.protectMessage data) := by
  unfold TokenWire.protectMessage protectMessage
  split
  · rename_i h
    rw [decide_eq_true h, if_pos rfl]
  · rename_i h
    rw [decide_eq_false h, if_neg Bool.false_ne_true]

theorem checkToken_ok {K : Crypto} {data : Bytes} {key : RSAPublicKey} {nonce : Bytes} {c : Claims} :
    checkToken K data key nonce = .ok c ↔ ∃ hdr attest, Checked K data key nonce hdr attest ∧
    c = claimsOf hdr attest := by
  constructor
  · intro h
    unfold checkToken at h
    simp only at h
    split at h
    · cases h
    split at h
    · cases h
    rename_i hdr hhdr
    split at h
    · cases h
    rename_i hattest
    split at h
    · cases h
    rename_i hsig
    split at h
    · cases h
    rename_i pids hpids
    obtain ⟨-, rfl, hcanon⟩ := parseProtectedPIDs_ok.mp hpids
    rw [show readPIDs hdr.protectPIDCount.toNat (hdr.pidListData data) = hdr.pids data from rfl,
      runtimeDigest_eq] at h
    split at h
    · cases h
    rename_i hdigest
    split at h
    · cases h
    rename_i hsigned
    split at h
    · cases h
    rename_i attest hparse
    split at h
    · cases h
    rename_i hmask
    split at h
    · cases h
    rename_i hextra
    split at h
    · cases h
    rename_i hnonce
    cases h
    exact ⟨hdr, attest, ⟨parseWireHeader_ok.mp hhdr, hattest, hsig, hcanon, not_not.mp hdigest,
      hsigned, hparse, not_not.mp hmask, not_not.mp hextra, not_not.mp hnonce⟩, rfl⟩
  · intro h
    obtain ⟨hdr, attest, h, rfl⟩ := h
    have hlen : nonce.length = 32 := by rw [← h.nonce, List.Vector.toList_length]
    have hsize := h.header.pidListData_length
    have hpids : parseProtectedPIDs (hdr.pidListData data) hdr.protectPIDCount = .ok (hdr.pids data) :=
      parseProtectedPIDs_ok.mpr ⟨by omega, rfl, h.pids⟩
    unfold checkToken
    simp only
    rw [if_neg (not_not.mpr hlen), parseWireHeader_ok.mpr h.header]
    simp only
    rw [if_neg h.attestSize, if_neg h.sigSize, hpids]
    simp only
    rw [runtimeDigest_eq, if_neg (not_not.mpr h.digest), h.signed]
    simp only
    rw [h.parsed]
    simp only
    rw [if_neg (not_not.mpr h.pcrMask), if_neg (not_not.mpr h.extraData), if_neg (not_not.mpr h.nonce)]

/-- A token is accepted if it passes the checks and has not expired. -/
theorem verifyToken_ok {K : Crypto} {data : Bytes} {key : RSAPublicKey} {nonce : Bytes}
    {now : Int64} {c : Claims} : verifyToken K data key nonce now = .ok c ↔
      (∃ hdr attest, Checked K data key nonce hdr attest ∧ c = claimsOf hdr attest) ∧
        ((TokenWire.decode data).validUntil = 0 ∨
          now ≤ (TokenWire.decode data).validUntil.toInt64) := by
  have hexp : ∀ c, checkToken K data key nonce = .ok c →
      c.expiresAt = (TokenWire.decode data).validUntil.toInt64 := by
    intro c h
    obtain ⟨hdr, attest, hc, rfl⟩ := checkToken_ok.mp h
    rw [hc.header.decode]
    rfl
  rw [← checkToken_ok]
  unfold verifyToken
  cases hcheck : checkToken K data key nonce with
  | error e => simp
  | ok c' =>
    rw [← hexp c' hcheck, ← Int64.not_lt, ← not_expired_iff]
    simp only
    split
    · rename_i h
      constructor
      · intro h'
        cases h'
      · intro h'
        exact absurd h h'.2
    · rename_i h
      constructor
      · intro h'
        cases h'
        exact ⟨rfl, h⟩
      · intro h'
        cases h'.1
        rfl

end Lota.L4.Go

import Lota.Core.Rsa
import Lota.Core.Sha256
import Lota.L1Wire.Report

/-!
# Quote signatures (`verifier/verify/signature.go`)

Which key, hash and scheme a quote is checked with. The primitives of Go's
`crypto` packages are a parameter, `Crypto`; SHA-256 is the one of
`Lota.Core`. `SHA384` and `SHA512` are linked into the verifier through
`crypto/x509`, so `Available` never fails.

* `rsaCrypto` is the instance this development runs: PKCS#1 v1.5 with
  SHA-256 and 2048-bit keys of exponent 3.
* `verifyReportSignature_rsa`: a report signed with the sample key passes.
-/
namespace Lota.L3.Signature
open Lota.Core Lota.L1.Report

/-- `crypto.Hash`, as far as `tpmAlgToCryptoHash` gives it. -/
inductive CryptoHash where
  | sha256 | sha384 | sha512
  deriving DecidableEq, Repr

/-- What `x509.ParsePKIXPublicKey` returns. -/
inductive PublicKey where
  | rsa (key : RSAPublicKey)
  | other

/-- The primitives of the Go standard library. -/
structure Crypto where
  sha384 : Bytes → Bytes
  sha512 : Bytes → Bytes
  parsePKIXPublicKey : Bytes → Except String PublicKey
  verifyPKCS1v15 : RSAPublicKey → CryptoHash → (digest sig : Bytes) → Except String Unit
  verifyPSS : RSAPublicKey → CryptoHash → (digest sig : Bytes) → Except String Unit

namespace Crypto

variable (K : Crypto)

def sum (hashAlg : CryptoHash) (data : Bytes) : Bytes :=
  match hashAlg with
  | .sha256 => (Core.sha256 data).toList
  | .sha384 => K.sha384 data
  | .sha512 => K.sha512 data

/-- mirrors src/verifier/verify/signature.go:221-232 -/
def hashName : CryptoHash → String
  | .sha256 => "SHA-256"
  | .sha384 => "SHA-384"
  | .sha512 => "SHA-512"

/-- mirrors src/verifier/verify/signature.go:188-201 -/
def tpmAlgToCryptoHash (tpmAlg : UInt16) : Except String CryptoHash :=
  if tpmAlg = tpmAlgSHA256 then .ok .sha256
  else if tpmAlg = tpmAlgSHA384 then .ok .sha384
  else if tpmAlg = tpmAlgSHA512 then .ok .sha512
  else if tpmAlg = tpmAlgSHA1 then
    .error ("TPM hash algorithm SHA-1 (0x" ++ fmtX 4 tpmAlg.toNat ++ ") is not allowed")
  else .error ("unsupported TPM hash algorithm: 0x" ++ fmtX 4 tpmAlg.toNat)

def hashSource : String := "report.tpm.quote_sig_hash_alg"

/-- mirrors src/verifier/verify/signature.go:203-219 -/
def selectQuoteHashAlgorithm (report : AttestationReport) : Except String CryptoHash :=
  if report.tpm.quoteSigHashAlg = 0 then .error "TPM quote signature hash algorithm missing"
  else tpmAlgToCryptoHash report.tpm.quoteSigHashAlg

/-- The two verifiers differ in the primitive and the names in the error.
mirrors src/verifier/verify/signature.go:66-86 and 103-128 -/
def verifyQuote (verify : RSAPublicKey → CryptoHash → Bytes → Bytes → Except String Unit)
    (scheme err : String)
    (attestData signature : Bytes) (key : RSAPublicKey) (hashAlg : CryptoHash) : Except String Unit :=
  match verify key hashAlg (K.sum hashAlg attestData) signature with
  | .error e =>
    .error ("TPM quote signature invalid (sig_alg=" ++ scheme ++ " hash=" ++
      hashName hashAlg ++ " source=" ++ hashSource ++ "): " ++ err ++ ": " ++ e)
  | .ok () => .ok ()

/-- mirrors src/verifier/verify/signature.go:136-186 (`VerifyReportSignature`) -/
def verifyReportSignature (report : AttestationReport) (key : RSAPublicKey) : Except String Unit :=
  let tpm := report.tpm
  if tpm.quoteSigSize = 0 then .error "no signature in report"
  else if tpm.attestSize = 0 then .error "no attestation data in report"
  else if tpm.attestSize.toNat > maxAttestSize then
    .error s!"invalid attest size: {tpm.attestSize.toNat} > {maxAttestSize}"
  else if tpm.quoteSigSize.toNat > maxSigSize then
    .error s!"invalid quote signature size: {tpm.quoteSigSize.toNat} > {maxSigSize}"
  else if key.bitLen < 2048 then .error s!"RSA key too small: {key.bitLen} bits, minimum 2048"
  else
    let attestData := tpm.attestData.toList.take tpm.attestSize.toNat
    let signature := tpm.quoteSignature.toList.take tpm.quoteSigSize.toNat
    match selectQuoteHashAlgorithm report with
    | .error e => .error e
    | .ok hashAlg =>
      if tpm.quoteSigAlg = 0 then .error "TPM quote signature scheme missing (quote_sig_alg=0)"
      else if tpm.quoteSigAlg = tpmAlgRSASSA then
        K.verifyQuote K.verifyPKCS1v15 "RSASSA" "signature verification failed" attestData
          signature key hashAlg
      else if tpm.quoteSigAlg = tpmAlgRSAPSS then
        K.verifyQuote K.verifyPSS "RSAPSS" "PSS signature verification failed" attestData
          signature key hashAlg
      else .error ("unsupported TPM quote signature scheme: 0x" ++ fmtX 4 tpm.quoteSigAlg.toNat)

/-- mirrors src/verifier/verify/signature.go:235-251 (`ParseRSAPublicKey`) -/
def parseRSAPublicKey (keyData : Bytes) : Except String RSAPublicKey :=
  match K.parsePKIXPublicKey keyData with
  | .error e => .error ("failed to parse PKIX public key: " ++ e)
  | .ok .other => .error "not an RSA public key"
  | .ok (.rsa key) =>
    if key.bitLen < 2048 then .error s!"RSA key too small: {key.bitLen} bits, minimum 2048" else .ok key

end Crypto

/-! ## The instance with RSA -/

/-- `rsa.VerifyPKCS1v15` and `x509.ParsePKIXPublicKey` on the inputs of
`Lota.Core`'s RSA; nothing else verifies. -/
def rsaCrypto : Crypto where
  sha384 _ := []
  sha512 _ := []
  parsePKIXPublicKey bs :=
    match parseSPKI bs with
    | some key => .ok (.rsa key)
    | none => .error "asn1: structure error"
  verifyPKCS1v15 key hashAlg digest sig :=
    if hashAlg = .sha256 ∧ verifyPKCS1v15 digestInfoSHA256 key digest sig then .ok ()
    else .error "crypto/rsa: verification error"
  verifyPSS _ _ _ _ := .error "crypto/rsa: verification error"

/-- The report carries `attestData` and, for it, the PKCS#1 v1.5 signature
`sig` with SHA-256. -/
structure SignedBy (report : AttestationReport) (attestData sig : Bytes) : Prop where
  attest : report.tpm.attestData.toList.take report.tpm.attestSize.toNat = attestData
  attestSize : report.tpm.attestSize ≠ 0 ∧ report.tpm.attestSize.toNat ≤ maxAttestSize
  sig : report.tpm.quoteSignature.toList.take report.tpm.quoteSigSize.toNat = sig
  sigSize : report.tpm.quoteSigSize ≠ 0 ∧ report.tpm.quoteSigSize.toNat ≤ maxSigSize
  alg : report.tpm.quoteSigAlg = tpmAlgRSASSA
  hashAlg : report.tpm.quoteSigHashAlg = tpmAlgSHA256

theorem rsaCrypto_verifyPKCS1v15 {key : RSAPublicKey} {digest sig : Bytes}
    (h : verifyPKCS1v15 digestInfoSHA256 key digest sig = true) :
    rsaCrypto.verifyPKCS1v15 key .sha256 digest sig = .ok () := by
  unfold rsaCrypto
  simp only [h, and_self, if_true]

theorem verifyQuote_ok {K : Crypto}
    {verify : RSAPublicKey → CryptoHash → Bytes → Bytes → Except String Unit}
    {scheme err : String} {attestData signature : Bytes} {key : RSAPublicKey} {hashAlg : CryptoHash}
    (h : verify key hashAlg (K.sum hashAlg attestData) signature = .ok ()) :
    K.verifyQuote verify scheme err attestData signature key hashAlg = .ok () := by
  unfold Crypto.verifyQuote
  rw [h]

/-- A report passes if its fields are in order and its key accepts the
signature of its digest. -/
theorem verifyReportSignature_ok {K : Crypto} {report : AttestationReport} {key : RSAPublicKey}
    {attestData sig : Bytes} (h : SignedBy report attestData sig) (hk : 2048 ≤ key.bitLen)
    (hv : K.verifyPKCS1v15 key .sha256 (sha256 attestData).toList sig = .ok ()) :
    K.verifyReportSignature report key = .ok () := by
  have hhash : Crypto.selectQuoteHashAlgorithm report = .ok .sha256 := by
    unfold Crypto.selectQuoteHashAlgorithm
    rw [h.hashAlg]
    rfl
  unfold Crypto.verifyReportSignature
  rw [if_neg h.sigSize.1, if_neg h.attestSize.1, if_neg (Nat.not_lt.mpr h.attestSize.2),
    if_neg (Nat.not_lt.mpr h.sigSize.2), if_neg (Nat.not_lt.mpr hk), hhash]
  simp only [h.attest, h.sig, h.alg]
  rw [if_neg (by decide), if_pos trivial]
  exact verifyQuote_ok hv

theorem verifyReportSignature_rsa {report : AttestationReport} {attestData : Bytes}
    (h : SignedBy report attestData (sampleSignature (sha256 attestData).toList)) :
    rsaCrypto.verifyReportSignature report (sampleKey (sha256 attestData).toList) = .ok () := by
  have hd : (sha256 attestData).toList.length = 32 := List.Vector.toList_length _
  have hk := sampleKey_bitLen hd
  exact verifyReportSignature_ok h (Nat.le_of_eq hk.symm)
    (rsaCrypto_verifyPKCS1v15 (verifyPKCS1v15_sample hd))

theorem parseRSAPublicKey_rsa (digest : Hash) :
    rsaCrypto.parseRSAPublicKey (marshalSPKI (sampleKey digest.toList).n) =
    .ok (sampleKey digest.toList) := by
  have hd : digest.toList.length = 32 := List.Vector.toList_length _
  have hp := parseSPKI_sampleKey hd
  unfold Crypto.parseRSAPublicKey
  simp only [rsaCrypto, hp]
  rw [if_neg]
  rw [sampleKey_bitLen hd]
  omega

end Lota.L3.Signature

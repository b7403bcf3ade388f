import Lota.L1Wire.EventLog
import Lota.L2Store.BaselineStorer
import Lota.L2Store.Nonce
import Lota.L2Store.Revocation
import Lota.L3Verifier.BootCommitment
import Lota.L3Verifier.Policy
import Lota.L3Verifier.Signature

/-!
# `VerifyReport` (`verifier/verify/verify.go`)

One attestation from the bytes of the report to the session token, cut at
the comments of the source:

* `identify`: parse the report, authenticate its AIK, read the identity.
* `checkEnforcement`, `NonceStore.verifyNonce`: revocations, bans, nonce.
* `checkEvidence`: signature, PCR digest, policy, event log.
* `checkFlags`: which flags and registers the configuration insists on.
* `pinBootCommitment` or `pinLegacy`: the baseline store.
* `issueToken`: the session token.

The AIK store is an interface; `ReportEnv.verifyAIKCertificate` is its answer
in this call, the common name of the leaf. Logs and metrics are left out:
nothing reads them back. Both baseline stores implement every optional
interface the source asks for.

Results:
* `verifyReport_accepted`: everything an accepted report went through.
* `verifyReport_baseline`: what a call can do to the baseline store.
-/
namespace Lota.L3.Verify
open Lota.Core Lota.L1.Report Lota.L1.Attest Lota.L1.EventLog
open Lota.L2 Lota.L2.Baseline Lota.L2.SqliteBaseline Lota.L2.Nonce Lota.L2.Revocation
open Lota.L3.BootCommitment Lota.L3.Policy Lota.L3.Signature

/-- mirrors src/verifier/verify/verify.go:186-288; the fields `VerifyReport`
reads. -/
structure VerifierConfig where
  sessionTokenLife : Duration := 3600000000000
  requireBootPCRs : Bool := true
  requireInitramfsLock : Bool := true
  requireBootEnrollment : Bool := true
  rejectLegacyBaselines : Bool := false
  maxRestartCountSkew : UInt32 := 64
  deriving DecidableEq

/-- mirrors src/verifier/verify/verify.go:141-149 -/
structure SessionTokenRecord where
  clientID : String
  hardwareID : Blob 32
  validUntil : UInt64
  resultCode : ResultCode
  flags : UInt32
  pcrMask : UInt32
  consumed : Bool
  deriving DecidableEq

/-- `sessionTokenKey` is `none` when its generation failed at startup.
mirrors src/verifier/verify/verify.go:96-139 -/
structure Verifier where
  cfg : VerifierConfig := {}
  nonceStore : NonceStore
  pcrVerifier : PCRVerifier := {}
  baselineStore : BaselineStorer := .memory {}
  revocationStore : Option RevocationStore := none
  banStore : Option BanStore := none
  sessionTokenKey : Option (Blob 32)
  tokenIndex : GoMap (Blob 32) SessionTokenRecord := ∅

/-- The configuration and stores a verifier is made from, and the random
bytes of its signing key. -/
structure Setup where
  cfg : VerifierConfig := {}
  nonceLifetime : Duration := 300000000000
  usedNonceBackend : Option UsedNonceBackend := none
  baselineStore : Option BaselineStorer := none
  revocationStore : Option RevocationStore := none
  banStore : Option BanStore := none
  sessionTokenKey : Option (Blob 32)

/-- mirrors src/verifier/verify/verify.go:306-360 (`NewVerifier`) -/
def newVerifier (s : Setup) : Verifier where
  cfg := s.cfg
  nonceStore := newNonceStoreFromConfig
    { defaultNonceStoreConfig with lifetime := s.nonceLifetime, usedBackend := s.usedNonceBackend }
  baselineStore := s.baselineStore.getD (.memory {})
  revocationStore := s.revocationStore
  banStore := s.banStore
  sessionTokenKey := s.sessionTokenKey

/-- What the environment decides in one call. `verifyAIKCertificate` is
`none` for an AIK store that cannot verify certificates. -/
structure ReportEnv where
  verifyAIKCertificate : Option (RSAPublicKey → Bytes → Except String String)
  revocationFails : Bool := false
  banFails : Bool := false
  nonce : VerifyEnv := {}
  enrollFaults : Faults := {}
  baselineFaults : Faults := {}
  baselineNow : Time := 0
  bootFaults : Faults := {}
  bootNow : Time := 0
  validNow : Time := 0
  tokenNow : Time := 0

/-- Why a call ends without an acceptance; `hangs` is the PCR 14 scan that
never returns. -/
inductive Refusal where
  | fail (code : ResultCode) (err : String)
  | hangs
  deriving DecidableEq

inductive Reply where
  | returns (result : VerifyResult) (err : Option String)
  | hangs
  deriving DecidableEq

def Refusal.reply : Refusal → Reply
  | .fail code err => .returns { result := code } (some err)
  | .hangs => .hangs

/-- `VerifyOK`. -/
def Reply.accepted : Reply → Bool
  | .returns result none => result.result = .ok
  | _ => false

/-- A check with its own error text under one result code. -/
def orFail {α : Type} (code : ResultCode) (x : Except String α) : Except Refusal α :=
  x.mapError (Refusal.fail code)

def ensure (p : Prop) [Decidable p] (r : Refusal) : Except Refusal Unit :=
  if p then .ok () else .error r

/-! ## Identity -/

/-- mirrors src/verifier/verify/verify.go:163-183 -/
def validateTPMFieldSizes (report : AttestationReport) : Except String Unit := do
  let check (name : String) (size : UInt16) (max : Nat) : Except String Unit :=
    if size.toNat > max then .error s!"invalid {name}: {size.toNat} > {max}" else .ok ()
  check "aik_public_size" report.tpm.aikPublicSize maxAIKPubSize
  check "aik_cert_size" report.tpm.aikCertSize maxAIKCertSize
  check "ek_cert_size" report.tpm.ekCertSize maxEKCertSize
  check "attest_size" report.tpm.attestSize maxAttestSize
  check "quote_sig_size" report.tpm.quoteSigSize maxSigSize
  check "prev_aik_public_size" report.tpm.prevAIKSize maxAIKPubSize

/-- mirrors src/verifier/verify/verify.go:81-93 -/
def decodeDevicePseudonym (cn : String) : Except String (Blob 32) :=
  if cn.utf8ByteSize ≠ 2 * hardwareIDSize then
    .error s!"expected {2 * hardwareIDSize} hex chars, got {cn.utf8ByteSize}"
  else
    match hexDecode cn with
    | .error e => .error ("device identity is not hex: " ++ e)
    | .ok decoded => .ok (toBlob 32 decoded)

/-- The device behind a report. -/
structure Identity where
  report : AttestationReport
  aik : RSAPublicKey
  clientID : String
  hardwareID : Blob 32

section Checks

variable (K : Crypto)

/-- mirrors src/verifier/verify/verify.go:556-631 -/
def identify (env : ReportEnv) (reportData : Bytes) : Except Refusal Identity := do
  let report ← orFail .oldVersion (parseReport reportData)
  orFail .sigFail (validateTPMFieldSizes report)
  ensure (report.tpm.aikPublicSize ≠ 0) (.fail .sigFail "no AIK public key in report")
  let aik ← orFail .sigFail
      ((K.parseRSAPublicKey (report.tpm.aikPublic.toList.take report.tpm.aikPublicSize.toNat)).mapError
    ("failed to parse AIK: " ++ ·))
  match env.verifyAIKCertificate with
  | none => .error (.fail .sigFail "configured AIK store does not support AIK certificate verification")
  | some verifyAIKCertificate =>
    ensure (report.tpm.aikCertSize ≠ 0) (.fail .sigFail "AIK certificate required")
    let aikCert := report.tpm.aikCertificate.toList.take report.tpm.aikCertSize.toNat
    let clientID ← orFail .sigFail ((verifyAIKCertificate aik aikCert).mapError
      ("AIK certificate verification failed: " ++ ·))
    let hardwareID ← orFail .sigFail ((decodeDevicePseudonym clientID).mapError
      ("invalid device identity in AIK certificate: " ++ ·))
    pure { report, aik, clientID, hardwareID }

/-- mirrors src/verifier/verify/verify.go:633-657 -/
def checkEnforcement (v : Verifier) (env : ReportEnv) (id : Identity) : Except Refusal Unit :=
  match v.revocationStore.bind fun s => s.isRevoked env.revocationFails id.clientID with
  | some entry => .error (.fail .revoked ("client AIK revoked: " ++ entry.reason.text))
  | none =>
    match v.banStore.bind fun s => s.isBanned env.banFails id.hardwareID with
    | some entry => .error (.fail .banned ("hardware banned: " ++ entry.reason.text))
    | none => .ok ()

/-! ## Evidence -/

/-- The quote is parsed once and reused; without attest data there is none.
mirrors src/verifier/verify/verify.go:677-701 -/
def checkQuote (report : AttestationReport) : Except Refusal (Option TPMSAttest) :=
  if report.tpm.attestSize > 0 then do
    let attest ← orFail .pcrFail
      ((parseTPMSAttest (report.tpm.attestData.toList.take report.tpm.attestSize.toNat)).mapError
        ("failed to parse TPMS_ATTEST: " ++ ·))
    orFail .pcrFail ((verifyPCRDigestParsed attest report.tpm.pcrValues report.tpm.pcrMask).mapError
      ("PCR digest binding failed: " ++ ·))
    pure (some attest)
  else pure none

/-- mirrors src/verifier/verify/verify.go:710-725 -/
def checkEventLog (report : AttestationReport) : Except Refusal Unit :=
  if report.eventLog.length > 0 then
    orFail .pcrFail ((verifyEventLog report).mapError ("event log inconsistency: " ++ ·))
  else .error (.fail .pcrFail "event log required but not provided")

/-- mirrors src/verifier/verify/verify.go:667-725 -/
def checkEvidence (v : Verifier) (id : Identity) : Except Refusal (Option TPMSAttest) := do
  orFail .sigFail (K.verifyReportSignature id.report id.aik)
  let attest ← checkQuote id.report
  orFail .pcrFail (v.pcrVerifier.verifyReport id.report)
  checkEventLog id.report
  pure attest

/-! ## Flags and registers -/

def useBootCommitment (report : AttestationReport) : Bool :=
  hasFlag report.header.flags flagBootCommitmentV1

def useInitramfsLock (report : AttestationReport) : Bool :=
  hasFlag report.header.flags flagInitramfsLockV1

def bootPCRMask : UInt32 := ((1 : UInt32) <<< 0) ||| ((1 : UInt32) <<< 1) ||| ((1 : UInt32) <<< 7)

def haveBootPCRs (report : AttestationReport) : Bool := report.tpm.pcrMask &&& bootPCRMask = bootPCRMask

/-- mirrors src/verifier/verify/verify.go:731-775 -/
def checkFlags (v : Verifier) (report : AttestationReport) : Except Refusal Unit := do
  ensure (useInitramfsLock report → useBootCommitment report)
    (.fail .pcrFail "FAIL_PCR_FAIL: FlagInitramfsLockV1 requires FlagBootCommitmentV1")
  ensure (v.cfg.requireInitramfsLock → useInitramfsLock report)
    (.fail .pcrFail "FAIL_PCR_FAIL: report missing FlagInitramfsLockV1 (initramfs PCR14 lock required)")
  ensure (v.cfg.requireBootPCRs → haveBootPCRs report)
    (.fail .pcrFail "FAIL_PCR_FAIL: report does not include firmware/SecureBoot PCRs in pcr_mask")

/-! ## Everything before the baseline store -/

/-- What the baseline store is asked about. -/
structure Evidence where
  id : Identity
  attest : Option TPMSAttest

/-- mirrors src/verifier/verify/verify.go:556-775 -/
def authenticate (v : Verifier) (env : ReportEnv) (challengeID : String) (reportData : Bytes) :
    NonceStore × Except Refusal Evidence :=
  match identify K env reportData with
  | .error r => (v.nonceStore, .error r)
  | .ok id =>
    match checkEnforcement v env id with
    | .error r => (v.nonceStore, .error r)
    | .ok () =>
      match v.nonceStore.verifyNonce env.nonce id.report challengeID id.clientID with
      | (ns, .error e) => (ns, .error (.fail .nonceFail e))
      | (ns, .ok ()) =>
        match checkEvidence K v id with
        | .error r => (ns, .error r)
        | .ok attest =>
          match checkFlags v id.report with
          | .error r => (ns, .error r)
          | .ok () => (ns, .ok { id, attest })

/-! ## The baseline store -/

/-- The boot registers of a report that quotes all three. -/
def bootOf (report : AttestationReport) : Option BootBaseline :=
  if haveBootPCRs report then
    some { pcr0 := report.tpm.pcrValues.get 0, pcr1 := report.tpm.pcrValues.get 1,
           pcr7 := report.tpm.pcrValues.get 7 }
  else none

/-- mirrors src/verifier/verify/verify.go:813-854 -/
def checkBootCommitment (v : Verifier) (report : AttestationReport) (attest : TPMSAttest) :
    Except Refusal Unit :=
  let derivation :=
    if useInitramfsLock report then matchLockedBootCommitmentPCR14 else matchBootCommitmentPCR14
  match derivation report.system.agentHash attest.clockInfo.resetCount attest.clockInfo.restartCount
    (report.tpm.pcrValues.get 14) v.cfg.maxRestartCountSkew with
  | none => .error .hangs
  | some (_, _, true) => .ok ()
  | some (_, _, false) =>
    .error (.fail .integrityMismatch
      "FAIL_INTEGRITY_MISMATCH: PCR14 does not match boot-commitment derivation")

/-- The enrollment gate.
mirrors src/verifier/verify/verify.go:884-898 -/
def checkEnrollment (v : Verifier) (env : ReportEnv) (clientID : String) (boot : Option BootBaseline) :
    Except Refusal Unit :=
  ensure (v.cfg.requireBootEnrollment → boot.isSome →
      (v.baselineStore.getBootBaseline env.enrollFaults clientID).isSome ∨
        v.pcrVerifier.activePolicyDeclaresBootPCRs)
    (.fail .integrityMismatch
      "FAIL_BASELINE_ERROR: boot baseline not enrolled (TOFU first-use refused under RequireBootEnrollment)")

/-- The `switch` over a boot result, the same in both paths.
mirrors src/verifier/verify/verify.go:946-977 and 1011-1041 -/
def judgeBootPCRs : TOFUResult → Except Refusal Unit
  | .mismatch =>
    .error (.fail .integrityMismatch
      "FAIL_INTEGRITY_MISMATCH: firmware/SecureBoot PCRs changed from baseline")
  | .error => .error (.fail .integrityMismatch "FAIL_BASELINE_ERROR: boot baseline store unavailable")
  | _ => .ok ()

/-- The two `switch` statements over the outcome.
mirrors src/verifier/verify/verify.go:903-978 -/
def judgeAttestation (v : Verifier) (o : AttestationOutcome) : Except Refusal Unit := do
  match o.agentHashResult with
  | .firstUse | .matched => pure ()
  | .legacyBackfill =>
    ensure (¬ v.cfg.rejectLegacyBaselines)
      (.fail .integrityMismatch "FAIL_INTEGRITY_MISMATCH: legacy baseline backfill refused by policy")
  | .mismatch =>
    .error (.fail .integrityMismatch "FAIL_INTEGRITY_MISMATCH: agent_hash changed from baseline")
  | .error =>
    .error (.fail .integrityMismatch "FAIL_BASELINE_ERROR: agent_hash baseline store unavailable")
  if o.bootProvided then judgeBootPCRs o.bootResult else .ok ()

/-- The store commits before its result is judged.
mirrors src/verifier/verify/verify.go:777-978 -/
def pinBootCommitment (v : Verifier) (env : ReportEnv) (ev : Evidence) :
    BaselineStorer × Except Refusal Unit :=
  let report := ev.id.report
  match ev.attest with
  | none =>
    (v.baselineStore,
      .error (.fail .pcrFail "FAIL_PCR_FAIL: FlagBootCommitment requires a TPMS_ATTEST payload"))
  | some attest =>
    match checkBootCommitment v report attest, checkEnrollment v env ev.id.clientID (bootOf report) with
    | .error r, _ => (v.baselineStore, .error r)
    | .ok (), .error r => (v.baselineStore, .error r)
    | .ok (), .ok () =>
      let r := v.baselineStore.checkAndUpdateAttestation env.baselineFaults ev.id.clientID
        (report.tpm.pcrValues.get 14) report.system.agentHash (bootOf report) env.baselineNow
      (r.1, judgeAttestation v r.2)

/-- mirrors src/verifier/verify/verify.go:987-1002 -/
def judgePCR14 : TOFUResult → Except Refusal Unit
  | .mismatch =>
    .error (.fail .integrityMismatch "FAIL_INTEGRITY_MISMATCH: PCR14 changed from baseline")
  | .error => .error (.fail .integrityMismatch "FAIL_BASELINE_ERROR: baseline store unavailable")
  | _ => .ok ()

/-- Two separate writes, and no enrollment gate.
mirrors src/verifier/verify/verify.go:979-1043 -/
def pinLegacy (v : Verifier) (env : ReportEnv) (ev : Evidence) : BaselineStorer × Except Refusal Unit :=
  let report := ev.id.report
  let r := v.baselineStore.checkAndUpdate env.baselineFaults ev.id.clientID
    (report.tpm.pcrValues.get 14)
    env.baselineNow
  match judgePCR14 r.2.1 with
  | .error e => (r.1, .error e)
  | .ok () =>
    match bootOf report with
    | none => (r.1, .ok ())
    | some boot =>
      let r' := r.1.checkAndUpdateBootPCRs env.bootFaults ev.id.clientID boot env.bootNow
      (r'.1, judgeBootPCRs r'.2.1)

def pinBaseline (v : Verifier) (env : ReportEnv) (ev : Evidence) :
    BaselineStorer × Except Refusal Unit :=
  if useBootCommitment ev.id.report then pinBootCommitment v env ev else pinLegacy v env ev

/-! ## The session token -/

/-- mirrors src/verifier/verify/verify.go:69-75 -/
def unixTimestamp (t : Time) : UInt64 :=
  let ts := t / 1000000000
  if ts < 0 then 0 else UInt64.ofNat ts.toNat

def sessionTokenDomain : String := "lota-session-token:v1"

/-- mirrors src/verifier/verify/verify.go:437-484 -/
def deriveSessionToken (key : Option (Blob 32)) (id : Identity) (validUntil : UInt64)
    (resultCode : ResultCode) : Except String (Blob 32) :=
  match key with
  | none => .error "session token signing key unavailable"
  | some key =>
    let tpm := id.report.tpm
    let quoted :=
      if tpm.attestSize > 0 then (sha256 (tpm.attestData.toList.take tpm.attestSize.toNat)).toList
        else []
    .ok (hmacSha256 key.toList
      (ascii sessionTokenDomain ++ id.hardwareID.toList ++ tpm.nonce.toList ++
        id.clientID.toUTF8.toList ++
        toLE 8 validUntil.toNat ++ toLE 4 resultCode.toUInt32.toNat ++
        toLE 4 id.report.header.flags.toNat ++
        toLE 4 tpm.pcrMask.toNat ++ toLE 2 tpm.attestSize.toNat ++ quoted))

/-- Expired tokens go first.
mirrors src/verifier/verify/verify.go:362-388 -/
def rememberSessionToken (index : GoMap (Blob 32) SessionTokenRecord) (now : UInt64)
    (token : Blob 32) (id : Identity)
    (validUntil : UInt64) (resultCode : ResultCode) : GoMap (Blob 32) SessionTokenRecord :=
  let live := index.entries.foldl
    (fun acc e => if e.2.validUntil > 0 ∧ e.2.validUntil ≤ now then acc.erase e.1 else acc) index
  live.insert token
    { clientID := id.clientID, hardwareID := id.hardwareID, validUntil, resultCode,
      flags := id.report.header.flags, pcrMask := id.report.tpm.pcrMask, consumed := false }

/-- mirrors src/verifier/verify/verify.go:1067-1078 -/
def issueToken (v : Verifier) (env : ReportEnv) (id : Identity) : Verifier × Reply :=
  let validUntil := unixTimestamp (env.validNow + v.cfg.sessionTokenLife)
  match deriveSessionToken v.sessionTokenKey id validUntil .ok with
  | .error e =>
    (v, .returns { result := .internalError, validUntil }
      (some ("failed to derive session token: " ++ e)))
  | .ok sessionToken =>
    ({ v with tokenIndex :=
        rememberSessionToken v.tokenIndex (unixTimestamp env.tokenNow) sessionToken id validUntil .ok },
      .returns { result := .ok, validUntil, sessionToken } none)

/-- mirrors src/verifier/verify/verify.go:507-1079 (`VerifyReport`) -/
def verifyReport (v : Verifier) (env : ReportEnv) (challengeID : String) (reportData : Bytes) :
    Verifier × Reply :=
  match authenticate K v env challengeID reportData with
  | (nonceStore, .error r) => ({ v with nonceStore }, r.reply)
  | (nonceStore, .ok ev) =>
    let v := { v with nonceStore }
    match pinBaseline v env ev with
    | (baselineStore, .error r) => ({ v with baselineStore }, r.reply)
    | (baselineStore, .ok ()) => issueToken { v with baselineStore } env ev.id

/-- mirrors src/verifier/verify/verify.go:493-496 (`GenerateChallenge`) -/
def generateChallenge (v : Verifier) (env : GenerateEnv) (clientID : String) :
    Verifier × Except String Challenge :=
  let r := v.nonceStore.generateChallenge env clientID v.pcrVerifier.getActivePolicyMask
  ({ v with nonceStore := r.1 }, r.2)

end Checks

/-! ## What passing a stage means -/

@[simp] theorem orFail_ok {α : Type} {code : ResultCode} {x : Except String α} {a : α} :
    orFail code x = .ok a ↔ x = .ok a := by
  cases x <;> simp [orFail, Except.mapError]

@[simp] theorem mapError_ok {α : Type} {f : String → String} {x : Except String α} {a : α} :
    x.mapError f = .ok a ↔ x = .ok a := by
  cases x <;> simp [Except.mapError]

@[simp] theorem ensure_ok {p : Prop} [Decidable p] {r : Refusal} {u : Unit} :
    ensure p r = .ok u ↔ p := by
  unfold ensure
  split
  · rename_i h; simp [h]
  · rename_i h; simp [h]

section Stages

variable {K : Crypto} {v : Verifier} {env : ReportEnv} {challengeID : String} {reportData : Bytes}

/-- The device was authenticated by its certificate. -/
structure Identified (K : Crypto) (env : ReportEnv) (reportData : Bytes) (id : Identity) : Prop where
  parsed : parseReport reportData = .ok id.report
  sizes : validateTPMFieldSizes id.report = .ok ()
  aikSize : id.report.tpm.aikPublicSize ≠ 0
  aik : K.parseRSAPublicKey
    (id.report.tpm.aikPublic.toList.take id.report.tpm.aikPublicSize.toNat) = .ok id.aik
  certSize : id.report.tpm.aikCertSize ≠ 0
  cert : ∃ verify, env.verifyAIKCertificate = some verify ∧
    verify id.aik (id.report.tpm.aikCertificate.toList.take id.report.tpm.aikCertSize.toNat) =
    .ok id.clientID
  hardwareID : decodeDevicePseudonym id.clientID = .ok id.hardwareID

theorem identify_ok {id : Identity} (h : identify K env reportData = .ok id) :
    Identified K env reportData id := by
  unfold identify at h
  obtain ⟨report, h1, h⟩ := except_bind_ok.mp h
  obtain ⟨_, h2, h⟩ := except_bind_ok.mp h
  obtain ⟨_, h3, h⟩ := except_bind_ok.mp h
  obtain ⟨aik, h4, h⟩ := except_bind_ok.mp h
  cases hv : env.verifyAIKCertificate with
  | none => simp only [hv] at h; cases h
  | some verify =>
    simp only [hv] at h
    obtain ⟨_, h5, h⟩ := except_bind_ok.mp h
    obtain ⟨clientID, h6, h⟩ := except_bind_ok.mp h
    obtain ⟨hardwareID, h7, h⟩ := except_bind_ok.mp h
    simp only [orFail_ok, mapError_ok, ensure_ok] at h1 h2 h3 h4 h5 h6 h7
    cases h
    exact ⟨h1, h2, h3, h4, h5, ⟨verify, hv, h6⟩, h7⟩

theorem identify_of_identified {id : Identity} (h : Identified K env reportData id) :
    identify K env reportData = .ok id := by
  obtain ⟨verify, hv, hc⟩ := h.cert
  unfold identify
  refine except_bind_ok.mpr ⟨_, orFail_ok.mpr h.parsed, ?_⟩
  refine except_bind_ok.mpr ⟨_, orFail_ok.mpr h.sizes, ?_⟩
  refine except_bind_ok.mpr ⟨(), ensure_ok.mpr h.aikSize, ?_⟩
  refine except_bind_ok.mpr ⟨_, orFail_ok.mpr (mapError_ok.mpr h.aik), ?_⟩
  simp only [hv]
  refine except_bind_ok.mpr ⟨(), ensure_ok.mpr h.certSize, ?_⟩
  refine except_bind_ok.mpr ⟨_, orFail_ok.mpr (mapError_ok.mpr hc), ?_⟩
  exact except_bind_ok.mpr ⟨_, orFail_ok.mpr (mapError_ok.mpr h.hardwareID), rfl⟩

/-- The evidence of the report holds up. -/
structure Evident (K : Crypto) (v : Verifier) (id : Identity) (attest : Option TPMSAttest) : Prop where
  signature : K.verifyReportSignature id.report id.aik = .ok ()
  quote : checkQuote id.report = .ok attest
  policy : v.pcrVerifier.verifyReport id.report = .ok ()
  eventLog : id.report.eventLog.length > 0 ∧ verifyEventLog id.report = .ok ()

theorem checkEvidence_ok {id : Identity} {attest : Option TPMSAttest} :
    checkEvidence K v id = .ok attest ↔ Evident K v id attest := by
  have hlog : checkEventLog id.report = .ok () ↔
      id.report.eventLog.length > 0 ∧ verifyEventLog id.report = .ok () := by
    unfold checkEventLog
    split
    · rename_i h; simp [h]
    · rename_i h; simp [h]
  unfold checkEvidence
  constructor
  · intro h
    obtain ⟨_, h1, h⟩ := except_bind_ok.mp h
    obtain ⟨_, h2, h⟩ := except_bind_ok.mp h
    obtain ⟨_, h3, h⟩ := except_bind_ok.mp h
    obtain ⟨_, h4, h⟩ := except_bind_ok.mp h
    cases h
    exact ⟨orFail_ok.mp h1, h2, orFail_ok.mp h3, hlog.mp h4⟩
  · intro h
    refine except_bind_ok.mpr ⟨_, orFail_ok.mpr h.signature, ?_⟩
    refine except_bind_ok.mpr ⟨_, h.quote, ?_⟩
    refine except_bind_ok.mpr ⟨_, orFail_ok.mpr h.policy, ?_⟩
    exact except_bind_ok.mpr ⟨_, hlog.mpr h.eventLog, rfl⟩

/-- A quote that passed signs the values under the report's mask. -/
theorem checkQuote_some {report : AttestationReport} {attest : Option TPMSAttest}
    (h : checkQuote report = .ok attest) (hs : report.tpm.attestSize ≠ 0) :
    ∃ a, attest = some a ∧
      parseTPMSAttest (report.tpm.attestData.toList.take report.tpm.attestSize.toNat) = .ok a ∧
      verifyPCRDigestParsed a report.tpm.pcrValues report.tpm.pcrMask = .ok () := by
  unfold checkQuote at h
  rw [if_pos (UInt16.pos_iff_ne_zero.mpr hs)] at h
  obtain ⟨a, h1, h⟩ := except_bind_ok.mp h
  obtain ⟨_, h2, h⟩ := except_bind_ok.mp h
  cases h
  exact ⟨a, rfl, mapError_ok.mp (orFail_ok.mp h1), mapError_ok.mp (orFail_ok.mp h2)⟩

theorem checkQuote_of {report : AttestationReport} {a : TPMSAttest} (hs : report.tpm.attestSize ≠ 0)
    (hp : parseTPMSAttest (report.tpm.attestData.toList.take report.tpm.attestSize.toNat) = .ok a)
    (hd : verifyPCRDigestParsed a report.tpm.pcrValues report.tpm.pcrMask = .ok ()) :
    checkQuote report = .ok (some a) := by
  unfold checkQuote
  rw [if_pos (UInt16.pos_iff_ne_zero.mpr hs)]
  refine except_bind_ok.mpr ⟨_, orFail_ok.mpr (mapError_ok.mpr hp), ?_⟩
  exact except_bind_ok.mpr ⟨_, orFail_ok.mpr (mapError_ok.mpr hd), rfl⟩

/-- The flags and the mask are what the configuration insists on. -/
structure FlagsOK (cfg : VerifierConfig) (report : AttestationReport) : Prop where
  lockNeedsCommitment : useInitramfsLock report = true → useBootCommitment report = true
  lock : cfg.requireInitramfsLock = true → useInitramfsLock report = true
  bootPCRs : cfg.requireBootPCRs = true → haveBootPCRs report = true

theorem checkFlags_ok {report : AttestationReport} :
    checkFlags v report = .ok () ↔ FlagsOK v.cfg report := by
  unfold checkFlags
  constructor
  · intro h
    obtain ⟨_, h1, h⟩ := except_bind_ok.mp h
    obtain ⟨_, h2, h3⟩ := except_bind_ok.mp h
    exact ⟨ensure_ok.mp h1, ensure_ok.mp h2, ensure_ok.mp h3⟩
  · intro h
    refine except_bind_ok.mpr ⟨(), ensure_ok.mpr h.lockNeedsCommitment, ?_⟩
    exact except_bind_ok.mpr ⟨(), ensure_ok.mpr h.lock, ensure_ok.mpr h.bootPCRs⟩

/-- Everything a report passed before the baseline store is asked. -/
structure Authenticated (K : Crypto) (v : Verifier) (env : ReportEnv) (challengeID : String)
    (reportData : Bytes)
    (ns : NonceStore) (ev : Evidence) : Prop where
  identified : Identified K env reportData ev.id
  enforcement : checkEnforcement v env ev.id = .ok ()
  nonce : v.nonceStore.verifyNonce env.nonce ev.id.report challengeID ev.id.clientID = (ns, .ok ())
  evident : Evident K v ev.id ev.attest
  flags : FlagsOK v.cfg ev.id.report

theorem authenticate_ok {ns : NonceStore} {ev : Evidence} :
    authenticate K v env challengeID reportData = (ns, .ok ev) ↔
      Authenticated K v env challengeID reportData ns ev := by
  unfold authenticate
  constructor
  · intro h
    split at h
    · cases h
    · rename_i id hid
      split at h
      · cases h
      · rename_i henf
        split at h
        · cases h
        · rename_i ns' hn
          split at h
          · cases h
          · rename_i attest hev
            split at h
            · cases h
            · rename_i hfl
              cases h
              exact ⟨identify_ok hid, henf, hn, checkEvidence_ok.mp hev, checkFlags_ok.mp hfl⟩
  · intro h
    rw [identify_of_identified h.identified]
    simp only [h.enforcement, h.nonce, checkEvidence_ok.mpr h.evident, checkFlags_ok.mpr h.flags]

end Stages

/-! ## Calls as a whole -/

section Calls

variable {K : Crypto} {v : Verifier} {env : ReportEnv} {challengeID : String} {reportData : Bytes}

theorem Refusal.not_accepted (r : Refusal) : r.reply.accepted = false := by
  cases r <;> rfl

@[simp] theorem issueToken_frame (id : Identity) :
    (issueToken v env id).1 = { v with tokenIndex := (issueToken v env id).1.tokenIndex } := by
  unfold issueToken
  simp only
  split <;> rfl

/-- With a signing key, a token is issued. -/
theorem issueToken_accepted {id : Identity} {key : Blob 32} (h : v.sessionTokenKey = some key) :
    (issueToken v env id).2.accepted = true := by
  unfold issueToken deriveSessionToken
  simp only [h]
  rfl

/-- **Acceptance.** An accepted report passed every check and the baseline
store did not object. -/
theorem verifyReport_accepted (h : (verifyReport K v env challengeID reportData).2.accepted = true) :
    ∃ ns ev, Authenticated K v env challengeID reportData ns ev ∧
    (pinBaseline v env ev).2 = .ok () := by
  unfold verifyReport at h
  split at h
  · rw [Refusal.not_accepted] at h
    cases h
  · rename_i ns ev ha
    simp only at h
    split at h
    · rw [Refusal.not_accepted] at h
      cases h
    · rename_i bs hp
      exact ⟨ns, ev, authenticate_ok.mp ha, congrArg Prod.snd hp⟩

/-- What a call authenticates is determined. -/
theorem Authenticated.unique {ns ns' : NonceStore} {ev ev' : Evidence}
    (h : Authenticated K v env challengeID reportData ns ev)
    (h' : Authenticated K v env challengeID reportData ns' ev') : ns = ns' ∧ ev = ev' := by
  have he := (authenticate_ok.mpr h).symm.trans (authenticate_ok.mpr h')
  simp only [Prod.mk.injEq, Except.ok.injEq] at he
  exact he

theorem Authenticated.id_eq {ns : NonceStore} {ev : Evidence} {id : Identity}
    (h : Authenticated K v env challengeID reportData ns ev)
    (hid : identify K env reportData = .ok id) : ev.id = id := by
  have he := (identify_of_identified h.identified).symm.trans hid
  cases he
  rfl

/-- A report that passes every check and that the baseline store takes is
accepted, given a signing key. -/
theorem verifyReport_accepts {ns : NonceStore} {ev : Evidence} {key : Blob 32}
    (ha : Authenticated K v env challengeID reportData ns ev) (hp : (pinBaseline v env ev).2 = .ok ())
    (hk : v.sessionTokenKey = some key) :
    (verifyReport K v env challengeID reportData).2.accepted = true := by
  unfold verifyReport
  rw [authenticate_ok.mpr ha]
  have hp' : pinBaseline { v with nonceStore := ns } env ev = ((pinBaseline v env ev).1, .ok ()) := by
    rw [← hp]
    rfl
  simp only [hp']
  exact issueToken_accepted hk

/-- A report that passed every check before leaves the baseline store as
`pinBaseline` does. -/
theorem verifyReport_baselineStore {ns : NonceStore} {ev : Evidence}
    (ha : Authenticated K v env challengeID reportData ns ev) :
    (verifyReport K v env challengeID reportData).1.baselineStore = (pinBaseline v env ev).1 := by
  unfold verifyReport
  rw [authenticate_ok.mpr ha]
  simp only
  split
  · rename_i bs r hp
    exact congrArg Prod.fst hp.symm
  · rename_i bs hp
    rw [issueToken_frame]
    exact congrArg Prod.fst hp.symm

/-- **Baseline store.** Only a report that passed every check before reaches
it, and then it is in the state `pinBaseline` leaves. -/
theorem verifyReport_baseline :
    (∃ ns ev, Authenticated K v env challengeID reportData ns ev ∧
      (verifyReport K v env challengeID reportData).1.baselineStore = (pinBaseline v env ev).1) ∨
    (verifyReport K v env challengeID reportData).2.accepted = false ∧
      (verifyReport K v env challengeID reportData).1.baselineStore = v.baselineStore := by
  cases ha : authenticate K v env challengeID reportData with
  | mk ns r =>
    cases r with
    | error r =>
      unfold verifyReport
      rw [ha]
      exact .inr ⟨Refusal.not_accepted r, rfl⟩
    | ok ev =>
      have hauth := authenticate_ok.mp ha
      exact .inl ⟨ns, ev, hauth, verifyReport_baselineStore hauth⟩

/-- What a call leaves alone. -/
theorem verifyReport_frame :
    (verifyReport K v env challengeID reportData).1 =
      { v with
        nonceStore := (authenticate K v env challengeID reportData).1
        baselineStore := (verifyReport K v env challengeID reportData).1.baselineStore
        tokenIndex := (verifyReport K v env challengeID reportData).1.tokenIndex } := by
  unfold verifyReport
  split
  · rename_i ha
    rw [ha]
  · rename_i ha
    rw [ha]
    simp only
    split
    · rfl
    · rw [issueToken_frame]

end Calls

end Lota.L3.Verify

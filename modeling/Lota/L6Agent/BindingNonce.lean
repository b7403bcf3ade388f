import Lota.Core.PrefixCode
import Lota.L1Wire.Attest
import Lota.L6Agent.AttestOnce

/-!
# The binding nonce (`agent/attest.c`, `verifier/verify/attest.go`)

A report is not signed as a whole: the TPM signs a quote whose qualifying data
is a hash over the challenge and the security-relevant fields. The agent hashes
the structure in its memory before the quote and sets the last flag after it;
the verifier hashes the fields of the report it parsed.

* `build_spec`: what a report that was built is like.
* `bindingMessage_inj`: the hashed bytes determine the fields.
* `binding_nonce_agrees`: the qualifying data of the quote is the nonce that
  the verifier computes for the report it parses, and two equal nonces come
  from equal fields.
-/
namespace Lota.L6.BindingNonce
open Lota.Core Lota.L1.Report Lota.L1.ReportC Lota.L1.Attest Lota.L6.AttestOnce

/-! ## Building a report -/

inductive BuildError where
  | eprotonosupport | eoverflow
  | errno (code : Nat)
  deriving DecidableEq, Repr

/-- An output buffer after a call: its bytes, and the size that was reported
if the call succeeded. -/
structure Filled (n : Nat) where
  bytes : Blob n
  size : Option (Fin (n + 1))

/-- mirrors src/agent/quote.h:30-53 -/
structure QuoteResponse where
  pcrValues : PCRTable
  signature : Blob 512
  signatureSize : UInt16
  sigAlg : UInt16
  hashAlg : UInt16
  attestData : Blob 1024
  attestSize : UInt16

/-- What the machine answers while a report is built. -/
structure Platform where
  /-- `g_agent.mode == LOTA_MODE_ENFORCE` -/
  enforce : Bool
  /-- `g_agent.bpf_ctx.loaded` -/
  bpfLoaded : Bool
  moduleSig : Bool
  secureboot : Bool
  lockdown : Bool
  hardwareId : Except Nat (Blob 32)
  /-- The path without its terminator. -/
  kernelPath : Except Nat Bytes
  /-- Whether a register could be read, and what the output holds after it. -/
  kernelDigest : Bool × Blob 32
  selfHash : Except Nat (Blob 32)
  iommu : Bool × IommuStatus
  bootCommitmentLocked : Bool
  /-- The errno of an OpenSSL call that fails. -/
  digest : Option Nat
  /-- The TPM's answer to the qualifying data and the register mask. -/
  quote : Bytes → UInt32 → Except Nat QuoteResponse
  aikPublic : Filled 512
  aikCertificate : Filled 2048
  /-- The generation, and the previous key in the grace period. -/
  aikMeta : Option (UInt64 × Option (Filled 512))

/-- `flags |= flag` -/
def setIf (on : Bool) (flag flags : UInt32) : UInt32 := if on then flags ||| flag else flags

/-- mirrors src/agent/attest.c:281-313 -/
def earlyFlags (p : Platform) : UInt32 :=
  setIf p.lockdown flagLockdown (setIf p.secureboot flagSecureBoot (setIf p.moduleSig flagModuleSig
    (setIf p.bpfLoaded flagBPFActive (setIf p.enforce flagEnforce 0))))

/-- mirrors src/agent/attest.c:343-413 -/
def signedFlags (p : Platform) : UInt32 :=
  setIf p.bootCommitmentLocked flagInitramfsLockV1 (setIf true flagBootCommitmentV1
    (setIf p.iommu.1 flagIOMMUOK (setIf p.kernelDigest.1 flagKernelHashOK (earlyFlags p))))

/-- The path and a terminator, cut to the array.
mirrors src/agent/attest.c:334-341 -/
def kernelPathField (path : Except Nat Bytes) : Blob 256 :=
  match path with
  | .error _ => Blob.zero 256
  | .ok path => toBlob 256 (path.take 255)

/-- A failed call leaves no identity behind. mirrors src/agent/attest.c:320-331 -/
def hardwareIdField (id : Except Nat (Blob 32)) : Blob 32 :=
  match id with
  | .error _ => Blob.zero 32
  | .ok id => id

/-- The size of an optional section; a failed call counts as none. -/
def sizeField {n : Nat} (f : Filled n) : UInt16 :=
  match f.size with
  | none => 0
  | some size => UInt16.ofNat size

/-- mirrors src/agent/attest.c:428-431 -/
def flagsLE (x : UInt32) : Bytes :=
  [x.toUInt8, (x >>> 8).toUInt8, (x >>> 16).toUInt8, (x >>> 24).toUInt8]

/-- `struct iommu_status` in memory. -/
def iommuBytes (s : IommuStatus) : Bytes :=
  toLE 4 s.vendor.toNat ++ toLE 4 s.flags.toNat ++ toLE 4 s.unitCount.toNat ++ s.cmdlineParam.toList

/-- What the agent hashes, from its own structure.
mirrors src/agent/attest.c:438-451 -/
def agentMessage (nonce : Nonce) (flags : UInt32) (hardwareId : Blob 32)
    (system : LotaSystemMeasurement) : Bytes :=
  nonce.toList ++ hardwareId.toList ++ flagsLE (flags &&& ~~~flagTPMQuoteOK) ++
    system.kernelHash.toList ++ system.agentHash.toList ++ iommuBytes system.iommu

/-- A report and the qualifying data of the quote in it. -/
structure Built where
  report : LotaAttestationReport
  qualifyingData : Bytes

/-- mirrors src/agent/attest.c:259-590 -/
def buildAttestationReport (p : Platform) (challenge : Challenge) : Except BuildError Built :=
  match p.selfHash with
  | .error code => .error (.errno code)
  | .ok agentHash =>
    let system : LotaSystemMeasurement :=
      { kernelHash := p.kernelDigest.2, agentHash := agentHash
        kernelPath := kernelPathField p.kernelPath, iommu := p.iommu.2 }
    if ¬ hasFlag challenge.flags challengeFlagBootCommitmentV1 then .error .eprotonosupport
    else
      match p.digest with
      | some code => .error (.errno code)
      | none =>
        let hardwareId := hardwareIdField p.hardwareId
        let bindingNonce := sha256 (agentMessage challenge.nonce (signedFlags p) hardwareId system)
        match p.quote bindingNonce.toList challenge.pcrMask with
        | .error code => .error (.errno code)
        | .ok quote =>
          if quote.signatureSize.toNat > maxSigSize then .error .eoverflow
          else if quote.attestSize.toNat > maxAttestSize then .error .eoverflow
          else
            let prev := (p.aikMeta.bind (·.2)).getD ⟨Blob.zero 512, none⟩
            .ok
              { qualifyingData := bindingNonce.toList
                report :=
                  { header :=
                      { magic := reportMagic, version := reportVersion,
                        reportSize := sizeofReport.toUInt32
                        flags := signedFlags p ||| flagTPMQuoteOK }
                    tpm :=
                      { pcrValues := quote.pcrValues, pcrMask := challenge.pcrMask
                        quoteSignature := toBlob 512
                          (quote.signature.toList.take quote.signatureSize.toNat)
                        quoteSigSize := quote.signatureSize
                        attestData := toBlob 1024 (quote.attestData.toList.take quote.attestSize.toNat)
                        attestSize := quote.attestSize
                        aikPublic := p.aikPublic.bytes, aikPublicSize := sizeField p.aikPublic
                        aikCertificate := p.aikCertificate.bytes,
                        aikCertSize := sizeField p.aikCertificate
                        ekCertificate := Blob.zero 2048, ekCertSize := 0
                        nonce := challenge.nonce, hardwareId := hardwareId
                        aikGeneration := (p.aikMeta.map (·.1)).getD 0
                        prevAikPublic := prev.bytes, prevAikPublicSize := sizeField prev
                        quoteSigAlg := quote.sigAlg, quoteSigHashAlg := quote.hashAlg }
                    system := system
                    bpf := ⟨0, 0, 0, 0⟩ } }

/-! ## The verifier's side -/

/-- What the verifier hashes, from the report it parsed. -/
def bindingMessage (challengeNonce : Nonce) (report : AttestationReport) : Bytes :=
  challengeNonce.toList ++ (report.tpm.hardwareID.toList ++
  (toLE 4 (report.header.flags &&& ~~~flagTPMQuoteOK).toNat ++ (report.system.kernelHash.toList ++
  (report.system.agentHash.toList ++ (toLE 4 report.system.iommu.vendor.toNat ++
  (toLE 4 report.system.iommu.flags.toNat ++ (toLE 4 report.system.iommu.unitCount.toNat ++
  report.system.iommu.cmdlineParam.toList)))))))

theorem computeAttestationBindingNonce_eq (challengeNonce : Nonce) (report : AttestationReport) :
    computeAttestationBindingNonce challengeNonce report = sha256
    (bindingMessage challengeNonce report) := by
  simp only [computeAttestationBindingNonce, bindingMessage, List.append_assoc]

/-- What two reports with one binding nonce share. -/
structure SameBinding (n n' : Nonce) (r r' : AttestationReport) : Prop where
  nonce : n = n'
  hardwareID : r.tpm.hardwareID = r'.tpm.hardwareID
  flags : r.header.flags &&& ~~~flagTPMQuoteOK = r'.header.flags &&& ~~~flagTPMQuoteOK
  kernelHash : r.system.kernelHash = r'.system.kernelHash
  agentHash : r.system.agentHash = r'.system.agentHash
  iommu : r.system.iommu = r'.system.iommu

/-- **Message.** Every part has a fixed width. -/
theorem bindingMessage_inj {n n' : Nonce} {r r' : AttestationReport}
    (h : bindingMessage n r = bindingMessage n' r') : SameBinding n n' r r' := by
  unfold bindingMessage at h
  obtain ⟨hnonce, h⟩ := append_blob_inj h
  obtain ⟨hid, h⟩ := append_blob_inj h
  obtain ⟨hflags, h⟩ := append_word_inj (UInt32.toNat_lt _) (UInt32.toNat_lt _) h
  obtain ⟨hkernel, h⟩ := append_blob_inj h
  obtain ⟨hagent, h⟩ := append_blob_inj h
  obtain ⟨hvendor, h⟩ := append_word_inj (UInt32.toNat_lt _) (UInt32.toNat_lt _) h
  obtain ⟨hiflags, h⟩ := append_word_inj (UInt32.toNat_lt _) (UInt32.toNat_lt _) h
  obtain ⟨hcount, h⟩ := append_word_inj (UInt32.toNat_lt _) (UInt32.toNat_lt _) h
  have hparam := List.Vector.toList_injective h
  refine ⟨hnonce, hid, UInt32.toNat_inj.mp hflags, hkernel, hagent, ?_⟩
  cases hi : r.system.iommu
  cases hi' : r'.system.iommu
  simp only [hi, hi'] at hvendor hiflags hcount hparam
  simp only [UInt32.toNat_inj.mp hvendor, UInt32.toNat_inj.mp hiflags,
    UInt32.toNat_inj.mp hcount, hparam]

/-! ## Agreement -/

theorem flagsLE_eq (x : UInt32) : flagsLE x = toLE 4 x.toNat := by
  have hx := x.toNat_lt
  simp only [flagsLE, toLE, List.cons.injEq, and_true]
  refine ⟨?_, ?_, ?_, ?_⟩ <;> apply UInt8.toNat_inj.mp <;>
    simp [UInt32.toNat_shiftRight, Nat.shiftRight_eq_div_pow] <;> omega

/-- The flag that is set after the quote is the one that is masked out. -/
theorem mask_quoteOK (flags : UInt32) :
    (flags ||| flagTPMQuoteOK) &&& ~~~flagTPMQuoteOK = flags &&& ~~~flagTPMQuoteOK := by
  apply UInt32.toBitVec_inj.mp
  apply BitVec.eq_of_getLsbD_eq
  intro i hi
  simp only [UInt32.toBitVec_and, UInt32.toBitVec_or, UInt32.toBitVec_not, BitVec.getLsbD_and,
    BitVec.getLsbD_or, BitVec.getLsbD_not]
  cases flags.toBitVec.getLsbD i <;> cases flagTPMQuoteOK.toBitVec.getLsbD i <;> simp

theorem agentMessage_eq (nonce : Nonce) (flags : UInt32) (r : LotaAttestationReport) (eventLog : Bytes)
    (hf : r.header.flags = flags ||| flagTPMQuoteOK) :
    agentMessage nonce flags r.tpm.hardwareId r.system = bindingMessage nonce
    (goReport r eventLog) := by
  unfold agentMessage bindingMessage iommuBytes
  rw [flagsLE_eq]
  show _ = nonce.toList ++
      (r.tpm.hardwareId.toList ++ (toLE 4 (r.header.flags &&& ~~~flagTPMQuoteOK).toNat ++ _))
  rw [hf, mask_quoteOK]
  simp only [List.append_assoc]
  rfl

theorem sizeField_le {n : Nat} (f : Filled n) : (sizeField f).toNat ≤ n := by
  unfold sizeField
  cases f.size with
  | none => exact Nat.zero_le _
  | some size =>
    rw [UInt16.toNat_ofNat']
    have hs := size.isLt
    exact (Nat.mod_le _ _).trans (by omega)

/-- What `build_attestation_report` leaves behind when it succeeds. -/
structure BuildSpec (p : Platform) (challenge : Challenge) (b : Built) : Prop where
  nonce : b.report.tpm.nonce = challenge.nonce
  flags : b.report.header.flags = signedFlags p ||| flagTPMQuoteOK
  qualifyingData : b.qualifyingData =
    (sha256 (agentMessage challenge.nonce (signedFlags p) b.report.tpm.hardwareId
      b.report.system)).toList
  quoted : ∃ quote, p.quote b.qualifyingData challenge.pcrMask = .ok quote
  withinLimits : WithinLimits b.report

theorem build_spec {p : Platform} {challenge : Challenge} {b : Built}
    (h : buildAttestationReport p challenge = .ok b) : BuildSpec p challenge b := by
  unfold buildAttestationReport at h
  split at h
  · cases h
  · rename_i agentHash _
    simp only at h
    split at h
    · cases h
    · split at h
      · cases h
      · split at h
        · cases h
        · rename_i quote hq
          split at h
          · cases h
          · rename_i hsig
            split at h
            · cases h
            · rename_i hatt
              cases h
              exact
                { nonce := rfl, flags := rfl, qualifyingData := rfl, quoted := ⟨quote, hq⟩
                  withinLimits :=
                    { magic := rfl, version := rfl, quoteSig := Nat.not_lt.mp hsig,
                      attest := Nat.not_lt.mp hatt
                      aikPublic := sizeField_le _, aikCert := sizeField_le _, ekCert := Nat.zero_le _
                      prevAik := sizeField_le _ } }

/-- The report as it is sent: only the header's size changes. -/
theorem attestOnce_parsed {r : LotaAttestationReport} (w : WithinLimits r) (allocated : Bool)
    (opened : Except UInt32 Reads) : ∃ wire parsed, attestOnce r allocated opened = .ok wire ∧
      parseReport wire = .ok parsed ∧
      ∃ size, parsed = goReport { r with header := { r.header with reportSize := size } }
        (eventLogArray allocated opened).items := by
  have w' : WithinLimits { r with header :=
      { r.header with
        reportSize := (calculateReportSize 0 (eventLogArray allocated opened).count).toUInt32 } } :=
    { w with }
  obtain ⟨wire, hwire, -, hparse⟩ := report_round_trip _ w' (eventLogArray allocated opened)
  exact ⟨wire, _, hwire, hparse, _, rfl⟩

/-- **Binding nonce.** Whatever the machine answers, a report that is built and
sent parses, and the nonce that the verifier computes from it and the challenge
is the qualifying data the agent gave to the TPM. Two equal nonces come from
the same challenge and the same bound fields. -/
theorem binding_nonce_agrees :
    (∀ (p : Platform) (challenge : Challenge) (b : Built) (allocated : Bool)
      (opened : Except UInt32 Reads), buildAttestationReport p challenge = .ok b →
      (∃ quote, p.quote b.qualifyingData challenge.pcrMask = .ok quote) ∧
      ∃ wire parsed, attestOnce b.report allocated opened = .ok wire ∧ parseReport wire = .ok parsed ∧
        parsed.tpm.nonce = challenge.nonce ∧
        (computeAttestationBindingNonce challenge.nonce parsed).toList = b.qualifyingData) ∧
    ∀ (n n' : Nonce) (data data' : Bytes) (r r' : AttestationReport),
      parseReport data = .ok r → parseReport data' = .ok r' →
      NoCollision (bindingMessage n r) (bindingMessage n' r') →
      computeAttestationBindingNonce n r = computeAttestationBindingNonce n' r' →
      SameBinding n n' r r' := by
  constructor
  · intro p challenge b allocated opened h
    have hb := build_spec h
    obtain ⟨wire, parsed, hwire, hparse, size, hparsed⟩ :=
      attestOnce_parsed hb.withinLimits allocated opened
    refine ⟨hb.quoted, wire, parsed, hwire, hparse, by rw [hparsed]; exact hb.nonce, ?_⟩
    rw [hb.qualifyingData, computeAttestationBindingNonce_eq, hparsed]
    congr 2
    exact (agentMessage_eq challenge.nonce (signedFlags p)
      { b.report with header := { b.report.header with reportSize := size } } _ hb.flags).symm
  · intro n n' data data' r r' _ _ hcol h
    rw [computeAttestationBindingNonce_eq, computeAttestationBindingNonce_eq] at h
    exact bindingMessage_inj (hcol h)

/-- The quote of a TPM over register 14. -/
def sampleQuote (qualifyingData : Bytes) : TPMSAttest where
  magic := tpmGeneratedValue
  type := tpmSTAttestQuote
  qualifiedSigner := []
  extraData := qualifyingData
  clockInfo := { clock := 0, resetCount := 0, restartCount := 0, safe := true }
  firmwareVersion := 0
  quoteInfo := some
    { pcrSelect := wireSelections tpmAlgSHA256 [toLE 3 0x4000]
      pcrDigest := (sha256 (List.replicate 32 0)).toList, pcrHashAlg := tpmAlgSHA256 }

/-- A machine in enforce mode with an IOMMU, enrolled, with no kernel path. -/
def sampleMachine : Platform where
  enforce := true
  bpfLoaded := true
  moduleSig := true
  secureboot := true
  lockdown := false
  hardwareId := .ok (List.Vector.replicate 32 0x11)
  kernelPath := .error 2
  kernelDigest := (true, List.Vector.replicate 32 0x22)
  selfHash := .ok (List.Vector.replicate 32 0x33)
  iommu := (true, ⟨1, 0x07, 2, Blob.zero 64⟩)
  bootCommitmentLocked := true
  digest := none
  quote qualifyingData _ := .ok
    { pcrValues := List.Vector.replicate 24 (Blob.zero 32)
      signature := List.Vector.replicate 512 0x44, signatureSize := 256, sigAlg := tpmAlgRSASSA,
      hashAlg := tpmAlgSHA256
      attestData := toBlob 1024 (wireAttest (sampleQuote qualifyingData)), attestSize := 111 }
  aikPublic := ⟨List.Vector.replicate 512 0x55, some 294⟩
  aikCertificate := ⟨List.Vector.replicate 2048 0x66, some 900⟩
  aikMeta := some (3, none)

def sampleChallenge : Challenge where
  magic := reportMagic
  version := reportVersion
  nonce := List.Vector.replicate 32 0x77
  pcrMask := 0x4000
  flags := challengeFlagBootCommitmentV1

theorem sampleMachine_builds : ∃ b, buildAttestationReport sampleMachine sampleChallenge = .ok b :=
  ⟨_, rfl⟩

theorem binding_nonce_sample :
    ∃ b wire parsed, buildAttestationReport sampleMachine sampleChallenge = .ok b ∧
    parseReport wire = .ok parsed ∧
    (computeAttestationBindingNonce sampleChallenge.nonce parsed).toList = b.qualifyingData ∧
    SameBinding sampleChallenge.nonce sampleChallenge.nonce parsed parsed := by
  obtain ⟨b, hb⟩ := sampleMachine_builds
  obtain ⟨-, wire, parsed, -, hparse, -, heq⟩ :=
    binding_nonce_agrees.1 sampleMachine sampleChallenge b true (.ok []) hb
  exact ⟨b, wire, parsed, hb, hparse, heq,
    binding_nonce_agrees.2 _ _ wire wire parsed parsed hparse hparse (fun _ => rfl) rfl⟩

end Lota.L6.BindingNonce

import Lota.Core.Bytes

/-!
# The attestation report on the wire (`verifier/types`)

The constants and structures of `types/report.go` and `types/tpm.go`, the
parser `ParseReport`, and the wire image of a report.

`ParseReport` walks an offset through the input; here the offset is the
`Reader`'s cursor. The length check in front guarantees that the fixed part
is there, so none of the fixed reads can run out of input.

* `parseReport_wireReport`: parsing the wire image of a report gives the
  report back, for every report whose sizes are within their arrays.
-/
namespace Lota.L1.Report
open Lota.Core

/-! ## Constants -/

def reportMagic : UInt32 := 0x41544F4C
def reportVersion : UInt32 := 0x00010000

def hashSize : Nat := 32
def nonceSize : Nat := 32
def hardwareIDSize : Nat := 32
def maxSigSize : Nat := 512
def maxAttestSize : Nat := 1024
def maxAIKPubSize : Nat := 512
def maxAIKCertSize : Nat := 2048
def maxEKCertSize : Nat := 2048
def pcrCount : Nat := 24
def maxKernelPath : Nat := 256
def cmdlineParamMax : Nat := 64
def execEventSize : Nat := 336

/-- Header, TPM evidence, system measurement, BPF summary, event count and
event log size. -/
def minReportSize : Nat := 7960

abbrev Hash := Blob 32
abbrev Nonce := Blob 32

/-- `[PCRCount][HashSize]byte`. -/
abbrev PCRTable := List.Vector Hash 24

/-- For the numerals that index a `PCRTable`. -/
instance neZero_pcrCount : NeZero 24 := ⟨by decide⟩

/-! ### Report flags -/

def flagIOMMUOK : UInt32 := (1 : UInt32) <<< 0
def flagTPMQuoteOK : UInt32 := (1 : UInt32) <<< 1
def flagKernelHashOK : UInt32 := (1 : UInt32) <<< 2
def flagBPFActive : UInt32 := (1 : UInt32) <<< 3
def flagModuleSig : UInt32 := (1 : UInt32) <<< 4
def flagLockdown : UInt32 := (1 : UInt32) <<< 5
def flagSecureBoot : UInt32 := (1 : UInt32) <<< 6
def flagEnforce : UInt32 := (1 : UInt32) <<< 7
def flagBootCommitmentV1 : UInt32 := (1 : UInt32) <<< 8
def flagInitramfsLockV1 : UInt32 := (1 : UInt32) <<< 9

def challengeFlagBootCommitmentV1 : UInt32 := (1 : UInt32) <<< 0

/-! ### Algorithm identifiers -/

def tpmAlgRSASSA : UInt16 := 0x0014
def tpmAlgRSAPSS : UInt16 := 0x0016
def tpmAlgSHA1 : UInt16 := 0x0004
def tpmAlgSHA256 : UInt16 := 0x000B
def tpmAlgSHA384 : UInt16 := 0x000C
def tpmAlgSHA512 : UInt16 := 0x000D

/-- Verification result codes.
mirrors src/verifier/types/report.go:78-90 -/
inductive ResultCode where
  | ok | nonceFail | sigFail | pcrFail | iommuFail | oldVersion | integrityMismatch | revoked | banned
  | internalError
  deriving DecidableEq, Repr

def ResultCode.toUInt32 : ResultCode → UInt32
  | .ok => 0
  | .nonceFail => 1
  | .sigFail => 2
  | .pcrFail => 3
  | .iommuFail => 4
  | .oldVersion => 5
  | .integrityMismatch => 6
  | .revoked => 7
  | .banned => 8
  | .internalError => 9

/-! ## Structures -/

structure ReportHeader where
  magic : UInt32
  version : UInt32
  reportSize : UInt32
  flags : UInt32
  deriving DecidableEq

/-- mirrors src/verifier/types/report.go:150-170 -/
structure TPMEvidence where
  pcrValues : PCRTable
  pcrMask : UInt32
  quoteSignature : Blob 512
  quoteSigSize : UInt16
  attestData : Blob 1024
  attestSize : UInt16
  aikPublic : Blob 512
  aikPublicSize : UInt16
  aikCertificate : Blob 2048
  aikCertSize : UInt16
  ekCertificate : Blob 2048
  ekCertSize : UInt16
  nonce : Nonce
  hardwareID : Blob 32
  aikGeneration : UInt64
  prevAIKPublic : Blob 512
  prevAIKSize : UInt16
  quoteSigAlg : UInt16
  quoteSigHashAlg : UInt16
  deriving DecidableEq

structure IOMMUStatus where
  vendor : UInt32
  flags : UInt32
  unitCount : UInt32
  cmdlineParam : Blob 64
  deriving DecidableEq

structure SystemMeasurement where
  kernelHash : Hash
  agentHash : Hash
  kernelPath : Blob 256
  iommu : IOMMUStatus
  deriving DecidableEq

structure BPFSummary where
  totalExecEvents : UInt32
  uniqueBinaries : UInt32
  firstEventTS : UInt64
  lastEventTS : UInt64
  deriving DecidableEq

structure AttestationReport where
  header : ReportHeader
  tpm : TPMEvidence
  system : SystemMeasurement
  bpf : BPFSummary
  eventLog : Bytes
  deriving DecidableEq

/-- mirrors src/verifier/types/report.go:208-214 -/
structure Challenge where
  magic : UInt32
  version : UInt32
  nonce : Nonce
  pcrMask : UInt32
  flags : UInt32
  deriving DecidableEq

/-- mirrors src/verifier/types/report.go:217-224 -/
structure VerifyResult where
  magic : UInt32 := reportMagic
  version : UInt32 := reportVersion
  result : ResultCode := .internalError
  flags : UInt32 := 0
  validUntil : UInt64 := 0
  sessionToken : Blob 32 := Blob.zero 32
  deriving DecidableEq

/-! ## `ParseReport` -/

def errInvalidSize : String := "invalid report size"
def errInvalidMagic : String := "invalid report magic"
def errInvalidVersion : String := "unsupported protocol version"

/-- The check behind every `*_size` field. -/
def checkSize (what : String) (size : UInt16) (max : Nat) : Reader Unit :=
  if size.toNat > max then
    .fail (errInvalidSize ++ ": " ++ what ++ " " ++ toString size.toNat ++
      " exceeds max " ++ toString max)
  else pure ()

/-- mirrors src/verifier/types/report.go:250-267 -/
def readHeader : Reader ReportHeader := do
  let magic ← readU32LE
  if magic ≠ reportMagic then
    .fail (errInvalidMagic ++ ": got 0x" ++ fmtX 8 magic.toNat ++ ", expected 0x" ++
      fmtX 8 reportMagic.toNat)
  else
    let version ← readU32LE
    if version ≠ reportVersion then
      .fail (errInvalidVersion ++ ": got 0x" ++ fmtX 8 version.toNat ++ ", expected 0x" ++
        fmtX 8 reportVersion.toNat)
    else
      let reportSize ← readU32LE
      let flags ← readU32LE
      pure { magic, version, reportSize, flags }

/-- mirrors src/verifier/types/report.go:269-328 -/
def readTPM : Reader TPMEvidence := do
  let pcrValues ← readBlobs 32 24
  let pcrMask ← readU32LE
  let quoteSignature ← readBlob 512
  let quoteSigSize ← readU16LE
  checkSize "quote_sig_size" quoteSigSize maxSigSize
  let attestData ← readBlob 1024
  let attestSize ← readU16LE
  checkSize "attest_size" attestSize maxAttestSize
  let aikPublic ← readBlob 512
  let aikPublicSize ← readU16LE
  checkSize "aik_public_size" aikPublicSize maxAIKPubSize
  let aikCertificate ← readBlob 2048
  let aikCertSize ← readU16LE
  checkSize "aik_cert_size" aikCertSize maxAIKCertSize
  let ekCertificate ← readBlob 2048
  let ekCertSize ← readU16LE
  checkSize "ek_cert_size" ekCertSize maxEKCertSize
  let nonce ← readBlob 32
  let hardwareID ← readBlob 32
  let aikGeneration ← readU64LE
  let prevAIKPublic ← readBlob 512
  let prevAIKSize ← readU16LE
  checkSize "prev_aik_public_size" prevAIKSize maxAIKPubSize
  let quoteSigAlg ← readU16LE
  let quoteSigHashAlg ← readU16LE
  pure { pcrValues, pcrMask, quoteSignature, quoteSigSize, attestData, attestSize, aikPublic,
         aikPublicSize,
         aikCertificate, aikCertSize, ekCertificate, ekCertSize, nonce, hardwareID, aikGeneration,
         prevAIKPublic, prevAIKSize, quoteSigAlg, quoteSigHashAlg }

/-- mirrors src/verifier/types/report.go:330-346 -/
def readSystem : Reader SystemMeasurement := do
  let kernelHash ← readBlob 32
  let agentHash ← readBlob 32
  let kernelPath ← readBlob 256
  let vendor ← readU32LE
  let flags ← readU32LE
  let unitCount ← readU32LE
  let cmdlineParam ← readBlob 64
  pure { kernelHash, agentHash, kernelPath, iommu := { vendor, flags, unitCount, cmdlineParam } }

/-- mirrors src/verifier/types/report.go:348-356 -/
def readBPF : Reader BPFSummary := do
  let totalExecEvents ← readU32LE
  let uniqueBinaries ← readU32LE
  let firstEventTS ← readU64LE
  let lastEventTS ← readU64LE
  pure { totalExecEvents, uniqueBinaries, firstEventTS, lastEventTS }

/-- The event log of the size its length field says. -/
def readEventLog (eventLogSize : Nat) : Reader Bytes := ⟨fun r =>
  if eventLogSize ≤ r.length then .ok (r.take eventLogSize, r.drop eventLogSize)
  else .error (errInvalidSize ++ ": truncated at event_log (need " ++
    toString eventLogSize ++ ", have " ++ toString r.length ++ ")")⟩

/-- The variable-length sections: the BPF events, skipped, and the event log.
mirrors src/verifier/types/report.go:358-383 -/
def readSections : Reader Bytes := do
  let eventCount ← need (errInvalidSize ++ ": truncated at event_count") 4
  let eventBytes := ofLE eventCount * execEventSize
  let _ ← need (errInvalidSize ++ ": truncated at BPF events (need " ++ toString eventBytes ++
      " bytes)") eventBytes
  let eventLogSize ← need (errInvalidSize ++ ": truncated at event_log_size") 4
  readEventLog (ofLE eventLogSize)

def readReport : Reader AttestationReport := do
  let header ← readHeader
  let tpm ← readTPM
  let system ← readSystem
  let bpf ← readBPF
  let eventLog ← readSections
  pure { header, tpm, system, bpf, eventLog }

/-- mirrors src/verifier/types/report.go:242-386 (`ParseReport`) -/
def parseReport (data : Bytes) : Except String AttestationReport :=
  if data.length < minReportSize then
    .error (errInvalidSize ++ ": got " ++ toString data.length ++ ", minimum " ++
      toString minReportSize)
  else (readReport.run data).map Prod.fst

/-! ## The wire image of a report -/

def wireHeader (h : ReportHeader) : Bytes :=
  toLE 4 h.magic.toNat ++ toLE 4 h.version.toNat ++ toLE 4 h.reportSize.toNat ++ toLE 4 h.flags.toNat

def wireTPM (t : TPMEvidence) : Bytes :=
  t.pcrValues.toList.flatMap List.Vector.toList ++ toLE 4 t.pcrMask.toNat ++
  t.quoteSignature.toList ++ toLE 2 t.quoteSigSize.toNat ++
  t.attestData.toList ++ toLE 2 t.attestSize.toNat ++
  t.aikPublic.toList ++ toLE 2 t.aikPublicSize.toNat ++
  t.aikCertificate.toList ++ toLE 2 t.aikCertSize.toNat ++
  t.ekCertificate.toList ++ toLE 2 t.ekCertSize.toNat ++
  t.nonce.toList ++ t.hardwareID.toList ++ toLE 8 t.aikGeneration.toNat ++
  t.prevAIKPublic.toList ++ toLE 2 t.prevAIKSize.toNat ++
  toLE 2 t.quoteSigAlg.toNat ++ toLE 2 t.quoteSigHashAlg.toNat

def wireSystem (s : SystemMeasurement) : Bytes :=
  s.kernelHash.toList ++ s.agentHash.toList ++ s.kernelPath.toList ++ toLE 4 s.iommu.vendor.toNat ++
  toLE 4 s.iommu.flags.toNat ++ toLE 4 s.iommu.unitCount.toNat ++ s.iommu.cmdlineParam.toList

def wireBPF (b : BPFSummary) : Bytes :=
  toLE 4 b.totalExecEvents.toNat ++ toLE 4 b.uniqueBinaries.toNat ++ toLE 8 b.firstEventTS.toNat ++
  toLE 8 b.lastEventTS.toNat

/-- A report with no BPF events attached, as it stands on the wire. -/
def wireReport (r : AttestationReport) : Bytes :=
  wireHeader r.header ++ wireTPM r.tpm ++ wireSystem r.system ++ wireBPF r.bpf ++
  (toLE 4 0 ++ toLE 4 r.eventLog.length ++ r.eventLog)

/-- The sizes fit their arrays and the header carries this protocol's
magic and version. -/
structure WellFormed (r : AttestationReport) : Prop where
  magic : r.header.magic = reportMagic
  version : r.header.version = reportVersion
  quoteSig : r.tpm.quoteSigSize.toNat ≤ maxSigSize
  attest : r.tpm.attestSize.toNat ≤ maxAttestSize
  aikPublic : r.tpm.aikPublicSize.toNat ≤ maxAIKPubSize
  aikCert : r.tpm.aikCertSize.toNat ≤ maxAIKCertSize
  ekCert : r.tpm.ekCertSize.toNat ≤ maxEKCertSize
  prevAIK : r.tpm.prevAIKSize.toNat ≤ maxAIKPubSize
  eventLog : r.eventLog.length < 2 ^ 32

theorem checkSize_run {what : String} {size : UInt16} {max : Nat} (h : size.toNat ≤ max) (r : Bytes) :
    (checkSize what size max).run r = .ok ((), r) := by
  simp [checkSize, Nat.not_lt.mpr h]

theorem readHeader_wire (h : ReportHeader) (hm : h.magic = reportMagic) (hv : h.version = reportVersion)
    (rest : Bytes) : readHeader.run (wireHeader h ++ rest) = .ok (h, rest) := by
  obtain ⟨magic, version, size, flags⟩ := h
  simp only at hm hv
  subst hm hv
  unfold readHeader wireHeader
  simp only [List.append_assoc]
  rw [Reader.bind_run (readU32LE_append _ _)]
  simp only [ne_eq, not_true_eq_false, if_false]
  rw [Reader.bind_run (readU32LE_append _ _)]
  simp only [not_true_eq_false, if_false]
  rw [Reader.bind_run (readU32LE_append _ _), Reader.bind_run (readU32LE_append _ _), Reader.pure_run]

theorem readTPM_wire (r : AttestationReport) (w : WellFormed r) (rest : Bytes) :
    readTPM.run (wireTPM r.tpm ++ rest) = .ok (r.tpm, rest) := by
  unfold readTPM wireTPM
  simp only [List.append_assoc]
  rw [Reader.bind_run (readBlobs_append _ _), Reader.bind_run (readU32LE_append _ _),
    Reader.bind_run (readBlob_append _ _), Reader.bind_run (readU16LE_append _ _),
    Reader.bind_run (checkSize_run w.quoteSig _),
    Reader.bind_run (readBlob_append _ _), Reader.bind_run (readU16LE_append _ _),
    Reader.bind_run (checkSize_run w.attest _),
    Reader.bind_run (readBlob_append _ _), Reader.bind_run (readU16LE_append _ _),
    Reader.bind_run (checkSize_run w.aikPublic _),
    Reader.bind_run (readBlob_append _ _), Reader.bind_run (readU16LE_append _ _),
    Reader.bind_run (checkSize_run w.aikCert _),
    Reader.bind_run (readBlob_append _ _), Reader.bind_run (readU16LE_append _ _),
    Reader.bind_run (checkSize_run w.ekCert _),
    Reader.bind_run (readBlob_append _ _), Reader.bind_run (readBlob_append _ _),
    Reader.bind_run (readU64LE_append _ _),
    Reader.bind_run (readBlob_append _ _), Reader.bind_run (readU16LE_append _ _),
    Reader.bind_run (checkSize_run w.prevAIK _),
    Reader.bind_run (readU16LE_append _ _), Reader.bind_run (readU16LE_append _ _), Reader.pure_run]

theorem readSystem_wire (s : SystemMeasurement) (rest : Bytes) :
    readSystem.run (wireSystem s ++ rest) = .ok (s, rest) := by
  unfold readSystem wireSystem
  simp only [List.append_assoc]
  rw [Reader.bind_run (readBlob_append _ _), Reader.bind_run (readBlob_append _ _),
    Reader.bind_run (readBlob_append _ _), Reader.bind_run (readU32LE_append _ _),
    Reader.bind_run (readU32LE_append _ _), Reader.bind_run (readU32LE_append _ _),
    Reader.bind_run (readBlob_append _ _), Reader.pure_run]

theorem readBPF_wire (b : BPFSummary) (rest : Bytes) :
    readBPF.run (wireBPF b ++ rest) = .ok (b, rest) := by
  unfold readBPF wireBPF
  simp only [List.append_assoc]
  rw [Reader.bind_run (readU32LE_append _ _), Reader.bind_run (readU32LE_append _ _),
    Reader.bind_run (readU64LE_append _ _), Reader.bind_run (readU64LE_append _ _), Reader.pure_run]

theorem readSections_wire (log : Bytes) (h : log.length < 2 ^ 32) :
    readSections.run (toLE 4 0 ++ toLE 4 log.length ++ log) = .ok (log, []) := by
  have h0 : ofLE (toLE 4 0) = 0 := ofLE_toLE 4 0 (by decide)
  have hl : ofLE (toLE 4 log.length) = log.length := ofLE_toLE 4 _ h
  have hskip : ∀ err rest, (need err 0).run rest = .ok ([], rest) := by simp [need]
  have hlog : (readEventLog log.length).run log = .ok (log, []) := by simp [readEventLog]
  unfold readSections
  rw [List.append_assoc, Reader.bind_run (need_append (toLE_length 4 0) _), h0, Nat.zero_mul,
    Reader.bind_run (hskip _ _), Reader.bind_run (need_append (toLE_length 4 _) _), hl, hlog]

theorem flatMap_toList_length {n m : Nat} (v : List.Vector (Blob n) m) :
    (v.toList.flatMap List.Vector.toList).length = m * n := by
  have hc : v.toList.map (fun b => b.toList.length) = List.replicate m n := by
    rw [List.eq_replicate_iff]
    refine ⟨by rw [List.length_map, List.Vector.toList_length], ?_⟩
    intro k hk
    obtain ⟨b, -, rfl⟩ := List.mem_map.mp hk
    exact List.Vector.toList_length b
  rw [List.length_flatMap, hc, List.sum_replicate]
  rfl

theorem wireTPM_length (t : TPMEvidence) : (wireTPM t).length = 7516 := by
  unfold wireTPM
  simp only [List.length_append, flatMap_toList_length]
  simp only [toLE_length]
  simp only [List.Vector.toList_length]

theorem wireReport_length (r : AttestationReport) :
    (wireReport r).length = minReportSize + r.eventLog.length := by
  simp only [wireReport, wireTPM_length, wireHeader, wireSystem, wireBPF, minReportSize,
    List.length_append, List.Vector.toList_length, toLE_length]
  omega

/-- **Round trip.** `ParseReport` gives back the report from its wire image. -/
theorem parseReport_wireReport (r : AttestationReport) (w : WellFormed r) :
    parseReport (wireReport r) = .ok r := by
  unfold parseReport
  rw [if_neg (by rw [wireReport_length]; omega)]
  unfold readReport wireReport
  simp only [List.append_assoc]
  rw [Reader.bind_run (readHeader_wire r.header w.magic w.version _),
    Reader.bind_run (readTPM_wire r w _),
    Reader.bind_run (readSystem_wire r.system _), Reader.bind_run (readBPF_wire r.bpf _),
    ← List.append_assoc, Reader.bind_run (readSections_wire r.eventLog w.eventLog), Reader.pure_run]
  rfl

end Lota.L1.Report

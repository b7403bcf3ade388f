import Lota.L1Wire.Report

/-!
# The attestation report in the C agent (`include/attestation.h`, `agent/report.c`)

The agent copies a packed structure to the wire and puts the two
variable-length sections behind it. The machine is little-endian, as the
packed structure is copied as it stands in memory; `size_t` has 64 bits.

* `structBytes_length`, `execEventBytes_length`: the sizes the compiler gives
  the packed structures.
* `calculateReportSize_toNat`: the size never wraps.
* `report_round_trip`: what `serialize_report` writes for a report and an
  event log has the size that `calculate_report_size` says, and `ParseReport`
  reads every field of it back. The agent attaches no BPF events.
* `events_shift`: an event has 340 bytes in C and 336 in Go, so a report with
  a BPF event would lose its event log.
-/
namespace Lota.L1.ReportC
open Lota.Core Lota.L1.Report

/-! ## The packed structures -/

/-- mirrors include/attestation.h:20-26 -/
structure LotaReportHeader where
  magic : UInt32
  version : UInt32
  reportSize : UInt32
  flags : UInt32
  deriving DecidableEq

/-- mirrors include/attestation.h:94-177 -/
structure LotaTpmEvidence where
  pcrValues : List.Vector (Blob 32) 24
  pcrMask : UInt32
  quoteSignature : Blob 512
  quoteSigSize : UInt16
  attestData : Blob 1024
  attestSize : UInt16
  aikPublic : Blob 512
  aikPublicSize : UInt16
  aikCertificate : Blob 2048
  aikCertSize : UInt16
  ekCertificate : Blob 2048
  ekCertSize : UInt16
  nonce : Blob 32
  hardwareId : Blob 32
  aikGeneration : UInt64
  prevAikPublic : Blob 512
  prevAikPublicSize : UInt16
  quoteSigAlg : UInt16
  quoteSigHashAlg : UInt16
  deriving DecidableEq

/-- mirrors include/iommu_types.h:36-43; an enumeration has four bytes. -/
structure IommuStatus where
  vendor : UInt32
  flags : UInt32
  unitCount : UInt32
  cmdlineParam : Blob 64
  deriving DecidableEq

/-- mirrors include/attestation.h:182-194 -/
structure LotaSystemMeasurement where
  kernelHash : Blob 32
  agentHash : Blob 32
  kernelPath : Blob 256
  iommu : IommuStatus
  deriving DecidableEq

/-- mirrors include/attestation.h:200-205 -/
structure LotaBpfSummary where
  totalExecEvents : UInt32
  uniqueBinaries : UInt32
  firstEventTs : UInt64
  lastEventTs : UInt64
  deriving DecidableEq

/-- mirrors include/attestation.h:220-227 -/
structure LotaAttestationReport where
  header : LotaReportHeader
  tpm : LotaTpmEvidence
  system : LotaSystemMeasurement
  bpf : LotaBpfSummary
  deriving DecidableEq

/-- The union of `target_pid` and `target_uid` is one word.
mirrors include/lota.h:127-142 -/
structure LotaExecEvent where
  timestampNs : UInt64
  eventType : UInt32
  pid : UInt32
  tgid : UInt32
  uid : UInt32
  gid : UInt32
  target : UInt32
  flags : UInt32
  hash : Blob 32
  comm : Blob 16
  filename : Blob 256
  deriving DecidableEq

/-- The bytes of a report in memory, in the order of the fields. -/
def structBytes (r : LotaAttestationReport) : Bytes :=
  (toLE 4 r.header.magic.toNat ++ toLE 4 r.header.version.toNat ++ toLE 4 r.header.reportSize.toNat ++
    toLE 4 r.header.flags.toNat) ++
  (r.tpm.pcrValues.toList.flatMap List.Vector.toList ++ toLE 4 r.tpm.pcrMask.toNat ++
    r.tpm.quoteSignature.toList ++ toLE 2 r.tpm.quoteSigSize.toNat ++
    r.tpm.attestData.toList ++ toLE 2 r.tpm.attestSize.toNat ++
    r.tpm.aikPublic.toList ++ toLE 2 r.tpm.aikPublicSize.toNat ++
    r.tpm.aikCertificate.toList ++ toLE 2 r.tpm.aikCertSize.toNat ++
    r.tpm.ekCertificate.toList ++ toLE 2 r.tpm.ekCertSize.toNat ++
    r.tpm.nonce.toList ++ r.tpm.hardwareId.toList ++ toLE 8 r.tpm.aikGeneration.toNat ++
    r.tpm.prevAikPublic.toList ++ toLE 2 r.tpm.prevAikPublicSize.toNat ++
    toLE 2 r.tpm.quoteSigAlg.toNat ++ toLE 2 r.tpm.quoteSigHashAlg.toNat) ++
  (r.system.kernelHash.toList ++ r.system.agentHash.toList ++ r.system.kernelPath.toList ++
    toLE 4 r.system.iommu.vendor.toNat ++ toLE 4 r.system.iommu.flags.toNat ++
    toLE 4 r.system.iommu.unitCount.toNat ++ r.system.iommu.cmdlineParam.toList) ++
  (toLE 4 r.bpf.totalExecEvents.toNat ++ toLE 4 r.bpf.uniqueBinaries.toNat ++
    toLE 8 r.bpf.firstEventTs.toNat ++ toLE 8 r.bpf.lastEventTs.toNat)

def execEventBytes (e : LotaExecEvent) : Bytes :=
  toLE 8 e.timestampNs.toNat ++ toLE 4 e.eventType.toNat ++ toLE 4 e.pid.toNat ++ toLE 4 e.tgid.toNat ++
  toLE 4 e.uid.toNat ++ toLE 4 e.gid.toNat ++ toLE 4 e.target.toNat ++ toLE 4 e.flags.toNat ++
  e.hash.toList ++ e.comm.toList ++ e.filename.toList

/-- `sizeof(struct lota_attestation_report)`. -/
def sizeofReport : UInt64 := 7952

/-- `sizeof(struct lota_exec_event)`. -/
def sizeofExecEvent : UInt64 := 340

/-! ## The writer -/

inductive Errno where
  | eoverflow | enospc
  deriving DecidableEq, Repr

/-- mirrors src/agent/report.c:24-53 -/
def calculateReportSize (eventCount eventLogSize : UInt32) : UInt64 :=
  let size := sizeofReport
  let eventsSize := eventCount.toUInt64 * sizeofExecEvent
  if eventCount ≠ 0 ∧ eventsSize / eventCount.toUInt64 ≠ sizeofExecEvent then 0
  else if size + 4 < size then 0
  else
    let size := size + 4
    if size + eventsSize < size then 0
    else
      let size := size + eventsSize
      if size + 4 < size then 0
      else
        let size := size + 4
        if size + eventLogSize.toUInt64 < size then 0 else size + eventLogSize.toUInt64

/-- A pointer and the number of elements behind it; behind a null pointer
there are none. -/
structure CArray (α : Type) where
  ptr : Option (List α)
  count : UInt32
  valid : (ptr.getD []).length = count.toNat

namespace CArray

def null (α : Type) : CArray α := ⟨none, 0, rfl⟩

/-- What the pointer points at. -/
def items {α : Type} (a : CArray α) : List α := a.ptr.getD []

/-- `if (!ptr) count = 0;` -/
def given {α : Type} (a : CArray α) : UInt32 := if a.ptr.isNone then 0 else a.count

end CArray

/-- The bytes that are written; their number is the return value.
mirrors src/agent/report.c:55-113 -/
def serializeReport (report : LotaAttestationReport) (events : CArray LotaExecEvent)
    (eventLog : CArray UInt8)
    (outBufSize : UInt64) : Except Errno Bytes :=
  let total := calculateReportSize events.given eventLog.given
  if total = 0 then .error .eoverflow
  else if outBufSize < total then .error .enospc
  else
    let eventsSize := events.given.toUInt64 * sizeofExecEvent
    if events.given > 0 ∧ eventsSize / events.given.toUInt64 ≠ sizeofExecEvent then .error .eoverflow
    else
      .ok (structBytes report ++
        (toLE 4 events.given.toNat ++ (events.items.flatMap execEventBytes ++
          (toLE 4 eventLog.given.toNat ++ eventLog.items))))

/-! ## Sizes -/

theorem structBytes_length (r : LotaAttestationReport) :
    (structBytes r).length = sizeofReport.toNat := by
  simp only [structBytes, List.length_append, flatMap_toList_length, toLE_length,
    List.Vector.toList_length]
  rfl

theorem execEventBytes_length (e : LotaExecEvent) :
    (execEventBytes e).length = sizeofExecEvent.toNat := by
  simp only [execEventBytes, List.length_append, toLE_length, List.Vector.toList_length]
  rfl

namespace CArray

variable {α : Type} (a : CArray α)

theorem given_toNat : a.given.toNat = a.items.length := by
  unfold given items
  have hv := a.valid
  cases hp : a.ptr with
  | none => simp
  | some l =>
    rw [hp] at hv
    simp only [Option.getD_some] at hv
    simp [hv]

theorem given_eq : a.given = a.count := by
  apply UInt32.toNat_inj.mp
  rw [given_toNat]
  exact a.valid

end CArray

/-- The section sizes stay far below 2⁶⁴. -/
theorem eventsSize_toNat (n : UInt32) : (n.toUInt64 * sizeofExecEvent).toNat = 340 * n.toNat := by
  have hn := n.toNat_lt
  rw [UInt64.toNat_mul, UInt32.toNat_toUInt64]
  show n.toNat * 340 % 2 ^ 64 = _
  omega

theorem eventsSize_div (n : UInt32) (h : n ≠ 0) :
    n.toUInt64 * sizeofExecEvent / n.toUInt64 = sizeofExecEvent := by
  have hpos : 0 < n.toNat := by
    rcases Nat.eq_zero_or_pos n.toNat with h0 | h0
    · exact absurd (UInt32.toNat_inj.mp h0) h
    · exact h0
  apply UInt64.toNat_inj.mp
  rw [UInt64.toNat_div, eventsSize_toNat, UInt32.toNat_toUInt64]
  exact Nat.mul_div_cancel _ hpos

theorem calculateReportSize_toNat (eventCount eventLogSize : UInt32) :
    (calculateReportSize eventCount eventLogSize).toNat =
      minReportSize + 340 * eventCount.toNat + eventLogSize.toNat := by
  have h1 := eventsSize_toNat eventCount
  have h2 := eventCount.toNat_lt
  have h3 := eventLogSize.toNat_lt
  have h4 : eventLogSize.toUInt64.toNat = eventLogSize.toNat := UInt32.toNat_toUInt64 _
  have hs : (sizeofReport + 4).toNat = 7956 := rfl
  have hse : (sizeofReport + 4 + eventCount.toUInt64 * sizeofExecEvent).toNat = 7956 +
      340 * eventCount.toNat := by
    rw [UInt64.toNat_add, hs, h1]
    omega
  have hse4 : (sizeofReport + 4 + eventCount.toUInt64 * sizeofExecEvent + 4).toNat = 7960 +
      340 * eventCount.toNat := by
    rw [UInt64.toNat_add, hse]
    show (7956 + 340 * eventCount.toNat + 4) % 2 ^ 64 = _
    omega
  have hall :
      (sizeofReport + 4 + eventCount.toUInt64 * sizeofExecEvent + 4 + eventLogSize.toUInt64).toNat =
      7960 + 340 * eventCount.toNat + eventLogSize.toNat := by
    rw [UInt64.toNat_add, hse4, h4]
    omega
  unfold calculateReportSize
  simp only
  rw [if_neg (fun h => h.2 (eventsSize_div _ h.1)), if_neg (by decide),
    if_neg (by rw [UInt64.not_lt, UInt64.le_iff_toNat_le]; omega),
    if_neg (by rw [UInt64.not_lt, UInt64.le_iff_toNat_le]; omega),
    if_neg (by rw [UInt64.not_lt, UInt64.le_iff_toNat_le]; omega), hall]
  rfl

theorem calculateReportSize_ne_zero (eventCount eventLogSize : UInt32) :
    calculateReportSize eventCount eventLogSize ≠ 0 := by
  intro h
  have := calculateReportSize_toNat eventCount eventLogSize
  rw [h] at this
  simp [minReportSize] at this
  omega

/-- A buffer of the computed size is always enough. -/
theorem serializeReport_ok (r : LotaAttestationReport) (events : CArray LotaExecEvent)
    (eventLog : CArray UInt8) :
    serializeReport r events eventLog (calculateReportSize events.count eventLog.count) =
      .ok (structBytes r ++ (toLE 4 events.items.length ++ (events.items.flatMap execEventBytes ++
        (toLE 4 eventLog.items.length ++ eventLog.items)))) := by
  unfold serializeReport
  simp only
  rw [events.given_eq, eventLog.given_eq, if_neg (calculateReportSize_ne_zero _ _),
    if_neg (UInt64.lt_irrefl _),
    if_neg (fun h => h.2 (eventsSize_div _ (fun h0 => by rw [h0] at h; exact absurd h.1 (by decide)))),
    ← events.given_eq, ← eventLog.given_eq, events.given_toNat, eventLog.given_toNat]

/-! ## Round trip to the verifier -/

/-- A report as every caller fills it in: the header has the magic and the
version that the structure's comments ask for, and no size is larger than its
array. -/
structure WithinLimits (r : LotaAttestationReport) : Prop where
  magic : r.header.magic = reportMagic
  version : r.header.version = reportVersion
  quoteSig : r.tpm.quoteSigSize.toNat ≤ maxSigSize
  attest : r.tpm.attestSize.toNat ≤ maxAttestSize
  aikPublic : r.tpm.aikPublicSize.toNat ≤ maxAIKPubSize
  aikCert : r.tpm.aikCertSize.toNat ≤ maxAIKCertSize
  ekCert : r.tpm.ekCertSize.toNat ≤ maxEKCertSize
  prevAik : r.tpm.prevAikPublicSize.toNat ≤ maxAIKPubSize

/-- The verifier's structure with the agent's values, field by field. -/
def goReport (r : LotaAttestationReport) (eventLog : Bytes) : AttestationReport where
  header :=
    { magic := r.header.magic, version := r.header.version, reportSize := r.header.reportSize,
      flags := r.header.flags }
  tpm :=
    { pcrValues := r.tpm.pcrValues, pcrMask := r.tpm.pcrMask
      quoteSignature := r.tpm.quoteSignature, quoteSigSize := r.tpm.quoteSigSize
      attestData := r.tpm.attestData, attestSize := r.tpm.attestSize
      aikPublic := r.tpm.aikPublic, aikPublicSize := r.tpm.aikPublicSize
      aikCertificate := r.tpm.aikCertificate, aikCertSize := r.tpm.aikCertSize
      ekCertificate := r.tpm.ekCertificate, ekCertSize := r.tpm.ekCertSize
      nonce := r.tpm.nonce, hardwareID := r.tpm.hardwareId, aikGeneration := r.tpm.aikGeneration
      prevAIKPublic := r.tpm.prevAikPublic, prevAIKSize := r.tpm.prevAikPublicSize
      quoteSigAlg := r.tpm.quoteSigAlg, quoteSigHashAlg := r.tpm.quoteSigHashAlg }
  system :=
    { kernelHash := r.system.kernelHash, agentHash := r.system.agentHash
      kernelPath := r.system.kernelPath
      iommu :=
        { vendor := r.system.iommu.vendor, flags := r.system.iommu.flags
          unitCount := r.system.iommu.unitCount, cmdlineParam := r.system.iommu.cmdlineParam } }
  bpf :=
    { totalExecEvents := r.bpf.totalExecEvents, uniqueBinaries := r.bpf.uniqueBinaries
      firstEventTS := r.bpf.firstEventTs, lastEventTS := r.bpf.lastEventTs }
  eventLog := eventLog

/-- The packed structure is the fixed part of the wire image. -/
theorem structBytes_eq (r : LotaAttestationReport) (eventLog : Bytes) :
    structBytes r = wireHeader (goReport r eventLog).header ++ wireTPM (goReport r eventLog).tpm ++
      wireSystem (goReport r eventLog).system ++ wireBPF (goReport r eventLog).bpf := rfl

theorem goReport_wellFormed (r : LotaAttestationReport) (w : WithinLimits r) (eventLog : CArray UInt8) :
    WellFormed (goReport r eventLog.items) where
  magic := w.magic
  version := w.version
  quoteSig := w.quoteSig
  attest := w.attest
  aikPublic := w.aikPublic
  aikCert := w.aikCert
  ekCert := w.ekCert
  prevAIK := w.prevAik
  eventLog := by
    show eventLog.items.length < 2 ^ 32
    rw [← eventLog.given_toNat]
    exact eventLog.given.toNat_lt

/-- Without BPF events the agent writes the wire image of its report. -/
theorem serializeReport_null (r : LotaAttestationReport) (eventLog : CArray UInt8) :
    serializeReport r (.null _) eventLog (calculateReportSize 0 eventLog.count) =
      .ok (wireReport (goReport r eventLog.items)) := by
  have h := serializeReport_ok r (.null _) eventLog
  rw [show (CArray.null LotaExecEvent).count = 0 from rfl] at h
  rw [h, structBytes_eq r eventLog.items]
  simp only [wireReport, CArray.items, CArray.null, Option.getD_none, List.length_nil, List.flatMap_nil,
    List.nil_append, List.append_assoc]
  rfl

/-- **Report round trip.** Serializing a report and an event log into a buffer
of the computed size succeeds, fills the buffer exactly, and `ParseReport`
returns the same report with the same event log. -/
theorem report_round_trip (r : LotaAttestationReport) (w : WithinLimits r) (eventLog : CArray UInt8) :
    ∃ wire, serializeReport r (.null _) eventLog (calculateReportSize 0 eventLog.count) = .ok wire ∧
      wire.length = (calculateReportSize 0 eventLog.count).toNat ∧
      parseReport wire = .ok (goReport r eventLog.items) := by
  refine ⟨_, serializeReport_null r eventLog, ?_, ?_⟩
  · rw [wireReport_length, calculateReportSize_toNat, ← eventLog.given_eq, eventLog.given_toNat]
    rfl
  · exact parseReport_wireReport _ (goReport_wellFormed r w eventLog)

/-- A report whose fields are zero, apart from the magic and the version. -/
def blankReport : LotaAttestationReport where
  header := ⟨reportMagic, reportVersion, 0, 0⟩
  tpm :=
    { pcrValues := .replicate 24 (Blob.zero 32), pcrMask := 0
      quoteSignature := Blob.zero 512, quoteSigSize := 0, attestData := Blob.zero 1024, attestSize := 0
      aikPublic := Blob.zero 512, aikPublicSize := 0, aikCertificate := Blob.zero 2048, aikCertSize := 0
      ekCertificate := Blob.zero 2048, ekCertSize := 0, nonce := Blob.zero 32,
      hardwareId := Blob.zero 32
      aikGeneration := 0, prevAikPublic := Blob.zero 512, prevAikPublicSize := 0
      quoteSigAlg := tpmAlgRSASSA, quoteSigHashAlg := tpmAlgSHA256 }
  system := ⟨Blob.zero 32, Blob.zero 32, Blob.zero 256, ⟨0, 0, 0, Blob.zero 64⟩⟩
  bpf := ⟨0, 0, 0, 0⟩

theorem blankReport_withinLimits : WithinLimits blankReport where
  magic := rfl
  version := rfl
  quoteSig := Nat.zero_le _
  attest := Nat.zero_le _
  aikPublic := Nat.zero_le _
  aikCert := Nat.zero_le _
  ekCert := Nat.zero_le _
  prevAik := Nat.zero_le _

theorem report_round_trip_blank :
    ∃ wire, serializeReport blankReport (.null _) ⟨some [7, 9], 2, rfl⟩
    (calculateReportSize 0 2) = .ok wire ∧
      wire.length = (calculateReportSize 0 2).toNat ∧
      parseReport wire = .ok (goReport blankReport [7, 9]) :=
  report_round_trip blankReport blankReport_withinLimits ⟨some [7, 9], 2, rfl⟩

/-! ## What a BPF event would do -/

/-- `ParseReport` reads the packed structure and leaves the rest to the
variable-length sections. -/
theorem parseReport_structBytes (r : LotaAttestationReport) (w : WithinLimits r)
    {sections log rest : Bytes}
    (hl : 8 ≤ sections.length) (h : readSections.run sections = .ok (log, rest)) :
    parseReport (structBytes r ++ sections) = .ok (goReport r log) := by
  have hw : WellFormed (goReport r []) := goReport_wellFormed r w (.null _)
  have hs : (structBytes r).length = 7952 := structBytes_length r
  unfold parseReport
  rw [if_neg (by rw [List.length_append, hs]; simp only [minReportSize]; omega), structBytes_eq r []]
  unfold readReport
  simp only [List.append_assoc]
  rw [Reader.bind_run (readHeader_wire _ hw.magic hw.version _),
    Reader.bind_run (readTPM_wire (goReport r []) hw _),
    Reader.bind_run (readSystem_wire _ _), Reader.bind_run (readBPF_wire _ _), Reader.bind_run h,
    Reader.pure_run]
  rfl

/-- The verifier skips 336 of the 340 bytes of an event and takes the last
four for the size of the event log. -/
theorem readSections_one_event (pre log : Bytes) (h : pre.length = execEventSize) :
    readSections.run (toLE 4 1 ++ (pre ++ (toLE 4 0 ++ log))) = .ok ([], log) := by
  have h1 : ofLE (toLE 4 1) = 1 := ofLE_toLE 4 1 (by decide)
  have h0 : ofLE (toLE 4 0) = 0 := ofLE_toLE 4 0 (by decide)
  have hlog : (readEventLog 0).run log = .ok ([], log) := by simp [readEventLog]
  unfold readSections
  rw [Reader.bind_run (need_append (toLE_length 4 1) _), h1, Nat.one_mul,
    Reader.bind_run (need_append h _), Reader.bind_run (need_append (toLE_length 4 0) _), h0, hlog]

/-- **Event shift.** A report with one BPF event whose path leaves the end of
its array free would be accepted without its event log. -/
theorem events_shift (r : LotaAttestationReport) (w : WithinLimits r) (e : LotaExecEvent)
    (path : Bytes) (hp : e.filename.toList = path ++ toLE 4 0) (eventLog : CArray UInt8) :
    ∃ wire, serializeReport r ⟨some [e], 1, rfl⟩ eventLog (calculateReportSize 1 eventLog.count) =
    .ok wire ∧
      parseReport wire = .ok (goReport r []) := by
  refine ⟨_, serializeReport_ok r ⟨some [e], 1, rfl⟩ eventLog, ?_⟩
  have hlen : (execEventBytes e).length = 340 := execEventBytes_length e
  have he : ∃ pre, execEventBytes e = pre ++ toLE 4 0 := by
    unfold execEventBytes
    rw [hp, ← List.append_assoc]
    exact ⟨_, rfl⟩
  obtain ⟨pre, hpre⟩ := he
  have hlp : pre.length = execEventSize := by
    rw [hpre, List.length_append, toLE_length] at hlen
    simp only [execEventSize]
    omega
  have hev : (CArray.items (⟨some [e], 1, rfl⟩ : CArray LotaExecEvent)) = [e] := rfl
  rw [hev, List.flatMap_singleton, hpre, List.append_assoc, List.length_singleton]
  apply parseReport_structBytes r w _ (readSections_one_event pre _ hlp)
  simp only [List.length_append, toLE_length, hlp, execEventSize]
  omega

end Lota.L1.ReportC

import Mathlib.Data.List.FinRange
import Lota.Core.Sha256
import Lota.L1Wire.Report

/-!
# The TCG event log (`verifier/verify/eventlog.go`)

Parser, PCR replay and the comparison of the replayed registers with the
reported ones.

Results:
* `replayEventLog_pcrValues`, `replayEventLog_extendCounts`: the replay is,
  for each PCR on its own, the extend fold over that PCR's digests.
* `verifyEventLog_ok`: an accepted log parses, and explains every quoted
  register outside PCR 8, 9 and 14 for which it holds a SHA-256 digest.
-/
namespace Lota.L1.EventLog
open Lota.Core Lota.L1.Report

def evNoAction : UInt32 := 0x00000003

def algSHA1 : UInt16 := 0x0004
def algSHA256 : UInt16 := 0x000B
def algSHA384 : UInt16 := 0x000C
def algSHA512 : UInt16 := 0x000D

def maxTCGHeaderDataSize : Nat := 1048576
def maxTCGEventDataSize : Nat := 1048576
def maxTCGDigestCount : Nat := 16

/-- mirrors src/verifier/verify/eventlog.go:54-59 -/
structure EventLogEntry where
  pcrIndex : UInt32
  eventType : UInt32
  digests : GoMap UInt16 Bytes
  eventData : Bytes

structure ParsedEventLog where
  entries : List EventLogEntry
  algorithmList : List UInt16

/-- mirrors src/verifier/verify/eventlog.go:68-77 -/
structure ReplayResult where
  pcrValues : PCRTable
  extendCounts : List.Vector Nat 24
  totalEntries : Nat

/-! ## Parsing -/

def errUnexpectedEOF : String := "unexpected EOF"

/-- mirrors src/verifier/verify/eventlog.go:250-263 -/
def algDigestSize (algID : UInt16) : Nat :=
  if algID = algSHA1 then 20
  else if algID = algSHA256 then 32
  else if algID = algSHA384 then 48
  else if algID = algSHA512 then 64
  else 0

/-- The algorithm loop of the Spec ID Event, `n` rounds to go. -/
def readAlgs : (n : Nat) → (algs : List UInt16) → Reader (List UInt16)
  | 0, algs => pure algs
  | n + 1, algs => do
    let b ← need "truncated algorithm list" 4
    readAlgs n (algs ++ [UInt16.ofNat (ofLE (b.take 2))])

/-- mirrors src/verifier/verify/eventlog.go:141-177 -/
def parseSpecIDEvent (data : Bytes) : Except String (List UInt16) :=
  if data.length < 28 then .error "spec ID event too short"
  else
    let numAlgs := ofLE ((data.drop 24).take 4)
    if numAlgs = 0 ∨ numAlgs > 8 then .error ("invalid algorithm count: " ++ toString numAlgs)
    else ((readAlgs numAlgs []).run (data.drop 28)).map Prod.fst

/-- The digest loop of one entry, `n` rounds to go. A repeated algorithm
overwrites the digest before it. -/
def readDigests : (n : Nat) → (digests : GoMap UInt16 Bytes) → Reader (GoMap UInt16 Bytes)
  | 0, digests => pure digests
  | n + 1, digests => do
    let b ← need errUnexpectedEOF 2
    let algID := UInt16.ofNat (ofLE b)
    let digestSize := algDigestSize algID
    if digestSize = 0 then .fail ("unknown digest algorithm: 0x" ++ fmtx 4 algID.toNat)
    else
      let digest ← need errUnexpectedEOF digestSize
      readDigests n (digests.insert algID digest)

/-- mirrors src/verifier/verify/eventlog.go:180-247; the list of algorithms
is passed in by the source and not used. -/
def parsePCREvent2 : Reader EventLogEntry := do
  let head ← need errUnexpectedEOF 8
  let cnt ← need errUnexpectedEOF 4
  let digestCount := ofLE cnt
  if digestCount > maxTCGDigestCount then .fail ("digest count too large: " ++ toString digestCount)
  else
    let digests ← readDigests digestCount ∅
    let sz ← need errUnexpectedEOF 4
    let eventDataSize := ofLE sz
    if eventDataSize > maxTCGEventDataSize
      then .fail ("event data too large: " ++ toString eventDataSize)
    else
      let eventData ← need errUnexpectedEOF eventDataSize
      pure { pcrIndex := UInt32.ofNat (ofLE (head.take 4)),
             eventType := UInt32.ofNat (ofLE (head.drop 4)), digests, eventData }

/-- The entry loop, `offset` bytes into the log.
mirrors src/verifier/verify/eventlog.go:123-135 -/
def parseEntries (offset : Nat) (data : Bytes) : Except String (List EventLogEntry) :=
  if data.length = 0 then .ok []
  else match parsePCREvent2.run data with
  | .error e => .error ("event log truncated or malformed at offset " ++ toString offset ++ ": " ++ e)
  | .ok (entry, rest) =>
    let consumed := data.length - rest.length
    if _h : consumed = 0 then
      .error ("event log parser consumed zero bytes at offset " ++ toString offset)
    else (parseEntries (offset + consumed) rest).map (entry :: ·)
termination_by data.length

/-- mirrors src/verifier/verify/eventlog.go:80-138 (`ParseEventLog`). The
source tests the length of the header twice. -/
def parseEventLog (data : Bytes) : Except String ParsedEventLog :=
  if data.length < 32 then .error "event log too short"
  else
    let headerPCR := ofLE (data.take 4)
    let headerType := ofLE ((data.drop 4).take 4)
    let headerDataSize := ofLE ((data.drop 28).take 4)
    if headerPCR ≠ 0 ∨ headerType ≠ evNoAction.toNat then
      .error ("invalid event log header: pcr=" ++ toString headerPCR ++ " type=0x" ++ fmtx 0 headerType)
    else if headerDataSize > maxTCGHeaderDataSize then
      .error ("event log header data too large: " ++ toString headerDataSize)
    else if headerDataSize > (data.drop 32).length then .error "event log truncated at header data"
    else match parseSpecIDEvent ((data.drop 32).take headerDataSize) with
    | .error e => .error ("failed to parse Spec ID Event: " ++ e)
    | .ok algList =>
      (parseEntries (32 + headerDataSize) ((data.drop 32).drop headerDataSize)).map fun entries =>
        { entries, algorithmList := algList }

/-! ## Replay -/

/-- PCR extend: the new value is the hash of the old one and the digest. -/
def extend (pcr : Hash) (digest : Bytes) : Hash := sha256 (pcr.toList ++ digest)

/-- One entry of the log.
mirrors src/verifier/verify/eventlog.go:274-289 -/
def replayEntry (result : ReplayResult) (entry : EventLogEntry) : ReplayResult :=
  if h : entry.pcrIndex.toNat < 24 then
    match entry.digests.lookup algSHA256 with
    | none => result
    | some sha256Digest =>
      let i : Fin 24 := ⟨entry.pcrIndex.toNat, h⟩
      { result with
        pcrValues := result.pcrValues.set i (extend (result.pcrValues.get i) sha256Digest)
        extendCounts := result.extendCounts.set i (result.extendCounts.get i + 1) }
  else result

/-- All registers zero, nothing extended. -/
def freshReplay : ReplayResult where
  pcrValues := List.Vector.replicate 24 (Blob.zero 32)
  extendCounts := List.Vector.replicate 24 0
  totalEntries := 0

/-- mirrors src/verifier/verify/eventlog.go:267-294 (`ReplayEventLog`) -/
def replayEventLog (parsed : ParsedEventLog) : ReplayResult :=
  let result := parsed.entries.foldl replayEntry freshReplay
  { result with totalEntries := parsed.entries.length }

/-- The SHA-256 digests the log holds for one PCR, in log order. -/
def digestsFor (entries : List EventLogEntry) (i : Fin 24) : List Bytes :=
  entries.filterMap fun e => if e.pcrIndex.toNat = i.val then e.digests.lookup algSHA256 else none

theorem foldl_replayEntry (entries : List EventLogEntry) (r : ReplayResult) (i : Fin 24) :
    (entries.foldl replayEntry r).pcrValues.get i = (digestsFor entries i).foldl extend
    (r.pcrValues.get i) ∧ (entries.foldl replayEntry r).extendCounts.get i =
      r.extendCounts.get i + (digestsFor entries i).length := by
  induction entries generalizing r with
  | nil => exact ⟨rfl, rfl⟩
  | cons e entries ih =>
    obtain ⟨hv, hc⟩ := ih (replayEntry r e)
    rw [List.foldl_cons, hv, hc]
    unfold digestsFor replayEntry
    by_cases hlt : e.pcrIndex.toNat < 24
    · rw [dif_pos hlt]
      cases hd : e.digests.lookup algSHA256 with
      | none => simp [hd]
      | some d =>
        by_cases hi : e.pcrIndex.toNat = i.val
        · have hfin : (⟨e.pcrIndex.toNat, hlt⟩ : Fin 24) = i := Fin.ext hi
          simp only [List.filterMap_cons, if_pos hi, hd, hfin, List.Vector.get_set_same,
            List.foldl_cons, List.length_cons, true_and]
          omega
        · have hfin : (⟨e.pcrIndex.toNat, hlt⟩ : Fin 24) ≠ i := fun h => hi (congrArg Fin.val h)
          simp only [List.filterMap_cons, if_neg hi, List.Vector.get_set_of_ne hfin, and_self]
    · have hi : e.pcrIndex.toNat ≠ i.val := fun h => hlt (h ▸ i.isLt)
      simp only [dif_neg hlt, List.filterMap_cons, if_neg hi, and_self]

/-- The replayed value of a PCR is the extend fold over its own digests. -/
theorem replayEventLog_pcrValues (parsed : ParsedEventLog) (i : Fin 24) :
    (replayEventLog parsed).pcrValues.get i = (digestsFor parsed.entries i).foldl extend
    (Blob.zero 32) := by
  have h := (foldl_replayEntry parsed.entries freshReplay i).1
  rw [freshReplay, List.Vector.get_replicate] at h
  exact h

theorem replayEventLog_extendCounts (parsed : ParsedEventLog) (i : Fin 24) :
    (replayEventLog parsed).extendCounts.get i = (digestsFor parsed.entries i).length := by
  have h := (foldl_replayEntry parsed.entries freshReplay i).2
  rw [freshReplay, List.Vector.get_replicate, Nat.zero_add] at h
  exact h

/-! ## Comparison -/

/-- mirrors src/verifier/verify/eventlog.go:302-330 (`VerifyEventLogConsistency`) -/
def verifyEventLogConsistency (report : AttestationReport) (replay : ReplayResult)
    (skipPCRs : Nat → Bool) : List String :=
  (List.finRange 24).filterMap fun i : Fin 24 =>
    if replay.extendCounts.get i = 0 then none
    else if hasBit report.tpm.pcrMask i = false then none
    else if skipPCRs i then none
    else
      let reported := report.tpm.pcrValues.get i
      let replayed := replay.pcrValues.get i
      if reported ≠ replayed then
        some ("PCR " ++ toString i.val ++ ": reported=" ++ hexEncode reported.toList ++ " replayed=" ++
          hexEncode replayed.toList ++ " (extends=" ++ toString (replay.extendCounts.get i) ++ ")")
      else none

/-- PCR 14 is extended by LOTA itself, PCR 8 and 9 by the operating system. -/
def skipPCRs (i : Nat) : Bool := i == 8 || i == 9 || i == 14

/-- mirrors src/verifier/verify/eventlog.go:340-374 (`VerifyEventLog`) -/
def verifyEventLog (report : AttestationReport) : Except String Unit :=
  if report.eventLog.length = 0 then .error "TPM event log missing from report"
  else match parseEventLog report.eventLog with
  | .error e => .error ("event log parse failed: " ++ e)
  | .ok parsed =>
    let mismatches := verifyEventLogConsistency report (replayEventLog parsed) skipPCRs
    if mismatches.length > 0 then
      .error ("event log verification: " ++ toString mismatches.length ++ " PCR mismatches detected")
    else .ok ()

theorem verifyEventLogConsistency_nil (report : AttestationReport) (replay : ReplayResult)
    (skip : Nat → Bool) :
    verifyEventLogConsistency report replay skip = [] ↔
      ∀ i : Fin 24, replay.extendCounts.get i ≠ 0 → hasBit report.tpm.pcrMask i = true →
      skip i = false →
        report.tpm.pcrValues.get i = replay.pcrValues.get i := by
  unfold verifyEventLogConsistency
  rw [List.filterMap_eq_nil_iff]
  constructor
  · intro h i hc hm hs
    have hi := h i (List.mem_finRange i)
    by_contra hne
    rw [if_neg hc, hm, hs] at hi
    simp [hne] at hi
  · intro h i _
    by_cases hc : replay.extendCounts.get i = 0
    · rw [if_pos hc]
    · cases hm : hasBit report.tpm.pcrMask i with
      | false => simp
      | true =>
        cases hs : skip i with
        | true => simp
        | false => simp [h i hc hm hs]

/-- What an accepted event log says about the reported registers. -/
theorem verifyEventLog_ok {report : AttestationReport} :
    verifyEventLog report = .ok () ↔
      ∃ parsed, parseEventLog report.eventLog = .ok parsed ∧
        ∀ i : Fin 24, digestsFor parsed.entries i ≠ [] → hasBit report.tpm.pcrMask i = true →
          skipPCRs i = false →
          report.tpm.pcrValues.get i = (digestsFor parsed.entries i).foldl extend (Blob.zero 32) := by
  have hshort : report.eventLog.length = 0 →
      parseEventLog report.eventLog = .error "event log too short" := by
    intro h
    unfold parseEventLog
    rw [if_pos (by omega)]
  unfold verifyEventLog
  by_cases h0 : report.eventLog.length = 0
  · rw [if_pos h0, hshort h0]
    simp
  · rw [if_neg h0]
    cases hp : parseEventLog report.eventLog with
    | error e => simp
    | ok parsed =>
      have hcons := verifyEventLogConsistency_nil report (replayEventLog parsed) skipPCRs
      simp only [replayEventLog_pcrValues, replayEventLog_extendCounts, ne_eq,
        List.length_eq_zero_iff] at hcons
      simp only [Except.ok.injEq, exists_eq_left', ne_eq]
      rw [← hcons]
      by_cases hn : verifyEventLogConsistency report (replayEventLog parsed) skipPCRs = []
      · simp [hn]
      · simp [hn, List.length_pos_iff]

/-! ## Two logs -/

/-- The legacy header with a Spec ID Event that names SHA-256, no entries. -/
def headerOnlyLog : Bytes :=
  toLE 4 0 ++ toLE 4 3 ++ List.replicate 20 0 ++ toLE 4 32 ++
  (List.replicate 24 0 ++ toLE 4 1 ++ toLE 2 11 ++ toLE 2 32)

/-- Behind that header everything is entries. -/
theorem parseEventLog_header (rest : Bytes) :
    parseEventLog (headerOnlyLog ++ rest) =
      (parseEntries 64 rest).map fun entries => { entries, algorithmList := [algSHA256] } := by
  have hlen : headerOnlyLog.length = 64 := by decide
  have hpcr : (headerOnlyLog ++ rest).take 4 = headerOnlyLog.take 4 :=
    List.take_append_of_le_length (by rw [hlen]; omega)
  have hdrop : ∀ n ≤ 64, (headerOnlyLog ++ rest).drop n = headerOnlyLog.drop n ++ rest :=
    fun n hn => List.drop_append_of_le_length (by rw [hlen]; exact hn)
  have htake : ∀ n k, n + k ≤ 64 →
      (headerOnlyLog.drop n ++ rest).take k = (headerOnlyLog.drop n).take k :=
    fun n k hk => List.take_append_of_le_length (by rw [List.length_drop, hlen]; omega)
  have hsize : ofLE ((headerOnlyLog.drop 28).take 4) = 32 := by decide
  have hspec : parseSpecIDEvent ((headerOnlyLog.drop 32).take 32) = .ok [algSHA256] := by decide
  have hrest : (headerOnlyLog.drop 32 ++ rest).drop 32 = rest := by
    rw [List.drop_append_of_le_length (by rw [List.length_drop, hlen])]
    rfl
  unfold parseEventLog
  rw [if_neg (by rw [List.length_append, hlen]; omega)]
  simp only [hpcr, hdrop 4 (by omega), hdrop 28 (by omega), hdrop 32 (by omega), htake 4 4 (by omega),
    htake 28 4 (by omega), htake 32 32 (by omega), hsize, hspec, hrest]
  rw [if_neg (by decide), if_neg (by decide),
    if_neg (by rw [List.length_append, List.length_drop, hlen]; omega)]

theorem parseEventLog_headerOnlyLog :
    parseEventLog headerOnlyLog = .ok { entries := [], algorithmList := [algSHA256] } := by
  have h := parseEventLog_header []
  rw [List.append_nil, parseEntries] at h
  exact h

/-- One event that extends PCR 0. -/
def firmwareEvent : EventLogEntry where
  pcrIndex := 0
  eventType := 1
  digests := AList.insert algSHA256 (List.replicate 32 7) ∅
  eventData := []

def firmwareLog : Bytes :=
  headerOnlyLog ++ (toLE 4 0 ++ toLE 4 1 ++ toLE 4 1 ++ toLE 2 11 ++ List.replicate 32 7 ++ toLE 4 0)

theorem parseEventLog_firmwareLog :
    parseEventLog firmwareLog = .ok { entries := [firmwareEvent], algorithmList := [algSHA256] } := by
  have hevent : parsePCREvent2.run (toLE 4 0 ++ toLE 4 1 ++ toLE 4 1 ++ toLE 2 11 ++
      List.replicate 32 7 ++ toLE 4 0) = .ok (firmwareEvent, []) := rfl
  rw [firmwareLog, parseEventLog_header, parseEntries, if_neg (by decide), hevent]
  simp only
  rw [dif_neg (by decide), parseEntries]
  rfl

end Lota.L1.EventLog

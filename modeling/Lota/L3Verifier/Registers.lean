import Lota.L3Verifier.Genuine

/-!
# What an accepted report says about its registers

Two facts about a single call, in every state of the verifier.

Results:
* `accepted_log_replays`: the event log explains every quoted register it
  has an event for. `header_only_log_accepted`: a log without events
  explains nothing and is accepted.
* `changed_register_rejected`: a quoted register is under the signed digest.
-/
namespace Lota.L3.Verify
open Lota.Core Lota.L1.Report Lota.L1.Attest Lota.L1.EventLog
open Lota.L2 Lota.L2.Baseline Lota.L2.SqliteBaseline Lota.L2.Nonce
open Lota.L3.BootCommitment Lota.L3.Policy Lota.L3.Signature

section Registers

variable {K : Crypto} {v : Verifier} {env : ReportEnv} {challengeID : String} {reportData : Bytes}

/-- The report of an authenticated call is the one its bytes parse to. -/
theorem Authenticated.report_eq {ns : NonceStore} {ev : Evidence} {report : AttestationReport}
    (h : Authenticated K v env challengeID reportData ns ev)
    (hr : parseReport reportData = .ok report) : ev.id.report = report := by
  have hp := h.identified.parsed.symm.trans hr
  cases hp
  rfl

/-! ## The signed digest -/

theorem verifyReportSignature_attestSize {report : AttestationReport} {key : RSAPublicKey}
    (h : K.verifyReportSignature report key = .ok ()) : report.tpm.attestSize ≠ 0 := by
  unfold Crypto.verifyReportSignature at h
  simp only at h
  split at h
  · cases h
  · split at h
    · cases h
    · rename_i hs
      exact hs

/-- The quote of an accepted report signs the registers under its mask. -/
theorem accepted_signs {report : AttestationReport} (hr : parseReport reportData = .ok report)
    (h : (verifyReport K v env challengeID reportData).2.accepted = true) :
    ∃ attest, parseTPMSAttest (report.tpm.attestData.toList.take report.tpm.attestSize.toNat) =
    .ok attest ∧
      SignsString attest (pcrString report.tpm.pcrValues report.tpm.pcrMask) := by
  obtain ⟨ns, ev, ha, -⟩ := verifyReport_accepted h
  have hrep := ha.report_eq hr
  have hs := verifyReportSignature_attestSize ha.evident.signature
  obtain ⟨a, -, hp, hd⟩ := checkQuote_some ha.evident.quote hs
  rw [hrep] at hp hd
  exact ⟨a, hp, verifyPCRDigestParsed_ok.mp hd⟩

/-- The report with another value in register `i` and nothing else changed. -/
def withPCR (report : AttestationReport) (i : Fin 24) (x : Hash) : AttestationReport :=
  { report with tpm := { report.tpm with pcrValues := report.tpm.pcrValues.set i x } }

/-- **Quoted registers.** If an accepted report quotes register `i`, the same
report with another value there is rejected, in every state and on every
challenge. -/
theorem changed_register_rejected {report : AttestationReport}
    (hr : parseReport reportData = .ok report)
    (h : (verifyReport K v env challengeID reportData).2.accepted = true) {i : Fin 24}
    (hi : hasBit report.tpm.pcrMask i = true) {x : Hash} (hx : x ≠ report.tpm.pcrValues.get i)
    (hc : NoCollision (pcrString report.tpm.pcrValues report.tpm.pcrMask)
      (pcrString (report.tpm.pcrValues.set i x) report.tpm.pcrMask))
    {v' : Verifier} {env' : ReportEnv} {challengeID' : String} {reportData' : Bytes}
    (hr' : parseReport reportData' = .ok (withPCR report i x)) :
    (verifyReport K v' env' challengeID' reportData').2.accepted = false := by
  refine Bool.eq_false_iff.mpr fun h' => ?_
  obtain ⟨a, hp, -, q, hq, -, hd⟩ := accepted_signs hr h
  obtain ⟨a', hp', -, q', hq', -, hd'⟩ := accepted_signs hr' h'
  -- the quote is the same, so are the two digests
  have ha : a' = a := by
    have := hp'.symm.trans hp
    cases this
    rfl
  subst ha
  rw [hq] at hq'
  cases hq'
  have hs := hc (List.Vector.toList_injective (hd.symm.trans hd'))
  have hval := pcrString_inj hs hi
  rw [List.Vector.get_set_same] at hval
  exact hx hval.symm

/-! ## The event log -/

/-- **Event log.** For every quoted register outside 8, 9 and 14 with a
SHA-256 event in the log of an accepted report, the replay of these events
from all zeros is the reported value. -/
theorem accepted_log_replays {report : AttestationReport} (hr : parseReport reportData = .ok report)
    (h : (verifyReport K v env challengeID reportData).2.accepted = true) :
    ∃ parsed, parseEventLog report.eventLog = .ok parsed ∧
      ∀ i : Fin 24, hasBit report.tpm.pcrMask i = true → i.val ≠ 8 → i.val ≠ 9 → i.val ≠ 14 →
        digestsFor parsed.entries i ≠ [] →
        report.tpm.pcrValues.get i = (digestsFor parsed.entries i).foldl extend (Blob.zero 32) := by
  obtain ⟨ns, ev, ha, -⟩ := verifyReport_accepted h
  have hrep := ha.report_eq hr
  have hlog := ha.evident.eventLog.2
  rw [hrep] at hlog
  obtain ⟨parsed, hp, hall⟩ := verifyEventLog_ok.mp hlog
  refine ⟨parsed, hp, fun i hm h8 h9 h14 hd => hall i hd hm ?_⟩
  simp [skipPCRs, h8, h9, h14]

end Registers

/-- A device without boot commitment that quotes PCR 0, 1, 7 and 14, all of
them zero but PCR 0. -/
def bootDevice (pcr0 : Hash) (eventLog : Bytes) : Device where
  nonce := Blob.zero 32
  flags := 0
  agentHash := Blob.zero 32
  pcrValues := (List.Vector.replicate 24 (Blob.zero 32)).set 0 pcr0
  pcrMask := 0x4083
  eventLog := eventLog

/-- A new verifier for hosts without the initramfs lock, after a challenge. -/
def challenged (n : Nonce) : Verifier :=
  (generateChallenge (openVerifier { requireInitramfsLock := false }) (drawing n) "").1

theorem bootDevice_legacy (pcr0 : Hash) (eventLog : Bytes) :
    useBootCommitment (bootDevice pcr0 eventLog).report = false := by
  show hasFlag 0 flagBootCommitmentV1 = false
  decide

theorem bootDevice_haveBootPCRs (pcr0 : Hash) (eventLog : Bytes) :
    haveBootPCRs (bootDevice pcr0 eventLog).report = true := by
  show decide ((0x4083 : UInt32) &&& bootPCRMask = bootPCRMask) = true
  decide

theorem bootDevice_ready {pcr0 : Hash} {eventLog : Bytes} (hlog : (bootDevice pcr0 eventLog).LogOK) :
    Ready (challenged (Blob.zero 32)) [] 0 "" (bootDevice pcr0 eventLog) := by
  have hlock : useInitramfsLock (bootDevice pcr0 eventLog).report = false := by
    show hasFlag 0 flagInitramfsLockV1 = false
    decide
  have hflags : FlagsOK { requireInitramfsLock := false } (bootDevice pcr0 eventLog).report := by
    refine ⟨fun h => ?_, fun h => ?_, fun _ => bootDevice_haveBootPCRs pcr0 eventLog⟩
    · rw [hlock] at h
      cases h
    · cases h
  exact ready_of_idle (d := bootDevice pcr0 eventLog) (openVerifier_lenient _)
    (openVerifier_idle _) (by simp)
    (by decide) hflags hlog ""

theorem bootDevice_accepted {pcr0 : Hash} {eventLog : Bytes} (hlog : (bootDevice pcr0 eventLog).LogOK) :
    (verifyReport rsaCrypto (challenged (Blob.zero 32)) honestEnv ""
      (wireReport (bootDevice pcr0 eventLog).report)).2.accepted = true :=
  legacy_accepted (bootDevice_ready hlog) (bootDevice_legacy pcr0 eventLog) (.inl rfl)
    (Pins.conflict_none rfl _)

/-- A log without events goes with any PCR 0. -/
theorem header_only_log_accepted :
    ∃ (v : Verifier) (env : ReportEnv) (reportData : Bytes) (report : AttestationReport)
    (parsed : ParsedEventLog),
      parseReport reportData = .ok report ∧
      (verifyReport rsaCrypto v env "" reportData).2.accepted = true ∧
      parseEventLog report.eventLog = .ok parsed ∧ hasBit report.tpm.pcrMask 0 = true ∧
      report.tpm.pcrValues.get 0 ≠ (digestsFor parsed.entries 0).foldl extend (Blob.zero 32) := by
  have hlog : (bootDevice (List.Vector.replicate 32 1) headerOnlyLog).LogOK :=
    Device.logOK_headerOnly rfl
  refine ⟨challenged (Blob.zero 32), honestEnv, _, _, _,
    parseReport_wireReport _ (Device.report_wellFormed _ hlog),
    bootDevice_accepted hlog, parseEventLog_headerOnlyLog, by decide, ?_⟩
  show List.Vector.replicate 32 1 ≠ Blob.zero 32
  decide


/-- The log of the one event that made PCR 0. -/
theorem firmware_logOK :
    (bootDevice (extend (Blob.zero 32) (List.replicate 32 7)) firmwareLog).LogOK where
  short := by
    show firmwareLog.length < 2 ^ 32
    decide
  nonempty := by
    show firmwareLog.length > 0
    decide
  replays := by
    refine verifyEventLog_ok.mpr ⟨_, parseEventLog_firmwareLog, fun i hd _ _ => ?_⟩
    have hi : i = 0 := by
      by_contra hne
      have h0 : ¬ (0 : Nat) = i.val := fun h => hne (Fin.ext h.symm)
      apply hd
      simp [digestsFor, firmwareEvent, h0]
    subst hi
    rfl

/-- The report of a device with one event passes, and its PCR 0 is that
event. -/
theorem accepted_log_replays_firmware :
    let report := (bootDevice (extend (Blob.zero 32) (List.replicate 32 7)) firmwareLog).report
    (verifyReport rsaCrypto (challenged (Blob.zero 32)) honestEnv ""
      (wireReport report)).2.accepted = true ∧
      ∃ parsed, parseEventLog report.eventLog = .ok parsed ∧
      digestsFor parsed.entries 0 = [List.replicate 32 7] ∧
        report.tpm.pcrValues.get 0 = (digestsFor parsed.entries 0).foldl extend (Blob.zero 32) := by
  have hr := parseReport_wireReport _ (Device.report_wellFormed _ firmware_logOK)
  have ha := bootDevice_accepted firmware_logOK
  obtain ⟨parsed, hp, hall⟩ := accepted_log_replays hr ha
  refine ⟨ha, parsed, hp, ?_⟩
  have he : parsed = { entries := [firmwareEvent], algorithmList := [algSHA256] } := by
    have := hp.symm.trans parseEventLog_firmwareLog
    cases this
    rfl
  have hd : digestsFor parsed.entries 0 = [List.replicate 32 7] := by
    rw [he]
    rfl
  exact ⟨hd, hall 0 (by decide) (by decide) (by decide) (by decide) (by rw [hd]; simp)⟩

end Lota.L3.Verify

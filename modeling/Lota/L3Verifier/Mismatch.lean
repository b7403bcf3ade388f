import Lota.L3Verifier.Registers

/-!
# What a mismatch leaves behind

A report that is refused because PCR 14, the agent hash or the boot
registers differ from the stored baseline should leave that baseline alone.
On the boot-commitment path it does. The legacy path makes two store calls,
and the second one can refuse what the first one has counted.

Results:
* `pinBootCommitment_mismatch`: the boot-commitment path leaves the store.
* `pinLegacy_mismatch`: what the legacy path leaves.
* `mismatch_frame_iff`: exactly which calls change the stored baseline of a
  client they refuse for a mismatch.
-/
namespace Lota.L3.Verify
open Lota.Core Lota.L1.Report Lota.L1.Attest Lota.L1.EventLog
open Lota.L2 Lota.L2.Baseline Lota.L2.SqliteBaseline Lota.L2.Nonce
open Lota.L3.BootCommitment Lota.L3.Policy Lota.L3.Signature

/-- The errors for a value that differs from the stored baseline.
mirrors src/verifier/verify/verify.go:934, 964, 998 and 1036 -/
def baselineMismatches : List String :=
  ["FAIL_INTEGRITY_MISMATCH: PCR14 changed from baseline",
   "FAIL_INTEGRITY_MISMATCH: agent_hash changed from baseline",
   "FAIL_INTEGRITY_MISMATCH: firmware/SecureBoot PCRs changed from baseline"]

/-- The report is refused because of such a difference. -/
def Reply.mismatch : Reply → Bool
  | .returns _ (some err) => err ∈ baselineMismatches
  | _ => false

section Mismatch

variable {v : Verifier} {env : ReportEnv} {ev : Evidence}

theorem judgePCR14_mismatch {r : TOFUResult} {e : Refusal} (h : judgePCR14 r = .error e) :
    e.reply.mismatch = true ↔ r = .mismatch := by
  cases r with
  | mismatch =>
    cases h
    exact iff_of_true (by decide) rfl
  | error =>
    cases h
    exact iff_of_false (by decide) (by decide)
  | _ => cases h

theorem judgeBootPCRs_mismatch {r : TOFUResult} {e : Refusal} (h : judgeBootPCRs r = .error e) :
    e.reply.mismatch = true ↔ r = .mismatch := by
  cases r with
  | mismatch =>
    cases h
    exact iff_of_true (by decide) rfl
  | error =>
    cases h
    exact iff_of_false (by decide) (by decide)
  | _ => cases h

/-- The refusal of a backfill is no mismatch, so a mismatch is a result that
the store refused itself. -/
theorem judgeAttestation_mismatch {o : AttestationOutcome} {e : Refusal}
    (h : judgeAttestation v o = .error e)
    (hm : e.reply.mismatch = true) : o.refused = true := by
  have hboot : (if o.bootProvided then judgeBootPCRs o.bootResult else .ok ()) = .error e →
      o.bootResult.refused = true := by
    intro hb
    split at hb
    · rw [(judgeBootPCRs_mismatch hb).mp hm]
      rfl
    · cases hb
  unfold AttestationOutcome.refused
  unfold judgeAttestation at h
  cases ha : o.agentHashResult with
  | mismatch => rfl
  | error => rfl
  | firstUse =>
    rw [ha] at h
    exact hboot h
  | matched =>
    rw [ha] at h
    exact hboot h
  | legacyBackfill =>
    rw [ha] at h
    cases hr : v.cfg.rejectLegacyBaselines with
    | true =>
      have he :
          e = .fail .integrityMismatch
          "FAIL_INTEGRITY_MISMATCH: legacy baseline backfill refused by policy" := by
        simp only [hr, not_true_eq_false] at h
        cases h
        rfl
      rw [he] at hm
      exact absurd hm (by decide)
    | false =>
      simp only [hr, Bool.false_eq_true, not_false_eq_true] at h
      exact hboot h

/-- **Boot-commitment path.** A mismatch leaves the store. -/
theorem pinBootCommitment_mismatch {e : Refusal} (h : (pinBootCommitment v env ev).2 = .error e)
    (hm : e.reply.mismatch = true) : (pinBootCommitment v env ev).1 = v.baselineStore := by
  rcases pinBootCommitment_cases v env ev with ⟨-, hs, -⟩ | ⟨-, hpin⟩
  · exact hs
  · rw [hpin] at h ⊢
    exact BaselineStorer.checkAndUpdateAttestation_refused (judgeAttestation_mismatch h hm)

/-- A legacy report whose PCR 14 is that of its row, or that makes the row,
and whose boot registers are not the stored ones. The statements that count
the attestation and read the boot registers work. -/
structure SplitMismatch (v : Verifier) (env : ReportEnv) (ev : Evidence) : Prop where
  legacy : useBootCommitment ev.id.report = false
  row : (v.baselineStore.pins ev.id.clientID).pcr14 = none ∨
    (v.baselineStore.pins ev.id.clientID).pcr14 = some (pcr14Of ev.id.report)
  boot : (v.baselineStore.pins ev.id.clientID).conflict (bootPCRsOf ev.id.report) = true
  served : v.baselineStore.RowServed env.baselineFaults ev.id.clientID
  counted : v.baselineStore.Counts env.baselineFaults
  read : v.baselineStore.BootRead env.bootFaults

theorem checkAndUpdate_bootRead (s : BaselineStorer) (f : Faults) (c : String) (q : Hash)
    (now : Time) {g : Faults} : (s.checkAndUpdate f c q now).1.BootRead g ↔ s.BootRead g := by
  cases s <;> exact Iff.rfl

/-- The PCR 14 half leaves the boot registers. -/
theorem checkAndUpdate_conflict {s : BaselineStorer} {f : Faults} {c : String}
    (h : s.RowServed f c) (q : Hash)
    (now : Time) (b : Option BootPCRs) :
    ((s.checkAndUpdate f c q now).1.pins c).conflict b = (s.pins c).conflict b := by
  obtain ⟨h1, -⟩ := BaselineStorer.checkAndUpdate_served h q now
  have hboot : ((s.pins c).check q).1.boot = (s.pins c).boot := by
    unfold Pins.check
    split <;> rfl
  rw [h1, Function.update_self]
  unfold Pins.conflict
  rw [hboot]

/-- **Legacy path.** A mismatch changes the stored baseline exactly when it
is the boot half that refuses what the PCR 14 half has counted. -/
theorem pinLegacy_mismatch (hflag : useBootCommitment ev.id.report = false) :
    (∃ e, (pinLegacy v env ev).2 = .error e ∧ e.reply.mismatch = true ∧
      (pinLegacy v env ev).1.storedRow ev.id.clientID ≠ v.baselineStore.storedRow ev.id.clientID) ↔
    SplitMismatch v env ev := by
  -- the state after the PCR 14 half
  generalize hr : v.baselineStore.checkAndUpdate env.baselineFaults ev.id.clientID
    (pcr14Of ev.id.report)
    env.baselineNow = r
  constructor
  · rintro ⟨e, he, hm, hne⟩
    cases hj : judgePCR14 r.2.1 with
    | error e' =>
      rw [pinLegacy_refused hr hj] at he hne
      cases he
      have hmis := (judgePCR14_mismatch hj).mp hm
      rw [← hr] at hmis hne
      rw [BaselineStorer.checkAndUpdate_mismatch hmis] at hne
      exact absurd rfl hne
    | ok u =>
      have hpass := judgePCR14_ok.mp hj
      cases hb : bootOf ev.id.report with
      | none =>
        rw [pinLegacy_plain hr hj hb] at he
        cases he
      | some boot =>
        rw [pinLegacy_boot hr hj hb] at he hne
        obtain ⟨hiff, hsame⟩ :=
          r.1.checkAndUpdateBootPCRs_mismatch env.bootFaults ev.id.clientID boot env.bootNow
        have hmis := (judgeBootPCRs_mismatch he).mp hm
        rw [hsame hmis] at hne
        obtain ⟨hread, hconf⟩ := hiff.mp hmis
        rw [← hr] at hpass hne hread hconf
        have hserved := BaselineStorer.rowServed_of_checkAndUpdate hpass
        rw [checkAndUpdate_conflict hserved] at hconf
        refine ⟨hflag, ?_, ?_, hserved, (BaselineStorer.checkAndUpdate_storedRow hpass).mp hne,
          (checkAndUpdate_bootRead ..).mp hread⟩
        · rw [(BaselineStorer.checkAndUpdate_served hserved _ _).2] at hpass
          exact (check_legacy _ _ none).2 hpass
        · rw [bootPCRsOf, hb]
          exact hconf
  · intro h
    obtain ⟨boot, hb⟩ : ∃ boot, bootOf ev.id.report = some boot := by
      refine Option.ne_none_iff_exists'.mp fun hn => ?_
      have hc := h.boot
      rw [bootPCRsOf, hn] at hc
      cases hc
    have hconf := h.boot
    rw [bootPCRsOf, hb] at hconf
    obtain ⟨-, h2⟩ :=
      BaselineStorer.checkAndUpdate_served h.served (pcr14Of ev.id.report) env.baselineNow
    have hpass : r.2.1.refused = false := by
      rw [← hr, h2]
      exact (check_passes _ h.row).1
    obtain ⟨hiff, hsame⟩ :=
      r.1.checkAndUpdateBootPCRs_mismatch env.bootFaults ev.id.clientID boot env.bootNow
    have hmis : (r.1.checkAndUpdateBootPCRs env.bootFaults ev.id.clientID boot env.bootNow).2.1 =
        .mismatch := by
      refine hiff.mpr ⟨?_, ?_⟩
      · rw [← hr]
        exact (checkAndUpdate_bootRead ..).mpr h.read
      · rw [← hr, checkAndUpdate_conflict h.served]
        exact hconf
    have hchanged : r.1.storedRow ev.id.clientID ≠ v.baselineStore.storedRow ev.id.clientID := by
      rw [← hr] at hpass ⊢
      exact (BaselineStorer.checkAndUpdate_storedRow hpass).mpr h.counted
    rw [pinLegacy_boot hr (judgePCR14_ok.mpr hpass) hb, hsame hmis, hmis]
    exact ⟨_, rfl, by decide, hchanged⟩

end Mismatch

section Calls

variable {K : Crypto} {v : Verifier} {env : ReportEnv} {challengeID : String} {reportData : Bytes}

/-- The reply to a report that passed every check before the store. -/
theorem verifyReport_refusal {ns : NonceStore} {ev : Evidence} {e : Refusal}
    (ha : Authenticated K v env challengeID reportData ns ev)
    (hp : (pinBaseline v env ev).2 = .error e) :
    (verifyReport K v env challengeID reportData).2 = e.reply := by
  unfold verifyReport
  rw [authenticate_ok.mpr ha]
  have hp' : pinBaseline { v with nonceStore := ns } env ev = ((pinBaseline v env ev).1, .error e) := by
    rw [← hp]
    rfl
  simp only [hp']

/-- A token error is no mismatch. -/
theorem issueToken_mismatch (id : Identity) : (issueToken v env id).2.mismatch = false := by
  unfold issueToken deriveSessionToken
  cases v.sessionTokenKey with
  | none =>
    show decide ("failed to derive session token: " ++ "session token signing key unavailable" ∈
        baselineMismatches) =
      false
    decide
  | some key => rfl

/-- **Frame of a mismatch.** A call that refuses a report because PCR 14, the
agent hash or the boot registers differ from the stored baseline leaves the
whole stored baseline of the report's client, exactly unless it is a legacy
report that the store counts before it finds other boot registers. -/
theorem mismatch_frame_iff (K : Crypto) (v : Verifier) (env : ReportEnv) (challengeID : String)
    (reportData : Bytes) : ((verifyReport K v env challengeID reportData).2.mismatch = true →
      ∀ id, identify K env reportData = .ok id →
        (verifyReport K v env challengeID reportData).1.baselineStore.storedRow id.clientID =
          v.baselineStore.storedRow id.clientID) ↔
    ¬ ∃ ns ev, Authenticated K v env challengeID reportData ns ev ∧ SplitMismatch v env ev := by
  constructor
  · intro hframe ⟨ns, ev, ha, hs⟩
    obtain ⟨e, he, hm, hne⟩ := (pinLegacy_mismatch hs.legacy).mpr hs
    rw [← pinBaseline_legacy hs.legacy] at he hne
    rw [verifyReport_refusal ha he, verifyReport_baselineStore ha] at hframe
    exact hne (hframe hm ev.id (identify_of_identified ha.identified))
  · intro hn hm id hid
    rcases (verifyReport_baseline : _ ∨ (verifyReport K v env challengeID reportData).2.accepted =
      false ∧ _)
      with ⟨ns, ev, ha, hs⟩ | ⟨-, hs⟩
    · have hev := ha.id_eq hid
      subst hev
      rw [hs]
      cases hp : (pinBaseline v env ev).2 with
      | ok u =>
        -- a report the store took is answered with a token or a token error
        exfalso
        unfold verifyReport at hm
        rw [authenticate_ok.mpr ha] at hm
        have hp' : pinBaseline { v with nonceStore := ns } env ev =
          ((pinBaseline v env ev).1, .ok ()) := by
          rw [← hp]
          rfl
        simp only [hp', issueToken_mismatch] at hm
        cases hm
      | error e =>
        rw [verifyReport_refusal ha hp] at hm
        cases hflag : useBootCommitment ev.id.report with
        | true =>
          rw [pinBaseline, if_pos hflag] at hp ⊢
          rw [pinBootCommitment_mismatch hp hm]
        | false =>
          rw [pinBaseline_legacy hflag] at hp ⊢
          by_contra hne
          exact hn ⟨ns, ev, ha, (pinLegacy_mismatch hflag).mp ⟨e, hp, hm, hne⟩⟩
    · rw [hs]

end Calls

/-! ### A changed firmware -/

/-- The verifier waits for the report of a device whose row has the PCR 14
the device quotes and another PCR 0. -/
def updatedFirmware : Verifier :=
  { challenged (Blob.zero 32) with baselineStore :=
    (((BaselineStorer.memory {}).checkAndUpdate {} Device.name (Blob.zero 32)
      0).1.checkAndUpdateBootPCRs {} Device.name
      { pcr0 := List.Vector.replicate 32 1, pcr1 := Blob.zero 32, pcr7 := Blob.zero 32 } 0).1 }

theorem updatedFirmware_ready {eventLog : Bytes} (hlog : (bootDevice (Blob.zero 32) eventLog).LogOK) :
    Ready updatedFirmware [] 0 "" (bootDevice (Blob.zero 32) eventLog) := by
  obtain ⟨⟨hp, hk, hr, hb⟩, hw, hf, hrate, hflags, hl⟩ := bootDevice_ready hlog
  exact ⟨⟨hp, hk, hr, hb⟩, hw, hf, hrate, hflags, hl⟩

theorem bootDevice_splitMismatch (eventLog : Bytes) :
    SplitMismatch updatedFirmware honestEnv (bootDevice (Blob.zero 32) eventLog).evidence where
  legacy := bootDevice_legacy (Blob.zero 32) eventLog
  row := .inr rfl
  boot := by
    have hboot : bootOf (bootDevice (Blob.zero 32) eventLog).report =
        some { pcr0 := Blob.zero 32, pcr1 := Blob.zero 32, pcr7 := Blob.zero 32 } := by
      unfold bootOf
      rw [if_pos (bootDevice_haveBootPCRs (Blob.zero 32) eventLog)]
      rfl
    rw [show bootPCRsOf (bootDevice (Blob.zero 32) eventLog).evidence.id.report = _ from
      congrArg (Option.map BootBaseline.pcrs) hboot]
    show (updatedFirmware.baselineStore.pins Device.name).conflict _ = true
    decide
  served := trivial
  counted := trivial
  read := trivial

/-- A legacy report with other boot registers is refused, and counted as an
attestation of its client. -/
theorem mismatch_counted :
    ∃ (v : Verifier) (env : ReportEnv) (challengeID : String) (reportData : Bytes) (id : Identity),
      (verifyReport rsaCrypto v env challengeID reportData).2.mismatch = true ∧
      identify rsaCrypto env reportData = .ok id ∧
      (verifyReport rsaCrypto v env challengeID reportData).1.baselineStore.storedRow id.clientID ≠
        v.baselineStore.storedRow id.clientID := by
  have hlog : (bootDevice (Blob.zero 32) headerOnlyLog).LogOK := Device.logOK_headerOnly rfl
  obtain ⟨ns, ha, -⟩ := genuine_authenticated (updatedFirmware_ready hlog)
  have hs := bootDevice_splitMismatch headerOnlyLog
  obtain ⟨e, he, hm, hne⟩ := (pinLegacy_mismatch hs.legacy).mpr hs
  rw [← pinBaseline_legacy hs.legacy] at he hne
  refine ⟨updatedFirmware, honestEnv, "", _, _, ?_, identify_of_identified ha.identified, ?_⟩
  · rw [verifyReport_refusal ha he]
    exact hm
  · rw [verifyReport_baselineStore ha]
    exact hne

end Lota.L3.Verify

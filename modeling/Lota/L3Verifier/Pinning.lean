import Lota.L3Verifier.Verify

/-!
# What one report does to the pins

`VerifyReport` reaches the baseline store on one of two paths, chosen by the
report's own `FlagBootCommitmentV1`. Both are stated on the abstract pins of
`Lota.L2.Pins`, for both stores and whatever fails.

Results:
* `verifyReport_pins`: everything a call can do to the pins of all clients.
* `pinBootCommitment_accepts`, `pinLegacy_accepts`: when the baseline store
  takes a report.
-/
namespace Lota.L3.Verify
open Lota.Core Lota.L1.Report Lota.L1.Attest
open Lota.L2 Lota.L2.Baseline Lota.L2.SqliteBaseline
open Lota.L3.BootCommitment Lota.L3.Policy Lota.L3.Signature

/-- The PCR 14 value a report presents. -/
def pcr14Of (report : AttestationReport) : Hash := report.tpm.pcrValues.get 14

/-- The boot registers a report presents. -/
def bootPCRsOf (report : AttestationReport) : Option BootPCRs := (bootOf report).map BootBaseline.pcrs

section Pinning

variable {v : Verifier} {env : ReportEnv} {ev : Evidence}

/-! ## The boot-commitment path -/

/-- A boot-commitment report that gets as far as the store transaction: it
has a quote, PCR 14 is derived from its agent hash, and the enrollment gate
is open. -/
structure ReachesStore (v : Verifier) (env : ReportEnv) (ev : Evidence) : Prop where
  commitment : ∃ attest, ev.attest = some attest ∧ checkBootCommitment v ev.id.report attest = .ok ()
  enrollment : checkEnrollment v env ev.id.clientID (bootOf ev.id.report) = .ok ()

/-- The derivation of the quoted counters itself needs no scan. -/
theorem checkBootCommitment_exact {report : AttestationReport} {attest : TPMSAttest}
    (hl : useInitramfsLock report = false)
    (h : deriveBootCommitmentPCR14 report.system.agentHash attest.clockInfo.resetCount
      attest.clockInfo.restartCount = pcr14Of report) :
      checkBootCommitment v report attest = .ok () := by
  have hm : matchBootCommitmentPCR14 report.system.agentHash attest.clockInfo.resetCount
      attest.clockInfo.restartCount (report.tpm.pcrValues.get 14) v.cfg.maxRestartCountSkew =
        some (pcr14Of report, 0, true) := matchPCR14_exact _ _ _ _ _ _ h
  unfold checkBootCommitment
  simp only [hl, Bool.false_eq_true, if_false, hm]

/-- The store transaction of a boot-commitment report. -/
def attestCall (v : Verifier) (env : ReportEnv) (ev : Evidence) : BaselineStorer × AttestationOutcome :=
  v.baselineStore.checkAndUpdateAttestation env.baselineFaults ev.id.clientID (pcr14Of ev.id.report)
    ev.id.report.system.agentHash (bootOf ev.id.report) env.baselineNow

theorem pinBootCommitment_cases (v : Verifier) (env : ReportEnv) (ev : Evidence) :
    (¬ ReachesStore v env ev ∧ (pinBootCommitment v env ev).1 = v.baselineStore ∧
      (pinBootCommitment v env ev).2 ≠ .ok ()) ∨
    (ReachesStore v env ev ∧
      pinBootCommitment v env ev =
      ((attestCall v env ev).1, judgeAttestation v (attestCall v env ev).2)) := by
  unfold pinBootCommitment
  cases ha : ev.attest with
  | none =>
    refine .inl ⟨fun h => ?_, rfl, fun h => by cases h⟩
    obtain ⟨attest, hs, -⟩ := h.commitment
    rw [ha] at hs
    cases hs
  | some attest =>
    cases hc : checkBootCommitment v ev.id.report attest with
    | error r =>
      refine .inl ⟨fun h => ?_, by simp only [hc], by simp only [hc]; exact fun h => by cases h⟩
      obtain ⟨attest', hs, hok⟩ := h.commitment
      rw [ha] at hs
      cases hs
      rw [hc] at hok
      cases hok
    | ok u =>
      cases he : checkEnrollment v env ev.id.clientID (bootOf ev.id.report) with
      | error r =>
        refine .inl
          ⟨fun h => ?_, by simp only [hc, he], by simp only [hc, he]; exact fun h => by cases h⟩
        have hok := h.enrollment
        rw [he] at hok
        cases hok
      | ok u' =>
        simp only [hc, he]
        exact .inr ⟨⟨⟨attest, ha, hc⟩, he⟩, rfl⟩

/-- The two `switch` statements pass exactly the outcomes that are no
refusal, less a backfill that the configuration rejects. -/
theorem judgeAttestation_ok {o : AttestationOutcome} {boot : Option BootBaseline}
    (h : o.BootHalf boot) : judgeAttestation v o = .ok () ↔
      o.refused = false ∧
      (v.cfg.rejectLegacyBaselines = true → o.agentHashResult ≠ .legacyBackfill) := by
  have hboot : (if o.bootProvided then judgeBootPCRs o.bootResult else .ok ()) = .ok () ↔
      o.bootResult.refused = false := by
    cases boot with
    | none =>
      rw [h.1, h.2 rfl]
      exact ⟨fun _ => rfl, fun _ => rfl⟩
    | some b =>
      rw [h.1]
      cases o.bootResult <;> simp [judgeBootPCRs, TOFUResult.refused]
  have hpass : judgeAttestation v o = .ok () ↔ o.agentHashResult.refused = false ∧
      (v.cfg.rejectLegacyBaselines = true → o.agentHashResult ≠ .legacyBackfill) ∧
      (if o.bootProvided then judgeBootPCRs o.bootResult else .ok ()) = .ok () := by
    unfold judgeAttestation
    cases o.agentHashResult with
    | firstUse => simp [TOFUResult.refused]
    | matched => simp [TOFUResult.refused]
    | mismatch => simp [TOFUResult.refused, bind, Except.bind]
    | error => simp [TOFUResult.refused, bind, Except.bind]
    | legacyBackfill =>
      constructor
      · intro hj
        obtain ⟨_, h1, h2⟩ := except_bind_ok.mp hj
        have hn := ensure_ok.mp h1
        exact ⟨rfl, fun hc => absurd hc hn, h2⟩
      · intro hj
        have hn : ¬ v.cfg.rejectLegacyBaselines = true := fun hc => hj.2.1 hc rfl
        exact except_bind_ok.mpr ⟨(), ensure_ok.mpr hn, hj.2.2⟩
  rw [hpass, hboot, AttestationOutcome.refused]
  cases o.agentHashResult.refused <;> simp [and_comm]

/-- The verdict of the abstract pins on a boot-commitment report. -/
def attestPins (v : Verifier) (ev : Evidence) : Pins Hash BootPCRs × Verdict Hash BootPCRs :=
  (v.baselineStore.pins ev.id.clientID).attest (pcr14Of ev.id.report) ev.id.report.system.agentHash
    (bootPCRsOf ev.id.report)

/-- What the store transaction does: refuse and leave the pins, or commit
without a fault and report what the abstract pins report. -/
theorem attestCall_pins (v : Verifier) (env : ReportEnv) (ev : Evidence) :
    ((attestCall v env ev).1.pins = v.baselineStore.pins ∧ (attestCall v env ev).2.refused = true) ∨
    ((attestPins v ev).2.refused = false ∧
      (∀ db, v.baselineStore = .sqlite db → env.baselineFaults = {}) ∧
      (attestCall v env ev).1.pins = Function.update v.baselineStore.pins ev.id.clientID
        (v.baselineStore.shown (attestPins v ev).1) ∧
      (attestCall v env ev).2.refused = false ∧
      (attestCall v env ev).2.agentHashResult = (attestPins v ev).2.agentHashResult) := by
  rcases v.baselineStore.checkAndUpdateAttestation_shown env.baselineFaults ev.id.clientID
    (pcr14Of ev.id.report)
    ev.id.report.system.agentHash (bootOf ev.id.report) env.baselineNow with ⟨h1, h2, -⟩ | ⟨h1, h2⟩
  · refine .inl ⟨congrArg BaselineStorer.pins h1, ?_⟩
    rw [AttestationOutcome.refused, attestCall, h2]
    rfl
  have hpins : (attestCall v env ev).1.pins = Function.update v.baselineStore.pins ev.id.clientID
      (v.baselineStore.shown (attestPins v ev).1) := h1
  have hseen : (attestCall v env ev).2.refused = (attestPins v ev).2.refused := refused_of_seen h2
  cases hr : (attestPins v ev).2.refused with
  | true =>
    refine .inl ⟨?_, hseen.trans hr⟩
    have hsame : (attestPins v ev).1 = v.baselineStore.pins ev.id.clientID := Pins.attest_refused hr
    rw [hpins, hsame, BaselineStorer.shown_pins, Function.update_eq_self]
  | false =>
    refine .inr ⟨rfl, ?_, hpins, hseen.trans hr, ?_⟩
    · intro db hdb
      have hcall := hseen.trans hr
      rw [attestCall, hdb] at hcall
      exact SQLiteBaselineStore.checkAndUpdateAttestation_faultless hcall
    · simp only [AttestationOutcome.seen, Verdict.seen, Prod.mk.injEq] at h2
      exact h2.1

/-- A boot-commitment report that the store commits. -/
structure Commits (v : Verifier) (env : ReportEnv) (ev : Evidence) : Prop where
  reaches : ReachesStore v env ev
  agrees : (attestPins v ev).2.refused = false
  faultless : ∀ db, v.baselineStore = .sqlite db → env.baselineFaults = {}

/-- **Boot-commitment path.** Nothing changes and the report is refused, or
the store commits both halves. A committed report is still refused when it
backfilled a row and the configuration rejects that. -/
theorem pinBootCommitment_pins (v : Verifier) (env : ReportEnv) (ev : Evidence) :
    ((pinBootCommitment v env ev).1.pins = v.baselineStore.pins ∧
      (pinBootCommitment v env ev).2 ≠ .ok ()) ∨
    (Commits v env ev ∧
      (pinBootCommitment v env ev).1.pins = Function.update v.baselineStore.pins ev.id.clientID
        (v.baselineStore.shown (attestPins v ev).1) ∧
      ((pinBootCommitment v env ev).2 = .ok () → v.cfg.rejectLegacyBaselines = true →
        (attestPins v ev).2.agentHashResult ≠ .legacyBackfill)) := by
  rcases pinBootCommitment_cases v env ev with ⟨-, h1, h2⟩ | ⟨hreach, hpin⟩
  · exact .inl ⟨by rw [h1], h2⟩
  have hhalf : (attestCall v env ev).2.BootHalf (bootOf ev.id.report) :=
    v.baselineStore.checkAndUpdateAttestation_bootHalf ..
  rw [hpin]
  rcases attestCall_pins v env ev with ⟨h1, h2⟩ | ⟨h1, h2, h3, h4, h5⟩
  · refine .inl ⟨h1, fun h => ?_⟩
    obtain ⟨h, -⟩ := (judgeAttestation_ok hhalf).mp h
    rw [h2] at h
    cases h
  · refine .inr ⟨⟨hreach, h1, h2⟩, h3, fun h => ?_⟩
    rw [← h5]
    exact ((judgeAttestation_ok hhalf).mp h).2

/-- Without faults the store transaction is the one on the pins. -/
theorem attestCall_served (hf : env.baselineFaults = {}) :
    (attestCall v env ev).1.pins = Function.update v.baselineStore.pins ev.id.clientID
        (v.baselineStore.shown (attestPins v ev).1) ∧
      (attestCall v env ev).2.seen = (attestPins v ev).2.seen := by
  rcases v.baselineStore.checkAndUpdateAttestation_shown env.baselineFaults ev.id.clientID
    (pcr14Of ev.id.report)
    ev.id.report.system.agentHash (bootOf ev.id.report) env.baselineNow with ⟨-, -, h⟩ | h
  · exact absurd hf h
  · exact h

/-- A boot-commitment report that reaches the store without a fault leaves
the pins the transaction makes. -/
theorem pinBootCommitment_served (hreach : ReachesStore v env ev) (hf : env.baselineFaults = {}) :
    (pinBootCommitment v env ev).1.pins = Function.update v.baselineStore.pins ev.id.clientID
      (v.baselineStore.shown (attestPins v ev).1) := by
  rcases pinBootCommitment_cases v env ev with ⟨hn, -⟩ | ⟨-, hpin⟩
  · exact absurd hreach hn
  · rw [hpin]
    exact (attestCall_served hf).1

/-- It is taken when it agrees with the pins and is no backfill. -/
theorem pinBootCommitment_accepts (hreach : ReachesStore v env ev) (hf : env.baselineFaults = {})
    (ha : (attestPins v ev).2.refused = false)
    (hb : (attestPins v ev).2.agentHashResult ≠ .legacyBackfill) :
    (pinBootCommitment v env ev).2 = .ok () := by
  have hhalf : (attestCall v env ev).2.BootHalf (bootOf ev.id.report) :=
    v.baselineStore.checkAndUpdateAttestation_bootHalf ..
  rcases pinBootCommitment_cases v env ev with ⟨hn, -⟩ | ⟨-, hpin⟩
  · exact absurd hreach hn
  rw [hpin]
  have h : (attestCall v env ev).2.seen = (attestPins v ev).2.seen := (attestCall_served hf).2
  have hres : (attestCall v env ev).2.agentHashResult = (attestPins v ev).2.agentHashResult := by
    simp only [AttestationOutcome.seen, Verdict.seen, Prod.mk.injEq] at h
    exact h.1
  exact (judgeAttestation_ok hhalf).mpr ⟨(refused_of_seen h).trans ha, fun _ => by rwa [hres]⟩

/-! ## The legacy path -/

/-- What the two writes of the legacy path leave of a client's pins `p`: the
agent hash as it was, a row, and the boot registers as they were or, if
there were none, the presented ones. -/
structure LegacyPins (p p' : Pins Hash BootPCRs) (pcr14 : Hash) (boot : Option BootPCRs) : Prop where
  agentHash : p'.agentHash = p.agentHash
  row : p.pcr14 ≠ none → p'.pcr14 = p.pcr14
  boot : p'.boot = p.boot ∨ p.boot = none ∧ p'.boot = boot ∧ (p.pcr14 = none ∨ p.pcr14 = some pcr14)

theorem judgePCR14_ok {r : TOFUResult} : judgePCR14 r = .ok () ↔ r.refused = false := by
  cases r <;> simp [judgePCR14, TOFUResult.refused]

theorem judgeBootPCRs_ok {r : TOFUResult} : judgeBootPCRs r = .ok () ↔ r.refused = false := by
  cases r <;> simp [judgeBootPCRs, TOFUResult.refused]

/-- The statements of the legacy path that pin boot registers do not fail. -/
def LegacyServed (v : Verifier) (env : ReportEnv) (clientID : String) : Prop :=
  v.baselineStore.RowServed env.baselineFaults clientID ∧ v.baselineStore.BootServed env.bootFaults

theorem check_legacy (p : Pins Hash BootPCRs) (q : Hash) (boot : Option BootPCRs) :
    LegacyPins p (p.check q).1 q boot ∧
      ((p.check q).2.1.refused = false → p.pcr14 = none ∨ p.pcr14 = some q) := by
  unfold Pins.check
  cases hp : p.pcr14 with
  | none => exact ⟨⟨rfl, fun h => absurd hp h, .inl rfl⟩, fun _ => .inl rfl⟩
  | some q' =>
    refine ⟨⟨rfl, fun _ => rfl, .inl rfl⟩, fun h => .inr ?_⟩
    by_cases he : q' = q
    · rw [he]
    · simp [he, TOFUResult.refused] at h

theorem check_passes (p : Pins Hash BootPCRs) {q : Hash} (h : p.pcr14 = none ∨ p.pcr14 = some q) :
    (p.check q).2.1.refused = false ∧ (p.check q).1.pcr14 ≠ none ∧ (p.check q).1.boot = p.boot := by
  unfold Pins.check
  rcases h with h | h
  · rw [h]
    exact ⟨rfl, Option.some_ne_none q, rfl⟩
  · simp [h, TOFUResult.refused]

theorem checkBoot_passes {p : Pins Hash BootPCRs} {b : BootPCRs} (h : p.conflict (some b) = false) :
    (p.checkBoot b).2.1.refused = false := by
  unfold Pins.checkBoot
  cases hs : p.boot with
  | none => rfl
  | some s => simp [Pins.conflict_false h rfl hs, TOFUResult.refused]

theorem checkBoot_pinned {p : Pins Hash BootPCRs} {b : BootPCRs} (h : p.boot ≠ none) :
    (p.checkBoot b).1 = p := by
  unfold Pins.checkBoot
  split
  · rename_i hn
    exact absurd hn h
  · rfl

theorem checkBoot_legacy {p p' : Pins Hash BootPCRs} {q : Hash} {b : BootPCRs}
    (h : LegacyPins p p' q (some b))
    (hb : p'.boot = p.boot) (hrow : p.pcr14 = none ∨ p.pcr14 = some q) :
    LegacyPins p (p'.checkBoot b).1 q (some b) := by
  by_cases hn : p'.boot = none
  · unfold Pins.checkBoot
    rw [hn]
    exact ⟨h.agentHash, h.row, .inr ⟨hb ▸ hn, rfl, hrow⟩⟩
  · rw [checkBoot_pinned hn]
    exact h

/-! The legacy path, by what the PCR 14 half `r` says and whether there are
boot registers. -/

section
variable {r : BaselineStorer × TOFUResult × Option ClientBaseline}

theorem pinLegacy_refused
    (hr : v.baselineStore.checkAndUpdate env.baselineFaults ev.id.clientID (pcr14Of ev.id.report)
      env.baselineNow = r)
    {e : Refusal} (hj : judgePCR14 r.2.1 = .error e) : pinLegacy v env ev = (r.1, .error e) := by
  subst hr
  unfold pinLegacy
  simp only
  rw [show ev.id.report.tpm.pcrValues.get 14 = pcr14Of ev.id.report from rfl, hj]

theorem pinLegacy_plain
    (hr : v.baselineStore.checkAndUpdate env.baselineFaults ev.id.clientID (pcr14Of ev.id.report)
      env.baselineNow = r)
    (hj : judgePCR14 r.2.1 = .ok ()) (hb : bootOf ev.id.report = none) :
    pinLegacy v env ev = (r.1, .ok ()) := by
  subst hr
  unfold pinLegacy
  simp only [hb]
  rw [show ev.id.report.tpm.pcrValues.get 14 = pcr14Of ev.id.report from rfl, hj]

theorem pinLegacy_boot
    (hr : v.baselineStore.checkAndUpdate env.baselineFaults ev.id.clientID (pcr14Of ev.id.report)
      env.baselineNow = r)
    (hj : judgePCR14 r.2.1 = .ok ()) {boot : BootBaseline} (hb : bootOf ev.id.report = some boot) :
    pinLegacy v env ev =
      ((r.1.checkAndUpdateBootPCRs env.bootFaults ev.id.clientID boot env.bootNow).1,
        judgeBootPCRs
        (r.1.checkAndUpdateBootPCRs env.bootFaults ev.id.clientID boot env.bootNow).2.1) := by
  subst hr
  unfold pinLegacy
  simp only [hb]
  rw [show ev.id.report.tpm.pcrValues.get 14 = pcr14Of ev.id.report from rfl, hj]

end

/-- **Legacy path.** Both stores treat the client's pins alike; a first boot
baseline needs every statement to work. -/
theorem pinLegacy_pins (v : Verifier) (env : ReportEnv) (ev : Evidence) :
    ∃ p', (pinLegacy v env ev).1.pins = Function.update v.baselineStore.pins ev.id.clientID p' ∧
      LegacyPins (v.baselineStore.pins ev.id.clientID) p' (pcr14Of ev.id.report)
      (bootPCRsOf ev.id.report) ∧
      (p'.boot ≠ (v.baselineStore.pins ev.id.clientID).boot → LegacyServed v env ev.id.clientID) := by
  obtain ⟨hlegacy, hrow⟩ := check_legacy (v.baselineStore.pins ev.id.clientID) (pcr14Of ev.id.report)
    (bootPCRsOf ev.id.report)
  have hsame : LegacyPins (v.baselineStore.pins ev.id.clientID) (v.baselineStore.pins ev.id.clientID)
      (pcr14Of ev.id.report) (bootPCRsOf ev.id.report) := ⟨rfl, fun _ => rfl, .inl rfl⟩
  have hboot : ((v.baselineStore.pins ev.id.clientID).check (pcr14Of ev.id.report)).1.boot =
      (v.baselineStore.pins ev.id.clientID).boot := by
    unfold Pins.check
    split <;> rfl
  -- the state after the PCR 14 half
  have hfirst :=
    v.baselineStore.checkAndUpdate_pins env.baselineFaults ev.id.clientID (pcr14Of ev.id.report)
    env.baselineNow
  unfold pinLegacy
  simp only
  split
  · rcases hfirst with ⟨h1, -⟩ | ⟨h1, -⟩
    · refine ⟨_, ?_, hsame, fun h => absurd rfl h⟩
      rw [Function.update_eq_self]
      exact congrArg BaselineStorer.pins h1
    · exact ⟨_, h1, hlegacy, fun h => absurd hboot h⟩
  · rename_i hjudge
    have hnot := judgePCR14_ok.mp hjudge
    have hserved := BaselineStorer.rowServed_of_checkAndUpdate hnot
    rcases hfirst with ⟨-, h2, -⟩ | ⟨h1, h2, -⟩
    · rw [show v.baselineStore.checkAndUpdate env.baselineFaults ev.id.clientID
        (ev.id.report.tpm.pcrValues.get 14)
        env.baselineNow = v.baselineStore.checkAndUpdate env.baselineFaults ev.id.clientID
        (pcr14Of ev.id.report)
        env.baselineNow from rfl, h2] at hnot
      cases hnot
    have hrow := hrow (h2 ▸ hnot)
    cases hb : bootOf ev.id.report with
    | none => exact ⟨_, h1, hlegacy, fun h => absurd hboot h⟩
    | some boot =>
      simp only
      -- the boot half runs on the store the first half left
      have hsecond := BaselineStorer.checkAndUpdateBootPCRs_pins
        (v.baselineStore.checkAndUpdate env.baselineFaults ev.id.clientID (pcr14Of ev.id.report)
          env.baselineNow).1
        env.bootFaults ev.id.clientID boot env.bootNow
      rcases hsecond with ⟨h3, -⟩ | ⟨h3, -⟩
      · exact ⟨_, (congrArg BaselineStorer.pins h3).trans h1, hlegacy, fun h => absurd hboot h⟩
      · have h3' := h3
        rw [h1, Function.update_idem, Function.update_self] at h3'
        refine ⟨_, h3', ?_, fun hne => ⟨hserved, ?_⟩⟩
        · rw [show bootPCRsOf ev.id.report = some boot.pcrs by rw [bootPCRsOf, hb]; rfl] at hlegacy ⊢
          exact checkBoot_legacy hlegacy hboot hrow
        · have hnone : (v.baselineStore.pins ev.id.clientID).boot = none := by
            by_contra hs
            rw [checkBoot_pinned (hboot ▸ hs)] at hne
            exact hne hboot
          rw [← BaselineStorer.checkAndUpdate_bootServed v.baselineStore env.baselineFaults
            ev.id.clientID (pcr14Of ev.id.report) env.baselineNow]
          have hbefore :
              ((v.baselineStore.checkAndUpdate env.baselineFaults ev.id.clientID (pcr14Of ev.id.report)
              env.baselineNow).1.pins ev.id.clientID).boot = none := by
            rw [h1, Function.update_self, hboot, hnone]
          refine BaselineStorer.bootServed_of_checkAndUpdateBootPCRs boot env.bootNow hbefore ?_
          rw [h3', Function.update_self, ← hnone]
          exact hne

/-- A legacy report that is taken has the PCR 14 of its row. -/
theorem pinLegacy_row (h : (pinLegacy v env ev).2 = .ok ()) :
    (v.baselineStore.pins ev.id.clientID).pcr14 = none ∨
      (v.baselineStore.pins ev.id.clientID).pcr14 = some (pcr14Of ev.id.report) := by
  unfold pinLegacy at h
  simp only at h
  split at h
  · cases h
  · rename_i hjudge
    have hnot := judgePCR14_ok.mp hjudge
    rcases v.baselineStore.checkAndUpdate_pins env.baselineFaults ev.id.clientID (pcr14Of ev.id.report)
      env.baselineNow with ⟨-, h2, -⟩ | ⟨-, h2, -⟩
    · exact absurd (h2 ▸ hnot : TOFUResult.refused .error = false) (by decide)
    · exact (check_legacy _ _ none).2 (h2 ▸ hnot)

/-- A legacy report with boot registers is taken when every statement works,
its PCR 14 is that of its row and no other boot registers are pinned; then
its own are. -/
theorem pinLegacy_served {boot : BootBaseline} (hs : LegacyServed v env ev.id.clientID)
    (hb : bootOf ev.id.report = some boot)
    (hrow : (v.baselineStore.pins ev.id.clientID).pcr14 = none ∨
      (v.baselineStore.pins ev.id.clientID).pcr14 = some (pcr14Of ev.id.report))
    (hboot : (v.baselineStore.pins ev.id.clientID).conflict (some boot.pcrs) = false) :
    (pinLegacy v env ev).2 = .ok () ∧ ((pinLegacy v env ev).1.pins ev.id.clientID).boot =
    some boot.pcrs := by
  obtain ⟨h1, h2⟩ := BaselineStorer.checkAndUpdate_served hs.1 (pcr14Of ev.id.report) env.baselineNow
  obtain ⟨hpass, hrow', hkeep⟩ := check_passes (v.baselineStore.pins ev.id.clientID) hrow
  have hserved :=
    (BaselineStorer.checkAndUpdate_bootServed v.baselineStore env.baselineFaults ev.id.clientID
    (pcr14Of ev.id.report) env.baselineNow).mpr hs.2
  have hpins := congrFun h1 ev.id.clientID
  rw [Function.update_self] at hpins
  obtain ⟨h3, h4⟩ :=
    BaselineStorer.checkAndUpdateBootPCRs_served hserved (hpins ▸ hrow') boot env.bootNow
  rw [hpins] at h3 h4
  have hfine :
      (((v.baselineStore.pins ev.id.clientID).check (pcr14Of ev.id.report)).1.checkBoot
        boot.pcrs).2.1.refused =
      false := checkBoot_passes (by unfold Pins.conflict at hboot ⊢; rwa [hkeep])
  have hpin : pinLegacy v env ev =
      (((v.baselineStore.checkAndUpdate env.baselineFaults ev.id.clientID (pcr14Of ev.id.report)
          env.baselineNow).1.checkAndUpdateBootPCRs env.bootFaults ev.id.clientID boot
          env.bootNow).1, .ok ()) := by
    rw [pinLegacy_boot rfl (by rw [h2]; exact judgePCR14_ok.mpr hpass) hb, h4,
      judgeBootPCRs_ok.mpr hfine]
  rw [hpin]
  refine ⟨rfl, ?_⟩
  rw [h3, Function.update_self]
  exact Pins.checkBoot_accepted hfine

/-- A legacy report without boot registers is taken when every statement
works and its PCR 14 is that of its row. -/
theorem pinLegacy_noBoot (hs : v.baselineStore.RowServed env.baselineFaults ev.id.clientID)
    (hb : bootOf ev.id.report = none)
    (hrow : (v.baselineStore.pins ev.id.clientID).pcr14 = none ∨
      (v.baselineStore.pins ev.id.clientID).pcr14 = some (pcr14Of ev.id.report)) :
    (pinLegacy v env ev).2 = .ok () := by
  obtain ⟨-, h2⟩ := BaselineStorer.checkAndUpdate_served hs (pcr14Of ev.id.report) env.baselineNow
  obtain ⟨hpass, -⟩ := check_passes (v.baselineStore.pins ev.id.clientID) hrow
  rw [pinLegacy_plain rfl (by rw [h2]; exact judgePCR14_ok.mpr hpass) hb]

/-- A legacy report is taken when every statement works, its PCR 14 is that
of its row and no other boot registers are pinned. -/
theorem pinLegacy_accepts (hs : LegacyServed v env ev.id.clientID)
    (hrow : (v.baselineStore.pins ev.id.clientID).pcr14 = none ∨
      (v.baselineStore.pins ev.id.clientID).pcr14 = some (pcr14Of ev.id.report))
    (hboot : (v.baselineStore.pins ev.id.clientID).conflict (bootPCRsOf ev.id.report) = false) :
    (pinLegacy v env ev).2 = .ok () := by
  cases hb : bootOf ev.id.report with
  | none => exact pinLegacy_noBoot hs.1 hb hrow
  | some boot =>
    rw [bootPCRsOf, hb] at hboot
    exact (pinLegacy_served hs hb hrow hboot).1

/-! ## Whole calls -/

/-- **Pins.** Everything a call can do to the pins: leave them and refuse,
commit a boot-commitment report, or take the two steps of the legacy path. -/
theorem verifyReport_pins (K : Crypto) (v : Verifier) (env : ReportEnv) (challengeID : String)
    (reportData : Bytes) : let r := verifyReport K v env challengeID reportData
    (r.1.baselineStore.pins = v.baselineStore.pins ∧ r.2.accepted = false) ∨
    ∃ ns ev, Authenticated K v env challengeID reportData ns ev ∧
      ((useBootCommitment ev.id.report = true ∧ Commits v env ev ∧
        r.1.baselineStore.pins = Function.update v.baselineStore.pins ev.id.clientID
          (v.baselineStore.shown (attestPins v ev).1) ∧
        (r.2.accepted = true → v.cfg.rejectLegacyBaselines = true →
          (attestPins v ev).2.agentHashResult ≠ .legacyBackfill)) ∨
      (useBootCommitment ev.id.report = false ∧
        ∃ p', r.1.baselineStore.pins = Function.update v.baselineStore.pins ev.id.clientID p' ∧
          LegacyPins (v.baselineStore.pins ev.id.clientID) p' (pcr14Of ev.id.report)
          (bootPCRsOf ev.id.report) ∧
          (p'.boot ≠ (v.baselineStore.pins ev.id.clientID).boot → LegacyServed v env ev.id.clientID) ∧
          (r.2.accepted = true → (v.baselineStore.pins ev.id.clientID).pcr14 = none ∨
            (v.baselineStore.pins ev.id.clientID).pcr14 = some (pcr14Of ev.id.report)))) := by
  simp only
  rcases (verifyReport_baseline : _ ∨ (verifyReport K v env challengeID reportData).2.accepted =
    false ∧ _)
    with ⟨ns, ev, ha, hs⟩ | ⟨hr, hs⟩
  · have hok : (verifyReport K v env challengeID reportData).2.accepted = true →
        (pinBaseline v env ev).2 = .ok () := by
      intro h
      obtain ⟨ns', ev', ha', hp⟩ := verifyReport_accepted h
      rwa [(ha.unique ha').2]
    cases hb : useBootCommitment ev.id.report with
    | true =>
      rw [pinBaseline, if_pos hb] at hs hok
      rcases pinBootCommitment_pins v env ev with ⟨h1, h2⟩ | ⟨h1, h2, h3⟩
      · exact .inl ⟨by rw [hs, h1], Bool.eq_false_iff.mpr fun h => h2 (hok h)⟩
      · exact .inr ⟨ns, ev, ha, .inl ⟨hb, h1, by rw [hs, h2], fun h => h3 (hok h)⟩⟩
    | false =>
      rw [pinBaseline, if_neg (by rw [hb]; exact Bool.false_ne_true)] at hs hok
      obtain ⟨p', h1, h2, h3⟩ := pinLegacy_pins v env ev
      exact .inr ⟨ns, ev, ha, .inr ⟨hb, p', by rw [hs, h1], h2, h3, fun h => pinLegacy_row (hok h)⟩⟩
  · exact .inl ⟨by rw [hs], hr⟩

end Pinning

end Lota.L3.Verify

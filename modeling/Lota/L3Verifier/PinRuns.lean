import Lota.L3Verifier.Runs

/-!
# Pins over runs of a verifier

What the pins of one client can do while reports, challenges and policies
come in any order, for both baseline stores and whatever fails.

Results:
* `accepted_carries_pin`: a pinned agent hash binds every later
  boot-commitment report of its client. `legacy_report_ignores_pin`: reports
  without the flag it does not bind.
* `unpinned_never_accepted`: `RejectLegacyBaselines` keeps a client with an
  unpinned row out as long as no refused report pins it.
  `retry_after_refusal_accepted`: one that does lets the next one in.
* `boot_baseline_gated_iff`: which calls create a boot baseline that
  `RequireBootEnrollment` should have stopped.
-/
namespace Lota.L3.Runs
open Lota.Core Lota.L1.Report Lota.L1.Attest Lota.L1.EventLog
open Lota.L2 Lota.L2.Baseline Lota.L2.SqliteBaseline Lota.L2.Nonce
open Lota.L3.BootCommitment Lota.L3.Policy Lota.L3.Signature Lota.L3.Verify

/-- Only reports and `ClearBaseline` touch the pins of a client. -/
theorem call_pins (K : Crypto) (v : Verifier) {op : Op} {c : String} (hc : op.clears c = false) :
    (call K v op).1.baselineStore.pins c = v.baselineStore.pins c ∨
      ∃ env challengeID reportData, op = .verifyReport env challengeID reportData := by
  cases op with
  | verifyReport env challengeID reportData => exact .inr ⟨env, challengeID, reportData, rfl⟩
  | clearBaseline f clientID =>
    have hne : c ≠ clientID := by
      intro h
      simp [Op.clears, h] at hc
    left
    show (v.baselineStore.clearBaseline f clientID).pins c = v.baselineStore.pins c
    rcases v.baselineStore.clearBaseline_pins f clientID with ⟨h, -⟩ | h
    · rw [h]
    · rw [h, Function.update_of_ne hne]
  | _ => exact .inl rfl

/-! ## A pinned agent hash -/

/-- The client has a row with PCR 14 `q` and agent hash `h`. -/
def Pinned (c : String) (q h : Hash) (v : Verifier) : Prop :=
  (v.baselineStore.pins c).pcr14 = some q ∧ (v.baselineStore.pins c).agentHash = some h

/-- A boot-commitment report that the store commits carries the pinned hash
and leaves it pinned. -/
theorem Pinned.commits {c : String} {q h : Hash} {v : Verifier} {env : ReportEnv} {ev : Evidence}
    (hp : Pinned c q h v) (hc : ev.id.clientID = c) (hcommit : Commits v env ev) :
    ev.id.report.system.agentHash = h ∧
      (v.baselineStore.shown (attestPins v ev).1).pcr14 = some q ∧
      (v.baselineStore.shown (attestPins v ev).1).agentHash = some h := by
  subst hc
  have hagree : h = ev.id.report.system.agentHash :=
    Pins.attest_agrees (v.baselineStore.pins_wf _) hcommit.agrees hp.2
  have hhash : (attestPins v ev).1.agentHash = some h := by
    rw [hagree]
    exact (Pins.attest_accepted hcommit.agrees).1
  refine ⟨hagree.symm, ?_, BaselineStorer.shown_agentHash hp.2 hhash⟩
  rw [BaselineStorer.shown_pcr14, attestPins, Pins.attest_pcr14, hp.1, Option.getD_some]

/-- **Step.** No call but `ClearBaseline` unpins a hash. -/
theorem call_pinned (K : Crypto) {c : String} {q h : Hash} {v : Verifier} {op : Op}
    (hp : Pinned c q h v)
    (hc : op.clears c = false) : Pinned c q h (call K v op).1 := by
  rcases call_pins K v hc with hsame | ⟨env, challengeID, reportData, hop⟩
  · exact ⟨hsame ▸ hp.1, hsame ▸ hp.2⟩
  subst hop
  show Pinned c q h (verifyReport K v env challengeID reportData).1
  unfold Pinned
  rcases verifyReport_pins K v env challengeID reportData with ⟨hsame, -⟩ | ⟨ns, ev, ha, hcase⟩
  · rw [hsame]
    exact hp
  rcases hcase with ⟨-, hcommit, hpins, -⟩ | ⟨-, p', hpins, hlegacy, -⟩
  · rw [hpins]
    by_cases hid : c = ev.id.clientID
    · subst hid
      rw [Function.update_self]
      exact (hp.commits rfl hcommit).2
    · rw [Function.update_of_ne hid]
      exact hp
  · rw [hpins]
    by_cases hid : c = ev.id.clientID
    · subst hid
      rw [Function.update_self]
      refine ⟨?_, hlegacy.agentHash.trans hp.2⟩
      rw [hlegacy.row (by rw [hp.1]; simp), hp.1]
    · rw [Function.update_of_ne hid]
      exact hp

theorem run_pinned (K : Crypto) {c : String} {q h : Hash} {v : Verifier} {ops : List Op}
    (hp : Pinned c q h v)
    (hc : ∀ op ∈ ops, op.clears c = false) : Pinned c q h ((attestations K).run v ops) := by
  induction ops generalizing v with
  | nil => exact hp
  | cons op ops ih =>
    refine ih (call_pinned K hp (hc op (List.mem_cons_self ..))) fun o ho =>
      hc o (List.mem_cons_of_mem _ ho)

/-- **Pinned agent hash.** Once an agent hash is pinned for a client, in
either store and in every run without `ClearBaseline` for that client, every
accepted report of the client that sets `FlagBootCommitmentV1` carries it;
with `RequireInitramfsLock` that is every accepted report. A report without
the flag is held to the PCR 14 of the row instead. -/
theorem accepted_carries_pin (K : Crypto) (v : Verifier) (c : String) (h : Hash) (ops : List Op)
    (hp : (v.baselineStore.pins c).agentHash = some h) (hclear : ∀ op ∈ ops, op.clears c = false)
    (env : ReportEnv) (challengeID : String) (reportData : Bytes) (id : Identity)
    (hid : identify K env reportData = .ok id) (hc : id.clientID = c)
    (ha : (verifyReport K ((attestations K).run v ops) env challengeID reportData).2.accepted = true) :
    (useBootCommitment id.report = true ∨ v.cfg.requireInitramfsLock = true →
      id.report.system.agentHash = h) ∧
      (useBootCommitment id.report = false → (v.baselineStore.pins c).pcr14 =
        some (pcr14Of id.report)) := by
  obtain ⟨q, hq⟩ : ∃ q, (v.baselineStore.pins c).pcr14 = some q := by
    refine Option.ne_none_iff_exists'.mp fun hn => ?_
    rw [v.baselineStore.pins_wf c hn] at hp
    cases hp
  have hpin := run_pinned K ⟨hq, hp⟩ hclear
  have hcfg := run_cfg K v ops
  rcases verifyReport_pins K ((attestations K).run v ops) env challengeID reportData with
    ⟨-, hno⟩ | ⟨ns, ev, hauth, hcase⟩
  · rw [hno] at ha
    cases ha
  have hev := hauth.id_eq hid
  subst hev
  rcases hcase with ⟨hflag, hcommit, -⟩ | ⟨hflag, p', -, -, -, hrow⟩
  · refine ⟨fun _ => (hpin.commits hc hcommit).1, fun hno => ?_⟩
    rw [hflag] at hno
    cases hno
  · refine ⟨fun hyes => ?_, fun _ => ?_⟩
    · exfalso
      have hset : useBootCommitment ev.id.report = true := by
        rcases hyes with hyes | hlock
        · exact hyes
        · rw [← hcfg] at hlock
          exact hauth.flags.lockNeedsCommitment (hauth.flags.lock hlock)
      rw [hflag] at hset
      cases hset
    · rcases hrow ha with hn | hs
      · rw [hc, hpin.1] at hn
        cases hn
      · rw [hc, hpin.1] at hs
        rw [hq, hs]

/-! ### A host without the initramfs lock -/

/-- Neither the initramfs lock nor the boot registers are required. -/
def laxConfig (rejectLegacyBaselines : Bool) : VerifierConfig :=
  { requireInitramfsLock := false, requireBootPCRs := false, rejectLegacyBaselines }

/-- A device that quotes PCR 14 alone. -/
def agentDevice (flags : UInt32) (nonce : Nonce) (agentHash pcr14 : Hash) : Device where
  nonce := nonce
  flags := flags
  agentHash := agentHash
  pcrValues := (List.Vector.replicate 24 (Blob.zero 32)).set 14 pcr14
  pcrMask := 0x4000

/-- The agent extended PCR 14 with its own hash and says so. -/
def commitDevice (nonce : Nonce) (agentHash : Hash) : Device :=
  agentDevice flagBootCommitmentV1 nonce agentHash (deriveBootCommitmentPCR14 agentHash 0 0)

theorem agentDevice_flagsOK {flags : UInt32} {n : Nonce} {a q : Hash} (r : Bool)
    (h : hasFlag flags flagInitramfsLockV1 = false) :
    FlagsOK (laxConfig r) (agentDevice flags n a q).report := by
  refine ⟨fun hl => ?_, fun hl => ?_, fun hl => ?_⟩
  · have hl' : hasFlag flags flagInitramfsLockV1 = true := hl
    rw [h] at hl'
    cases hl'
  · cases hl
  · cases hl

theorem agentDevice_bootOf (flags : UInt32) (n : Nonce) (a q : Hash) :
    bootOf (agentDevice flags n a q).report = none := by
  have h : haveBootPCRs (agentDevice flags n a q).report = false := by
    show decide ((0x4000 : UInt32) &&& bootPCRMask = bootPCRMask) = false
    decide
  unfold bootOf
  rw [h]
  rfl

theorem agentDevice_bootPCRsOf (flags : UInt32) (n : Nonce) (a q : Hash) :
    bootPCRsOf (agentDevice flags n a q).report = none := by
  rw [bootPCRsOf, agentDevice_bootOf]
  rfl

theorem agentDevice_pcr14 (flags : UInt32) (n : Nonce) (a q : Hash) :
    pcr14Of (agentDevice flags n a q).report = q :=
  List.Vector.get_set_same ..

theorem commitDevice_reaches (v : Verifier) (n : Nonce) (a : Hash) :
    ReachesStore v honestEnv (commitDevice n a).evidence where
  commitment := by
    have hlock : useInitramfsLock (commitDevice n a).report = false := by
      show hasFlag flagBootCommitmentV1 flagInitramfsLockV1 = false
      decide
    have hpcr := agentDevice_pcr14 flagBootCommitmentV1 n a (deriveBootCommitmentPCR14 a 0 0)
    exact ⟨(commitDevice n a).quote, rfl, checkBootCommitment_exact hlock hpcr.symm⟩
  enrollment := by
    have hnone : bootOf (commitDevice n a).evidence.id.report = none := agentDevice_bootOf ..
    rw [hnone]
    exact ensure_ok.mpr fun _ h => by cases h

/-- A challenge to a device, and its report to it. -/
def challengeTo (d : Device) : List Op := [.generateChallenge (drawing d.nonce) ""]

def report (d : Device) : Op := .verifyReport honestEnv "" (wireReport d.report)

theorem call_report (v : Verifier) (d : Device) :
    (call rsaCrypto v (report d)).1 =
    (verifyReport rsaCrypto v honestEnv "" (wireReport d.report)).1 := by
  simp only [call, report]

def run (v : Verifier) (ops : List Op) : Verifier := (attestations rsaCrypto).run v ops

/-- A lenient verifier with nothing pending. -/
structure Resting (v : Verifier) (r : Bool) (used : List Nonce) (k : Int) : Prop where
  lenient : Lenient v
  idle : Idle v.nonceStore used k
  cfg : v.cfg = laxConfig r

theorem openVerifier_resting (r : Bool) : Resting (openVerifier (laxConfig r)) r [] 0 :=
  ⟨openVerifier_lenient _, openVerifier_idle _, rfl⟩

/-- A challenge makes it wait for an agent's report. -/
theorem Resting.ready {v : Verifier} {used : List Nonce} {k : Int} {r : Bool} {flags : UInt32}
    {n : Nonce} {a q : Hash}
    (h : Resting v r used k) (hn : n ∉ used) (hk : k < 30)
    (hf : hasFlag flags flagInitramfsLockV1 = false) :
    Ready (run v (challengeTo (agentDevice flags n a q))) used k "" (agentDevice flags n a q) :=
  ready_of_idle (d := agentDevice flags n a q) h.lenient h.idle hn hk (h.cfg ▸ agentDevice_flagsOK r hf)
    (Device.logOK_headerOnly rfl) ""

/-- A challenge to a device and its report. -/
def round (v : Verifier) (d : Device) : Verifier :=
  (call rsaCrypto (run v (challengeTo d)) (report d)).1

theorem round_eq (v : Verifier) (d : Device) :
    round v d = (call rsaCrypto (run v (challengeTo d)) (report d)).1 := rfl

/-- After the report it rests again. -/
theorem Resting.round {v : Verifier} {used : List Nonce} {k : Int} {r : Bool} {d : Device}
    (h : Resting v r used k)
    (hd : Ready (run v (challengeTo d)) used k "" d) :
    Resting (round v d) r (d.nonce :: used) (k + 1) := by
  obtain ⟨h1, h2⟩ := report_next hd
  rw [← call_report] at h1 h2
  rw [round_eq]
  refine ⟨h1, h2, ?_⟩
  rw [(call_frame ..).1, run, run_cfg, h.cfg]

def agentA : Hash := List.Vector.replicate 32 1

def agentB : Hash := List.Vector.replicate 32 2

def nonce1 : Nonce := List.Vector.replicate 32 1

def nonce2 : Nonce := List.Vector.replicate 32 2

theorem commitDevice_flag (n : Nonce) (a : Hash) :
    useBootCommitment (commitDevice n a).report = true := by
  show hasFlag flagBootCommitmentV1 flagBootCommitmentV1 = true
  decide

theorem commitDevice_attestPins (v : Verifier) (n : Nonce) (a : Hash) :
    attestPins v (commitDevice n a).evidence =
      (v.baselineStore.pins Device.name).attest (deriveBootCommitmentPCR14 a 0 0) a none := by
  have hboot : bootPCRsOf (commitDevice n a).evidence.id.report = none := agentDevice_bootPCRsOf ..
  have hpcr : pcr14Of (commitDevice n a).evidence.id.report = deriveBootCommitmentPCR14 a 0 0 :=
    agentDevice_pcr14 ..
  unfold attestPins
  rw [hboot, hpcr]
  rfl

/-- A challenge leaves the pins. -/
theorem challengeTo_pins (v : Verifier) (d : Device) :
    (run v (challengeTo d)).baselineStore = v.baselineStore := rfl

section AgentRounds

variable {v : Verifier} {used : List Nonce} {k : Int} {d : Device} {n : Nonce} {a : Hash}

theorem report_pins {p : Pins Hash BootPCRs × Verdict Hash BootPCRs} (h : Ready v used k "" d)
    (hflag : useBootCommitment d.report = true) (hreach : ReachesStore v honestEnv d.evidence)
    (hp : attestPins v d.evidence = p) :
    (call rsaCrypto v (report d)).1.baselineStore.pins =
      Function.update v.baselineStore.pins Device.name (v.baselineStore.shown p.1) := by
  subst hp
  rw [call_report]
  exact commit_pins h hflag hreach

/-- What the report of an agent leaves of its pins. -/
theorem commitDevice_pins (h : Ready v used k "" (commitDevice n a)) :
    (call rsaCrypto v (report (commitDevice n a))).1.baselineStore.pins =
      Function.update v.baselineStore.pins Device.name (v.baselineStore.shown
        ((v.baselineStore.pins Device.name).attest (deriveBootCommitmentPCR14 a 0 0) a none).1) :=
  report_pins h (commitDevice_flag n a) (commitDevice_reaches v n a) (commitDevice_attestPins v n a)

/-- The first report of an agent pins its hash, in a new row or in one
without a hash. -/
theorem round_pinned (h : Ready (run v (challengeTo (commitDevice n a))) used k "" (commitDevice n a))
    (hne : a ≠ Blob.zero 32) (hp : (v.baselineStore.pins Device.name).agentHash = none) :
    ((round v (commitDevice n a)).baselineStore.pins Device.name).pcr14 =
        some ((v.baselineStore.pins Device.name).pcr14.getD (deriveBootCommitmentPCR14 a 0 0)) ∧
      ((round v (commitDevice n a)).baselineStore.pins Device.name).agentHash = some a := by
  have hagree :
      ((v.baselineStore.pins Device.name).attest (deriveBootCommitmentPCR14 a 0 0) a
        none).2.refused = false := by
    refine Pins.attest_not_refused _ (fun _ h' hh => ?_) fun _ => rfl
    rw [hp] at hh
    cases hh
  rw [round_eq, commitDevice_pins h, Function.update_self, challengeTo_pins]
  refine ⟨?_, BaselineStorer.shown_pinnable hne (Pins.attest_accepted hagree).1⟩
  rw [BaselineStorer.shown_pcr14, Pins.attest_pcr14]

/-- An agent is accepted unless another hash is pinned or none in a row. -/
theorem commitDevice_accepted (h : Ready v used k "" (commitDevice n a))
    (hp : (v.baselineStore.pins Device.name).pcr14 = none ∨
      (v.baselineStore.pins Device.name).agentHash = some a) :
    (verifyReport rsaCrypto v honestEnv "" (wireReport (commitDevice n a).report)).2.accepted =
    true := by
  refine commit_accepted h (commitDevice_flag n a) (commitDevice_reaches v n a) ?_ ?_
  · rw [commitDevice_attestPins]
    refine Pins.attest_not_refused _ (fun hrow h' hh => ?_) fun _ => rfl
    rcases hp with hp | hp
    · exact absurd hp hrow
    · rw [hp] at hh
      cases hh
      rfl
  · rw [commitDevice_attestPins, Pins.attest_agentHashResult]
    rcases hp with hp | hp
    · simp [hp]
    · cases (v.baselineStore.pins Device.name).pcr14 with
      | none => simp
      | some q => simp [hp, Pins.hashResult]

end AgentRounds

/-- Agent A was pinned by its first report. -/
def pinnedVerifier : Verifier := round (openVerifier (laxConfig false)) (commitDevice nonce1 agentA)

theorem pinned_ready :
    Ready (run (openVerifier (laxConfig false)) (challengeTo (commitDevice nonce1 agentA))) [] 0 ""
    (commitDevice nonce1 agentA) :=
  (openVerifier_resting false).ready (by simp) (by decide) (by decide)

theorem pinnedVerifier_pinned :
    Pinned Device.name (deriveBootCommitmentPCR14 agentA 0 0) agentA pinnedVerifier := by
  have hrow : ((openVerifier (laxConfig false)).baselineStore.pins Device.name).pcr14 = none := rfl
  obtain ⟨h1, h2⟩ := round_pinned pinned_ready (by decide) rfl
  rw [hrow, Option.getD_none] at h1
  exact ⟨h1, h2⟩

theorem pinnedVerifier_resting : Resting pinnedVerifier false [nonce1] 1 :=
  (openVerifier_resting false).round pinned_ready

theorem challengeTo_clears (d : Device) (c : String) : ∀ op ∈ challengeTo d, op.clears c = false := by
  intro op hop
  rw [List.mem_singleton.mp hop]
  rfl

theorem identify_agentDevice (flags : UInt32) (n : Nonce) (a q : Hash) :
    identify rsaCrypto honestEnv (wireReport (agentDevice flags n a q).report) =
      .ok (agentDevice flags n a q).identity :=
  identify_of_identified ((agentDevice flags n a q).identified rfl (Device.logOK_headerOnly rfl))

/-- The second report of the pinned agent is accepted and carries the pin. -/
theorem accepted_carries_pin_agentA :
    (pinnedVerifier.baselineStore.pins Device.name).agentHash = some agentA ∧
      (verifyReport rsaCrypto (run pinnedVerifier (challengeTo (commitDevice nonce2 agentA)))
        honestEnv "" (wireReport (commitDevice nonce2 agentA).report)).2.accepted = true ∧
      (commitDevice nonce2 agentA).identity.report.system.agentHash = agentA := by
  have hp := pinnedVerifier_pinned.2
  have hready : Ready (run pinnedVerifier (challengeTo (commitDevice nonce2 agentA))) [nonce1] 1 ""
      (commitDevice nonce2 agentA) := pinnedVerifier_resting.ready (by decide) (by decide) (by decide)
  have ha := commitDevice_accepted hready (.inr (by rw [challengeTo_pins]; exact hp))
  refine ⟨hp, ha, ?_⟩
  have h := accepted_carries_pin rsaCrypto pinnedVerifier Device.name agentA
    (challengeTo (commitDevice nonce2 agentA)) hp (challengeTo_clears _ _) honestEnv ""
    (wireReport (commitDevice nonce2 agentA).report) (commitDevice nonce2 agentA).identity
    (identify_agentDevice ..) rfl ha
  exact h.1 (.inl (commitDevice_flag nonce2 agentA))

/-- A device with another agent that quotes the PCR 14 of agent A. -/
def otherAgent : Device := agentDevice 0 nonce2 agentB (deriveBootCommitmentPCR14 agentA 0 0)

/-- A pinned agent hash does not bind reports without `FlagBootCommitmentV1`:
the legacy path compares PCR 14 alone. -/
theorem legacy_report_ignores_pin :
    ∃ (v : Verifier) (c : String) (h : Hash) (ops : List Op) (env : ReportEnv) (challengeID : String)
      (reportData : Bytes) (id : Identity),
      (v.baselineStore.pins c).agentHash = some h ∧ (∀ op ∈ ops, op.clears c = false) ∧
      identify rsaCrypto env reportData = .ok id ∧ id.clientID = c ∧
      (verifyReport rsaCrypto ((attestations rsaCrypto).run v ops) env challengeID
        reportData).2.accepted = true ∧
      id.report.system.agentHash ≠ h := by
  have hready : Ready (run pinnedVerifier (challengeTo otherAgent)) [nonce1] 1 "" otherAgent :=
    pinnedVerifier_resting.ready (by decide) (by decide) (by decide)
  have hflag : useBootCommitment otherAgent.report = false := by
    show hasFlag 0 flagBootCommitmentV1 = false
    decide
  have hrow : ((run pinnedVerifier (challengeTo otherAgent)).baselineStore.pins Device.name).pcr14 =
      some (pcr14Of otherAgent.report) := by
    rw [challengeTo_pins, otherAgent, agentDevice_pcr14]
    exact pinnedVerifier_pinned.1
  have hboot : ((run pinnedVerifier (challengeTo otherAgent)).baselineStore.pins Device.name).conflict
      (bootPCRsOf otherAgent.report) = false := by
    rw [otherAgent, agentDevice_bootPCRsOf]
    rfl
  have hne : agentB ≠ agentA := by decide
  exact ⟨pinnedVerifier, Device.name, agentA, challengeTo otherAgent, honestEnv, "",
    wireReport otherAgent.report,
    otherAgent.identity, pinnedVerifier_pinned.2, challengeTo_clears _ _, identify_agentDevice .., rfl,
    legacy_accepted hready hflag (.inr hrow) hboot, hne⟩

/-! ## Rows without an agent hash -/

/-- The client has a row without an agent hash, and the verifier rejects to
backfill it. -/
structure Unpinned (c : String) (v : Verifier) : Prop where
  reject : v.cfg.rejectLegacyBaselines = true
  row : (v.baselineStore.pins c).pcr14 ≠ none
  agentHash : (v.baselineStore.pins c).agentHash = none

/-- The call is a boot-commitment report of the client that gets as far as
the store transaction, with boot registers that agree with the row, and the
store writes the agent hash: in memory any but the all-zero one, in SQLite
when no statement fails. -/
def Backfills (K : Crypto) (c : String) (v : Verifier) (op : Op) : Prop :=
  ∃ env challengeID reportData ns ev, op = .verifyReport env challengeID reportData ∧
    Authenticated K v env challengeID reportData ns ev ∧ ev.id.clientID = c ∧
    useBootCommitment ev.id.report = true ∧ ReachesStore v env ev ∧
    (v.baselineStore.pins c).conflict (bootPCRsOf ev.id.report) = false ∧
    match v.baselineStore with
    | .memory _ => ev.id.report.system.agentHash ≠ Blob.zero 32
    | .sqlite _ => env.baselineFaults = {}

/-- A report that goes through on such a row is a backfill. -/
theorem Unpinned.backfill {c : String} {v : Verifier} {ev : Evidence} (hu : Unpinned c v)
    (hc : ev.id.clientID = c)
    (hagree : (attestPins v ev).2.refused = false) :
    (attestPins v ev).2.agentHashResult = .legacyBackfill ∧
      (v.baselineStore.pins c).conflict (bootPCRsOf ev.id.report) = false ∧
      (attestPins v ev).1.pcr14 = (v.baselineStore.pins c).pcr14 := by
  subst hc
  refine ⟨?_, ?_⟩
  · rw [attestPins, Pins.attest_agentHashResult, hu.agentHash]
    have hrow := hu.row
    cases hp : (v.baselineStore.pins ev.id.clientID).pcr14 with
    | none => exact absurd hp hrow
    | some q => simp [Pins.hashResult, hu.agentHash]
  · rcases Pins.attest_cases (v.baselineStore.pins ev.id.clientID) (pcr14Of ev.id.report)
      ev.id.report.system.agentHash (bootPCRsOf ev.id.report) with ⟨hn, -⟩ | ⟨-, hr,
        -⟩ | ⟨-, -, hc, -, he⟩
    · exact absurd hn hu.row
    · rw [attestPins, hr] at hagree
      cases hagree
    · exact ⟨hc, by rw [attestPins, he]⟩

/-- **Step.** A row stays without an agent hash until it is cleared or
backfilled. -/
theorem call_unpinned (K : Crypto) {c : String} {v : Verifier} {op : Op} (hu : Unpinned c v)
    (hc : op.clears c = false) (hb : ¬ Backfills K c v op) : Unpinned c (call K v op).1 := by
  have hcfg := (call_frame K v op).1
  rcases call_pins K v hc with hsame | ⟨env, challengeID, reportData, hop⟩
  · exact ⟨hcfg ▸ hu.reject, hsame ▸ hu.row, hsame ▸ hu.agentHash⟩
  subst hop
  suffices h : ((verifyReport K v env challengeID reportData).1.baselineStore.pins c).pcr14 =
      (v.baselineStore.pins c).pcr14 ∧
      ((verifyReport K v env challengeID reportData).1.baselineStore.pins c).agentHash = none from
    ⟨hcfg ▸ hu.reject, fun hn => hu.row (h.1.symm.trans hn), h.2⟩
  rcases verifyReport_pins K v env challengeID reportData with ⟨hsame, -⟩ | ⟨ns, ev, ha, hcase⟩
  · rw [hsame]
    exact ⟨rfl, hu.agentHash⟩
  rcases hcase with ⟨hflag, hcommit, hpins, -⟩ | ⟨-, p', hpins, hlegacy, -⟩
  · rw [hpins]
    by_cases hid : c = ev.id.clientID
    · obtain ⟨-, hconf, hrow⟩ := hu.backfill hid.symm hcommit.agrees
      subst hid
      rw [Function.update_self, BaselineStorer.shown_pcr14]
      refine ⟨hrow, ?_⟩
      -- what is left is an all-zero hash in memory, which pins nothing
      have hwrite := (Pins.attest_accepted hcommit.agrees).1
      cases hs : v.baselineStore with
      | sqlite db =>
        exact absurd ⟨env, challengeID, reportData, ns, ev, rfl, ha, rfl, hflag, hcommit.reaches, hconf,
          by rw [hs]; exact hcommit.faultless db hs⟩ hb
      | memory s =>
        by_cases hz : ev.id.report.system.agentHash = Blob.zero 32
        · show (attestPins v ev).1.agentHash.bind pinnedHash = none
          rw [attestPins, hwrite, Option.bind_some, pinnedHash, if_pos hz]
        · exact absurd ⟨env, challengeID, reportData, ns, ev, rfl, ha, rfl, hflag,
            hcommit.reaches, hconf, by rw [hs]; exact hz⟩ hb
    · rw [Function.update_of_ne hid]
      exact ⟨rfl, hu.agentHash⟩
  · rw [hpins]
    by_cases hid : c = ev.id.clientID
    · subst hid
      rw [Function.update_self]
      exact ⟨hlegacy.row hu.row, hlegacy.agentHash.trans hu.agentHash⟩
    · rw [Function.update_of_ne hid]
      exact ⟨rfl, hu.agentHash⟩

/-- **Rejected backfill.** A client whose row has no agent hash is not let in
by a boot-commitment report, in every run without `ClearBaseline` for the
client in which no report of the client gets as far as writing the hash. -/
theorem unpinned_never_accepted (K : Crypto) (v : Verifier) (c : String) (ops : List Op)
    (hu : Unpinned c v) (hclear : ∀ op ∈ ops, op.clears c = false)
    (hsteps : (attestations K).AllSteps (fun v op => ¬ Backfills K c v op) v ops)
    (env : ReportEnv) (challengeID : String) (reportData : Bytes) (id : Identity)
    (hid : identify K env reportData = .ok id) (hc : id.clientID = c)
    (hflag : useBootCommitment id.report = true) :
    (verifyReport K ((attestations K).run v ops) env challengeID reportData).2.accepted = false := by
  have hinv : Unpinned c ((attestations K).run v ops) := by
    induction ops generalizing v with
    | nil => exact hu
    | cons op ops ih =>
      exact ih _ (call_unpinned K hu (hclear op (List.mem_cons_self ..)) hsteps.1)
        (fun o ho => hclear o (List.mem_cons_of_mem _ ho)) hsteps.2
  rcases verifyReport_pins K ((attestations K).run v ops) env challengeID reportData with
    ⟨-, hno⟩ | ⟨ns, ev, hauth, hcase⟩
  · exact hno
  have hev := hauth.id_eq hid
  subst hev
  rcases hcase with ⟨-, hcommit, -, hfill⟩ | ⟨hno, -⟩
  · refine Bool.eq_false_iff.mpr fun ha => ?_
    exact hfill ha hinv.reject (hinv.backfill hc hcommit.agrees).1
  · rw [hflag] at hno
    cases hno

/-! ### A row from before the boot commitment -/

/-- The device's row has the PCR 14 of agent A and no agent hash. -/
def legacyVerifier : Verifier :=
  let v := openVerifier (laxConfig true)
  { v with baselineStore :=
    (v.baselineStore.checkAndUpdate {} Device.name (deriveBootCommitmentPCR14 agentA 0 0) 0).1 }

theorem legacyVerifier_pins :
    legacyVerifier.baselineStore.pins Device.name =
    { pcr14 := some (deriveBootCommitmentPCR14 agentA 0 0) } := by
  have hnew : (openVerifier (laxConfig true)).baselineStore.pins Device.name = {} := rfl
  obtain ⟨h, -⟩ :=
    BaselineStorer.checkAndUpdate_served (s := (openVerifier (laxConfig true)).baselineStore)
    (f := {}) (c := Device.name) trivial (deriveBootCommitmentPCR14 agentA 0 0) 0
  unfold legacyVerifier
  rw [h, Function.update_self, hnew, Pins.check]

theorem legacyVerifier_unpinned : Unpinned Device.name legacyVerifier where
  reject := rfl
  row := by
    rw [legacyVerifier_pins]
    exact Option.some_ne_none _
  agentHash := by rw [legacyVerifier_pins]

theorem legacyVerifier_resting : Resting legacyVerifier true [] 0 :=
  ⟨⟨⟨"open", rfl⟩, ⟨_, rfl⟩, rfl, rfl⟩, openVerifier_idle _, rfl⟩

/-- The first boot-commitment report of agent A is refused. -/
theorem unpinned_never_accepted_first :
    Unpinned Device.name legacyVerifier ∧
      (verifyReport rsaCrypto (run legacyVerifier (challengeTo (commitDevice nonce1 agentA)))
        honestEnv "" (wireReport (commitDevice nonce1 agentA).report)).2.accepted = false := by
  refine ⟨legacyVerifier_unpinned, ?_⟩
  refine unpinned_never_accepted rsaCrypto legacyVerifier Device.name
    (challengeTo (commitDevice nonce1 agentA))
    legacyVerifier_unpinned (challengeTo_clears _ _) ⟨?_, trivial⟩ honestEnv ""
      _ _ (identify_agentDevice ..) rfl
    (commitDevice_flag nonce1 agentA)
  intro ⟨_, _, _, _, _, hop, _⟩
  cases hop

theorem run_round (v : Verifier) (d : Device) (ops : List Op) :
    (attestations rsaCrypto).run v (challengeTo d ++ report d :: ops) = run (round v d) ops := by
  rw [Machine.run_append]
  simp only [Machine.run, run, Runs.round, attestations]

theorem legacy_ready : Ready (run legacyVerifier (challengeTo (commitDevice nonce1 agentA))) [] 0 ""
    (commitDevice nonce1 agentA) :=
  legacyVerifier_resting.ready (by simp) (by decide) (by decide)

/-- The refused report pinned its agent hash. -/
theorem legacy_round_pinned :
    ((round legacyVerifier (commitDevice nonce1 agentA)).baselineStore.pins Device.name).agentHash =
    some agentA :=
  (round_pinned legacy_ready (by decide) legacyVerifier_unpinned.agentHash).2

/-- A row without an agent hash, two boot-commitment reports of the same
agent: the first is refused and pins its hash, the second is accepted. -/
theorem retry_after_refusal_accepted :
    ∃ (v : Verifier) (c : String) (ops : List Op) (env : ReportEnv) (challengeID : String)
    (reportData : Bytes)
      (id : Identity),
      Unpinned c v ∧ (∀ op ∈ ops, op.clears c = false) ∧
      identify rsaCrypto env reportData = .ok id ∧ id.clientID = c ∧
      useBootCommitment id.report = true ∧
      (verifyReport rsaCrypto ((attestations rsaCrypto).run v ops) env challengeID
        reportData).2.accepted = true := by
  have hrest : Resting (round legacyVerifier (commitDevice nonce1 agentA)) true [nonce1] 1 :=
    legacyVerifier_resting.round legacy_ready
  have hready :
      Ready (run (round legacyVerifier (commitDevice nonce1 agentA))
        (challengeTo (commitDevice nonce2 agentA)))
      [nonce1] 1 "" (commitDevice nonce2 agentA) := hrest.ready (by decide) (by decide) (by decide)
  have haccept :=
    commitDevice_accepted hready (.inr (by rw [challengeTo_pins]; exact legacy_round_pinned))
  refine ⟨legacyVerifier, Device.name,
    challengeTo (commitDevice nonce1 agentA) ++ report (commitDevice nonce1 agentA) ::
    challengeTo (commitDevice nonce2 agentA),
    honestEnv, "", wireReport (commitDevice nonce2 agentA).report,
    (commitDevice nonce2 agentA).identity,
    legacyVerifier_unpinned, ?_, identify_agentDevice .., rfl, commitDevice_flag nonce2 agentA, ?_⟩
  · intro op hop
    rcases List.mem_append.mp hop with h | h
    · exact challengeTo_clears _ _ op h
    · rcases List.mem_cons.mp h with h | h
      · rw [h]
        rfl
      · exact challengeTo_clears _ _ op h
  · rw [run_round]
    exact haccept

/-! ## Boot baselines -/

/-- `VerifyReport` creates a boot baseline only when the active policy pins
PCR 0, 1 and 7. -/
def Gated (K : Crypto) (v : Verifier) (op : Op) : Prop :=
  ∀ env challengeID reportData, op = .verifyReport env challengeID reportData →
    ∀ c b, ((verifyReport K v env challengeID reportData).1.baselineStore.pins c).boot = some b →
      (v.baselineStore.pins c).boot ≠ some b → v.pcrVerifier.activePolicyDeclaresBootPCRs = true

/-- The active policy does not pin PCR 0, 1 and 7, the call is a report with
boot registers `b` that passes every check before the store, and one of two
things holds. Either it has `FlagBootCommitmentV1`, the store is in memory
and kept other boot registers of a client whose row was cleared. Or it does
not have the flag, the client has no boot baseline and no other PCR 14, and
no statement fails. -/
def Ungated (K : Crypto) (v : Verifier) (op : Op) : Prop :=
  v.pcrVerifier.activePolicyDeclaresBootPCRs = false ∧
  ∃ env challengeID reportData ns ev b, op = .verifyReport env challengeID reportData ∧
    Authenticated K v env challengeID reportData ns ev ∧ bootPCRsOf ev.id.report = some b ∧
    ((useBootCommitment ev.id.report = true ∧ (∃ s, v.baselineStore = .memory s) ∧
      ReachesStore v env ev ∧
        (v.baselineStore.pins ev.id.clientID).pcr14 = none ∧
        (v.baselineStore.pins ev.id.clientID).boot ≠ some b) ∨
      (useBootCommitment ev.id.report = false ∧ (v.baselineStore.pins ev.id.clientID).boot = none ∧
        ((v.baselineStore.pins ev.id.clientID).pcr14 = none ∨
          (v.baselineStore.pins ev.id.clientID).pcr14 = some (pcr14Of ev.id.report)) ∧
        LegacyServed v env ev.id.clientID))

/-- The enrollment gate without a policy finds a boot baseline. -/
theorem enrolled_of_reaches {v : Verifier} {env : ReportEnv} {ev : Evidence} {b : BootPCRs}
    (hreq : v.cfg.requireBootEnrollment = true)
    (hdecl : v.pcrVerifier.activePolicyDeclaresBootPCRs = false)
    (hb : bootPCRsOf ev.id.report = some b) (hreach : ReachesStore v env ev) :
    ∃ s, (v.baselineStore.pins ev.id.clientID).boot = some s := by
  obtain ⟨boot, hboot, -⟩ := Option.map_eq_some_iff.mp hb
  have hgate := ensure_ok.mp hreach.enrollment hreq (by rw [hboot]; rfl)
  rw [hdecl] at hgate
  rcases hgate with hgate | hgate
  · refine Option.ne_none_iff_exists'.mp fun hn => ?_
    rw [← BaselineStorer.getBootBaseline_pcrs, Option.map_eq_none_iff] at hn
    have hread : v.baselineStore.getBootBaseline env.enrollFaults ev.id.clientID = none := by
      cases hs : v.baselineStore with
      | memory s =>
        rw [hs] at hn
        exact hn
      | sqlite db =>
        rw [hs] at hn
        simp only [BaselineStorer.getBootBaseline, SQLiteBaselineStore.getBootBaseline] at hn ⊢
        split
        · rfl
        · exact hn
    rw [hread] at hgate
    cases hgate
  · cases hgate

/-- In SQLite the boot registers are columns of the row. -/
theorem boot_none_of_row {db : SQLiteBaselineStore} {c : String}
    (h : ((BaselineStorer.sqlite db).pins c).pcr14 = none) :
    ((BaselineStorer.sqlite db).pins c).boot = none := by
  simp only [BaselineStorer.pins, SQLiteBaselineStore.pins] at h ⊢
  cases hr : db.lookup c with
  | none => rfl
  | some row =>
    rw [hr] at h
    cases h

/-- The in-memory transaction is the one on the pins. -/
theorem attestCall_memory {v : Verifier} {s : BaselineStore} (hs : v.baselineStore = .memory s)
    (env : ReportEnv)
    (ev : Evidence) : (attestCall v env ev).1.pins = Function.update v.baselineStore.pins ev.id.clientID
      (v.baselineStore.shown (attestPins v ev).1) := by
  unfold attestCall attestPins
  rw [hs]
  exact (s.checkAndUpdateAttestation_refines ..).1

/-- **Step.** Which calls go around the gate. -/
theorem call_gated_iff (K : Crypto) (v : Verifier) (op : Op)
    (hreq : v.cfg.requireBootEnrollment = true) : Gated K v op ↔ ¬ Ungated K v op := by
  constructor
  · intro hg ⟨hdecl, env, challengeID, reportData, ns, ev, b, hop, ha, hb, hcase⟩
    suffices hnew :
        ((verifyReport K v env challengeID reportData).1.baselineStore.pins ev.id.clientID).boot =
        some b ∧ (v.baselineStore.pins ev.id.clientID).boot ≠ some b by
      have := hg env challengeID reportData hop ev.id.clientID b hnew.1 hnew.2
      rw [hdecl] at this
      cases this
    rw [verifyReport_baselineStore ha]
    rcases hcase with ⟨hflag, ⟨s, hs⟩, hreach, hrow, hne⟩ | ⟨hflag, hnone, hrow, hserved⟩
    · refine ⟨?_, hne⟩
      rw [pinBaseline, if_pos hflag]
      rcases pinBootCommitment_cases v env ev with ⟨hn, -⟩ | ⟨-, hpin⟩
      · exact absurd hreach hn
      · rw [hpin, attestCall_memory hs, Function.update_self, BaselineStorer.shown_boot, attestPins,
          Pins.attest, hrow, hb]
        rfl
    · obtain ⟨boot, hboot, hpcrs⟩ := Option.map_eq_some_iff.mp hb
      rw [pinBaseline_legacy hflag]
      have hpin := (pinLegacy_served hserved hboot hrow (Pins.conflict_none hnone _)).2
      rw [hpin, hpcrs, hnone]
      exact ⟨rfl, by simp⟩
  · intro hn env challengeID reportData hop c b hnew hold
    by_contra hdecl
    have hdecl := Bool.eq_false_iff.mpr hdecl
    apply hn
    rcases verifyReport_pins K v env challengeID reportData with ⟨hsame, -⟩ | ⟨ns, ev, ha, hcase⟩
    · rw [hsame] at hnew
      exact absurd hnew hold
    have hid : c = ev.id.clientID := by
      by_contra hne
      rcases hcase with ⟨-, -, hpins, -⟩ | ⟨-, p', hpins, -⟩
      all_goals
        rw [hpins, Function.update_of_ne hne] at hnew
        exact hold hnew
    subst hid
    rcases hcase with ⟨hflag, hcommit, hpins, -⟩ | ⟨hflag, p', hpins, hlegacy, hserved, -⟩
    · rw [hpins, Function.update_self, BaselineStorer.shown_boot, attestPins,
        (Pins.attest_accepted hcommit.agrees).2] at hnew
      have hb : bootPCRsOf ev.id.report = some b := by
        cases hb : bootPCRsOf ev.id.report with
        | none =>
          rw [hb, Option.none_or] at hnew
          exact absurd hnew hold
        | some b' =>
          rw [hb] at hnew
          exact hnew
      obtain ⟨stored, hstored⟩ := enrolled_of_reaches hreq hdecl hb hcommit.reaches
      rcases Pins.attest_cases (v.baselineStore.pins ev.id.clientID) (pcr14Of ev.id.report)
        ev.id.report.system.agentHash (bootPCRsOf ev.id.report) with ⟨hrow, -⟩ | ⟨-, hr,
          -⟩ | ⟨-, -, hconf, -⟩
      · cases hs : v.baselineStore with
        | memory s =>
          exact ⟨hdecl, env, challengeID, reportData, ns, ev, b, hop, ha, hb,
            .inl ⟨hflag, ⟨s, hs⟩, hcommit.reaches, hrow, hold⟩⟩
        | sqlite db =>
          rw [hs] at hrow hstored
          rw [boot_none_of_row hrow] at hstored
          cases hstored
      · have hagrees := hcommit.agrees
        rw [attestPins, hr] at hagrees
        cases hagrees
      · rw [Pins.conflict_false hconf hb hstored] at hstored
        exact absurd hstored hold
    · rw [hpins, Function.update_self] at hnew
      rcases hlegacy.boot with hkeep | ⟨hnone, hboot, hrow⟩
      · rw [hkeep] at hnew
        exact absurd hnew hold
      · refine ⟨hdecl, env, challengeID, reportData, ns, ev, b, hop, ha, hboot.symm.trans hnew,
          .inr ⟨hflag, hnone, hrow, hserved ?_⟩⟩
        rw [hnew, hnone]
        simp

/-- **Boot enrollment.** Under `RequireBootEnrollment` a run creates boot
baselines only under a policy that pins PCR 0, 1 and 7 exactly when none of
its calls goes around the gate. -/
theorem boot_baseline_gated_iff (K : Crypto) (v : Verifier) (ops : List Op)
    (hreq : v.cfg.requireBootEnrollment = true) :
    (attestations K).AllSteps (Gated K) v ops ↔
    (attestations K).AllSteps (fun v op => ¬ Ungated K v op) v ops := by
  induction ops generalizing v with
  | nil => exact Iff.rfl
  | cons op ops ih =>
    have hreq' : (call K v op).1.cfg.requireBootEnrollment = true := by
      rw [(call_frame K v op).1]
      exact hreq
    exact and_congr (call_gated_iff K v op hreq) (ih (call K v op).1 hreq')

theorem bootPCRsOf_some {report : AttestationReport} (h : haveBootPCRs report = true) :
    ∃ b, bootPCRsOf report = some b := by
  unfold bootPCRsOf bootOf
  rw [if_pos h]
  exact ⟨_, rfl⟩

/-- A device with `FlagBootCommitmentV1` that quotes PCR 0, 1, 7 and 14. -/
def enrollDevice : Device :=
  { commitDevice (Blob.zero 32) agentA with pcrMask := 0x4083 }

theorem enrollDevice_ready : Ready (challenged (Blob.zero 32)) [] 0 "" enrollDevice := by
  have hflags : FlagsOK { requireInitramfsLock := false } enrollDevice.report := by
    refine ⟨fun h => ?_, fun h => ?_, fun _ => ?_⟩
    · have h' : hasFlag flagBootCommitmentV1 flagInitramfsLockV1 = true := h
      cases h'
    · cases h
    · show decide ((0x4083 : UInt32) &&& bootPCRMask = bootPCRMask) = true
      decide
  exact ready_of_idle (d := enrollDevice) (openVerifier_lenient _) (openVerifier_idle _) (by simp)
    (by decide) hflags
    (Device.logOK_headerOnly rfl) ""

/-- The report of a new device passes every check up to the gate, which refuses
it, and nothing is pinned. -/
theorem boot_baseline_gated_iff_refused :
    let v := openVerifier { requireInitramfsLock := false }
    let ops := challengeTo enrollDevice ++ [report enrollDevice]
    (∃ ns, Authenticated rsaCrypto (run v (challengeTo enrollDevice)) honestEnv ""
      (wireReport enrollDevice.report) ns
        enrollDevice.evidence) ∧
      checkBootCommitment (run v (challengeTo enrollDevice)) enrollDevice.report
      enrollDevice.quote = .ok () ∧
      checkEnrollment (run v (challengeTo enrollDevice)) honestEnv Device.name
      (bootOf enrollDevice.report) ≠ .ok () ∧
      (attestations rsaCrypto).AllSteps (Gated rsaCrypto) v ops := by
  have hlock : useInitramfsLock enrollDevice.report = false := by
    show hasFlag flagBootCommitmentV1 flagInitramfsLockV1 = false
    decide
  have hboot : haveBootPCRs enrollDevice.report = true := by
    show decide ((0x4083 : UInt32) &&& bootPCRMask = bootPCRMask) = true
    decide
  have hpcr :=
    agentDevice_pcr14 flagBootCommitmentV1 (Blob.zero 32) agentA (deriveBootCommitmentPCR14 agentA 0 0)
  obtain ⟨ns, ha, -⟩ := genuine_authenticated enrollDevice_ready
  refine ⟨⟨ns, ha⟩, checkBootCommitment_exact hlock hpcr.symm, fun hgate => ?_, ?_⟩
  · have hsome : (bootOf enrollDevice.report).isSome = true := by
      rw [bootOf, if_pos hboot]
      rfl
    rcases ensure_ok.mp hgate rfl hsome with h | h
    · cases h
    · cases h
  · refine (boot_baseline_gated_iff rsaCrypto _ _ rfl).mpr ⟨?_, ?_, trivial⟩
    · rintro ⟨_, _, _, _, _, _, _, hop, _⟩
      cases hop
    · rintro ⟨hdecl, _, _, _, ns', ev, b, hop, ha', hb, ⟨-, -, hreach, -⟩ | ⟨hflag, -⟩⟩
      · obtain ⟨s, hs⟩ := enrolled_of_reaches rfl hdecl hb hreach
        cases hs
      · cases hop
        rw [ha'.id_eq (identify_of_identified ha.identified)] at hflag
        have hflag' : hasFlag flagBootCommitmentV1 flagBootCommitmentV1 = false := hflag
        cases hflag'

/-- A report without `FlagBootCommitmentV1` pins its own boot registers
under a policy that pins none. -/
theorem legacy_report_enrolls :
    ∃ (v : Verifier) (ops : List Op), v.cfg.requireBootEnrollment = true ∧
      ¬ (attestations rsaCrypto).AllSteps (Gated rsaCrypto) v ops := by
  have hlog : (bootDevice agentA headerOnlyLog).LogOK := Device.logOK_headerOnly rfl
  refine ⟨challenged (Blob.zero 32), [report (bootDevice agentA headerOnlyLog)], rfl, fun hg => ?_⟩
  obtain ⟨ns, ha, -⟩ := genuine_authenticated (bootDevice_ready hlog)
  obtain ⟨b, hb⟩ := bootPCRsOf_some (bootDevice_haveBootPCRs agentA headerOnlyLog)
  refine (call_gated_iff rsaCrypto (challenged (Blob.zero 32)) _ rfl).mp hg.1 ⟨rfl, honestEnv, "",
    _, ns, _, b, rfl, ha, hb, .inr ?_⟩
  exact ⟨bootDevice_legacy agentA headerOnlyLog, rfl, .inl rfl, legacyServed_honest _ _⟩

end Lota.L3.Runs

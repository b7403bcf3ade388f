import Lota.Core.Machine
import Lota.L3Verifier.Registers

/-!
# Runs of a verifier

A verifier takes calls in any order: challenges, reports, the cleanup of the
nonce store, cleared baselines, policies, and whatever the administration
does to the enforcement stores. Every call carries what its environment
decides, so a list of calls is a run in every environment.

Results:
* `call_frame`: what a call leaves alone.
* `call_pending`: a nonce that is pending after a call was pending before or
  has just been issued.
* `accepted_answers_challenge`: an accepted report answers an earlier
  challenge; how much of that challenge's PCR mask its own mask covers, and
  that a quoted PCR 14 is under the signed digest.
-/
namespace Lota.L3.Runs
open Lota.Core Lota.L1.Report Lota.L1.Attest Lota.L1.EventLog
open Lota.L2 Lota.L2.Baseline Lota.L2.SqliteBaseline Lota.L2.Nonce Lota.L2.Revocation
open Lota.L3.BootCommitment Lota.L3.Policy Lota.L3.Signature Lota.L3.Verify

inductive Op where
  | generateChallenge (env : GenerateEnv) (clientID : String)
  | verifyReport (env : ReportEnv) (challengeID : String) (reportData : Bytes)
  | cleanup (now : Time) (deleteFails : Bool)
  | clearBaseline (f : Faults) (clientID : String)
  | addPolicy (policy : PCRPolicy)
  | setActivePolicy (name : String)
  | enforce (revocations : Option RevocationStore) (bans : Option BanStore)

inductive Answer where
  | challenge (r : Except String Challenge)
  | verdict (r : Verify.Reply)
  | policy (r : Except String Unit)
  | done

def call (K : Crypto) (v : Verifier) : Op → Verifier × Answer
  | .generateChallenge env clientID =>
    let r := generateChallenge v env clientID
    (r.1, .challenge r.2)
  | .verifyReport env challengeID reportData =>
    let r := verifyReport K v env challengeID reportData
    (r.1, .verdict r.2)
  | .cleanup now deleteFails => ({ v with nonceStore := v.nonceStore.cleanup now deleteFails }, .done)
  | .clearBaseline f clientID =>
    ({ v with baselineStore := v.baselineStore.clearBaseline f clientID }, .done)
  | .addPolicy policy =>
    let r := v.pcrVerifier.addPolicy policy
    ({ v with pcrVerifier := r.1 }, .policy r.2)
  | .setActivePolicy name =>
    let r := v.pcrVerifier.setActivePolicy name
    ({ v with pcrVerifier := r.1 }, .policy r.2)
  | .enforce revocations bans => ({ v with revocationStore := revocations, banStore := bans }, .done)

def attestations (K : Crypto) : Machine Verifier Op Answer := ⟨call K⟩

abbrev Event := Op × Answer

/-- The two calls that can change what the active policy is. -/
def Op.changesPolicy : Op → Bool
  | .addPolicy _ | .setActivePolicy _ => true
  | _ => false

/-- `ClearBaseline` for client `c`. -/
def Op.clears (c : String) : Op → Bool
  | .clearBaseline _ clientID => clientID = c
  | _ => false

/-- A challenge with nonce `n` was sent out. -/
def issuesNonce (n : Nonce) : Event → Bool
  | (.generateChallenge .., .challenge (.ok c)) => c.nonce = n
  | _ => false

/-! ## Steps -/

/-- What a call leaves alone: the configuration always, the policies unless
it is a call about policies. -/
theorem call_frame (K : Crypto) (v : Verifier) (op : Op) :
    (call K v op).1.cfg = v.cfg ∧
    (op.changesPolicy = false → (call K v op).1.pcrVerifier = v.pcrVerifier) := by
  cases op with
  | verifyReport env challengeID reportData =>
    have hf : (call K v (.verifyReport env challengeID reportData)).1 = _ := verifyReport_frame
    rw [hf]
    exact ⟨rfl, fun _ => rfl⟩
  | addPolicy policy => exact ⟨rfl, fun h => by cases h⟩
  | setActivePolicy name => exact ⟨rfl, fun h => by cases h⟩
  | _ => exact ⟨rfl, fun _ => rfl⟩

theorem run_cfg (K : Crypto) (v : Verifier) (ops : List Op) :
    ((attestations K).run v ops).cfg = v.cfg := by
  induction ops generalizing v with
  | nil => rfl
  | cons op ops ih =>
    show ((attestations K).run (call K v op).1 ops).cfg = v.cfg
    rw [ih, (call_frame K v op).1]

/-- A report only takes nonces from the pending map. -/
theorem authenticate_pending (K : Crypto) (v : Verifier) (env : ReportEnv) (challengeID : String)
    (reportData : Bytes)
    {k : String} {e : NonceEntry}
    (h : (authenticate K v env challengeID reportData).1.pending.lookup k = some e) :
    v.nonceStore.pending.lookup k = some e := by
  have hverify : ∀ report id,
      ((v.nonceStore.verifyNonce env.nonce report challengeID id).1.pending.lookup k = some e →
      v.nonceStore.pending.lookup k = some e) := by
    intro report id h
    obtain ⟨-, ⟨-, hp | hp⟩ | ⟨hp, -⟩⟩ := v.nonceStore.verifyNonce_cases env.nonce report challengeID id
    · exact hp ▸ h
    · exact lookup_of_erase (hp ▸ h)
    · exact lookup_of_erase (hp ▸ h)
  unfold authenticate at h
  split at h
  · exact h
  · rename_i id hid
    split at h
    · exact h
    · have hcases := hverify id.report id.clientID
      split at h
      · rename_i hn
        exact hcases (by rw [hn]; exact h)
      · rename_i hn
        apply hcases
        rw [hn]
        split at h
        · exact h
        · split at h
          · exact h
          · exact h

/-- What a call can make pending. -/
theorem call_pending (K : Crypto) (v : Verifier) (op : Op) {k : String} {e : NonceEntry}
    (h : (call K v op).1.nonceStore.pending.lookup k = some e) :
    v.nonceStore.pending.lookup k = some e ∧
    (∀ n, k = nonceKey n → issuesNonce n (op, (call K v op).2) = false) ∨
    ∃ env clientID c, op = .generateChallenge env clientID ∧ (call K v op).2 = .challenge (.ok c) ∧
      k = nonceKey c.nonce ∧ c.pcrMask = v.pcrVerifier.getActivePolicyMask := by
  cases op with
  | generateChallenge env clientID =>
    have hcases := v.nonceStore.generateChallenge_cases env clientID v.pcrVerifier.getActivePolicyMask
    obtain ⟨-, ⟨⟨err, he⟩, hp⟩ | ⟨c, entry, hc, hm, -, hp, -⟩⟩ := hcases
    · refine .inl ⟨hp ▸ h, fun n _ => ?_⟩
      show issuesNonce n (_, .challenge (v.nonceStore.generateChallenge env clientID
        v.pcrVerifier.getActivePolicyMask).2) = false
      rw [he]
      rfl
    · by_cases hk : k = nonceKey c.nonce
      · exact .inr ⟨env, clientID, c, rfl, congrArg Answer.challenge hc, hk, hm⟩
      · have hl : (v.nonceStore.pending.insert (nonceKey c.nonce) entry).lookup k = some e := hp ▸ h
        rw [lookup_insert_ite, if_neg hk] at hl
        refine .inl ⟨hl, fun n hn => ?_⟩
        show issuesNonce n (_, .challenge (v.nonceStore.generateChallenge env clientID
          v.pcrVerifier.getActivePolicyMask).2) = false
        rw [hc]
        have hne : c.nonce ≠ n := fun h => hk (h ▸ hn)
        simp [issuesNonce, hne]
  | verifyReport env challengeID reportData =>
    refine .inl ⟨?_, fun _ _ => rfl⟩
    have hf : (call K v (.verifyReport env challengeID reportData)).1 = _ := verifyReport_frame
    rw [hf] at h
    exact authenticate_pending K v env challengeID reportData h
  | cleanup now deleteFails =>
    exact .inl ⟨(v.nonceStore.cleanup_pending now deleteFails).2 k e h, fun _ _ => rfl⟩
  | _ => exact .inl ⟨h, fun _ _ => rfl⟩

/-! ## Challenges -/

/-- The latest challenge with nonce `n`: nothing in `after` issued the nonce
again. If the policies were left alone since, its mask is the one the active
policy asks for now. -/
def Challenged (h : List Event) (v : Verifier) (n : Nonce) : Prop :=
  ∃ before env clientID c after, h = before ++
    (.generateChallenge env clientID, .challenge (.ok c)) :: after ∧
    c.nonce = n ∧ (∀ x ∈ after, issuesNonce n x = false) ∧
    ((∀ x ∈ after, x.1.changesPolicy = false) → c.pcrMask = v.pcrVerifier.getActivePolicyMask)

theorem Challenged.snoc {h : List Event} {v v' : Verifier} {n : Nonce} {x : Event}
    (hc : Challenged h v n)
    (hx : issuesNonce n x = false) (hp : x.1.changesPolicy = false → v'.pcrVerifier = v.pcrVerifier) :
    Challenged (h ++ [x]) v' n := by
  obtain ⟨before, env, clientID, c, after, rfl, hn, hlast, hm⟩ := hc
  refine ⟨before, env, clientID, c, after ++ [x], by simp, hn, fun y hy => ?_, fun hall => ?_⟩
  · rcases List.mem_append.mp hy with hy | hy
    · exact hlast y hy
    · rw [List.mem_singleton.mp hy]
      exact hx
  · rw [hp (hall x (by simp))]
    exact hm fun y hy => hall y (List.mem_append_left _ hy)

/-- Every pending nonce was sent out. -/
def PendingChallenged (h : List Event) (v : Verifier) : Prop :=
  ∀ n e, v.nonceStore.pending.lookup (nonceKey n) = some e → Challenged h v n

/-- **Step.** Every call keeps it so. -/
theorem call_pendingChallenged (K : Crypto) {h : List Event} {v : Verifier} (op : Op)
    (hi : PendingChallenged h v) :
    PendingChallenged (h ++ [(op, (call K v op).2)]) (call K v op).1 := by
  intro n e he
  obtain ⟨-, hpol⟩ := call_frame K v op
  rcases call_pending K v op he with ⟨hold, hx⟩ | ⟨env, clientID, c, hop, hans, hk, hm⟩
  · exact (hi n e hold).snoc (hx n rfl) hpol
  · subst hop
    refine ⟨h, env, clientID, c, [], by rw [hans], (nonceKey_inj.mp hk).symm, by simp, fun _ => ?_⟩
    rw [hm, hpol rfl]

/-- **Run.** In every run of a new verifier every pending nonce was sent out. -/
theorem run_pendingChallenged (K : Crypto) (s : Setup) (ops : List Op) :
    PendingChallenged ((attestations K).hist (newVerifier s) ops)
    ((attestations K).run (newVerifier s) ops) := by
  have h0 : PendingChallenged [] (newVerifier s) := by
    intro n e he
    simp [newVerifier, newNonceStoreFromConfig] at he
  exact Machine.hist_inv (M := attestations K) (J := PendingChallenged)
    (fun h v op => call_pendingChallenged K op) ops h0

/-- An authenticated report quotes what the active policy asks for, except
that nothing but the policy makes it quote PCR 14, and PCR 0, 1 and 7 only
where `RequireBootPCRs` is set. -/
theorem authenticated_mask {K : Crypto} {v : Verifier} {env : ReportEnv} {challengeID : String}
    {reportData : Bytes}
    {ns : NonceStore} {ev : Evidence} (ha : Authenticated K v env challengeID reportData ns ev)
    {i : Nat}
    (hi : i < 24) (hb : hasBit v.pcrVerifier.getActivePolicyMask i = true) :
    hasBit ev.id.report.tpm.pcrMask i = true ∨
      v.pcrVerifier.lists i = false ∧
      (i = 14 ∨ v.cfg.requireBootPCRs = false ∧ (i = 0 ∨ i = 1 ∨ i = 7)) := by
  cases hl : v.pcrVerifier.lists i with
  | true => exact .inl (PCRVerifier.verifyReport_listed ha.evident.policy hl)
  | false =>
    have hboot : i = 0 ∨ i = 1 ∨ i = 7 ∨ i = 14 := by
      have := (v.pcrVerifier.getActivePolicyMask_bit hi).mp hb
      rw [hl] at this
      simpa using this
    by_cases h14 : i = 14
    · exact .inr ⟨rfl, .inl h14⟩
    cases hreq : v.cfg.requireBootPCRs with
    | false => exact .inr ⟨rfl, .inr ⟨rfl, by omega⟩⟩
    | true =>
      left
      have hmask : ev.id.report.tpm.pcrMask &&& bootPCRMask = bootPCRMask := by
        have := ha.flags.bootPCRs hreq
        simpa [haveBootPCRs] using this
      refine hasBit_of_and_eq hmask (by omega) ?_
      have hbits : ∀ j < 24, j = 0 ∨ j = 1 ∨ j = 7 ∨ j = 14 → j ≠ 14 →
          bootPCRMask.toNat.testBit j = true := by
        decide
      exact hbits i hi hboot h14

/-- **Challenge and report.** In every run of a new verifier, an accepted
report answers the latest challenge with its nonce. If no policy was added
or activated since, the report quotes every PCR that challenge asked for,
except possibly PCR 14, and PCR 0, 1 and 7 where `RequireBootPCRs` is off,
as far as the active policy does not list them. If the report quotes PCR 14,
the same report with another PCR 14 is rejected. -/
theorem accepted_answers_challenge (K : Crypto) (s : Setup) (ops : List Op) (env : ReportEnv)
    (challengeID : String)
    (reportData : Bytes) (report : AttestationReport) (hr : parseReport reportData = .ok report)
    (h : (verifyReport K ((attestations K).run (newVerifier s) ops) env challengeID
      reportData).2.accepted = true) :
    (∃ before genv clientID c after,
      (attestations K).hist (newVerifier s) ops =
        before ++ (.generateChallenge genv clientID, .challenge (.ok c)) :: after ∧
      c.nonce = report.tpm.nonce ∧ (∀ x ∈ after, issuesNonce report.tpm.nonce x = false) ∧
      ((∀ x ∈ after, x.1.changesPolicy = false) → ∀ i < 24, hasBit c.pcrMask i = true →
        hasBit report.tpm.pcrMask i = true ∨
          ((attestations K).run (newVerifier s) ops).pcrVerifier.lists i = false ∧
            (i = 14 ∨ s.cfg.requireBootPCRs = false ∧ (i = 0 ∨ i = 1 ∨ i = 7)))) ∧
    (hasBit report.tpm.pcrMask 14 = true → ∀ x, x ≠ report.tpm.pcrValues.get 14 →
      NoCollision (pcrString report.tpm.pcrValues report.tpm.pcrMask)
        (pcrString (report.tpm.pcrValues.set 14 x) report.tpm.pcrMask) →
      ∀ v' env' challengeID' reportData', parseReport reportData' = .ok (withPCR report 14 x) →
        (verifyReport K v' env' challengeID' reportData').2.accepted = false) := by
  refine ⟨?_, fun h14 x hx hc v' env' challengeID' reportData' hr' => changed_register_rejected
    (i := 14) hr h h14 hx hc hr'⟩
  obtain ⟨ns, ev, ha, -⟩ := verifyReport_accepted h
  have hrep := ha.report_eq hr
  -- the nonce was pending when the report came
  have hpending : ∃ entry, ((attestations K).run (newVerifier s) ops).nonceStore.pending.lookup
      (nonceKey report.tpm.nonce) = some entry := by
    have hcases :=
      NonceStore.verifyNonce_cases ((attestations K).run (newVerifier s) ops).nonceStore env.nonce
      ev.id.report challengeID ev.id.clientID
    rw [ha.nonce] at hcases
    obtain ⟨-, ⟨⟨e, he⟩, -⟩ | ⟨-, entry, hans⟩⟩ := hcases
    · cases he
    · exact ⟨entry, hrep ▸ hans.pending⟩
  obtain ⟨entry, hpending⟩ := hpending
  obtain ⟨before, genv, clientID, c, after, hh, hn, hlast, hmask⟩ :=
    run_pendingChallenged K s ops _ entry hpending
  refine ⟨before, genv, clientID, c, after, hh, hn, hlast, fun hpol i hi hb => ?_⟩
  rw [hmask hpol] at hb
  have hcover := authenticated_mask ha hi hb
  rw [hrep, run_cfg] at hcover
  exact hcover

/-- A run of a verifier for hosts without the initramfs lock. -/
def sampleSetup (requireBootPCRs : Bool) : Setup where
  cfg := { requireInitramfsLock := false, requireBootPCRs }
  sessionTokenKey := some (Blob.zero 32)

/-- A device that quotes PCR 0, 1, 7 and 14 gets through, and would not with
another PCR 14. -/
theorem accepted_answers_challenge_sample :
    let K := rsaCrypto
    let report := (bootDevice (Blob.zero 32) headerOnlyLog).report
    let ops := [.addPolicy { name := "open" }, .generateChallenge (drawing (Blob.zero 32)) ""]
    let v := (attestations K).run (newVerifier (sampleSetup true)) ops
    (verifyReport K v honestEnv "" (wireReport report)).2.accepted = true ∧
      ∀ x, x ≠ report.tpm.pcrValues.get 14 →
        NoCollision (pcrString report.tpm.pcrValues report.tpm.pcrMask)
          (pcrString (report.tpm.pcrValues.set 14 x) report.tpm.pcrMask) →
        ∀ reportData', parseReport reportData' = .ok (withPCR report 14 x) →
          (verifyReport K v honestEnv "" reportData').2.accepted = false := by
  have hlog : (bootDevice (Blob.zero 32) headerOnlyLog).LogOK := Device.logOK_headerOnly rfl
  have hr := parseReport_wireReport _ (Device.report_wellFormed _ hlog)
  have ha := bootDevice_accepted hlog
  refine ⟨ha, fun x hx hc reportData' hr' => ?_⟩
  have hmain := accepted_answers_challenge rsaCrypto (sampleSetup true)
    [.addPolicy { name := "open" }, .generateChallenge (drawing (Blob.zero 32)) ""]
      honestEnv "" _ _ hr ha
  exact hmain.2 (by decide) x hx hc _ honestEnv "" reportData' hr'

/-- A device that quotes no register at all. -/
def blankDevice (t : PCRTable) : Device where
  nonce := Blob.zero 32
  flags := 0
  agentHash := Blob.zero 32
  pcrValues := t
  pcrMask := 0

/-- A policy that lists PCR 5. -/
def strictPolicy : PCRPolicy where
  name := "strict"
  pcrs := AList.insert 5 "00" ∅

/-- A new verifier with both policies, the strict one active. -/
def strictVerifier : Verifier :=
  (attestations rsaCrypto).run (newVerifier (sampleSetup false))
    [.addPolicy strictPolicy, .addPolicy { name := "open" }]

/-- The strict policy is active for the challenge and no longer for the
report. -/
def switchRun : List Op := [.generateChallenge (drawing (Blob.zero 32)) "", .setActivePolicy "open"]

theorem blankDevice_accepted (t : PCRTable) :
    (verifyReport rsaCrypto ((attestations rsaCrypto).run strictVerifier switchRun) honestEnv ""
      (wireReport (blankDevice t).report)).2.accepted = true := by
  have hcommit : useBootCommitment (blankDevice t).report = false := by
    show hasFlag 0 flagBootCommitmentV1 = false
    decide
  have hlock : useInitramfsLock (blankDevice t).report = false := by
    show hasFlag 0 flagInitramfsLockV1 = false
    decide
  have hidle : Idle strictVerifier.nonceStore [] 0 := idle_new
  have hready : Ready ((attestations rsaCrypto).run strictVerifier switchRun) [] 0 ""
      (blankDevice t) := {
    lenient := ⟨⟨"open", rfl⟩, ⟨_, rfl⟩, rfl, rfl⟩
    waiting := (generate_round hidle (by simp) "" strictVerifier.pcrVerifier.getActivePolicyMask).2
    fresh := by simp
    rate := by decide
    flags := by
      refine ⟨fun h => ?_, fun h => ?_, fun h => ?_⟩
      · rw [hlock] at h
        cases h
      · cases h
      · cases h
    log := Device.logOK_headerOnly rfl }
  exact legacy_accepted hready hcommit (.inl rfl) (Pins.conflict_none rfl _)

/-- A challenge asks for PCR 0, 1, 5, 7 and 14, the report quotes none of
them and is accepted, and it is accepted with any other PCR 14 as well. -/
theorem accepted_without_asked_pcrs :
    ∃ (s : Setup) (before ops : List Op) (genv : GenerateEnv) (c : Challenge)
    (report : AttestationReport),
      let v := (attestations rsaCrypto).run (newVerifier s)
        (before ++ .generateChallenge genv "" :: ops)
      (call rsaCrypto ((attestations rsaCrypto).run (newVerifier s) before)
        (.generateChallenge genv "")).2 = .challenge (.ok c) ∧
      c.nonce = report.tpm.nonce ∧
      (∀ i ∈ [0, 1, 5, 7, 14], hasBit c.pcrMask i = true ∧ hasBit report.tpm.pcrMask i = false) ∧
      (verifyReport rsaCrypto v honestEnv "" (wireReport report)).2.accepted = true ∧
      parseReport (wireReport report) = .ok report ∧
      ∀ x, (verifyReport rsaCrypto v honestEnv "" (wireReport (withPCR report 14 x))).2.accepted =
      true := by
  have hidle : Idle strictVerifier.nonceStore [] 0 := idle_new
  obtain ⟨⟨c, hc, hn, hm⟩, -⟩ :=
    generate_round hidle (n := Blob.zero 32) (by simp) "" strictVerifier.pcrVerifier.getActivePolicyMask
  have hblank : ∀ t : PCRTable, pcrString t 0 = [] := by
    intro t
    rw [pcrString_eq]
    rfl
  refine ⟨sampleSetup false, [.addPolicy strictPolicy, .addPolicy { name := "open" }],
    [.setActivePolicy "open"],
    drawing (Blob.zero 32), c, (blankDevice (List.Vector.replicate 24 (Blob.zero 32))).report,
    congrArg Answer.challenge hc, hn, ?_, blankDevice_accepted _,
    parseReport_wireReport _ (Device.report_wellFormed _ (Device.logOK_headerOnly rfl)), fun x => ?_⟩
  · have hbits : ∀ i ∈ [0, 1, 5, 7, 14], hasBit strictVerifier.pcrVerifier.getActivePolicyMask i =
        true ∧ hasBit 0 i = false := by decide
    rw [hm]
    exact hbits
  · have hr := Device.report_withPCRs (blankDevice (List.Vector.replicate 24 (Blob.zero 32)))
      ((hblank ((List.Vector.replicate 24 (Blob.zero 32)).set 14 x)).trans (hblank _).symm)
    rw [withPCR]
    have hsame : (blankDevice (List.Vector.replicate 24 (Blob.zero 32))).report.tpm.pcrValues =
        List.Vector.replicate 24 (Blob.zero 32) := rfl
    rw [hsame, ← hr]
    exact blankDevice_accepted _

end Lota.L3.Runs

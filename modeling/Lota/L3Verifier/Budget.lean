import Lota.L3Verifier.PinRuns

/-!
# Who spends an identity's rate limit

`VerifyNonce` counts a report against the identity of its AIK certificate,
and `VerifyReport` checks the quote's signature after that. A certificate is
no secret, so the record of an identity can change without its AIK.

Results:
* `verifyNonce_identity`: when a nonce check touches the record of an
  identity.
* `budget_spent_by_signer`: as long as no report without a valid signature
  gets past the rate limit, only signed reports change the counters, and
  nobody else can make the limit refuse a device.
* `unsigned_report_counted`: a report without a quote is counted.
-/
namespace Lota.L3.Runs
open Lota.Core Lota.L1.Report Lota.L1.Attest Lota.L1.EventLog
open Lota.L2 Lota.L2.Nonce
open Lota.L3.Policy Lota.L3.Signature Lota.L3.Verify

/-! ## The record of an identity -/

/-- The window count and the attestation counter of an identity. -/
def budget (ns : NonceStore) (c : String) : Int × UInt64 :=
  let cs := (ns.identityChallenges.lookup c).getD {}
  (cs.windowCount, cs.attestCounter)

/-- The rate limit lets the identity through. -/
def Admits (ns : NonceStore) (c : String) (now : Time) : Prop :=
  ∃ ns', ns.checkIdentityRateLimit c now = .ok ns'

theorem admits_iff {ns : NonceStore} {c : String} {now : Time} :
    Admits ns c now ↔
      let cs := (ns.identityChallenges.lookup c).getD {}
      (cs.windowStart = zeroTime ∨ now - cs.windowStart > ns.rateLimitWindow) ∨
        ¬ cs.windowCount ≥ ns.rateLimitMax := by
  unfold Admits NonceStore.checkIdentityRateLimit
  simp only
  split
  · rename_i h
    exact ⟨fun _ => .inl h, fun _ => ⟨_, rfl⟩⟩
  · rename_i h
    split
    · rename_i hmax
      constructor
      · intro ⟨_, hno⟩
        cases hno
      · intro hor
        rcases hor with hor | hor
        · exact absurd hor h
        · exact absurd hmax hor
    · rename_i hmax
      exact ⟨fun _ => .inr hmax, fun _ => ⟨_, rfl⟩⟩

/-- The report answers a pending challenge in time and on its binding, with
flags the challenge offered, and its identity is within the rate limit. The
quote does not count. -/
structure Charged (ns : NonceStore) (env : VerifyEnv) (report : AttestationReport) (b c : String) :
    Prop where
  unused : ns.usedBackend.contains env.queryFails (nonceKey report.tpm.nonce) = false
  pending : ∃ entry, ns.pending.lookup (nonceKey report.tpm.nonce) = some entry ∧
    env.sinceNow - entry.createdAt ≤ ns.lifetime ∧ (entry.bindingID = "" ∨ entry.bindingID = b) ∧
    entry.nonce = report.tpm.nonce ∧
    NonceStore.verifyChallengeCapabilities report entry.challengeFlags = .ok ()
  rate : Admits ns c env.rateNow

/-- `ns'` differs from `ns` in the record of `c` at most, and keeps the
limits. -/
structure SameIdentities (ns ns' : NonceStore) (c : String) : Prop where
  window : ns'.rateLimitWindow = ns.rateLimitWindow
  max : ns'.rateLimitMax = ns.rateLimitMax
  others : ∀ c', c' ≠ c → ns'.identityChallenges.lookup c' = ns.identityChallenges.lookup c'

theorem releasePending_identities (ns : NonceStore) (b : String) :
    (ns.releasePending b).identityChallenges = ns.identityChallenges ∧
      (ns.releasePending b).rateLimitWindow = ns.rateLimitWindow ∧
      (ns.releasePending b).rateLimitMax = ns.rateLimitMax := by
  rw [release_frame]
  exact ⟨rfl, rfl, rfl⟩

theorem rejectNonce_identities (ns : NonceStore) (env : VerifyEnv) (key : String)
    (entry : NonceEntry) (err : String) :
    (ns.rejectNonce env key entry err).1.identityChallenges = ns.identityChallenges ∧
      (ns.rejectNonce env key entry err).1.rateLimitWindow = ns.rateLimitWindow ∧
      (ns.rejectNonce env key entry err).1.rateLimitMax = ns.rateLimitMax := by
  unfold NonceStore.rejectNonce
  simp only
  rcases ns.usedBackend.record env.recordFault key env.usedNow with ⟨b, e | u⟩
  · exact ⟨rfl, rfl, rfl⟩
  · exact releasePending_identities _ _

theorem consumeNonce_identities (ns : NonceStore) (env : VerifyEnv) (key : String)
    (entry : NonceEntry) (c : String) :
    SameIdentities ns (ns.consumeNonce env key entry c).1 c := by
  unfold NonceStore.consumeNonce
  simp only
  rcases ns.usedBackend.record env.recordFault key env.usedNow with ⟨b, e | u⟩
  · exact ⟨rfl, rfl, fun _ _ => rfl⟩
  · obtain ⟨h1, h2, h3⟩ := releasePending_identities
      { ns with pending := ns.pending.erase key, usedBackend := b } entry.bindingID
    refine ⟨h2, h3, fun c' hne => ?_⟩
    simp only [AList.lookup_insert_ne hne, h1]

theorem checkIdentityRateLimit_identities {ns ns' : NonceStore} {c : String} {now : Time}
    (h : ns.checkIdentityRateLimit c now = .ok ns') : SameIdentities ns ns' c := by
  unfold NonceStore.checkIdentityRateLimit at h
  simp only at h
  split at h
  · cases h
    exact ⟨rfl, rfl, fun c' hne => AList.lookup_insert_ne hne⟩
  · split at h
    · cases h
    · cases h
      exact ⟨rfl, rfl, fun c' hne => AList.lookup_insert_ne hne⟩

/-- **Nonce check.** It leaves every record, or the report is charged to its
own identity. -/
theorem verifyNonce_identity (ns : NonceStore) (env : VerifyEnv) (report : AttestationReport)
    (b c : String) : let ns' := (ns.verifyNonce env report b c).1
    (ns'.identityChallenges = ns.identityChallenges ∧ ns'.rateLimitWindow = ns.rateLimitWindow ∧
      ns'.rateLimitMax = ns.rateLimitMax) ∨
    (Charged ns env report b c ∧ SameIdentities ns ns' c) := by
  unfold NonceStore.verifyNonce
  simp only
  split
  · exact .inl ⟨rfl, rfl, rfl⟩
  · rename_i hunused
    split
    · exact .inl ⟨rfl, rfl, rfl⟩
    · rename_i entry hp
      split
      · exact .inl ⟨rfl, rfl, rfl⟩
      · rename_i hage
        split
        · exact .inl ⟨rfl, rfl, rfl⟩
        · rename_i hbind
          split
          · exact .inl ⟨rfl, rfl, rfl⟩
          · rename_i hnonce
            split
            · exact .inl ⟨rfl, rfl, rfl⟩
            · rename_i hcap
              split
              · exact .inl (rejectNonce_identities _ _ _ _ _)
              · rename_i ns₁ hrate
                have hcharged : Charged ns env report b c := by
                  refine ⟨Bool.eq_false_iff.mpr hunused,
                    ⟨entry, hp, Int.not_lt.mp hage, ?_, not_not.mp hnonce, hcap⟩, ns₁, hrate⟩
                  rcases not_and_or.mp hbind with h | h
                  · exact .inl (not_not.mp h)
                  · exact .inr (not_not.mp h)
                have hsame := checkIdentityRateLimit_identities hrate
                split
                · exact .inr ⟨hcharged, hsame⟩
                · obtain ⟨h1, h2, h3⟩ :=
                    consumeNonce_identities ns₁ env (nonceKey report.tpm.nonce) entry c
                  refine .inr ⟨hcharged, h1.trans hsame.window, h2.trans hsame.max, fun c' hne => ?_⟩
                  rw [h3 c' hne, hsame.others c' hne]

/-! ## Cleaning up -/

theorem deleteIf_lookup {V : Type} (p : V → Bool) (m : GoMap String V) (c : String) :
    (NonceStore.deleteIf p m).lookup c = m.lookup c ∨ (NonceStore.deleteIf p m).lookup c = none := by
  rw [NonceStore.lookup_deleteIf]
  cases m.lookup c with
  | none => exact .inl rfl
  | some v =>
    by_cases hp : p v = true
    · exact .inr (by simp [Option.filter, hp])
    · exact .inl (by simp [Option.filter, hp])

/-- The loop over the pending map leaves the records and the limits. -/
theorem expireLoop_identities (now : Time) (l : List (Sigma fun _ : String => NonceEntry))
    (ns : NonceStore) : let ns' := l.foldl (fun ns e => ns.expirePending now e.1 e.2) ns
    ns'.identityChallenges = ns.identityChallenges ∧ ns'.rateLimitWindow = ns.rateLimitWindow ∧
      ns'.rateLimitMax = ns.rateLimitMax := by
  induction l generalizing ns with
  | nil => exact ⟨rfl, rfl, rfl⟩
  | cons x l ih =>
    have hx : (ns.expirePending now x.1 x.2).identityChallenges = ns.identityChallenges ∧
        (ns.expirePending now x.1 x.2).rateLimitWindow = ns.rateLimitWindow ∧
        (ns.expirePending now x.1 x.2).rateLimitMax = ns.rateLimitMax := by
      unfold NonceStore.expirePending
      split
      · exact releasePending_identities _ _
      · exact ⟨rfl, rfl, rfl⟩
    obtain ⟨h1, h2, h3⟩ := ih (ns.expirePending now x.1 x.2)
    exact ⟨h1.trans hx.1, h2.trans hx.2.1, h3.trans hx.2.2⟩

/-- Cleaning up forgets records and changes none. -/
theorem cleanup_identities (ns : NonceStore) (now : Time) (deleteFails : Bool) (c : String) :
    (ns.cleanup now deleteFails).rateLimitWindow = ns.rateLimitWindow ∧
      (ns.cleanup now deleteFails).rateLimitMax = ns.rateLimitMax ∧
      ((ns.cleanup now deleteFails).identityChallenges.lookup c = ns.identityChallenges.lookup c ∨
        (ns.cleanup now deleteFails).identityChallenges.lookup c = none) := by
  obtain ⟨h1, h2, h3⟩ := expireLoop_identities now ns.pending.entries ns
  refine ⟨h2, h3, ?_⟩
  rw [← h1]
  exact deleteIf_lookup _ _ c

/-! ## Steps -/

theorem generateChallenge_identities (ns : NonceStore) (env : GenerateEnv) (b : String)
    (mask : UInt32) :
    (ns.generateChallenge env b mask).1.identityChallenges = ns.identityChallenges ∧
      (ns.generateChallenge env b mask).1.rateLimitWindow = ns.rateLimitWindow ∧
      (ns.generateChallenge env b mask).1.rateLimitMax = ns.rateLimitMax := by
  have hlimit : ∀ ns', ns.checkPendingLimit b env.limitNow = .ok ns' →
      ns' = { ns with bindingChallenges := ns'.bindingChallenges } := by
    intro ns' h
    unfold NonceStore.checkPendingLimit at h
    split at h
    · split at h
      · cases h
      · cases h
        rfl
    · cases h
      rfl
  unfold NonceStore.generateChallenge
  cases hl : ns.checkPendingLimit b env.limitNow with
  | error e => exact ⟨rfl, rfl, rfl⟩
  | ok ns' =>
    simp only
    rw [hlimit ns' hl]
    split
    · exact ⟨rfl, rfl, rfl⟩
    · exact ⟨rfl, rfl, rfl⟩

/-- A report that `VerifyReport` charges to its identity: the certificate is
good, the device neither revoked nor banned, and the nonce check counts it. -/
def ChargedReport (K : Crypto) (v : Verifier) (env : ReportEnv) (challengeID : String)
    (reportData : Bytes)
    (id : Identity) : Prop :=
  identify K env reportData = .ok id ∧ checkEnforcement v env id = .ok () ∧
    Charged v.nonceStore env.nonce id.report challengeID id.clientID

/-- Only the nonce check touches the nonce store. -/
theorem authenticate_nonceStore {K : Crypto} {v : Verifier} {env : ReportEnv} {challengeID : String}
    {reportData : Bytes}
    {id : Identity} (hid : identify K env reportData = .ok id)
    (henf : checkEnforcement v env id = .ok ()) : (authenticate K v env challengeID reportData).1 =
      (v.nonceStore.verifyNonce env.nonce id.report challengeID id.clientID).1 := by
  unfold authenticate
  simp only [hid, henf]
  split
  · rename_i hn
    rw [hn]
  · rename_i hn
    rw [hn]
    split
    · rfl
    · split
      · rfl
      · rfl

theorem call_nonceStore (K : Crypto) (v : Verifier) (env : ReportEnv) (challengeID : String)
    (reportData : Bytes) : (call K v (.verifyReport env challengeID reportData)).1.nonceStore =
      (authenticate K v env challengeID reportData).1 := by
  simp only [call]
  rw [verifyReport_frame]

theorem authenticate_identity (K : Crypto) (v : Verifier) (env : ReportEnv) (challengeID : String)
    (reportData : Bytes)
    (c : String) :
    let ns' := (authenticate K v env challengeID reportData).1
    ns'.rateLimitWindow = v.nonceStore.rateLimitWindow ∧ ns'.rateLimitMax = v.nonceStore.rateLimitMax ∧
      (ns'.identityChallenges.lookup c = v.nonceStore.identityChallenges.lookup c ∨
        ∃ id, id.clientID = c ∧ ChargedReport K v env challengeID reportData id) := by
  cases hid : identify K env reportData with
  | error r =>
    unfold authenticate
    rw [hid]
    exact ⟨rfl, rfl, .inl rfl⟩
  | ok id =>
    cases henf : checkEnforcement v env id with
    | error r =>
      unfold authenticate
      simp only [hid, henf]
      exact ⟨trivial, trivial, .inl trivial⟩
    | ok u =>
      rw [authenticate_nonceStore hid henf]
      rcases verifyNonce_identity v.nonceStore env.nonce id.report challengeID id.clientID with
        ⟨h1, h2, h3⟩ | ⟨hcharged, hsame⟩
      · exact ⟨h2, h3, .inl (by rw [h1])⟩
      · refine ⟨hsame.window, hsame.max, ?_⟩
        by_cases hc : c = id.clientID
        · exact .inr ⟨id, hc.symm, hid, henf, hcharged⟩
        · exact .inl (hsame.others c hc)

/-- **Step.** What a call does to the record of an identity. -/
theorem call_identity (K : Crypto) (v : Verifier) (op : Op) (c : String) :
    let ns' := (call K v op).1.nonceStore
    ns'.rateLimitWindow = v.nonceStore.rateLimitWindow ∧ ns'.rateLimitMax = v.nonceStore.rateLimitMax ∧
      (ns'.identityChallenges.lookup c = v.nonceStore.identityChallenges.lookup c ∨
        (ns'.identityChallenges.lookup c = none ∧ ∃ now deleteFails, op = .cleanup now deleteFails) ∨
        ∃ env challengeID reportData id, op = .verifyReport env challengeID reportData ∧
        id.clientID = c ∧
          ChargedReport K v env challengeID reportData id) := by
  cases op with
  | generateChallenge env clientID =>
    obtain ⟨h1, h2, h3⟩ :=
      generateChallenge_identities v.nonceStore env clientID v.pcrVerifier.getActivePolicyMask
    refine ⟨h2, h3, .inl ?_⟩
    show (v.nonceStore.generateChallenge env clientID
        v.pcrVerifier.getActivePolicyMask).1.identityChallenges.lookup c = _
    rw [h1]
  | verifyReport env challengeID reportData =>
    simp only
    rw [call_nonceStore]
    obtain ⟨h1, h2, h3 | ⟨id, hc, h3⟩⟩ := authenticate_identity K v env challengeID reportData c
    · exact ⟨h1, h2, .inl h3⟩
    · exact ⟨h1, h2, .inr (.inr ⟨env, challengeID, reportData, id, rfl, hc, h3⟩)⟩
  | cleanup now deleteFails =>
    obtain ⟨h1, h2, h3 | h3⟩ := cleanup_identities v.nonceStore now deleteFails c
    · exact ⟨h1, h2, .inl h3⟩
    · exact ⟨h1, h2, .inr (.inl ⟨h3, now, deleteFails, rfl⟩)⟩
  | _ => exact ⟨rfl, rfl, .inl rfl⟩

/-! ## Runs -/

/-- The call is a report of `c`, signed by the AIK its certificate names. -/
def SignedReport (K : Crypto) (c : String) (op : Op) : Prop :=
  ∃ env challengeID reportData id, op = .verifyReport env challengeID reportData ∧
    identify K env reportData = .ok id ∧ id.clientID = c ∧
    K.verifyReportSignature id.report id.aik = .ok ()

/-- The call is a report without a valid signature that is charged to the
identity of its certificate. -/
def SpendsUnsigned (K : Crypto) (v : Verifier) (op : Op) : Prop :=
  ∃ env challengeID reportData id, op = .verifyReport env challengeID reportData ∧
    ChargedReport K v env challengeID reportData id ∧ K.verifyReportSignature id.report id.aik ≠ .ok ()

/-- `VerifyReport` changes the counters of an identity only for its own
signed reports. -/
def SpentBySigner (K : Crypto) (v : Verifier) (op : Op) : Prop :=
  ∀ env challengeID reportData, op = .verifyReport env challengeID reportData →
    ∀ c, budget (call K v op).1.nonceStore c ≠ budget v.nonceStore c → SignedReport K c op

theorem charged_signed {K : Crypto} {v : Verifier} {env : ReportEnv} {challengeID : String}
    {reportData : Bytes}
    {id : Identity} (hs : ¬ SpendsUnsigned K v (.verifyReport env challengeID reportData))
    (h : ChargedReport K v env challengeID reportData id) :
    SignedReport K id.clientID (.verifyReport env challengeID reportData) := by
  refine ⟨env, challengeID, reportData, id, rfl, h.1, rfl, ?_⟩
  by_contra hsig
  exact hs ⟨env, challengeID, reportData, id, rfl, h, hsig⟩

theorem call_spentBySigner {K : Crypto} {v : Verifier} {op : Op} (hs : ¬ SpendsUnsigned K v op) :
    SpentBySigner K v op := by
  intro env challengeID reportData hop c hne
  obtain ⟨-, -, hsame | ⟨-, now, deleteFails, hcl⟩ | ⟨env', challengeID', reportData', id, hop',
      hc, hcharged⟩⟩ :=
    call_identity K v op c
  · exact absurd (by unfold budget; rw [hsame]) hne
  · rw [hop] at hcl
    cases hcl
  · subst hop' hc
    exact charged_signed hs hcharged

/-- The record of `c` is the one of `ns₀`, or forgotten, under the same
limits. -/
structure Untouched (ns₀ : NonceStore) (c : String) (ns : NonceStore) : Prop where
  window : ns.rateLimitWindow = ns₀.rateLimitWindow
  max : ns.rateLimitMax = ns₀.rateLimitMax
  record : ns.identityChallenges.lookup c = ns₀.identityChallenges.lookup c ∨
    ns.identityChallenges.lookup c = none

/-- An identity without a record starts a new window. -/
theorem Untouched.admits {ns₀ ns : NonceStore} {c : String} {now : Time} (h : Untouched ns₀ c ns)
    (ha : Admits ns₀ c now) : Admits ns c now := by
  rw [admits_iff] at ha ⊢
  rw [h.window, h.max]
  rcases h.record with hr | hr
  · rw [hr]
    exact ha
  · rw [hr]
    exact .inl (.inl rfl)

theorem call_untouched {K : Crypto} {ns₀ : NonceStore} {c : String} {v : Verifier} {op : Op}
    (h : Untouched ns₀ c v.nonceStore) (hs : ¬ SpendsUnsigned K v op) (hc : ¬ SignedReport K c op) :
    Untouched ns₀ c (call K v op).1.nonceStore := by
  obtain ⟨h1, h2, h3⟩ := call_identity K v op c
  refine ⟨h1.trans h.window, h2.trans h.max, ?_⟩
  rcases h3 with hsame | ⟨hnone, -⟩ | ⟨env, challengeID, reportData, id, hop, hid, hcharged⟩
  · rw [hsame]
    exact h.record
  · exact .inr hnone
  · subst hop hid
    exact absurd (charged_signed hs hcharged) hc

/-- **Rate limit.** In every run in which no unsigned report is charged, the
counters of an identity change only while its own signed reports are
processed. Without such a report nothing in the run makes the rate limit
refuse the identity when it would have let it through before. -/
theorem budget_spent_by_signer (K : Crypto) (v : Verifier) (ops : List Op)
    (hsteps : (attestations K).AllSteps (fun v op => ¬ SpendsUnsigned K v op) v ops) :
    (attestations K).AllSteps (SpentBySigner K) v ops ∧
      ∀ c now, (∀ op ∈ ops, ¬ SignedReport K c op) → Admits v.nonceStore c now →
        Admits ((attestations K).run v ops).nonceStore c now := by
  refine ⟨Machine.allSteps_mono (fun v op h => call_spentBySigner h) hsteps, fun c now hops ha => ?_⟩
  have hrun : ∀ (ops : List Op) (w : Verifier),
      (attestations K).AllSteps (fun v op => ¬ SpendsUnsigned K v op) w ops →
      (∀ op ∈ ops, ¬ SignedReport K c op) → Untouched v.nonceStore c w.nonceStore →
      Untouched v.nonceStore c ((attestations K).run w ops).nonceStore := by
    intro ops
    induction ops with
    | nil => exact fun w _ _ h => h
    | cons op ops ih =>
      intro w hs hc h
      exact ih _ hs.2 (fun o ho => hc o (List.mem_cons_of_mem _ ho))
        (call_untouched h hs.1 (hc op (List.mem_cons_self ..)))
  exact (hrun ops v hsteps hops ⟨rfl, rfl, .inl rfl⟩).admits ha

theorem report_not_unsigned (v : Verifier) {d : Device} (hlog : d.LogOK) :
    ¬ SpendsUnsigned rsaCrypto v (.verifyReport honestEnv "" (wireReport d.report)) := by
  intro ⟨env, challengeID, reportData, id, hop, hcharged, hsig⟩
  obtain ⟨henv, -, hdata⟩ := Op.verifyReport.inj hop
  have hid := hcharged.1
  rw [← henv, ← hdata, identify_of_identified (d.identified rfl hlog)] at hid
  rw [← Except.ok.inj hid] at hsig
  exact hsig (verifyReportSignature_rsa d.report_signed)

/-- A challenge to a device and its own report. -/
theorem budget_spent_by_signer_device :
    (attestations rsaCrypto).AllSteps (SpentBySigner rsaCrypto) (openVerifier (laxConfig false))
      [.generateChallenge (drawing nonce1) "",
        .verifyReport honestEnv "" (wireReport (commitDevice nonce1 agentA).report)] := by
  refine (budget_spent_by_signer rsaCrypto (openVerifier (laxConfig false))
    [.generateChallenge (drawing nonce1) "",
      .verifyReport honestEnv "" (wireReport (commitDevice nonce1 agentA).report)] ⟨?_, ?_, trivial⟩).1
  · intro ⟨_, _, _, _, hop, _⟩
    cases hop
  · exact report_not_unsigned _ (Device.logOK_headerOnly rfl)

/-! ### A report without a quote -/

/-- The report of a device, with its certificate and without its quote. -/
def unsigned (d : Device) : AttestationReport :=
  { d.report with tpm := { d.report.tpm with attestSize := 0, quoteSigSize := 0 } }

theorem unsigned_wellFormed {d : Device} (hlog : d.LogOK) : WellFormed (unsigned d) where
  magic := rfl
  version := rfl
  quoteSig := by simp [unsigned]
  attest := by simp [unsigned]
  aikPublic := by simp [unsigned, Device.report, maxAIKPubSize]
  aikCert := by simp [unsigned, Device.report, maxAIKCertSize]
  ekCert := by simp [unsigned, Device.report, Device.draft, maxEKCertSize]
  prevAIK := by simp [unsigned, Device.report, Device.draft, maxAIKPubSize]
  eventLog := hlog.short

theorem unsigned_aikPublic (d : Device) :
    (unsigned d).tpm.aikPublic.toList.take (unsigned d).tpm.aikPublicSize.toNat = marshalSPKI d.aik.n :=
  toBlob_take (k := 292) (marshalSPKI_length _) (by decide)

theorem unsigned_aikCertificate (d : Device) :
    (unsigned d).tpm.aikCertificate.toList.take (unsigned d).tpm.aikCertSize.toNat =
    (Device.fingerprint d.aik).toList :=
  toBlob_take (k := 32) (List.Vector.toList_length _) (by decide)

theorem unsigned_identified {d : Device} (hlog : d.LogOK) :
    identify rsaCrypto honestEnv (wireReport (unsigned d)) =
    .ok { d.identity with report := unsigned d } := by
  apply identify_of_identified
  refine ⟨parseReport_wireReport _ (unsigned_wellFormed hlog), rfl, ?_, ?_, ?_,
    ⟨Device.knownAIK, rfl, ?_⟩, Device.decodeDevicePseudonym_name⟩
  · show (292 : UInt16) ≠ 0
    decide
  · simp only
    rw [unsigned_aikPublic]
    exact parseRSAPublicKey_rsa d.quoteDigest
  · show (32 : UInt16) ≠ 0
    decide
  · simp only
    rw [unsigned_aikCertificate]
    exact if_pos rfl

theorem unsigned_signature (d : Device) (key : RSAPublicKey) :
    rsaCrypto.verifyReportSignature (unsigned d) key = .error "no signature in report" := by
  unfold Crypto.verifyReportSignature
  exact if_pos rfl

theorem unsigned_not_signed {d : Device} (hlog : d.LogOK) {c : String} :
    ¬ SignedReport rsaCrypto c (.verifyReport honestEnv "" (wireReport (unsigned d))) := by
  intro ⟨env, challengeID, reportData, id, hop, hid, _, hsig⟩
  obtain ⟨henv, -, hdata⟩ := Op.verifyReport.inj hop
  rw [← henv, ← hdata, unsigned_identified hlog] at hid
  have hreport : id.report = unsigned d := congrArg Identity.report (Except.ok.inj hid).symm
  rw [hreport, unsigned_signature] at hsig
  cases hsig

/-- A report to the pending challenge opens the window of a new identity,
whatever its quote is. -/
theorem verifyNonce_counts {ns : NonceStore} {used : List Nonce} {k : Int} {b c e : String}
    {report : AttestationReport}
    (hw : Waiting ns used k report.tpm.nonce b) (hn : report.tpm.nonce ∉ used)
    (hnew : ns.identityChallenges.lookup c = none)
    (hquote : NonceStore.checkQuoteNonce report report.tpm.nonce = .error e) :
    budget (ns.verifyNonce {} report b c).1 c = (1, 0) := by
  obtain ⟨entry, -, -, hverify⟩ := verifyNonce_waiting hw hn c
  have hrate : ns.checkIdentityRateLimit c 0 =
      .ok { ns with identityChallenges := ns.identityChallenges.insert c
                      { windowStart := 0, windowCount := 1 } } := by
    unfold NonceStore.checkIdentityRateLimit
    rw [hnew]
    rfl
  rw [hverify, hrate, hquote]
  simp only [budget, AList.lookup_insert, Option.getD_some]

theorem unsigned_counted {ns : NonceStore} {used : List Nonce} {k : Int} {b c : String} {d : Device}
    (hw : Waiting ns used k d.nonce b) (hn : d.nonce ∉ used)
    (hnew : ns.identityChallenges.lookup c = none) :
    budget (ns.verifyNonce {} (unsigned d) b c).1 c = (1, 0) := by
  have hnonce : (unsigned d).tpm.nonce = d.nonce := rfl
  have hquote : NonceStore.checkQuoteNonce (unsigned d) (unsigned d).tpm.nonce =
      .error "no attestation data - cannot verify nonce binding" := by
    unfold NonceStore.checkQuoteNonce
    exact if_pos rfl
  rw [← hnonce] at hw hn
  exact verifyNonce_counts hw hn hnew hquote

theorem challengeTo_identities (v : Verifier) (d : Device) :
    (run v (challengeTo d)).nonceStore.identityChallenges = v.nonceStore.identityChallenges :=
  (generateChallenge_identities v.nonceStore (drawing d.nonce) "" v.pcrVerifier.getActivePolicyMask).1

/-- The verifier counts it. -/
theorem call_unsigned {v : Verifier} {used : List Nonce} {k : Int} {d : Device}
    (h : Ready v used k "" d)
    (hnew : v.nonceStore.identityChallenges.lookup Device.name = none) :
    budget (call rsaCrypto v (.verifyReport honestEnv "" (wireReport (unsigned d)))).1.nonceStore
    Device.name = (1, 0) := by
  have henf : checkEnforcement v honestEnv { d.identity with report := unsigned d } = .ok () := by
    unfold checkEnforcement
    simp only [h.lenient.revocations, h.lenient.bans, Option.bind_none]
  rw [call_nonceStore, authenticate_nonceStore (unsigned_identified h.log) henf]
  exact unsigned_counted h.waiting h.fresh hnew

theorem unsigned_spends {v : Verifier} {used : List Nonce} {k : Int} {d : Device}
    (h : Ready v used k "" d)
    (hnew : v.nonceStore.identityChallenges.lookup Device.name = none) :
    ¬ SpentBySigner rsaCrypto v (.verifyReport honestEnv "" (wireReport (unsigned d))) := by
  intro hs
  have hold : budget v.nonceStore Device.name = (0, 0) := by
    unfold budget
    rw [hnew]
    rfl
  refine unsigned_not_signed h.log (hs honestEnv "" _ rfl Device.name ?_)
  rw [call_unsigned h hnew, hold]
  decide

theorem unsigned_run {v : Verifier} {used : List Nonce} {k : Int} {d : Device} (h : Ready v used k "" d)
    (hnew : v.nonceStore.identityChallenges.lookup Device.name = none) :
    ∃ (v : Verifier) (ops : List Op), ¬ (attestations rsaCrypto).AllSteps
    (SpentBySigner rsaCrypto) v ops :=
  ⟨v, [_], fun hall => unsigned_spends h hnew hall.1⟩

theorem openVerifier_identities (d : Device) :
    (run (openVerifier (laxConfig false)) (challengeTo d)).nonceStore.identityChallenges.lookup
    Device.name = none := by
  rw [challengeTo_identities]
  rfl

/-- Whoever has the certificate of a device can have a report without a
quote counted against it. -/
theorem unsigned_report_counted :
    ∃ (v : Verifier) (ops : List Op), ¬ (attestations rsaCrypto).AllSteps
    (SpentBySigner rsaCrypto) v ops :=
  unsigned_run pinned_ready (openVerifier_identities (commitDevice nonce1 agentA))

end Lota.L3.Runs

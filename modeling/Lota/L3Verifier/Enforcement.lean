import Lota.L3Verifier.Budget

/-!
# Revoked and banned devices

The administration revokes AIKs and bans hardware while reports come in.
`VerifyReport` asks both stores before it uses up the nonce; the stores
answer `(entry, bool)`, so a query that fails looks like a device without an
entry.

Results:
* `run_recorded`: an entry stays until it is taken back.
* `recorded_never_accepted`: in every history in which some entry of a
  recorded device can be read, the device is not accepted.
* `unread_revocation_accepted`: one failing query lets a revoked device in.
-/
namespace Lota.L3.Runs
open Lota.Core Lota.L1.Report Lota.L1.Attest Lota.L1.EventLog
open Lota.L2 Lota.L2.Nonce Lota.L2.Revocation
open Lota.L3.Policy Lota.L3.Signature Lota.L3.Verify

inductive AdminOp where
  | call (op : Op)
  | revoke (f : EnforceFaults) (clientID : String) (reason : RevocationReason)
    (revokedBy note : String) (now : Time)
  | unrevoke (f : EnforceFaults) (clientID : String)
  | ban (f : EnforceFaults) (hardwareID : Blob 32) (reason : RevocationReason)
    (bannedBy note : String) (now : Time)
  | unban (f : EnforceFaults) (hardwareID : Blob 32)

/-- A call on a store that is not configured does nothing. -/
def adminCall (K : Crypto) (v : Verifier) : AdminOp → Verifier × Answer
  | .call op => call K v op
  | .revoke f clientID reason revokedBy note now =>
    ({ v with revocationStore := v.revocationStore.map
                fun s => (s.revoke f clientID reason revokedBy note now).1 }, .done)
  | .unrevoke f clientID =>
    ({ v with revocationStore := v.revocationStore.map fun s => (s.unrevoke f clientID).1 }, .done)
  | .ban f hardwareID reason bannedBy note now =>
    ({ v with banStore := v.banStore.map
                fun s => (s.banHardware f hardwareID reason bannedBy note now).1 }, .done)
  | .unban f hardwareID =>
    ({ v with banStore := v.banStore.map fun s => (s.unbanHardware f hardwareID).1 }, .done)

def administration (K : Crypto) : Machine Verifier AdminOp Answer := ⟨adminCall K⟩

/-- The revocation store has an entry for the client. -/
def Revoked (v : Verifier) (clientID : String) : Prop :=
  ∃ s e, v.revocationStore = some s ∧ s.entries.lookup clientID = some e

/-- The ban store has an entry for the hardware. -/
def Banned (v : Verifier) (hardwareID : Blob 32) : Prop :=
  ∃ s e, v.banStore = some s ∧ s.entries.lookup hardwareID = some e

/-! ## Entries stay -/

/-- The operations that may take an entry of the device back. -/
def AdminOp.releases (clientID : String) (hardwareID : Blob 32) : AdminOp → Bool
  | .call (.enforce ..) => true
  | .unrevoke _ c => c = clientID
  | .unban _ h => h = hardwareID
  | _ => false

theorem call_stores (K : Crypto) (v : Verifier) {op : Op} (h : ∀ r b, op ≠ .enforce r b) :
    (call K v op).1.revocationStore = v.revocationStore ∧ (call K v op).1.banStore = v.banStore := by
  cases op with
  | verifyReport env challengeID reportData =>
    have hf : (call K v (.verifyReport env challengeID reportData)).1 = _ := verifyReport_frame
    rw [hf]
    exact ⟨rfl, rfl⟩
  | enforce r b => exact absurd rfl (h r b)
  | _ => exact ⟨rfl, rfl⟩

/-- **Step.** Whatever else the administration does, an entry stays. -/
theorem adminCall_recorded (K : Crypto) {v : Verifier} {op : AdminOp} {c : String} {hw : Blob 32}
    (hr : op.releases c hw = false) :
    (Revoked v c → Revoked (adminCall K v op).1 c) ∧
    (Banned v hw → Banned (adminCall K v op).1 hw) := by
  cases op with
  | call op =>
    have hop : ∀ r b, op ≠ .enforce r b := by
      intro r b h
      rw [h] at hr
      cases hr
    obtain ⟨h1, h2⟩ := call_stores K v hop
    refine ⟨fun ⟨s, e, hs, he⟩ => ⟨s, e, h1.trans hs, he⟩,
      fun ⟨s, e, hs, he⟩ => ⟨s, e, h2.trans hs, he⟩⟩
  | revoke f clientID reason revokedBy note now =>
    refine ⟨fun ⟨s, e, hs, he⟩ => ?_, fun h => h⟩
    exact ⟨(s.revoke f clientID reason revokedBy note now).1, e,
      by simp only [adminCall, hs, Option.map_some], (s.add_lookup f clientID _ _).1 c e he⟩
  | unrevoke f clientID =>
    refine ⟨fun ⟨s, e, hs, he⟩ => ?_, fun h => h⟩
    have hne : c ≠ clientID := fun h => by simp [AdminOp.releases, h] at hr
    exact ⟨(s.unrevoke f clientID).1, e, by simp only [adminCall, hs, Option.map_some],
      (s.remove_lookup f _ _ hne).trans he⟩
  | ban f hardwareID reason bannedBy note now =>
    refine ⟨fun h => h, fun ⟨s, e, hs, he⟩ => ?_⟩
    exact ⟨(s.banHardware f hardwareID reason bannedBy note now).1, e,
      by simp only [adminCall, hs, Option.map_some], (s.add_lookup f hardwareID _ _).1 hw e he⟩
  | unban f hardwareID =>
    refine ⟨fun h => h, fun ⟨s, e, hs, he⟩ => ?_⟩
    have hne : hw ≠ hardwareID := fun h => by simp [AdminOp.releases, h] at hr
    exact ⟨(s.unbanHardware f hardwareID).1, e, by simp only [adminCall, hs, Option.map_some],
      (s.remove_lookup f _ _ hne).trans he⟩

/-- **Run.** A device is recorded until its entry is taken back. -/
theorem run_recorded (K : Crypto) {v : Verifier} {ops : List AdminOp} {c : String} {hw : Blob 32}
    (hr : ∀ op ∈ ops, op.releases c hw = false) :
    (Revoked v c → Revoked ((administration K).run v ops) c) ∧
    (Banned v hw → Banned ((administration K).run v ops) hw) := by
  induction ops generalizing v with
  | nil => exact ⟨fun h => h, fun h => h⟩
  | cons op ops ih =>
    obtain ⟨h1, h2⟩ := adminCall_recorded K (v := v) (hr op (List.mem_cons_self ..))
    obtain ⟨h3, h4⟩ := ih (v := (adminCall K v op).1) fun o ho => hr o (List.mem_cons_of_mem _ ho)
    exact ⟨fun h => h3 (h1 h), fun h => h4 (h2 h)⟩

/-! ## Recorded devices -/

/-- `VerifyReport` does not accept a device with an entry. -/
def Enforced (K : Crypto) (v : Verifier) (op : AdminOp) : Prop :=
  ∀ env challengeID reportData id, op = .call (.verifyReport env challengeID reportData) →
    identify K env reportData = .ok id → Revoked v id.clientID ∨ Banned v id.hardwareID →
    (verifyReport K v env challengeID reportData).2.accepted = false

/-- The call is a report of a device with an entry, and the query of every
store that has one fails. Only SQLite queries fail. -/
def EntryMissed (K : Crypto) (v : Verifier) (op : AdminOp) : Prop :=
  ∃ env challengeID reportData id, op = .call (.verifyReport env challengeID reportData) ∧
    identify K env reportData = .ok id ∧ (Revoked v id.clientID ∨ Banned v id.hardwareID) ∧
    (Revoked v id.clientID → (∃ t, v.revocationStore = some (.sqlite t)) ∧ env.revocationFails = true) ∧
    (Banned v id.hardwareID → (∃ t, v.banStore = some (.sqlite t)) ∧ env.banFails = true)

/-- A device that passes the gate has no entry that was read. -/
theorem checkEnforcement_missed {v : Verifier} {env : ReportEnv} {id : Identity}
    (h : checkEnforcement v env id = .ok ()) :
    (Revoked v id.clientID → (∃ t, v.revocationStore = some (.sqlite t)) ∧ env.revocationFails = true) ∧
      (Banned v id.hardwareID → (∃ t, v.banStore = some (.sqlite t)) ∧ env.banFails = true) := by
  unfold checkEnforcement at h
  split at h
  · cases h
  · rename_i hrev
    split at h
    · cases h
    · rename_i hban
      constructor
      · intro ⟨s, e, hs, he⟩
        rw [hs, Option.bind_some] at hrev
        obtain ⟨⟨t, ht⟩, hf⟩ := (EntryStore.query_none_iff he).mp hrev
        exact ⟨⟨t, by rw [hs, ht]⟩, hf⟩
      · intro ⟨s, e, hs, he⟩
        rw [hs, Option.bind_some] at hban
        obtain ⟨⟨t, ht⟩, hf⟩ := (EntryStore.query_none_iff he).mp hban
        exact ⟨⟨t, by rw [hs, ht]⟩, hf⟩

theorem call_enforced {K : Crypto} {v : Verifier} {op : AdminOp} (h : ¬ EntryMissed K v op) :
    Enforced K v op := by
  intro env challengeID reportData id hop hid hrec
  refine Bool.eq_false_iff.mpr fun ha => h ?_
  obtain ⟨ns, ev, hauth, -⟩ := verifyReport_accepted ha
  have hev := hauth.id_eq hid
  subst hev
  exact ⟨env, challengeID, reportData, ev.id, hop, hid, hrec, checkEnforcement_missed hauth.enforcement⟩

/-- **Enforcement.** For both kinds of revocation and ban stores and in every
history of revocations, bans, their withdrawal and reports, `VerifyReport`
accepts no device with an entry as long as some entry of it can be read. -/
theorem recorded_never_accepted (K : Crypto) (v : Verifier) (ops : List AdminOp)
    (hsteps : (administration K).AllSteps (fun v op => ¬ EntryMissed K v op) v ops) :
    (administration K).AllSteps (Enforced K) v ops :=
  Machine.allSteps_mono (fun _ _ h => call_enforced h) hsteps

/-! ### A failing query -/

def revokedEntry : RevocationEntry where
  clientID := Device.name
  reason := .cheating
  revokedAt := 0
  revokedBy := "admin"
  note := ""

/-- The device is revoked in a SQLite store. -/
def revokedIn (v : Verifier) : Verifier :=
  { v with revocationStore := some (.sqlite (AList.insert Device.name revokedEntry ∅)) }

/-- The query of the revocation store fails. -/
def busyEnv : ReportEnv := { honestEnv with revocationFails := true }

theorem revokedIn_revoked (v : Verifier) : Revoked (revokedIn v) Device.name :=
  ⟨_, _, rfl, AList.lookup_insert _⟩

/-- With a query that works the entry is not missed. -/
theorem revokedIn_read (v : Verifier) {d : Device} (hlog : d.LogOK) :
    ¬ EntryMissed rsaCrypto (revokedIn v)
    (.call (.verifyReport honestEnv "" (wireReport d.report))) := by
  intro ⟨env, challengeID, reportData, id, hop, hid, _, hrev, _⟩
  obtain ⟨henv, -, hdata⟩ := Op.verifyReport.inj (AdminOp.call.inj hop)
  rw [← henv, ← hdata, identify_of_identified (d.identified rfl hlog)] at hid
  have hname : id.clientID = Device.name := congrArg Identity.clientID (Except.ok.inj hid).symm
  have hfails := (hrev (hname ▸ revokedIn_revoked v)).2
  rw [← henv] at hfails
  cases hfails

/-- The revoked device is refused. -/
theorem recorded_never_accepted_revoked :
    Revoked (revokedIn (challenged (Blob.zero 32))) Device.name ∧
      (administration rsaCrypto).AllSteps (Enforced rsaCrypto) (revokedIn (challenged (Blob.zero 32)))
        [.call (.verifyReport honestEnv ""
          (wireReport (bootDevice (Blob.zero 32) headerOnlyLog).report))] := by
  refine ⟨revokedIn_revoked _, recorded_never_accepted rsaCrypto _ _ ⟨?_, trivial⟩⟩
  exact revokedIn_read _ (Device.logOK_headerOnly rfl)

/-- A device that would be accepted without the entry is accepted with it
when the query fails. -/
theorem revoked_authenticated {v : Verifier} {used : List Nonce} {k : Int} {b : String} {d : Device}
    (h : Ready v used k b d) :
    ∃ ns, Authenticated rsaCrypto (revokedIn v) busyEnv b (wireReport d.report) ns d.evidence := by
  obtain ⟨ns, ⟨hid, -, hnonce, hev, hflags⟩, -⟩ := genuine_authenticated h
  refine ⟨ns, ⟨hid.parsed, hid.sizes, hid.aikSize, hid.aik, hid.certSize, hid.cert, hid.hardwareID⟩,
    ?_, hnonce, ⟨hev.signature, hev.quote, hev.policy, hev.eventLog⟩, hflags⟩
  unfold checkEnforcement
  have hquery : (revokedIn v).revocationStore.bind
      (fun s => s.isRevoked busyEnv.revocationFails d.evidence.id.clientID) = none := rfl
  have hbans : (revokedIn v).banStore = none := h.lenient.bans
  simp only [hquery, hbans, Option.bind_none]

theorem revoked_accepted {v : Verifier} {used : List Nonce} {k : Int} {b : String} {d : Device}
    (h : Ready v used k b d) (hflag : useBootCommitment d.report = false)
    (hrow : (v.baselineStore.pins Device.name).pcr14 = none)
    (hboot : (v.baselineStore.pins Device.name).conflict (bootPCRsOf d.report) = false) :
    (verifyReport rsaCrypto (revokedIn v) busyEnv b (wireReport d.report)).2.accepted = true := by
  obtain ⟨ns, ha⟩ := revoked_authenticated h
  obtain ⟨key, hkey⟩ := h.lenient.key
  refine verifyReport_accepts ha ?_ hkey
  rw [show pinBaseline (revokedIn v) busyEnv d.evidence = pinLegacy (revokedIn v) busyEnv
    d.evidence from pinBaseline_legacy hflag]
  exact pinLegacy_accepts (v := revokedIn v) (legacyServed_honest v Device.name) (.inl hrow) hboot

/-- A revoked device is accepted when the query of the revocation store
fails. -/
theorem unread_revocation_accepted :
    ∃ (v : Verifier) (ops : List AdminOp), ¬ (administration rsaCrypto).AllSteps
    (Enforced rsaCrypto) v ops := by
  have hlog : (bootDevice (Blob.zero 32) headerOnlyLog).LogOK := Device.logOK_headerOnly rfl
  have ha :=
    revoked_accepted (bootDevice_ready hlog) (bootDevice_legacy _ _) rfl (Pins.conflict_none rfl _)
  have hid : identify rsaCrypto busyEnv (wireReport (bootDevice (Blob.zero 32) headerOnlyLog).report) =
      .ok (bootDevice (Blob.zero 32) headerOnlyLog).identity :=
        identify_of_identified (Device.identified _ rfl hlog)
  refine ⟨revokedIn (challenged (Blob.zero 32)),
    [.call (.verifyReport busyEnv ""
      (wireReport (bootDevice (Blob.zero 32) headerOnlyLog).report))], fun hall => ?_⟩
  have hno := hall.1 busyEnv "" _ _ rfl hid (.inl (revokedIn_revoked _))
  rw [ha] at hno
  cases hno

end Lota.L3.Runs

import Lota.L1Wire.ReportC
import Lota.L2Store.Nonce

/-!
# Pending challenges and their counts (`verifier/verify/nonce.go`)

`GenerateChallenge` refuses a binding whose `pendingCount` has reached
`maxPending`. The count is kept apart from the pending map, and every exit
that removes a nonce has to keep the two in step.

* `verifyNonce_counts`: what a `VerifyNonce` call does to both.
* `call_accounted`: a call keeps the counts right unless it leaks, and a leak
  puts them wrong.
* `pending_accounted_iff`: over every run, the counts are right in every
  state exactly when no call leaks.
* `expired_leaks`: one late report, and the binding gets no challenge again.
-/
namespace Lota.L2.NonceCounts
open Lota.Core Lota.L1 Lota.L1.Report Lota.L2.Nonce

/-! ## The counts -/

/-- The entries of the pending map that were issued for the binding. -/
def pendingFor (ns : NonceStore) (b : String) : Nat := countValues (fun e => e.bindingID = b) ns.pending

/-- The recorded `pendingCount`; a binding without a record has none. -/
def recorded (cs : GoMap String ClientState) (b : String) : Int := ((cs.lookup b).getD {}).pendingCount

def Accounted (ns : NonceStore) : Prop := ∀ b, recorded ns.bindingChallenges b = pendingFor ns b

/-- A `Record` call that reports an error. -/
def recordFails (b : UsedNonceBackend) (fault : Option String) : Prop :=
  match b, fault with
  | .sqlite _, some _ => True
  | _, _ => False

/-- The pending nonce of `entry` is taken out of the map and not released: it
has expired, or it is spent (by the rate limit or by a good quote) and the
record of it fails. -/
def Lost (ns : NonceStore) (env : VerifyEnv) (report : AttestationReport)
    (bindingID identityID : String)
    (entry : NonceEntry) : Prop :=
  env.sinceNow - entry.createdAt > ns.lifetime ∨
    ((entry.bindingID = "" ∨ entry.bindingID = bindingID) ∧ entry.nonce = report.tpm.nonce ∧
      NonceStore.verifyChallengeCapabilities report entry.challengeFlags = .ok () ∧
      recordFails ns.usedBackend env.recordFault ∧
      ((∃ e, ns.checkIdentityRateLimit identityID env.rateNow = .error e) ∨
        NonceStore.checkQuoteNonce report entry.nonce = .ok ()))

/-- The call loses the nonce that it finds. -/
def Leaks (ns : NonceStore) (env : VerifyEnv) (report : AttestationReport)
    (bindingID identityID : String) : Prop :=
  ns.usedBackend.contains env.queryFails (nonceKey report.tpm.nonce) = false ∧
  ∃ entry, ns.pending.lookup (nonceKey report.tpm.nonce) = some entry ∧
  Lost ns env report bindingID identityID entry

def NoLeak (ns : NonceStore) : Op → Prop
  | .verifyNonce env report b id => ¬ Leaks ns env report b id
  | _ => True

/-! ## What a call does to both -/

section
variable {ns : NonceStore} {env : VerifyEnv} {report : AttestationReport} {b id : String}

/-- How a call ends that finds the pending entry: the store as it was, the
nonce gone and released, or the nonce gone and not released. -/
inductive Taken (ns ns' : NonceStore) (key bindingID : String) (lost : Prop) : Prop where
  | kept (hl : ¬ lost) (hp : ns'.pending = ns.pending)
    (hb : ns'.bindingChallenges = ns.bindingChallenges)
  | released (hl : ¬ lost) (hp : ns'.pending = ns.pending.erase key)
      (hb : ns'.bindingChallenges = (ns.releasePending bindingID).bindingChallenges)
  | leaked (hl : lost) (hp : ns'.pending = ns.pending.erase key)
    (hb : ns'.bindingChallenges = ns.bindingChallenges)

theorem releasePending_congr {ns ns' : NonceStore}
    (h : ns.bindingChallenges = ns'.bindingChallenges) (b : String) :
    (ns.releasePending b).bindingChallenges = (ns'.releasePending b).bindingChallenges := by
  unfold NonceStore.releasePending
  rw [h]
  split
  · exact h
  · rfl

/-- `Record` reports an error or it does not, and the caller cannot tell the
backends apart otherwise. -/
theorem record_cases (u : UsedNonceBackend) (fault : Option String) (key : String) (now : Time) :
    (recordFails u fault ∧ ∃ u' e, u.record fault key now = (u', .error e)) ∨
    (¬ recordFails u fault ∧ ∃ u', u.record fault key now = (u', .ok ())) := by
  cases u <;> cases fault <;> simp [UsedNonceBackend.record, recordFails]

theorem rejectNonce_taken (key : String) (entry : NonceEntry) (err : String) {lost : Prop}
    (hl : lost ↔ recordFails ns.usedBackend env.recordFault) :
    Taken ns (ns.rejectNonce env key entry err).1 key entry.bindingID lost := by
  unfold NonceStore.rejectNonce
  simp only
  obtain ⟨hf, u, e, hr⟩ | ⟨hf, u, hr⟩ := record_cases ns.usedBackend env.recordFault key env.usedNow
  · rw [hr]
    exact .leaked (hl.mpr hf) rfl rfl
  · rw [hr]
    exact .released (fun h => hf (hl.mp h)) (NonceStore.releasePending_pending _ _)
      (@releasePending_congr { ns with pending := ns.pending.erase key, usedBackend := u } ns
        rfl entry.bindingID)

theorem consumeNonce_taken (key : String) (entry : NonceEntry) {lost : Prop}
    (hl : lost ↔ recordFails ns.usedBackend env.recordFault) :
    Taken ns (ns.consumeNonce env key entry id).1 key entry.bindingID lost := by
  unfold NonceStore.consumeNonce
  simp only
  obtain ⟨hf, u, e, hr⟩ | ⟨hf, u, hr⟩ := record_cases ns.usedBackend env.recordFault key env.usedNow
  · rw [hr]
    exact .leaked (hl.mpr hf) rfl rfl
  · rw [hr]
    exact .released (fun h => hf (hl.mp h)) (NonceStore.releasePending_pending _ _)
      (@releasePending_congr { ns with pending := ns.pending.erase key, usedBackend := u } ns
        rfl entry.bindingID)

/-- The rate limiter counts identities and leaves the rest of the store. -/
theorem Taken.of_limited {ns ns₁ ns' : NonceStore} {id' key bindingID : String}
    {now : Time} {lost : Prop}
    (h : ns.checkIdentityRateLimit id' now = .ok ns₁) (ht : Taken ns₁ ns' key bindingID lost) :
    Taken ns ns' key bindingID lost := by
  have hns := NonceStore.checkIdentityRateLimit_ok h
  have hp : ns₁.pending = ns.pending := by rw [hns]
  have hb : ns₁.bindingChallenges = ns.bindingChallenges := by rw [hns]
  have hr := releasePending_congr hb bindingID
  cases ht with
  | kept hl hp' hb' => exact .kept hl (hp'.trans hp) (hb'.trans hb)
  | released hl hp' hb' => exact .released hl (by rw [hp', hp]) (hb'.trans hr)
  | leaked hl hp' hb' => exact .leaked hl (by rw [hp', hp]) (hb'.trans hb)

/-- A call leaves the store alone or takes the nonce that it finds, and it
loses the nonce in the cases of `Lost` and no other. -/
theorem verifyNonce_counts (ns : NonceStore) (env : VerifyEnv) (report : AttestationReport)
    (b id : String) :
    (¬ Leaks ns env report b id ∧ (ns.verifyNonce env report b id).1.pending = ns.pending ∧
      (ns.verifyNonce env report b id).1.bindingChallenges = ns.bindingChallenges) ∨
    ∃ entry, ns.pending.lookup (nonceKey report.tpm.nonce) = some entry ∧
      Taken ns (ns.verifyNonce env report b id).1 (nonceKey report.tpm.nonce) entry.bindingID
        (Leaks ns env report b id) := by
  unfold NonceStore.verifyNonce
  simp only
  split
  · rename_i hused
    refine .inl ⟨?_, rfl, rfl⟩
    rintro ⟨hnot, -⟩
    rw [hnot] at hused
    cases hused
  rename_i hused
  split
  · rename_i hnone
    refine .inl ⟨?_, rfl, rfl⟩
    rintro ⟨-, entry, hentry, -⟩
    rw [hnone] at hentry
    cases hentry
  rename_i entry hentry
  refine .inr ⟨entry, hentry, ?_⟩
  have hleaks : Leaks ns env report b id ↔ Lost ns env report b id entry := by
    constructor
    · rintro ⟨-, entry', hentry', hlost⟩
      rw [hentry] at hentry'
      cases hentry'
      exact hlost
    · exact fun hlost => ⟨by simpa using hused, entry, hentry, hlost⟩
  rw [hleaks]
  split
  · rename_i hage
    exact .leaked (.inl hage) rfl rfl
  rename_i hage
  -- from here on an entry is lost only through a failing record
  have hlost : Lost ns env report b id entry ↔ _ := or_iff_right hage
  rw [hlost]
  split
  · rename_i hbind
    refine .kept ?_ rfl rfl
    rintro ⟨hb, -⟩
    exact hb.elim hbind.1 hbind.2
  rename_i hbind
  split
  · rename_i hnonce
    exact .kept (fun h => hnonce h.2.1) rfl rfl
  rename_i hnonce
  split
  · rename_i e hcap
    refine .kept ?_ rfl rfl
    rintro ⟨-, -, hok, -⟩
    rw [hcap] at hok
    cases hok
  rename_i hcap
  have hb : entry.bindingID = "" ∨ entry.bindingID = b := by
    by_contra hne
    exact hbind (not_or.mp hne)
  split
  · rename_i e hrate
    apply rejectNonce_taken
    constructor
    · exact fun h => h.2.2.2.1
    · exact fun hf => ⟨hb, not_not.mp hnonce, hcap, hf, .inl ⟨e, hrate⟩⟩
  rename_i ns₁ hrate
  have hsame : ns₁.usedBackend = ns.usedBackend := by rw [NonceStore.checkIdentityRateLimit_ok hrate]
  split
  · rename_i e hquote
    refine Taken.of_limited hrate (.kept ?_ rfl rfl)
    rintro ⟨-, -, -, -, ⟨e', he'⟩ | hok⟩
    · rw [hrate] at he'
      cases he'
    · rw [hquote] at hok
      cases hok
  · rename_i hquote
    refine Taken.of_limited hrate (consumeNonce_taken _ _ ?_)
    rw [hsame]
    constructor
    · exact fun h => h.2.2.2.1
    · exact fun hf => ⟨hb, not_not.mp hnonce, hcap, hf, .inr hquote⟩

end

/-! ## The counts after a call -/

section
variable {ns ns' : NonceStore}

theorem recorded_insert (cs : GoMap String ClientState) (b b' : String) (c : ClientState) :
    recorded (cs.insert b c) b' = if b' = b then c.pendingCount else recorded cs b' := by
  unfold recorded
  rw [lookup_insert_ite]
  split <;> rfl

/-- A binding with a count has a record, so that the release finds it. -/
theorem recorded_release {b : String} (h : 0 < recorded ns.bindingChallenges b) (b' : String) :
    recorded (ns.releasePending b).bindingChallenges b' =
      if b' = b then recorded ns.bindingChallenges b - 1 else recorded ns.bindingChallenges b' := by
  unfold NonceStore.releasePending
  cases hb : ns.bindingChallenges.lookup b with
  | none => simp [recorded, hb] at h
  | some cs =>
    have hcs : recorded ns.bindingChallenges b = cs.pendingCount := by simp [recorded, hb]
    rw [hcs] at h ⊢
    have hclamp : (if cs.pendingCount - 1 < 0 then 0 else cs.pendingCount - 1) = cs.pendingCount - 1 :=
      if_neg (by omega)
    simp only [hclamp, recorded_insert]

theorem pendingFor_erase {key : String} {entry : NonceEntry} (h : ns.pending.lookup key = some entry)
    (hp : ns'.pending = ns.pending.erase key) (b : String) :
    pendingFor ns b = pendingFor ns' b + if entry.bindingID = b then 1 else 0 := by
  unfold pendingFor
  rw [hp, countValues_erase h]
  simp only [decide_eq_true_eq]

/-- Taking an entry out and releasing its binding keeps the counts right. -/
theorem accounted_release (ha : Accounted ns) {key : String} {entry : NonceEntry}
    (h : ns.pending.lookup key = some entry) (hp : ns'.pending = ns.pending.erase key)
    (hb : ns'.bindingChallenges = (ns.releasePending entry.bindingID).bindingChallenges) :
    Accounted ns' := by
  have hpos : 0 < recorded ns.bindingChallenges entry.bindingID := by
    rw [ha, pendingFor_erase h hp]
    simp only [if_true]
    omega
  intro b
  have he := pendingFor_erase h hp b
  rw [hb, recorded_release hpos, ha, ha]
  split
  · rename_i hbb
    subst hbb
    rw [he, if_pos rfl]
    omega
  · rename_i hbb
    rw [he, if_neg (Ne.symm hbb)]
    rfl

/-- Without the release the binding keeps a challenge that is not there. -/
theorem not_accounted_leak (ha : Accounted ns) {key : String} {entry : NonceEntry}
    (h : ns.pending.lookup key = some entry) (hp : ns'.pending = ns.pending.erase key)
    (hb : ns'.bindingChallenges = ns.bindingChallenges) : ¬ Accounted ns' := by
  intro ha'
  have h1 := ha entry.bindingID
  have h2 := ha' entry.bindingID
  have he := pendingFor_erase h hp entry.bindingID
  rw [if_pos rfl] at he
  rw [hb, h1, he] at h2
  omega

theorem accounted_congr (hp : ns'.pending = ns.pending)
    (hb : ∀ b, recorded ns'.bindingChallenges b = recorded ns.bindingChallenges b) :
    Accounted ns' ↔ Accounted ns := by
  unfold Accounted pendingFor
  simp only [hp, hb]

/-- A new record starts at zero, and an old one stays as it is. -/
theorem checkPendingLimit_recorded {b : String} {now : Time}
    (h : ns.checkPendingLimit b now = .ok ns') (b' : String) :
    recorded ns'.bindingChallenges b' = recorded ns.bindingChallenges b' := by
  unfold NonceStore.checkPendingLimit at h
  split at h
  · rename_i cs hcs
    split at h
    · cases h
    · cases h
      rw [recorded_insert]
      split
      · rename_i hb
        subst hb
        simp [recorded, hcs]
      · rfl
  · rename_i hnone
    cases h
    rw [recorded_insert]
    split
    · rename_i hb
      subst hb
      simp [recorded, hnone]
    · rfl

theorem generateChallenge_accounted (ha : Accounted ns) (env : GenerateEnv) (b : String)
    (mask : UInt32) : Accounted (ns.generateChallenge env b mask).1 := by
  unfold NonceStore.generateChallenge
  cases hl : ns.checkPendingLimit b env.limitNow with
  | error e => exact ha
  | ok ns₁ =>
    have hp := (NonceStore.checkPendingLimit_ok hl).1
    have ha₁ : Accounted ns₁ := (accounted_congr hp (checkPendingLimit_recorded hl)).mpr ha
    simp only
    cases hg : ns₁.generateUniqueNonce env NonceStore.maxNonceGenerationAttempts 0 with
    | error e => exact ha₁
    | ok nonce =>
      have hfresh := NonceStore.generateUniqueNonce_fresh hg
      intro b'
      simp only [pendingFor]
      rw [recorded_insert, countValues_insert hfresh]
      have hb' := ha₁ b'
      unfold pendingFor at hb'
      split
      · rename_i hbb
        subst hbb
        simp only [decide_true, if_true]
        unfold recorded at hb'
        push_cast
        omega
      · rename_i hbb
        rw [hb']
        simp [Ne.symm hbb]

/-- **Run of the loop.** Each expired entry is taken out and released; the
keys are distinct, so that a round leaves the entries of later rounds. -/
theorem expireLoop_accounted (now : Time) (l : List (Sigma fun _ : String => NonceEntry))
    (hnd : l.NodupKeys) :
    ∀ ns : NonceStore, Accounted ns → (∀ e ∈ l, ns.pending.lookup e.1 = some e.2) →
      Accounted (l.foldl (fun ns e => ns.expirePending now e.1 e.2) ns) := by
  induction l with
  | nil => exact fun ns ha _ => ha
  | cons e l ih =>
    intro ns ha hl
    obtain ⟨hfst, hnd⟩ := List.nodupKeys_cons.mp hnd
    have he := hl e List.mem_cons_self
    have hrest : ∀ x ∈ l, ns.pending.lookup x.1 = some x.2 :=
      fun x hx => hl x (List.mem_cons_of_mem _ hx)
    rw [List.foldl_cons]
    apply ih hnd
    · unfold NonceStore.expirePending
      split
      · exact accounted_release ha he rfl rfl
      · exact ha
    · intro x hx
      have hne : x.1 ≠ e.1 := by
        intro h
        exact hfst (h ▸ List.mem_keys_of_mem hx)
      unfold NonceStore.expirePending
      split
      · simp only [lookup_erase_ite, if_neg hne]
        exact hrest x hx
      · exact hrest x hx

/-- Records without a count may go. -/
theorem recorded_deleteIf {p : ClientState → Bool} {cs : GoMap String ClientState}
    (hp : ∀ b c, cs.lookup b = some c → p c = true → c.pendingCount = 0) (b : String) :
    recorded (NonceStore.deleteIf p cs) b = recorded cs b := by
  unfold recorded
  rw [NonceStore.lookup_deleteIf]
  cases hc : cs.lookup b with
  | none => rfl
  | some c =>
    by_cases hpc : p c = true
    · simp [Option.filter, hpc, hp b c hc hpc]
    · simp [Option.filter, hpc]

theorem cleanup_accounted (ha : Accounted ns) (now : Time) (deleteFails : Bool) :
    Accounted (ns.cleanup now deleteFails) := by
  have hloop := expireLoop_accounted now ns.pending.entries ns.pending.nodupKeys ns ha
    fun e he => AList.mem_lookup_iff.mpr he
  simp only [NonceStore.cleanup]
  generalize ns.pending.entries.foldl (fun ns e => ns.expirePending now e.1 e.2) ns = ns₁ at hloop ⊢
  refine (accounted_congr ?_ ?_).mpr hloop
  · rfl
  intro b
  apply recorded_deleteIf
  intro b' c hc hdel
  have hcount := hloop b'
  unfold recorded at hcount
  rw [hc, Option.getD_some] at hcount
  simp only [decide_eq_true_eq] at hdel
  omega

/-- **Step.** From a state with the counts right, a call keeps them right
exactly when it does not leak. -/
theorem call_accounted (ha : Accounted ns) (op : Op) : Accounted (call ns op).1 ↔ NoLeak ns op := by
  cases op with
  | generateChallenge env b mask =>
    exact iff_of_true (generateChallenge_accounted ha env b mask) trivial
  | cleanup now deleteFails => exact iff_of_true (cleanup_accounted ha now deleteFails) trivial
  | verifyNonce env report b id =>
    show Accounted (ns.verifyNonce env report b id).1 ↔ ¬ Leaks ns env report b id
    obtain ⟨hl, hp, hb⟩ | ⟨entry, hentry, htaken⟩ := verifyNonce_counts ns env report b id
    · exact iff_of_true ((accounted_congr hp fun b => by rw [hb]).mpr ha) hl
    · cases htaken with
      | kept hl hp hb => exact iff_of_true ((accounted_congr hp fun b => by rw [hb]).mpr ha) hl
      | released hl hp hb => exact iff_of_true (accounted_release ha hentry hp hb) hl
      | leaked hl hp hb => exact iff_of_false (not_accounted_leak ha hentry hp hb) (not_not.mpr hl)

end

/-! ## Runs -/

/-- The counts are right, and a binding without an outstanding challenge gets
one from every random source that comes up with a fresh nonce. -/
structure Law (ns : NonceStore) : Prop where
  accounted : Accounted ns
  obtains : 1 ≤ ns.maxPending → ∀ b, pendingFor ns b = 0 → ∀ env mask nonce,
    ns.generateUniqueNonce env NonceStore.maxNonceGenerationAttempts 0 = .ok nonce →
    ∃ c, (ns.generateChallenge env b mask).2 = .ok c

theorem generateUniqueNonce_congr {ns ns' : NonceStore} (hp : ns'.pending = ns.pending)
    (hu : ns'.usedBackend = ns.usedBackend) (env : GenerateEnv) (n attempt : Nat) :
    ns'.generateUniqueNonce env n attempt = ns.generateUniqueNonce env n attempt := by
  induction n generalizing attempt with
  | zero => rfl
  | succ n ih => simp only [NonceStore.generateUniqueNonce, hp, hu, ih]

theorem checkPendingLimit_free {ns : NonceStore} {b : String} (hmax : 1 ≤ ns.maxPending)
    (h : recorded ns.bindingChallenges b = 0) (now : Time) :
    ∃ ns', ns.checkPendingLimit b now = .ok ns' ∧ ns'.pending = ns.pending ∧
    ns'.usedBackend = ns.usedBackend := by
  unfold NonceStore.checkPendingLimit
  cases hb : ns.bindingChallenges.lookup b with
  | none => exact ⟨_, rfl, rfl, rfl⟩
  | some cs =>
    have hcs : cs.pendingCount = 0 := by simpa [recorded, hb] using h
    simp only
    rw [if_neg (by omega)]
    exact ⟨_, rfl, rfl, rfl⟩

theorem law_iff {ns : NonceStore} : Law ns ↔ Accounted ns := by
  refine ⟨Law.accounted, fun ha => ⟨ha, ?_⟩⟩
  intro hmax b hb env mask nonce hdraw
  have hzero : recorded ns.bindingChallenges b = 0 := by
    rw [ha, hb]
    rfl
  obtain ⟨ns', hl, hp, hu⟩ := checkPendingLimit_free hmax hzero env.limitNow
  rw [← generateUniqueNonce_congr hp hu] at hdraw
  unfold NonceStore.generateChallenge
  rw [hl]
  simp only
  rw [hdraw]
  exact ⟨_, rfl⟩

theorem accounted_new (cfg : NonceStoreConfig) : Accounted (newNonceStoreFromConfig cfg) :=
  fun _ => rfl

/-- **Run.** -/
theorem accounted_run_iff {ns : NonceStore} (ha : Accounted ns) (ops : List Op) :
    (∀ pre, pre <+: ops → Accounted (calls.run ns pre)) ↔ calls.AllSteps NoLeak ns ops := by
  induction ops generalizing ns with
  | nil =>
    refine iff_of_true ?_ trivial
    intro pre hpre
    rw [List.prefix_nil.mp hpre]
    exact ha
  | cons op ops ih =>
    constructor
    · intro h
      have hop : Accounted (call ns op).1 := h [op] ⟨ops, rfl⟩
      refine ⟨(call_accounted ha op).mp hop, (ih hop).mp ?_⟩
      intro pre hpre
      exact h (op :: pre) (List.cons_prefix_cons.mpr ⟨rfl, hpre⟩)
    · rintro ⟨hleak, hrest⟩ pre hpre
      have hop := (call_accounted ha op).mpr hleak
      cases pre with
      | nil => exact ha
      | cons x pre =>
        obtain ⟨rfl, hpre'⟩ := List.cons_prefix_cons.mp hpre
        exact (ih hop).mpr hrest pre hpre'

/-- **Pending challenges are accounted for.** For every configuration and
every sequence of calls, the law holds in every state of the run exactly when
no call leaks. -/
theorem pending_accounted_iff (cfg : NonceStoreConfig) (ops : List Op) :
    (∀ pre, pre <+: ops → Law (calls.run (newNonceStoreFromConfig cfg) pre)) ↔
      calls.AllSteps NoLeak (newNonceStoreFromConfig cfg) ops := by
  simp only [law_iff]
  exact accounted_run_iff (accounted_new cfg) ops

/-- A store with room for one challenge per binding. -/
def oneChallenge : NonceStoreConfig := { defaultNonceStoreConfig with maxPendingPerClient := 1 }

/-- The random source returns this nonce. -/
def draws (nonce : Nonce) : GenerateEnv where
  rand := fun _ => .ok nonce

/-- A challenge is issued, and the report that answers it arrives one
nanosecond late. -/
def lateReport : List Op :=
  [.generateChallenge (draws (Blob.zero 32)) "conn" 0,
   .verifyNonce { sinceNow := oneChallenge.lifetime + 1 } (ReportC.goReport ReportC.blankReport [])
   "conn" "device"]

/-- The late nonce is no longer pending and still counted, so that the
binding, with nothing outstanding, gets no challenge any more. -/
theorem expired_leaks :
    pendingFor (calls.run (newNonceStoreFromConfig oneChallenge) lateReport) "conn" = 0 ∧
    recorded (calls.run (newNonceStoreFromConfig oneChallenge) lateReport).bindingChallenges
    "conn" = 1 ∧
    ∃ e, ((calls.run (newNonceStoreFromConfig oneChallenge) lateReport).generateChallenge
      (draws (List.Vector.replicate 32 1)) "conn" 0).2 = .error e :=
  ⟨by decide +kernel, by decide +kernel, _, rfl⟩

end Lota.L2.NonceCounts

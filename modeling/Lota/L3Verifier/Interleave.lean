import Lota.L3Verifier.PinRuns

/-!
# Reports at the same time

A verifier answers every connection in its own goroutine, so the calls of
`VerifyReport` and `GenerateChallenge` overlap. Each store has a mutex of its
own and none is held from one store to the next: between two accesses of a
call anything can happen to any store. A step here is one access to one store,
with the work around it that touches none.

* `Phase` is where a report is, `advance` its next access. `alone_eq`: a call
  that nobody interrupts is `verifyReport`.
* `verifier` is any number of calls, in any order of their accesses, with the
  administration in between.
* `step_spending`: every acceptance, past or to come, is paid for by one of the
  nonce store. `nonces_spent`: no nonce is accepted more often than sent out.
-/
namespace Lota.L3.Interleave
open Lota.Core Lota.L1.Report Lota.L1.Attest Lota.L1.EventLog
open Lota.L2 Lota.L2.Baseline Lota.L2.SqliteBaseline Lota.L2.Nonce Lota.L2.Revocation
open Lota.L3.BootCommitment Lota.L3.Policy Lota.L3.Signature Lota.L3.Verify

/-- A call of `VerifyReport`, with what its environment decides. -/
structure Report where
  env : ReportEnv
  challengeID : String
  data : Bytes

/-- The access a report is waiting for. -/
inductive Phase where
  /-- `revocationStore.IsRevoked` -/
  | revocation (id : Identity)
  /-- `banStore.IsBanned` -/
  | ban (id : Identity)
  /-- `nonceStore.VerifyNonce` -/
  | nonce (id : Identity)
  /-- `pcrVerifier.VerifyReport` -/
  | policy (id : Identity)
  /-- `reader.GetBootBaseline` -/
  | enrolled (ev : Evidence)
  /-- `pcrVerifier.ActivePolicyDeclaresBootPCRs` -/
  | declared (ev : Evidence)
  /-- `atomicStore.CheckAndUpdateAttestation` -/
  | pin (ev : Evidence)
  /-- `baselineStore.CheckAndUpdate` -/
  | pin14 (ev : Evidence)
  /-- `bootStore.CheckAndUpdateBootPCRs` -/
  | pinBoot (ev : Evidence) (boot : BootBaseline)
  /-- `rememberSessionToken` -/
  | token (ev : Evidence)

/-- A call goes on or returns. -/
abbrev Next := Phase ⊕ Verify.Reply

/-- The check before an access fails, or the call goes on. -/
def orGo {α : Type} (x : Except Refusal α) (go : α → Next) : Next :=
  match x with
  | .error r => .inr r.reply
  | .ok a => go a

section
variable (K : Crypto)

/-- mirrors src/verifier/verify/verify.go:507-632 -/
def enter (c : Report) : Next := orGo (identify K c.env c.data) fun id => .inl (.revocation id)

/-- From the boot commitment to the enrollment gate.
mirrors src/verifier/verify/verify.go:777-886 -/
def commitment (v : Verifier) (ev : Evidence) : Next :=
  match ev.attest with
  | none =>
    .inr (Refusal.reply
      (.fail .pcrFail "FAIL_PCR_FAIL: FlagBootCommitment requires a TPMS_ATTEST payload"))
  | some attest => orGo (checkBootCommitment v ev.id.report attest) fun _ =>
    if v.cfg.requireBootEnrollment && (bootOf ev.id.report).isSome then .inl (.enrolled ev)
      else .inl (.pin ev)

/-- The next access of a report.
mirrors src/verifier/verify/verify.go:633-1079 -/
def advance (v : Verifier) (c : Report) : Phase → Verifier × Next
  | .revocation id =>
    (v, match v.revocationStore.bind fun s => s.isRevoked c.env.revocationFails id.clientID with
      | some entry =>
        .inr (Refusal.reply (.fail .revoked ("client AIK revoked: " ++ entry.reason.text)))
      | none => .inl (.ban id))
  | .ban id =>
    (v, match v.banStore.bind fun s => s.isBanned c.env.banFails id.hardwareID with
      | some entry => .inr (Refusal.reply (.fail .banned ("hardware banned: " ++ entry.reason.text)))
      | none => .inl (.nonce id))
  | .nonce id =>
    let r := v.nonceStore.verifyNonce c.env.nonce id.report c.challengeID id.clientID
    ({ v with nonceStore := r.1 }, match r.2 with
      | .error e => .inr (Refusal.reply (.fail .nonceFail e))
      | .ok () => .inl (.policy id))
  | .policy id =>
    (v, orGo (checkEvidence K v id) fun attest => orGo (checkFlags v id.report) fun _ =>
      if useBootCommitment id.report then commitment v { id, attest } else .inl (.pin14 { id, attest }))
  | .enrolled ev =>
    (v, if (v.baselineStore.getBootBaseline c.env.enrollFaults ev.id.clientID).isSome
      then .inl (.pin ev) else .inl (.declared ev))
  | .declared ev =>
    (v, if v.pcrVerifier.activePolicyDeclaresBootPCRs then .inl (.pin ev)
      else .inr (Refusal.reply (.fail .integrityMismatch
        "FAIL_BASELINE_ERROR: boot baseline not enrolled (TOFU first-use refused under RequireBootEnrollment)")))
  | .pin ev =>
    let r := v.baselineStore.checkAndUpdateAttestation c.env.baselineFaults ev.id.clientID
      (ev.id.report.tpm.pcrValues.get 14) ev.id.report.system.agentHash (bootOf ev.id.report)
        c.env.baselineNow
    ({ v with baselineStore := r.1 }, orGo (judgeAttestation v r.2) fun _ => .inl (.token ev))
  | .pin14 ev =>
    let r := v.baselineStore.checkAndUpdate c.env.baselineFaults ev.id.clientID
      (ev.id.report.tpm.pcrValues.get 14)
      c.env.baselineNow
    ({ v with baselineStore := r.1 }, orGo (judgePCR14 r.2.1) fun _ =>
      match bootOf ev.id.report with
      | none => .inl (.token ev)
      | some boot => .inl (.pinBoot ev boot))
  | .pinBoot ev boot =>
    let r := v.baselineStore.checkAndUpdateBootPCRs c.env.bootFaults ev.id.clientID boot c.env.bootNow
    ({ v with baselineStore := r.1 }, orGo (judgeBootPCRs r.2.1) fun _ => .inl (.token ev))
  | .token ev =>
    let r := issueToken v c.env ev.id
    (r.1, .inr r.2)

/-! ## A call by itself -/

/-- The call from `next` on, uninterrupted, for at most `n` accesses. -/
def alone (c : Report) : Nat → Verifier → Next → Option (Verifier × Verify.Reply)
  | _, v, .inr r => some (v, r)
  | 0, _, .inl _ => none
  | n + 1, v, .inl p => let r := advance K v c p; alone c n r.1 r.2

theorem alone_returned (c : Report) (n : Nat) (v : Verifier) (r : Verify.Reply) :
    alone K c n v (.inr r) = some (v, r) := by
  cases n <;> rfl

/-- A call whose baseline store has answered. -/
def settle (v : Verifier) (c : Report) (ev : Evidence) (r : BaselineStorer × Except Refusal Unit) :
    Verifier × Verify.Reply :=
  match r with
  | (baselineStore, .error e) => ({ v with baselineStore }, e.reply)
  | (baselineStore, .ok ()) => issueToken { v with baselineStore } c.env ev.id

theorem alone_judged (v : Verifier) (c : Report) (ev : Evidence) (n : Nat) (bs : BaselineStorer)
    (x : Except Refusal Unit) :
    alone K c (n + 1) { v with baselineStore := bs } (orGo x fun _ => .inl (.token ev)) =
    some (settle v c ev (bs, x)) := by
  cases x with
  | error e => rfl
  | ok u => exact alone_returned K c n _ _

theorem alone_legacy (v : Verifier) (c : Report) (ev : Evidence) (n : Nat) :
    alone K c (n + 3) v (.inl (.pin14 ev)) = some (settle v c ev (pinLegacy v c.env ev)) := by
  unfold alone pinLegacy advance
  dsimp only
  cases judgePCR14 (v.baselineStore.checkAndUpdate c.env.baselineFaults ev.id.clientID
    (ev.id.report.tpm.pcrValues.get 14) c.env.baselineNow).2.1 with
  | error e => rfl
  | ok u =>
    cases bootOf ev.id.report with
    | none => rfl
    | some boot => exact alone_judged K v c ev n _ _

theorem alone_pin (v : Verifier) (c : Report) (ev : Evidence) (n : Nat) :
    alone K c (n + 2) v (.inl (.pin ev)) =
      let r := v.baselineStore.checkAndUpdateAttestation c.env.baselineFaults ev.id.clientID
        (ev.id.report.tpm.pcrValues.get 14) ev.id.report.system.agentHash (bootOf ev.id.report)
          c.env.baselineNow
      some (settle v c ev (r.1, judgeAttestation v r.2)) :=
  alone_judged K v c ev n _ _

theorem alone_commitment (v : Verifier) (c : Report) (ev : Evidence) (n : Nat) :
    alone K c (n + 4) v (commitment v ev) = some (settle v c ev (pinBootCommitment v c.env ev)) := by
  unfold commitment pinBootCommitment
  cases ev.attest with
  | none => rfl
  | some attest =>
    dsimp only
    cases checkBootCommitment v ev.id.report attest with
    | error e => rfl
    | ok u =>
      dsimp only [orGo]
      unfold checkEnrollment ensure
      cases hreq : v.cfg.requireBootEnrollment && (bootOf ev.id.report).isSome with
      | false =>
        have hno : v.cfg.requireBootEnrollment = true → (bootOf ev.id.report).isSome = true →
            (v.baselineStore.getBootBaseline c.env.enrollFaults ev.id.clientID).isSome = true ∨
              v.pcrVerifier.activePolicyDeclaresBootPCRs = true := by
          intro h1 h2
          rw [h1, h2] at hreq
          cases hreq
        rw [if_pos hno]
        exact alone_pin K v c ev (n + 2)
      | true =>
        obtain ⟨h1, h2⟩ := Bool.and_eq_true_iff.mp hreq
        simp only [h1, h2, forall_true_left, if_true]
        show alone K c (n + 3) v
            (if (v.baselineStore.getBootBaseline c.env.enrollFaults ev.id.clientID).isSome
          then .inl (.pin ev) else .inl (.declared ev)) = _
        cases hb : (v.baselineStore.getBootBaseline c.env.enrollFaults ev.id.clientID).isSome with
        | true =>
          simp only [true_or, if_true]
          exact alone_pin K v c ev (n + 1)
        | false =>
          simp only [Bool.false_eq_true, false_or, if_false]
          show alone K c (n + 2) v (if v.pcrVerifier.activePolicyDeclaresBootPCRs
              then .inl (.pin ev) else _) = _
          cases hd : v.pcrVerifier.activePolicyDeclaresBootPCRs with
          | true =>
            simp only [if_true]
            exact alone_pin K v c ev n
          | false =>
            simp only [Bool.false_eq_true, if_false]
            rfl

/-- **One call.** Uninterrupted, its accesses are `VerifyReport`. -/
theorem alone_eq (v : Verifier) (c : Report) :
    alone K c 8 v (enter K c) = some (verifyReport K v c.env c.challengeID c.data) := by
  unfold enter verifyReport authenticate
  cases identify K c.env c.data with
  | error r => rfl
  | ok id =>
    unfold checkEnforcement
    dsimp only [orGo, alone, advance]
    cases hr : v.revocationStore.bind fun s => s.isRevoked c.env.revocationFails id.clientID with
    | some entry => rfl
    | none =>
      dsimp only [alone, advance]
      cases hb : v.banStore.bind fun s => s.isBanned c.env.banFails id.hardwareID with
      | some entry => rfl
      | none =>
        dsimp only [alone, advance]
        rcases hn : v.nonceStore.verifyNonce c.env.nonce id.report c.challengeID
          id.clientID with ⟨ns, e | u⟩
        · rfl
        · dsimp only [alone, advance]
          have hev : checkEvidence K { v with nonceStore := ns } id = checkEvidence K v id := rfl
          have hfl : checkFlags { v with nonceStore := ns } id.report = checkFlags v id.report := rfl
          rw [hev, hfl]
          cases checkEvidence K v id with
          | error r => rfl
          | ok attest =>
            dsimp only [orGo]
            cases checkFlags v id.report with
            | error r => rfl
            | ok u =>
              dsimp only [pinBaseline]
              cases useBootCommitment id.report with
              | true => exact alone_commitment K { v with nonceStore := ns } c { id, attest } 0
              | false => exact alone_legacy K { v with nonceStore := ns } c { id, attest } 1

end

/-! ## Many calls -/

/-- A call in flight. `GenerateChallenge` reads the mask of the active policy
before it asks the nonce store. -/
inductive Thread where
  | report (c : Report) (p : Phase)
  | asked (env : GenerateEnv) (clientID : String)
  | masked (env : GenerateEnv) (clientID : String) (mask : UInt32)

/-- Calls that touch one store and return. -/
inductive Admin where
  | cleanup (now : Time) (deleteFails : Bool)
  | clearBaseline (f : Faults) (clientID : String)
  | addPolicy (policy : PCRPolicy)
  | setActivePolicy (name : String)
  | enforce (revocations : Option RevocationStore) (bans : Option BanStore)

def Admin.op : Admin → Runs.Op
  | .cleanup now deleteFails => .cleanup now deleteFails
  | .clearBaseline f clientID => .clearBaseline f clientID
  | .addPolicy policy => .addPolicy policy
  | .setActivePolicy name => .setActivePolicy name
  | .enforce revocations bans => .enforce revocations bans

structure Sys where
  v : Verifier
  threads : GoMap Nat Thread := ∅

/-- A call comes in under a free number, call `n` makes its next access, or
the administration acts. -/
inductive Ev where
  | report (n : Nat) (c : Report)
  | challenge (n : Nat) (env : GenerateEnv) (clientID : String)
  | go (n : Nat)
  | admin (a : Admin)

inductive Out where
  | quiet
  | challenge (r : Except String Challenge)
  | verdict (c : Report) (r : Verify.Reply)

section
variable (K : Crypto)

/-- Call `n` is where `next` says, or it has returned. -/
def proceed (v : Verifier) (threads : GoMap Nat Thread) (n : Nat) (c : Report) : Next → Sys × Out
  | .inl p => (⟨v, threads.insert n (.report c p)⟩, .quiet)
  | .inr r => (⟨v, threads⟩, .verdict c r)

def goThread (s : Sys) (n : Nat) : Thread → Sys × Out
  | .report c p => let r := advance K s.v c p; proceed r.1 (s.threads.erase n) n c r.2
  | .asked env clientID =>
    (⟨s.v, (s.threads.erase n).insert n (.masked env clientID s.v.pcrVerifier.getActivePolicyMask)⟩,
      .quiet)
  | .masked env clientID mask =>
    let r := s.v.nonceStore.generateChallenge env clientID mask
    (⟨{ s.v with nonceStore := r.1 }, s.threads.erase n⟩, .challenge r.2)

def step (s : Sys) : Ev → Sys × Out
  | .report n c =>
    if (s.threads.lookup n).isSome then (s, .quiet) else proceed s.v s.threads n c (enter K c)
  | .challenge n env clientID =>
    if (s.threads.lookup n).isSome then (s, .quiet)
      else (⟨s.v, s.threads.insert n (.asked env clientID)⟩, .quiet)
  | .go n =>
    match s.threads.lookup n with
    | none => (s, .quiet)
    | some t => goThread K s n t
  | .admin a => ({ s with v := (Runs.call K s.v a.op).1 }, .quiet)

def verifier : Machine Sys Ev Out := ⟨step K⟩

end

abbrev Event := Ev × Out

/-- A challenge with this nonce was sent out. -/
def issued (n : Nonce) : Event → Bool
  | (_, .challenge (.ok c)) => c.nonce = n
  | _ => false

/-- A report with this nonce was accepted. -/
def accepted (n : Nonce) : Event → Bool
  | (_, .verdict c r) => r.accepted && match parseReport c.data with
    | .ok report => report.tpm.nonce = n
    | .error _ => false
  | _ => false

/-! ## What an access does -/

namespace Phase

def id : Phase → Identity
  | .revocation id | .ban id | .nonce id | .policy id => id
  | .enrolled ev | .declared ev | .pin ev | .pin14 ev | .pinBoot ev _ | .token ev => ev.id

/-- The nonce is used up. -/
def spent : Phase → Bool
  | .revocation _ | .ban _ | .nonce _ => false
  | _ => true

end Phase

section
variable {K : Crypto} {v : Verifier} {c : Report}

/-- A call goes on as the same device with the same nonce, or it is refused. -/
def Same (p : Phase) (next : Next) : Prop :=
  (∃ p', next = .inl p' ∧ p'.id = p.id ∧ p'.spent = p.spent) ∨ ∃ r, next = .inr r ∧ r.accepted = false

theorem same_refusal (p : Phase) (r : Refusal) : Same p (.inr r.reply) := .inr ⟨_, rfl, r.not_accepted⟩

theorem same_orGo {α : Type} {p : Phase} {x : Except Refusal α} {go : α → Next}
    (h : ∀ a, x = .ok a → Same p (go a)) : Same p (orGo x go) := by
  cases x with
  | error r => exact same_refusal p r
  | ok a => exact h a rfl

theorem same_commitment (v : Verifier) (ev : Evidence) {p : Phase} (hid : p.id = ev.id)
    (hs : p.spent = true) : Same p (commitment v ev) := by
  unfold commitment
  split
  · exact same_refusal p _
  · refine same_orGo fun _ _ => ?_
    split
    · exact .inl ⟨_, rfl, hid.symm, hs.symm⟩
    · exact .inl ⟨_, rfl, hid.symm, hs.symm⟩

/-- **What an access does to the nonces.** Only `VerifyNonce` touches the
nonce store, it lets the call on exactly when it accepts the nonce, and only
a call that asks for its token can be accepted. -/
theorem advance_nonce (v : Verifier) (c : Report) (p : Phase) :
    (∃ id, p = .nonce id ∧
      (advance K v c p).1.nonceStore =
      (v.nonceStore.verifyNonce c.env.nonce id.report c.challengeID id.clientID).1 ∧
      ((v.nonceStore.verifyNonce c.env.nonce id.report c.challengeID id.clientID).2 = .ok () ∧
          (advance K v c p).2 = .inl (.policy id) ∨
        ∃ e r, (v.nonceStore.verifyNonce c.env.nonce id.report c.challengeID id.clientID).2 = .error e ∧
          (advance K v c p).2 = .inr r ∧ r.accepted = false)) ∨
    ((advance K v c p).1.nonceStore = v.nonceStore ∧
      (Same p (advance K v c p).2 ∨ ∃ ev r, p = .token ev ∧ (advance K v c p).2 = .inr r)) := by
  cases p with
  | nonce id =>
    refine .inl ⟨id, rfl, rfl, ?_⟩
    unfold advance
    dsimp only
    cases (v.nonceStore.verifyNonce c.env.nonce id.report c.challengeID id.clientID).2 with
    | error e => exact .inr ⟨e, _, rfl, rfl, Refusal.not_accepted _⟩
    | ok u => exact .inl ⟨rfl, rfl⟩
  | revocation id =>
    refine .inr ⟨rfl, .inl ?_⟩
    unfold advance
    dsimp only
    split
    · exact same_refusal _ _
    · exact .inl ⟨_, rfl, rfl, rfl⟩
  | ban id =>
    refine .inr ⟨rfl, .inl ?_⟩
    unfold advance
    dsimp only
    split
    · exact same_refusal _ _
    · exact .inl ⟨_, rfl, rfl, rfl⟩
  | policy id =>
    refine .inr ⟨rfl, .inl (same_orGo fun attest _ => same_orGo fun _ _ => ?_)⟩
    split
    · exact same_commitment v _ rfl rfl
    · exact .inl ⟨_, rfl, rfl, rfl⟩
  | enrolled ev =>
    refine .inr ⟨rfl, .inl ?_⟩
    unfold advance
    dsimp only
    split
    · exact .inl ⟨_, rfl, rfl, rfl⟩
    · exact .inl ⟨_, rfl, rfl, rfl⟩
  | declared ev =>
    refine .inr ⟨rfl, .inl ?_⟩
    unfold advance
    dsimp only
    split
    · exact .inl ⟨_, rfl, rfl, rfl⟩
    · exact same_refusal _ _
  | pin ev => exact .inr ⟨rfl, .inl (same_orGo fun _ _ => .inl ⟨_, rfl, rfl, rfl⟩)⟩
  | pin14 ev =>
    refine .inr ⟨rfl, .inl (same_orGo fun _ _ => ?_)⟩
    split
    · exact .inl ⟨_, rfl, rfl, rfl⟩
    · exact .inl ⟨_, rfl, rfl, rfl⟩
  | pinBoot ev boot => exact .inr ⟨rfl, .inl (same_orGo fun _ _ => .inl ⟨_, rfl, rfl, rfl⟩)⟩
  | token ev =>
    refine .inr ⟨?_, .inr ⟨ev, _, rfl, rfl⟩⟩
    show (issueToken v c.env ev.id).1.nonceStore = v.nonceStore
    rw [issueToken_frame]

end

/-! ## Nonces -/

/-- A report in flight whose nonce `n` is used up. -/
def spentBy (n : Nonce) : Thread → Bool
  | .report _ p => p.spent && decide (p.id.report.tpm.nonce = n)
  | _ => false

/-- The report a call in flight works on is the one it was given. -/
def Parsed (threads : GoMap Nat Thread) : Prop :=
  ∀ k c p, threads.lookup k = some (.report c p) → parseReport c.data = .ok p.id.report

/-- There is a history of the nonce store behind the run: every acceptance of
the verifier, past or still to come, is one of its own, and it issues no
nonce the verifier did not send out. -/
structure Spending (L : Duration) (h : List Event) (s : Sys) : Prop where
  parsed : Parsed s.threads
  behind : ∃ hn, Inv L hn s.v.nonceStore ∧
    (∀ n, h.countP (accepted n) + countValues (spentBy n) s.threads ≤ hn.countP (accepts n)) ∧
    ∀ n, hn.countP (issues n) ≤ h.countP (issued n)

section
variable {K : Crypto} {L : Duration} {h : List Event} {s s' : Sys} {x : Event}

/-- A step that leaves the nonce store alone. -/
theorem Spending.quiet (hs : Spending L h s) (hp : Parsed s'.threads)
    (hns : s'.v.nonceStore = s.v.nonceStore)
    (hcount : ∀ n, (if accepted n x then 1 else 0) + countValues (spentBy n) s'.threads ≤
      countValues (spentBy n) s.threads) :
    Spending L (h ++ [x]) s' := by
  obtain ⟨hn, hinv, hacc, hiss⟩ := hs.behind
  refine ⟨hp, hn, hns ▸ hinv, fun n => ?_, fun n => ?_⟩
  · have h1 := hacc n
    have h2 := hcount n
    rw [List.countP_append, List.countP_singleton]
    omega
  · rw [List.countP_append]
    exact Nat.le_trans (hiss n) (Nat.le_add_right _ _)

/-- A step that is a call of the nonce store. -/
theorem Spending.call (hs : Spending L h s) (hp : Parsed s'.threads) (op : Nonce.Op)
    (hns : s'.v.nonceStore = (Nonce.call s.v.nonceStore op).1)
    (hcount : ∀ n, (if accepted n x then 1 else 0) + countValues (spentBy n) s'.threads ≤
      countValues (spentBy n) s.threads + if accepts n (op, (Nonce.call s.v.nonceStore op).2)
      then 1 else 0)
    (hissue : ∀ n, issues n (op, (Nonce.call s.v.nonceStore op).2) = true → issued n x = true) :
    Spending L (h ++ [x]) s' := by
  obtain ⟨hn, hinv, hacc, hiss⟩ := hs.behind
  refine ⟨hp, _, hns ▸ Nonce.call_inv op hinv, fun n => ?_, fun n => ?_⟩
  · have h1 := hacc n
    have h2 := hcount n
    rw [List.countP_append, List.countP_singleton, List.countP_append, List.countP_singleton]
    omega
  · have h1 := hiss n
    have h2 := hissue n
    rw [List.countP_append, List.countP_singleton, List.countP_append, List.countP_singleton]
    split
    · rename_i hi
      rw [if_pos (h2 hi)]
      omega
    · omega

theorem Parsed.erase {threads : GoMap Nat Thread} (hp : Parsed threads) (n : Nat) :
    Parsed (threads.erase n) :=
  fun k c p hk => hp k c p (lookup_of_erase hk)

theorem Parsed.insert {threads : GoMap Nat Thread} (hp : Parsed threads) (n : Nat) {t : Thread}
    (ht : ∀ c p, t = .report c p → parseReport c.data = .ok p.id.report) :
    Parsed (threads.insert n t) := by
  intro k c p hk
  rw [lookup_insert_ite] at hk
  split at hk
  · exact ht c p (Option.some.inj hk)
  · exact hp k c p hk

theorem lookup_erase_self (threads : GoMap Nat Thread) (n : Nat) :
    (threads.erase n).lookup n = none := by
  rw [lookup_erase_ite, if_pos rfl]

theorem accepted_verdict {n : Nonce} {e : Ev} {c : Report} {r : Verify.Reply} {p : Phase}
    (hp : parseReport c.data = .ok p.id.report) (ha : accepted n (e, .verdict c r) = true) :
    r.accepted = true ∧ p.id.report.tpm.nonce = n := by
  simp only [accepted, hp] at ha
  simpa using ha

theorem not_accepted_verdict {n : Nonce} {e : Ev} {c : Report} {r : Verify.Reply}
    (hr : r.accepted = false) : accepted n (e, .verdict c r) = false := by
  simp only [accepted, hr, Bool.false_and]

/-- A report in flight makes its next access. -/
theorem spending_advance (hs : Spending L h s) {e : Ev} {n : Nat} {c : Report} {p : Phase}
    (ht : s.threads.lookup n = some (.report c p)) :
    Spending L (h ++ [(e, (goThread K s n (.report c p)).2)]) (goThread K s n (.report c p)).1 := by
  have hparse := hs.parsed n c p ht
  have hold : ∀ m, countValues (spentBy m) s.threads =
      countValues (spentBy m) (s.threads.erase n) + if spentBy m (.report c p) then 1 else 0 :=
    fun m => countValues_erase ht
  have hnew : ∀ m t, countValues (spentBy m) ((s.threads.erase n).insert n t) =
      countValues (spentBy m) (s.threads.erase n) + if spentBy m t then 1 else 0 :=
    fun m t => countValues_insert (lookup_erase_self _ n)
  have hperased := hs.parsed.erase n
  have hgoes : ∀ p', p'.id = p.id → Parsed ((s.threads.erase n).insert n (.report c p')) := by
    intro p' hid
    refine hperased.insert n fun c' p'' he => ?_
    cases he
    rw [hid]
    exact hparse
  unfold goThread
  dsimp only
  rcases advance_nonce (K := K) s.v c p with ⟨id, rfl, hns,
    ⟨hok, hnext⟩ | ⟨err, r, hbad, hnext, hr⟩⟩ | ⟨hns, hsame | ⟨ev, r, rfl, hnext⟩⟩
  · rw [hnext]
    refine hs.call (hgoes _ rfl) (.verifyNonce c.env.nonce id.report c.challengeID id.clientID)
      hns (fun m => ?_)
      (fun m hi => ?_)
    · have h1 := hold m
      have h2 :
          countValues (spentBy m) (proceed (advance K s.v c (.nonce id)).1 (s.threads.erase n) n c
            (.inl (.policy id))).1.threads =
          _ := hnew m (.report c (.policy id))
      rw [h2, h1]
      have hacc : accepts m (Nonce.Op.verifyNonce c.env.nonce id.report c.challengeID id.clientID,
          (Nonce.call s.v.nonceStore
            (.verifyNonce c.env.nonce id.report c.challengeID id.clientID)).2) =
          spentBy m (.report c (.policy id)) := by
        show accepts m
            (_, .verdict (s.v.nonceStore.verifyNonce c.env.nonce id.report c.challengeID
              id.clientID).2) = _
        rw [hok]
        simp only [accepts, spentBy, Phase.spent, Phase.id, Bool.true_and]
        exact decide_eq_decide.mpr Iff.rfl
      rw [hacc]
      simp only [proceed, accepted, Bool.false_eq_true, if_false]
      omega
    · exact absurd hi (by simp [issues])
  · rw [hnext]
    refine hs.call hperased (.verifyNonce c.env.nonce id.report c.challengeID id.clientID)
      hns (fun m => ?_)
      (fun m hi => ?_)
    · have h1 := hold m
      simp only [proceed, not_accepted_verdict hr, Bool.false_eq_true, if_false]
      omega
    · exact absurd hi (by simp [issues])
  · rcases hsame with ⟨p', hnext, hid, hsp⟩ | ⟨r, hnext, hr⟩
    · rw [hnext]
      refine hs.quiet (hgoes p' hid) hns fun m => ?_
      have h1 := hold m
      have h2 :
          countValues (spentBy m)
          (proceed (advance K s.v c p).1 (s.threads.erase n) n c (.inl p')).1.threads =
          _ := hnew m (.report c p')
      have h3 : spentBy m (.report c p') = spentBy m (.report c p) := by simp only [spentBy, hid, hsp]
      rw [h2, h1, h3]
      simp only [proceed, accepted, Bool.false_eq_true, if_false]
      omega
    · rw [hnext]
      refine hs.quiet hperased hns fun m => ?_
      have h1 := hold m
      simp only [proceed, not_accepted_verdict hr, Bool.false_eq_true, if_false]
      omega
  · -- the call returns, with its nonce used up
    rw [hnext]
    refine hs.quiet hperased hns fun m => ?_
    have h1 := hold m
    show (if accepted m (e, .verdict c r) then 1 else 0) +
        countValues (spentBy m) (s.threads.erase n) ≤ _
    rw [h1]
    split
    · rename_i ha
      have hm := (accepted_verdict hparse ha).2
      have hspent : spentBy m (.report c (.token ev)) = true := by simp [spentBy, Phase.spent, hm]
      rw [if_pos hspent]
      omega
    · omega

theorem proceed_spending (hs : Spending L h s) (e : Ev) {n : Nat}
    (hfree : s.threads.lookup n = none) (c : Report) :
    Spending L (h ++ [(e, (proceed s.v s.threads n c (enter K c)).2)])
    (proceed s.v s.threads n c (enter K c)).1 := by
  unfold enter orGo
  cases hid : identify K c.env c.data with
  | error r =>
    refine hs.quiet hs.parsed rfl fun m => ?_
    simp only [proceed, not_accepted_verdict r.not_accepted, Bool.false_eq_true, if_false]
    omega
  | ok id =>
    refine hs.quiet (hs.parsed.insert n fun c' p he => ?_) rfl fun m => ?_
    · cases he
      exact (identify_ok hid).parsed
    · have h1 : countValues (spentBy m) (s.threads.insert n (.report c (.revocation id))) = _ :=
        countValues_insert hfree
      simp only [proceed, accepted, Bool.false_eq_true, if_false, h1, spentBy, Phase.spent,
        Bool.false_and]
      omega

/-- A challenge in flight holds no nonce. -/
theorem challenge_spending (hs : Spending L h s) (e : Ev) {threads : GoMap Nat Thread}
    {n : Nat} {t : Thread}
    (hp : Parsed threads) (hfree : threads.lookup n = none) (ht : ∀ c p, t ≠ .report c p)
    (hle : ∀ m, countValues (spentBy m) threads ≤ countValues (spentBy m) s.threads) :
    Spending L (h ++ [(e, .quiet)]) ⟨s.v, threads.insert n t⟩ := by
  refine hs.quiet (hp.insert n fun c p he => absurd he (ht c p)) rfl fun m => ?_
  have h1 : countValues (spentBy m) (threads.insert n t) = _ := countValues_insert hfree
  have h2 := hle m
  have h3 : spentBy m t = false := by
    cases t with
    | report c p => exact absurd rfl (ht c p)
    | asked env clientID => rfl
    | masked env clientID mask => rfl
  simp only [accepted, Bool.false_eq_true, if_false, h1, h3]
  omega

theorem erase_count_le (n : Nat) (m : Nonce) :
    countValues (spentBy m) (s.threads.erase n) ≤ countValues (spentBy m) s.threads := by
  cases hl : s.threads.lookup n with
  | none =>
    have he : s.threads.erase n = s.threads := by
      refine AList.ext ?_
      exact List.kerase_of_notMem_keys (AList.lookup_eq_none.mp hl)
    rw [he]
  | some t =>
    rw [countValues_erase (p := spentBy m) hl]
    omega

/-- **Step.** Every step keeps the account. -/
theorem step_spending (hs : Spending L h s) (e : Ev) :
    Spending L (h ++ [(e, (step K s e).2)]) (step K s e).1 := by
  have hstay : Spending L (h ++ [(e, .quiet)]) s :=
    hs.quiet hs.parsed rfl fun m => by simp only [accepted, Bool.false_eq_true, if_false]; omega
  cases e with
  | report n c =>
    unfold step
    dsimp only
    split
    · exact hstay
    · rename_i hfree
      exact proceed_spending hs _ (by simpa using hfree) c
  | challenge n env clientID =>
    unfold step
    dsimp only
    split
    · exact hstay
    · rename_i hfree
      exact challenge_spending hs _ hs.parsed (by simpa using hfree) (fun _ _ => nofun) fun m =>
        Nat.le_refl _
  | go n =>
    unfold step
    dsimp only
    cases ht : s.threads.lookup n with
    | none => exact hstay
    | some t =>
      cases t with
      | report c p => exact spending_advance hs ht
      | asked env clientID =>
        exact challenge_spending hs _ (hs.parsed.erase n) (lookup_erase_self _ n) (fun _ _ => nofun)
          (erase_count_le n)
      | masked env clientID mask =>
        refine hs.call (hs.parsed.erase n) (.generateChallenge env clientID mask) rfl (fun m => ?_)
          fun m hi => ?_
        · have hle := erase_count_le (s := s) n m
          simp only [goThread, accepted, Bool.false_eq_true, if_false]
          omega
        · show issued m (_, .challenge (s.v.nonceStore.generateChallenge env clientID mask).2) = true
          have hi' :
              issues m (_, .challenge (s.v.nonceStore.generateChallenge env clientID mask).2) =
              true := hi
          cases hr : (s.v.nonceStore.generateChallenge env clientID mask).2 with
          | error err => rw [hr] at hi'; cases hi'
          | ok ch => rw [hr] at hi'; exact hi'
  | admin a =>
    have hcount : ∀ m, (if accepted m (.admin a, .quiet) then 1 else 0) +
        countValues (spentBy m) s.threads ≤ countValues (spentBy m) s.threads := by
      intro m
      simp only [accepted, Bool.false_eq_true, if_false]
      omega
    cases a with
    | cleanup now deleteFails =>
      refine hs.call hs.parsed (.cleanup now deleteFails) rfl (fun m => ?_) fun m hi =>
        absurd hi (by simp [issues])
      exact Nat.le_trans (hcount m) (Nat.le_add_right _ _)
    | clearBaseline f clientID => exact hs.quiet hs.parsed rfl hcount
    | addPolicy policy => exact hs.quiet hs.parsed rfl hcount
    | setActivePolicy name => exact hs.quiet hs.parsed rfl hcount
    | enforce revocations bans => exact hs.quiet hs.parsed rfl hcount

end

/-- **Nonces are used up.** Any number of reports and challenges, in any order
of their accesses to the stores and with the administration in between: no
nonce is accepted more often than it was sent out. -/
theorem nonces_spent (K : Crypto) (s : Setup) (evs : List Ev) (n : Nonce) :
    ((verifier K).hist ⟨newVerifier s, ∅⟩ evs).countP (accepted n) ≤
      ((verifier K).hist ⟨newVerifier s, ∅⟩ evs).countP (issued n) := by
  have h0 : Spending s.nonceLifetime [] ⟨newVerifier s, ∅⟩ := by
    refine ⟨fun k c p hk => ?_, [], inv_new { defaultNonceStoreConfig with
      lifetime := s.nonceLifetime, usedBackend := s.usedNonceBackend }, fun m => ?_, fun m => ?_⟩
    · rw [AList.lookup_empty] at hk
      exact nomatch hk
    · exact Nat.le_refl 0
    · exact Nat.le_refl 0
  have hrun :=
    Machine.hist_inv (M := verifier K) (J := Spending s.nonceLifetime)
      (fun h t e hs => step_spending hs e) evs h0
  obtain ⟨hn, hinv, hacc, hiss⟩ := hrun.behind
  have h1 := hacc n
  have h2 := hinv.count n
  have h3 := hiss n
  rw [List.nil_append] at h1 h3
  omega

end Lota.L3.Interleave

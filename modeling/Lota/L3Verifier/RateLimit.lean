import Lota.L3Verifier.Budget

/-!
# The rate limit of an identity (`verifier/verify/nonce.go`)

`checkIdentityRateLimit` counts the reports of an identity from the start of
its window. `cleanup` drops the record of an identity, count included, once
its window started more than three nonce lifetimes ago. Nothing relates the
two durations: with a window longer than three lifetimes the count is
forgotten while the window still runs.

The clock does not go back and is past January 1, year 1 (`ClockOk`).

* `verifyNonce_window`: what a report that passes does to the window.
* `cleanup_window`: when a cleanup keeps it.
* `passes_bounded`: over every run, while the record is kept, the limit holds.
* `rate_limit_iff`: the limit holds over every run exactly when the window is
  at most three lifetimes (or nothing can pass, or no window lasts).
* `rate_limit_exceeded`: a window of one minute with a lifetime of ten seconds.
-/
namespace Lota.L3.Runs
open Lota.Core Lota.L1.Report Lota.L1.Attest
open Lota.L2 Lota.L2.Nonce Lota.L3.Verify

/-! ## Runs of the store -/

/-- The clock readings of a call, in the order of the code. -/
def readings : Nonce.Op → List Time
  | .generateChallenge env _ _ => [env.limitNow, env.createdNow]
  | .verifyNonce env _ _ _ => [env.sinceNow, env.rateNow, env.usedNow, env.attestNow]
  | .cleanup now _ => [now]

/-- The clock never goes back, and never reads Go's zero time. -/
structure ClockOk (ops : List Nonce.Op) : Prop where
  mono : (ops.flatMap readings).Pairwise (· ≤ ·)
  past : ∀ t ∈ ops.flatMap readings, zeroTime < t

/-- The start and the count of the window of an identity. -/
def window (ns : NonceStore) (c : String) : Time × Int :=
  let cs := (ns.identityChallenges.lookup c).getD {}
  (cs.windowStart, cs.windowCount)

/-- A report at this time starts a new window. -/
def WindowStarts (ns : NonceStore) (c : String) (now : Time) : Prop :=
  (window ns c).1 = zeroTime ∨ now - (window ns c).1 > ns.rateLimitWindow

open Classical in
/-- When the call is a report of `c` that passes the rate-limit check, the
reading it passed at. -/
noncomputable def passTime (c : String) (ns : NonceStore) : Nonce.Op → List Time
  | .verifyNonce env report b id => if id = c ∧ Charged ns env report b id then [env.rateNow] else []
  | _ => []

/-- The times at which reports of `c` pass the check in a run. -/
noncomputable def passTimes (c : String) : NonceStore → List Nonce.Op → List Time
  | _, [] => []
  | ns, op :: ops => passTime c ns op ++ passTimes c (Nonce.call ns op).1 ops

/-- From the start of a window of an identity until `rateLimitWindow` later at
most `rateLimitMax` of its reports pass. -/
def RateLimited (cfg : NonceStoreConfig) : Prop :=
  ∀ before env report b c after,
    let op := Nonce.Op.verifyNonce env report b c
    let ns := calls.run (newNonceStoreFromConfig cfg) before
    ClockOk (before ++ op :: after) → Charged ns env report b c → WindowStarts ns c env.rateNow →
      ((passTimes c ns (op :: after)).countP (· ≤ env.rateNow + cfg.rateLimitWindow) : Int) ≤
      cfg.rateLimitMax

/-- How long the record of an identity outlives the start of its window. -/
def evictionAge (cfg : NonceStoreConfig) : Duration := -wrap64 (-cfg.lifetime * 3)

/-! ## What a call does to the window -/

theorem checkIdentityRateLimit_window {ns ns' : NonceStore} {c : String} {now : Time}
    (h : ns.checkIdentityRateLimit c now = .ok ns') :
    (WindowStarts ns c now → window ns' c = (now, 1)) ∧
      (¬ WindowStarts ns c now → window ns' c = ((window ns c).1, (window ns c).2 + 1) ∧
        (window ns c).2 < ns.rateLimitMax) := by
  unfold NonceStore.checkIdentityRateLimit at h
  simp only at h
  split at h
  · rename_i hstart
    cases h
    refine ⟨fun _ => ?_, fun hno => absurd hstart hno⟩
    simp [window, AList.lookup_insert]
  · rename_i hstart
    refine ⟨fun hs => absurd hs hstart, fun _ => ?_⟩
    split at h
    · cases h
    · rename_i hmax
      cases h
      refine ⟨by simp [window, AList.lookup_insert], ?_⟩
      exact Int.not_le.mp hmax

theorem window_of_lookup {ns ns' : NonceStore} {c : String}
    (h : ns'.identityChallenges.lookup c = ns.identityChallenges.lookup c) :
    window ns' c = window ns c := by
  unfold window
  rw [h]

theorem consumeNonce_window (ns : NonceStore) (env : VerifyEnv) (key : String) (entry : NonceEntry)
    (c : String) : window (ns.consumeNonce env key entry c).1 c = window ns c := by
  unfold NonceStore.consumeNonce
  simp only
  rcases ns.usedBackend.record env.recordFault key env.usedNow with ⟨b, e | u⟩
  · rfl
  · obtain ⟨h1, -, -⟩ := releasePending_identities
      { ns with pending := ns.pending.erase key, usedBackend := b } entry.bindingID
    simp only [window, AList.lookup_insert, Option.getD_some, h1]

/-- A report that passes starts a window or is counted in the one that runs. -/
theorem verifyNonce_window {ns : NonceStore} {env : VerifyEnv} {report : AttestationReport}
    {b c : String}
    (h : Charged ns env report b c) :
    (WindowStarts ns c env.rateNow → window (ns.verifyNonce env report b c).1 c = (env.rateNow, 1)) ∧
      (¬ WindowStarts ns c env.rateNow →
        window (ns.verifyNonce env report b c).1 c = ((window ns c).1, (window ns c).2 + 1) ∧
          (window ns c).2 < ns.rateLimitMax) := by
  obtain ⟨entry, hp, hage, hbind, hnonce, hcap⟩ := h.pending
  obtain ⟨ns₁, hrate⟩ := h.rate
  have hafter : window (ns.verifyNonce env report b c).1 c = window ns₁ c := by
    unfold NonceStore.verifyNonce
    simp only [h.unused, hp, hcap, hrate]
    rw [if_neg (by decide), if_neg (Int.not_lt.mpr hage), if_neg (by tauto),
      if_neg (not_not.mpr hnonce)]
    split
    · rfl
    · exact consumeNonce_window _ _ _ _ _
  rw [hafter]
  exact checkIdentityRateLimit_window hrate

theorem verifyNonce_config (ns : NonceStore) (env : VerifyEnv) (report : AttestationReport)
    (b c : String) : (ns.verifyNonce env report b c).1.rateLimitWindow = ns.rateLimitWindow ∧
      (ns.verifyNonce env report b c).1.rateLimitMax = ns.rateLimitMax := by
  rcases verifyNonce_identity ns env report b c with ⟨-, h2, h3⟩ | ⟨-, h⟩
  · exact ⟨h2, h3⟩
  · exact ⟨h.window, h.max⟩

/-- A record is dropped when attestation and window are older than the cutoff.
mirrors src/verifier/verify/nonce.go:513-518 -/
def stale (cutoff : Time) (cs : ClientState) : Bool :=
  cs.lastAttestation < cutoff ∧ (cs.windowStart = zeroTime ∨ cs.windowStart < cutoff)

theorem cleanup_lookup (ns : NonceStore) (now : Time) (deleteFails : Bool) (c : String) :
    (ns.cleanup now deleteFails).identityChallenges.lookup c =
      (ns.identityChallenges.lookup c).filter fun cs => ¬ stale (now + wrap64 (-ns.lifetime * 3))
      cs = true := by
  obtain ⟨h1, -, -⟩ := expireLoop_identities now ns.pending.entries ns
  have hlife : (ns.pending.entries.foldl (fun ns e => ns.expirePending now e.1 e.2) ns).lifetime =
      ns.lifetime :=
    (ns.cleanup_pending now deleteFails).1
  have hcut : (ns.cleanup now deleteFails).identityChallenges =
      NonceStore.deleteIf (stale (now + wrap64 (-ns.lifetime * 3))) ns.identityChallenges := by
    rw [← h1, ← hlife]
    rfl
  rw [hcut, NonceStore.lookup_deleteIf]

/-- A cleanup keeps a window that is younger than three lifetimes. -/
theorem cleanup_window {ns : NonceStore} {now : Time} (deleteFails : Bool) {c : String}
    (hset : (window ns c).1 ≠ zeroTime)
    (hyoung : now + wrap64 (-ns.lifetime * 3) ≤ (window ns c).1) :
    window (ns.cleanup now deleteFails) c = window ns c := by
  apply window_of_lookup
  rw [cleanup_lookup]
  unfold window at hset hyoung
  cases hl : ns.identityChallenges.lookup c with
  | none => rfl
  | some cs =>
    rw [hl, Option.getD_some] at hset hyoung
    have hfresh : stale (now + wrap64 (-ns.lifetime * 3)) cs = false := by
      refine decide_eq_false fun hold => ?_
      rcases hold.2 with hzero | hlt
      · exact hset hzero
      · exact Int.not_lt.mpr hyoung hlt
    simp only [Option.filter, hfresh, Bool.false_eq_true, not_false_eq_true, decide_true, if_true]

/-! ## The limit over a run -/

/-- The limits of the store are those of the configuration. -/
structure Configured (cfg : NonceStoreConfig) (ns : NonceStore) : Prop where
  lifetime : ns.lifetime = cfg.lifetime
  window : ns.rateLimitWindow = cfg.rateLimitWindow
  max : ns.rateLimitMax = cfg.rateLimitMax

theorem call_configured {cfg : NonceStoreConfig} {ns : NonceStore} (op : Nonce.Op)
    (h : Configured cfg ns) : Configured cfg (Nonce.call ns op).1 := by
  cases op with
  | generateChallenge env b mask =>
    obtain ⟨-, h2, h3⟩ := generateChallenge_identities ns env b mask
    exact ⟨(ns.generateChallenge_cases env b mask).1.trans h.lifetime, h2.trans h.window,
      h3.trans h.max⟩
  | verifyNonce env report b id =>
    obtain ⟨h2, h3⟩ := verifyNonce_config ns env report b id
    exact ⟨(ns.verifyNonce_cases env report b id).1.trans h.lifetime, h2.trans h.window, h3.trans h.max⟩
  | cleanup now deleteFails =>
    obtain ⟨h2, h3, -⟩ := cleanup_identities ns now deleteFails ""
    exact ⟨(ns.cleanup_pending now deleteFails).1.trans h.lifetime, h2.trans h.window, h3.trans h.max⟩

theorem run_configured (cfg : NonceStoreConfig) (ops : List Nonce.Op) :
    Configured cfg (calls.run (newNonceStoreFromConfig cfg) ops) :=
  Machine.run_inv (P := fun _ _ => True) (J := Configured cfg)
    (fun _ op h _ => call_configured op h) ⟨rfl, rfl, rfl⟩
    (Machine.allSteps_iff.mpr fun _ _ _ _ => trivial)

/-- A report passes at a reading of its own call. -/
theorem passTimes_readings {c : String} {ns : NonceStore} {ops : List Nonce.Op} {t : Time}
    (h : t ∈ passTimes c ns ops) : t ∈ ops.flatMap readings := by
  induction ops generalizing ns with
  | nil => cases h
  | cons op ops ih =>
    rw [List.flatMap_cons, List.mem_append]
    rcases List.mem_append.mp h with hop | hrest
    · left
      cases op with
      | verifyNonce env report b id =>
        simp only [passTime] at hop
        split at hop
        · simp [readings, List.mem_singleton.mp hop]
        · cases hop
      | _ => cases hop
    · exact .inr (ih hrest)

/-- After a reading past the end of the window no pass counts. -/
theorem no_pass_after {c : String} {ns : NonceStore} {ops : List Nonce.Op} {limit : Time}
    (h : ∀ t ∈ ops.flatMap readings, limit < t) : (passTimes c ns ops).countP (· ≤ limit) = 0 := by
  rw [List.countP_eq_zero]
  intro t ht
  rw [decide_eq_true_eq]
  exact Int.not_le.mpr (h t (passTimes_readings ht))

/-- The readings of a call, and what comes after them. -/
theorem clock_cons {op : Nonce.Op} {ops : List Nonce.Op}
    (h : ((op :: ops).flatMap readings).Pairwise (· ≤ ·)) :
    (ops.flatMap readings).Pairwise (· ≤ ·) ∧ ∀ t ∈ readings op, ∀ u ∈ ops.flatMap readings, t ≤ u := by
  rw [List.flatMap_cons, List.pairwise_append] at h
  exact ⟨h.2.1, h.2.2⟩

theorem within_age {start now window cut : Int} (h : now ≤ start + window) (hage : window ≤ -cut) :
    now + cut ≤ start := by
  omega

theorem within_window {start now window : Int} (h : now ≤ start + window) : now - start ≤ window := by
  omega

theorem past_cutoff {window cut : Int} (h : -cut < window) : 0 < window + cut := by
  omega

theorem ends_before {start window : Int} (h : window < 0) : start + window < start := by
  omega

/-- **Step.** While the window lasts a call leaves the record alone, or it
passes and is counted in it. -/
theorem call_window {cfg : NonceStoreConfig} {c : String} {start : Time} (hset : start ≠ zeroTime)
    (hage : cfg.rateLimitWindow ≤ evictionAge cfg) (op : Nonce.Op) {ns : NonceStore} {n : Int}
    (hcfg : Configured cfg ns) (hwin : window ns c = (start, n)) :
    (∃ t ∈ readings op, start + cfg.rateLimitWindow < t ∧
      (passTime c ns op).countP (· ≤ start + cfg.rateLimitWindow) = 0) ∨
    (window (Nonce.call ns op).1 c = (start, n) ∧
      (passTime c ns op).countP (· ≤ start + cfg.rateLimitWindow) = 0) ∨
    (n + 1 ≤ cfg.rateLimitMax ∧ window (Nonce.call ns op).1 c = (start, n + 1) ∧
      (passTime c ns op).countP (· ≤ start + cfg.rateLimitWindow) = 1) := by
  cases op with
  | generateChallenge env b mask =>
    refine .inr (.inl ⟨?_, rfl⟩)
    rw [← hwin]
    exact window_of_lookup (by rw [(generateChallenge_identities ns env b mask).1.symm]; rfl)
  | cleanup now deleteFails =>
    by_cases hlate : start + cfg.rateLimitWindow < now
    · exact .inl ⟨now, by simp [readings], hlate, rfl⟩
    · refine .inr (.inl ⟨?_, rfl⟩)
      rw [← hwin]
      have hyoung : now + wrap64 (-ns.lifetime * 3) ≤ (window ns c).1 := by
        rw [hwin, hcfg.lifetime]
        exact within_age (Int.not_lt.mp hlate) hage
      exact cleanup_window deleteFails (by rw [hwin]; exact hset) hyoung
  | verifyNonce env report b id =>
    by_cases hlate : start + cfg.rateLimitWindow < env.rateNow
    · refine .inl ⟨env.rateNow, by simp [readings], hlate, ?_⟩
      simp only [passTime]
      split
      · simp only [List.countP_singleton, decide_eq_true_eq]
        rw [if_neg (Int.not_le.mpr hlate)]
      · rfl
    · by_cases hpass : id = c ∧ Charged ns env report b id
      · obtain ⟨rfl, hcharged⟩ := hpass
        have hold : ¬ WindowStarts ns id env.rateNow := by
          unfold WindowStarts
          rw [hwin, hcfg.window]
          rintro (hz | hz)
          · exact hset hz
          · exact Int.not_lt.mpr (within_window (Int.not_lt.mp hlate)) hz
        obtain ⟨hnew, hroom⟩ := (verifyNonce_window hcharged).2 hold
        rw [hwin] at hnew hroom
        rw [hcfg.max] at hroom
        simp only at hnew hroom
        refine .inr (.inr ⟨by omega, hnew, ?_⟩)
        simp only [passTime, if_pos (⟨rfl, hcharged⟩ : id = id ∧ Charged ns env report b id),
          List.countP_singleton, decide_eq_true_eq]
        rw [if_pos (Int.not_lt.mp hlate)]
      · refine .inr (.inl ⟨?_, ?_⟩)
        · rw [← hwin]
          apply window_of_lookup
          rcases verifyNonce_identity ns env report b id with ⟨h1, -, -⟩ | ⟨hcharged, hothers⟩
          · exact congrArg (AList.lookup c) h1
          · exact hothers.others c fun he => hpass ⟨he.symm, hcharged⟩
        · simp only [passTime, if_neg hpass, List.countP_nil]

/-- **Run.** While a window that started at `start` has counted `n` reports,
the reports that pass before its end stay within the limit. -/
theorem passes_bounded {cfg : NonceStoreConfig} {c : String} {start : Time} (hset : start ≠ zeroTime)
    (hage : cfg.rateLimitWindow ≤ evictionAge cfg) {ops : List Nonce.Op} {ns : NonceStore} {n : Int}
    (hcfg : Configured cfg ns) (hwin : window ns c = (start, n)) (hn : n ≤ cfg.rateLimitMax)
    (hclock : (ops.flatMap readings).Pairwise (· ≤ ·)) :
    n + ((passTimes c ns ops).countP (· ≤ start + cfg.rateLimitWindow) : Int) ≤ cfg.rateLimitMax := by
  induction ops generalizing ns n with
  | nil => simpa [passTimes] using hn
  | cons op ops ih =>
    obtain ⟨hclock', hafter⟩ := clock_cons hclock
    have hcfg' := call_configured op hcfg
    rw [passTimes, List.countP_append, Nat.cast_add]
    rcases call_window hset hage op hcfg hwin with ⟨t, ht, hlt, hzero⟩ | ⟨hsame,
      hzero⟩ | ⟨hroom, hnew, hone⟩
    · -- the window is over, and the clock does not go back
      have hend : (passTimes c (Nonce.call ns op).1 ops).countP (· ≤ start + cfg.rateLimitWindow) = 0 :=
        no_pass_after fun u hu => Int.lt_of_lt_of_le hlt (hafter t ht u hu)
      rw [hzero, hend]
      simpa using hn
    · have := ih hcfg' hsame hn hclock'
      rw [hzero]
      simpa using this
    · have := ih hcfg' hnew hroom hclock'
      rw [hone]
      omega

/-! ## Nothing can pass -/

/-- A pending nonce was created at a reading of the run. -/
theorem run_created {ops : List Nonce.Op} {ns : NonceStore} {past : List Time}
    (h : ∀ k e, ns.pending.lookup k = some e → e.createdAt ∈ past) :
    ∀ k e, (calls.run ns ops).pending.lookup k = some e →
    e.createdAt ∈ past ++ ops.flatMap readings := by
  induction ops generalizing ns past with
  | nil => simpa [Machine.run] using h
  | cons op ops ih =>
    have hstep : ∀ k e, (Nonce.call ns op).1.pending.lookup k = some e →
        e.createdAt ∈ past ++ readings op := by
      intro k e he
      cases op with
      | generateChallenge env b mask =>
        obtain ⟨-, ⟨-, hsame⟩ | ⟨ch, entry, -, -, -, hins, -, hcreated, -⟩⟩ :=
          ns.generateChallenge_cases env b mask
        · exact List.mem_append_left _ (h k e (by rw [← hsame]; exact he))
        · change (ns.generateChallenge env b mask).1.pending.lookup k = some e at he
          rw [hins, lookup_insert_ite] at he
          split at he
          · cases he
            rw [hcreated]
            exact List.mem_append_right _ (by simp [readings])
          · exact List.mem_append_left _ (h k e he)
      | verifyNonce env report b id =>
        change (ns.verifyNonce env report b id).1.pending.lookup k = some e at he
        refine List.mem_append_left _ (h k e ?_)
        obtain ⟨-, ⟨-, hsame | herase⟩ | ⟨herase, -⟩⟩ := ns.verifyNonce_cases env report b id
        · rw [← hsame]
          exact he
        · rw [herase] at he
          exact lookup_of_erase he
        · rw [herase] at he
          exact lookup_of_erase he
      | cleanup now deleteFails =>
        exact List.mem_append_left _ (h k e ((ns.cleanup_pending now deleteFails).2 k e he))
    intro k e he
    have := ih hstep k e he
    rwa [List.append_assoc, ← List.flatMap_cons] at this

/-- With a negative lifetime every nonce is too old. -/
theorem not_charged_of_lifetime {cfg : NonceStoreConfig} (hneg : cfg.lifetime < 0)
    {before after : List Nonce.Op}
    {env : VerifyEnv} {report : AttestationReport} {b c : String}
    (hclock : ClockOk (before ++ .verifyNonce env report b c :: after)) :
    ¬ Charged (calls.run (newNonceStoreFromConfig cfg) before) env report b c := by
  intro hcharged
  obtain ⟨entry, hp, hage, -⟩ := hcharged.pending
  have hempty : ∀ k e, (newNonceStoreFromConfig cfg).pending.lookup k = some e →
      e.createdAt ∈ ([] : List Time) := by
    intro k e he
    simp [newNonceStoreFromConfig] at he
  have hcreated : entry.createdAt ∈ [] ++ before.flatMap readings := run_created hempty _ _ hp
  have hmono := hclock.mono
  rw [List.flatMap_append, List.pairwise_append] at hmono
  have hle : entry.createdAt ≤ env.sinceNow := hmono.2.2 _ hcreated _ (by simp [readings])
  rw [(run_configured cfg before).lifetime] at hage
  exact absurd (Int.lt_of_le_of_lt (Int.sub_nonneg_of_le hle) (Int.lt_of_le_of_lt hage hneg))
    (Int.lt_irrefl 0)

/-! ## The limit holds -/

theorem passTime_charged {ns : NonceStore} {env : VerifyEnv} {report : AttestationReport} {b c : String}
    (h : Charged ns env report b c) : passTime c ns (.verifyNonce env report b c) = [env.rateNow] := by
  simp only [passTime]
  rw [if_pos ⟨rfl, h⟩]

/-- The window is at most three lifetimes, or never lasts, or no nonce does. -/
def KeepsRecord (cfg : NonceStoreConfig) : Prop :=
  cfg.rateLimitWindow ≤ evictionAge cfg ∨ cfg.rateLimitWindow < 0 ∨ cfg.lifetime < 0

theorem rateLimited_of_keeps {cfg : NonceStoreConfig} (hmax : 1 ≤ cfg.rateLimitMax)
    (h : KeepsRecord cfg) : RateLimited cfg := by
  intro before env report b c after op ns hclock hcharged hstarts
  have hmono := hclock.mono
  rw [List.flatMap_append, List.pairwise_append] at hmono
  obtain ⟨hafter, hlater⟩ := clock_cons hmono.2.1
  have hset : env.rateNow ≠ zeroTime := by
    have hin : env.rateNow ∈ (before ++ op :: after).flatMap readings := by simp [op, readings]
    exact Int.ne_of_gt (hclock.past _ hin)
  rw [passTimes, List.countP_append, passTime_charged hcharged]
  rcases h with hage | hneg | hneg
  · have hcfg : Configured cfg ns := run_configured cfg before
    have hwin : window (Nonce.call ns op).1 c = (env.rateNow, 1) :=
      (verifyNonce_window hcharged).1 hstarts
    have hrun := passes_bounded hset hage (call_configured op hcfg) hwin hmax hafter
    have hone : [env.rateNow].countP (· ≤ env.rateNow + cfg.rateLimitWindow) ≤ 1 :=
      List.countP_le_length
    omega
  · -- the window is over when it starts
    have hpast : ∀ t : Time, env.rateNow ≤ t → env.rateNow + cfg.rateLimitWindow < t := fun t ht =>
      Int.lt_of_lt_of_le (ends_before hneg) ht
    rw [no_pass_after fun t ht => hpast t (hlater env.rateNow (by simp [op, readings]) t ht)]
    have hzero : [env.rateNow].countP (· ≤ env.rateNow + cfg.rateLimitWindow) = 0 := by
      rw [List.countP_singleton, if_neg]
      exact fun hle => Int.not_le.mpr (hpast _ (Int.le_refl _)) (of_decide_eq_true hle)
    rw [hzero]
    omega
  · exact absurd hcharged (not_charged_of_lifetime hneg hclock)

/-! ## The limit fails

One challenge is answered with reports without a quote until the limit is
reached: such a report passes the check, fails behind it and leaves its nonce
pending. At the end of the window a cleanup forgets the count, and a report
to a new challenge passes. -/

/-- A challenge with this nonce at time `t`. -/
def challengeAt (t : Time) (n : Nonce) (b : String) : Nonce.Op :=
  .generateChallenge { rand := fun _ => .ok n, limitNow := t, createdNow := t } b 0

/-- Every reading of the call is `t`. -/
def readAt (t : Time) : VerifyEnv := { sinceNow := t, rateNow := t, usedNow := t, attestNow := t }

/-- A report to the challenge with nonce `n`, without a quote. -/
def bareReport (n : Nonce) : AttestationReport := unsigned (commitDevice n agentA)

def reportAt (t : Time) (n : Nonce) (b : String) : Nonce.Op :=
  .verifyNonce (readAt t) (bareReport n) b Device.name

/-- No nonce was ever used. -/
def Unused (ns : NonceStore) : Prop := ∃ maxSize, ns.usedBackend = .memory { maxSize }

theorem Unused.contains {ns : NonceStore} (h : Unused ns) (n : Nonce) :
    ns.usedBackend.contains false (nonceKey n) = false := by
  obtain ⟨maxSize, hb⟩ := h
  rw [hb]
  rfl

/-- The challenge with nonce `n` waits for its report on binding `b` at
time `t`. -/
structure Open (ns : NonceStore) (t : Time) (n : Nonce) (b : String) : Prop where
  lifetime : 0 ≤ ns.lifetime
  unused : Unused ns
  pending : ∃ entry, ns.pending.lookup (nonceKey n) = some entry ∧ entry.createdAt = t ∧
    entry.bindingID = b ∧ entry.nonce = n ∧ entry.challengeFlags = challengeFlagBootCommitmentV1

theorem challengeAt_open {ns : NonceStore} {t : Time} {n : Nonce} {b : String} (hlife : 0 ≤ ns.lifetime)
    (hunused : Unused ns) (hpending : ns.pending.lookup (nonceKey n) = none)
    (hb : ns.bindingChallenges.lookup b = none) : Open (Nonce.call ns (challengeAt t n b)).1 t n b ∧
      (Nonce.call ns (challengeAt t n b)).1.usedBackend = ns.usedBackend ∧
      (Nonce.call ns (challengeAt t n b)).1.identityChallenges = ns.identityChallenges ∧
      (∀ b', b' ≠ b → (Nonce.call ns (challengeAt t n b)).1.bindingChallenges.lookup b' =
        ns.bindingChallenges.lookup b') ∧
      (∀ k, k ≠ nonceKey n → (Nonce.call ns (challengeAt t n b)).1.pending.lookup k =
        ns.pending.lookup k) := by
  have hlimit : ns.checkPendingLimit b t =
      .ok { ns with bindingChallenges := ns.bindingChallenges.insert b { windowStart := t } } := by
    unfold NonceStore.checkPendingLimit
    rw [hb]
  have hdraw : NonceStore.generateUniqueNonce
      { ns with bindingChallenges := ns.bindingChallenges.insert b { windowStart := t } }
      { rand := fun _ => .ok n, limitNow := t, createdNow := t }
        NonceStore.maxNonceGenerationAttempts 0 = .ok n := by
    unfold NonceStore.maxNonceGenerationAttempts NonceStore.generateUniqueNonce
    simp only [hpending, Option.isSome_none, Bool.false_eq_true, if_false, hunused.contains]
  simp only [Nonce.call, challengeAt, NonceStore.generateChallenge, hlimit, hdraw]
  refine ⟨⟨hlife, hunused, _, AList.lookup_insert _, rfl, rfl, rfl, rfl⟩, trivial, trivial,
    fun b' hne => ?_, fun k hne => ?_⟩
  · rw [AList.lookup_insert_ne hne, AList.lookup_insert_ne hne]
  · exact AList.lookup_insert_ne hne

/-- A report to an open challenge passes when the limit lets its identity
through, and changes nothing but the record. -/
theorem reportAt_passes {ns : NonceStore} {t : Time} {n : Nonce} {b : String} (h : Open ns t n b)
    {ns' : NonceStore}
    (hrate : ns.checkIdentityRateLimit Device.name t = .ok ns') :
    Charged ns (readAt t) (bareReport n) b Device.name ∧ (Nonce.call ns (reportAt t n b)).1 = ns' := by
  obtain ⟨entry, hp, ht, hb, hn, hf⟩ := h.pending
  have hlookup : ns.pending.lookup (nonceKey (bareReport n).tpm.nonce) = some entry := hp
  have hunused : ns.usedBackend.contains (readAt t).queryFails (nonceKey (bareReport n).tpm.nonce) =
      false :=
    h.unused.contains n
  have hcap : NonceStore.verifyChallengeCapabilities (bareReport n) entry.challengeFlags = .ok () := by
    have hoffer : hasFlag challengeFlagBootCommitmentV1 challengeFlagBootCommitmentV1 = true := by
      decide
    unfold NonceStore.verifyChallengeCapabilities
    rw [hf]
    simp only [hoffer, not_true_eq_false, and_false, if_false]
  have hage : t - entry.createdAt ≤ ns.lifetime := by
    rw [ht, Int.sub_self]
    exact h.lifetime
  have hcharged : Charged ns (readAt t) (bareReport n) b Device.name :=
    ⟨hunused, ⟨entry, hlookup, hage, .inr hb, hn, hcap⟩, ns', hrate⟩
  refine ⟨hcharged, ?_⟩
  have hquote : NonceStore.checkQuoteNonce (bareReport n) entry.nonce =
      .error "no attestation data - cannot verify nonce binding" := by
    unfold NonceStore.checkQuoteNonce
    exact if_pos rfl
  have hrate' : ns.checkIdentityRateLimit Device.name (readAt t).rateNow = .ok ns' := hrate
  have hold : ¬ (readAt t).sinceNow - entry.createdAt > ns.lifetime := Int.not_lt.mpr hage
  have hsame : ¬ entry.nonce ≠ (bareReport n).tpm.nonce := not_not.mpr hn
  simp only [Nonce.call, reportAt, NonceStore.verifyNonce, hunused, hlookup, hcap, hrate', hquote]
  rw [if_neg (by decide), if_neg hold, if_neg (fun hc => hc.2 hb), if_neg hsame]

/-- An identity without a record gets a new one. -/
theorem checkIdentityRateLimit_new {ns : NonceStore} {c : String}
    (h : ns.identityChallenges.lookup c = none) (t : Time) : ns.checkIdentityRateLimit c t =
      .ok { ns with identityChallenges := ns.identityChallenges.insert c
                      { windowStart := t, windowCount := 1 } } := by
  unfold NonceStore.checkIdentityRateLimit
  rw [h]
  exact if_pos (.inl rfl)

/-- The open challenge of the first phase, the record of the identity after
`k` reports, and nothing of the second phase. -/
structure Filling (cfg : NonceStoreConfig) (k : Int) (ns : NonceStore) : Prop where
  configured : Configured cfg ns
  waits : Open ns 0 nonce1 "first"
  record : ns.identityChallenges.lookup Device.name = some { windowStart := 0, windowCount := k }
  binding : ns.bindingChallenges.lookup "second" = none
  pending : ns.pending.lookup (nonceKey nonce2) = none

theorem filling_step {cfg : NonceStoreConfig} {k : Int} {ns : NonceStore}
    (hwin : 0 ≤ cfg.rateLimitWindow)
    (h : Filling cfg k ns) (hk : k < cfg.rateLimitMax) :
    Charged ns (readAt 0) (bareReport nonce1) "first" Device.name ∧
      Filling cfg (k + 1) (Nonce.call ns (reportAt 0 nonce1 "first")).1 := by
  have hrate : ns.checkIdentityRateLimit Device.name 0 =
      .ok { ns with
        identityChallenges := ns.identityChallenges.insert Device.name
          { windowStart := 0, windowCount := k + 1 } } := by
    unfold NonceStore.checkIdentityRateLimit
    rw [h.record]
    simp only [Option.getD_some]
    have hruns : ¬ ((0 : Time) = zeroTime ∨ (0 : Time) - 0 > ns.rateLimitWindow) := by
      rw [h.configured.window, Int.sub_self]
      rintro (hz | hz)
      · exact absurd hz (by decide)
      · exact Int.not_lt.mpr hwin hz
    rw [if_neg hruns, if_neg (by rw [h.configured.max]; exact Int.not_le.mpr hk)]
  obtain ⟨hcharged, hstep⟩ := reportAt_passes h.waits hrate
  refine ⟨hcharged, ?_⟩
  rw [hstep]
  exact ⟨⟨h.configured.lifetime, h.configured.window, h.configured.max⟩,
    ⟨h.waits.lifetime, h.waits.unused, h.waits.pending⟩,
    AList.lookup_insert _, h.binding, h.pending⟩

theorem passTimes_append (c : String) (ns : NonceStore) (xs ys : List Nonce.Op) :
    passTimes c ns (xs ++ ys) = passTimes c ns xs ++ passTimes c (calls.run ns xs) ys := by
  induction xs generalizing ns with
  | nil => rfl
  | cons x xs ih =>
    rw [List.cons_append, passTimes, passTimes, ih, List.append_assoc]
    rfl

/-- Reports fill the window up to the limit. -/
theorem filling_run {cfg : NonceStoreConfig} (hwin : 0 ≤ cfg.rateLimitWindow) {j : Nat} {k : Int}
    {ns : NonceStore}
    (h : Filling cfg k ns) (hk : k + j ≤ cfg.rateLimitMax) :
    passTimes Device.name ns (List.replicate j (reportAt 0 nonce1 "first")) = List.replicate j 0 ∧
      Filling cfg (k + j) (calls.run ns (List.replicate j (reportAt 0 nonce1 "first"))) := by
  induction j generalizing k ns with
  | zero => exact ⟨rfl, by simpa [Machine.run] using h⟩
  | succ j ih =>
    obtain ⟨hcharged, hnext⟩ := filling_step hwin h (by omega)
    obtain ⟨htimes, hrun⟩ := ih hnext (by omega)
    rw [List.replicate_succ, List.replicate_succ, passTimes, reportAt, passTime_charged hcharged]
    refine ⟨congrArg (List.cons 0) htimes, ?_⟩
    have hsum : k + (j + 1 : Nat) = k + 1 + j := by omega
    rw [hsum]
    exact hrun

/-- The first report starts the window. -/
theorem filling_start {cfg : NonceStoreConfig} (hlife : 0 ≤ cfg.lifetime)
    (hnone : cfg.usedBackend = none) :
    let ns := calls.run (newNonceStoreFromConfig cfg) [challengeAt 0 nonce1 "first"]
    Charged ns (readAt 0) (bareReport nonce1) "first" Device.name ∧ WindowStarts ns Device.name 0 ∧
      Filling cfg 1 (Nonce.call ns (reportAt 0 nonce1 "first")).1 := by
  intro ns
  have hunused : Unused (newNonceStoreFromConfig cfg) :=
    ⟨cfg.usedNonceHistory, by simp [newNonceStoreFromConfig, hnone]⟩
  have hfresh : (newNonceStoreFromConfig cfg).pending.lookup (nonceKey nonce1) = none := rfl
  have hfirst : (newNonceStoreFromConfig cfg).bindingChallenges.lookup "first" = none := rfl
  obtain ⟨hopen, -, hids, hbind, hpend⟩ := challengeAt_open (t := 0) hlife hunused hfresh hfirst
  have hcfg : Configured cfg ns := run_configured cfg [challengeAt 0 nonce1 "first"]
  have hrecord : ns.identityChallenges.lookup Device.name = none := by
    change (Nonce.call (newNonceStoreFromConfig cfg)
      (challengeAt 0 nonce1 "first")).1.identityChallenges.lookup _ = none
    rw [hids]
    rfl
  have hwaits : Open ns 0 nonce1 "first" := hopen
  obtain ⟨hcharged, hstep⟩ := reportAt_passes hwaits (checkIdentityRateLimit_new hrecord 0)
  refine ⟨hcharged, .inl (by rw [window, hrecord]; rfl), ?_⟩
  rw [hstep]
  refine ⟨⟨hcfg.lifetime, hcfg.window, hcfg.max⟩, ⟨hwaits.lifetime, hwaits.unused, hwaits.pending⟩,
    AList.lookup_insert _, ?_, ?_⟩
  · exact (hbind "second" (by decide)).trans rfl
  · exact (hpend (nonceKey nonce2) fun he => absurd (nonceKey_inj.mp he) (by decide)).trans rfl

/-- Cleaning up adds no binding. -/
theorem cleanup_bindings {ns : NonceStore} {b : String} (h : ns.bindingChallenges.lookup b = none)
    (now : Time)
    (deleteFails : Bool) : (ns.cleanup now deleteFails).bindingChallenges.lookup b = none := by
  have hrelease : ∀ (ns : NonceStore) (b' : String), ns.bindingChallenges.lookup b = none →
      (ns.releasePending b').bindingChallenges.lookup b = none := by
    intro ns b' h
    unfold NonceStore.releasePending
    split
    · exact h
    · rename_i cs hcs
      have hne : b ≠ b' := by
        rintro rfl
        rw [h] at hcs
        cases hcs
      rw [AList.lookup_insert_ne hne]
      exact h
  have hloop : ∀ (l : List (Sigma fun _ : String => NonceEntry)) (ns : NonceStore),
      ns.bindingChallenges.lookup b = none →
      (l.foldl (fun ns e => ns.expirePending now e.1 e.2) ns).bindingChallenges.lookup b = none := by
    intro l
    induction l with
    | nil => exact fun ns h => h
    | cons x l ih =>
      intro ns h
      have hx : (ns.expirePending now x.1 x.2).bindingChallenges.lookup b = none := by
        unfold NonceStore.expirePending
        split
        · exact hrelease ns _ h
        · exact h
      exact ih _ hx
  rcases deleteIf_lookup _ _ b with hd | hd
  · exact hd.trans (hloop ns.pending.entries ns h)
  · exact hd

/-- At the end of a window longer than three lifetimes the cleanup forgets the
count. -/
theorem filling_forgotten {cfg : NonceStoreConfig} {k : Int} {ns : NonceStore} (h : Filling cfg k ns)
    (hlate : evictionAge cfg < cfg.rateLimitWindow) :
    let ns' := ns.cleanup cfg.rateLimitWindow false
    ns'.identityChallenges.lookup Device.name = none ∧ ns'.bindingChallenges.lookup "second" = none ∧
      ns'.pending.lookup (nonceKey nonce2) = none ∧ Unused ns' ∧ 0 ≤ ns'.lifetime := by
  intro ns'
  have hcut : 0 < cfg.rateLimitWindow + wrap64 (-ns.lifetime * 3) := by
    rw [h.configured.lifetime]
    unfold evictionAge at hlate
    exact past_cutoff hlate
  refine ⟨?_, cleanup_bindings h.binding _ _, ?_, ?_, ?_⟩
  · rw [cleanup_lookup, h.record]
    have hpast : zeroTime < 0 := by decide
    have hstale : stale (cfg.rateLimitWindow + wrap64 (-ns.lifetime * 3))
        { windowStart := 0, windowCount := k } = true :=
      decide_eq_true ⟨Int.lt_trans (b := 0) hpast hcut, .inr hcut⟩
    simp only [Option.filter, hstale, not_true_eq_false, decide_false, Bool.false_eq_true, if_false]
  · cases hp : ns'.pending.lookup (nonceKey nonce2) with
    | none => rfl
    | some e =>
      have hold := (ns.cleanup_pending cfg.rateLimitWindow false).2 _ e hp
      rw [h.pending] at hold
      cases hold
  · obtain ⟨maxSize, hb⟩ := h.waits.unused
    refine ⟨maxSize, ?_⟩
    have hloop : ∀ (l : List (Sigma fun _ : String => NonceEntry)) (ns : NonceStore),
        (l.foldl (fun ns e => ns.expirePending cfg.rateLimitWindow e.1 e.2) ns).usedBackend =
        ns.usedBackend := by
      intro l
      induction l with
      | nil => exact fun ns => rfl
      | cons x l ih =>
        intro ns
        have hx : (ns.expirePending cfg.rateLimitWindow x.1 x.2).usedBackend = ns.usedBackend := by
          unfold NonceStore.expirePending
          split
          · rw [release_frame]
          · rfl
        exact (ih _).trans hx
    change UsedNonceBackend.cleanup _ false _ = _
    rw [hloop, hb]
    rfl
  · exact (ns.cleanup_pending cfg.rateLimitWindow false).1.symm ▸ h.waits.lifetime

/-- The run: the limit is reached at time 0, forgotten at the end of the
window, and passed there once more. -/
def overrun (cfg : NonceStoreConfig) : List Nonce.Op :=
  List.replicate (cfg.rateLimitMax.toNat - 1) (reportAt 0 nonce1 "first") ++
    [.cleanup cfg.rateLimitWindow false, challengeAt cfg.rateLimitWindow nonce2 "second",
      reportAt cfg.rateLimitWindow nonce2 "second"]

theorem overrun_passes {cfg : NonceStoreConfig} (hmax : 1 ≤ cfg.rateLimitMax)
    (hwin : 0 ≤ cfg.rateLimitWindow)
    (hlate : evictionAge cfg < cfg.rateLimitWindow) {ns : NonceStore} (h : Filling cfg 1 ns) :
    passTimes Device.name ns (overrun cfg) =
      List.replicate (cfg.rateLimitMax.toNat - 1) 0 ++ [cfg.rateLimitWindow] := by
  obtain ⟨htimes, hfull⟩ := filling_run hwin (j := cfg.rateLimitMax.toNat - 1) h (by omega)
  obtain ⟨hrecord, hbinding, hpending, hunused, hlife⟩ := filling_forgotten hfull hlate
  rw [overrun, passTimes_append, htimes]
  refine congrArg _ ?_
  obtain ⟨hopen, -, hids, -, -⟩ :=
    challengeAt_open (t := cfg.rateLimitWindow) hlife hunused hpending hbinding
  rw [← hids] at hrecord
  obtain ⟨hcharged, -⟩ := reportAt_passes hopen (checkIdentityRateLimit_new hrecord cfg.rateLimitWindow)
  have hpass := passTime_charged hcharged
  rw [passTimes, passTimes, passTimes, passTimes, List.append_nil]
  exact hpass

theorem pairwise_of_const {l : List Time} {x : Time} (h : ∀ t ∈ l, t = x) : l.Pairwise (· ≤ ·) := by
  rw [List.eq_replicate_of_mem h]
  exact List.pairwise_replicate.mpr (.inr (Int.le_refl x))

/-- The readings of the run: 0, and the end of the window. -/
theorem overrun_clock {cfg : NonceStoreConfig} (hwin : 0 ≤ cfg.rateLimitWindow) :
    ClockOk ([challengeAt 0 nonce1 "first"] ++ reportAt 0 nonce1 "first" :: overrun cfg) := by
  -- two phases, each with one reading
  have hsplit : [challengeAt 0 nonce1 "first"] ++ reportAt 0 nonce1 "first" :: overrun cfg =
      (challengeAt 0 nonce1 "first" :: reportAt 0 nonce1 "first" ::
        List.replicate (cfg.rateLimitMax.toNat - 1) (reportAt 0 nonce1 "first")) ++
      [.cleanup cfg.rateLimitWindow false, challengeAt cfg.rateLimitWindow nonce2 "second",
        reportAt cfg.rateLimitWindow nonce2 "second"] := rfl
  have hfirst : ∀ t ∈ (challengeAt 0 nonce1 "first" :: reportAt 0 nonce1 "first" ::
      List.replicate (cfg.rateLimitMax.toNat - 1) (reportAt 0 nonce1 "first")).flatMap readings,
      t = 0 := by
    intro t ht
    obtain ⟨op, hop, ht⟩ := List.mem_flatMap.mp ht
    rcases List.mem_cons.mp hop with rfl | hop
    · simpa [challengeAt, readings] using ht
    · have hop' : op = reportAt 0 nonce1 "first" := by
        rcases List.mem_cons.mp hop with rfl | hop
        · rfl
        · exact List.eq_of_mem_replicate hop
      rw [hop'] at ht
      simpa [reportAt, readAt, readings] using ht
  have hsecond :
      ∀ t ∈ [Nonce.Op.cleanup cfg.rateLimitWindow false,
        challengeAt cfg.rateLimitWindow nonce2 "second",
      reportAt cfg.rateLimitWindow nonce2 "second"].flatMap readings, t = cfg.rateLimitWindow := by
    intro t ht
    simpa [challengeAt, reportAt, readAt, readings] using ht
  have hpast : zeroTime < 0 := by decide
  rw [hsplit]
  constructor
  · rw [List.flatMap_append, List.pairwise_append]
    refine ⟨pairwise_of_const hfirst, pairwise_of_const hsecond, fun t ht u hu => ?_⟩
    rw [hfirst t ht, hsecond u hu]
    exact hwin
  · intro t ht
    rw [List.flatMap_append] at ht
    rcases List.mem_append.mp ht with ht | ht
    · rw [hfirst t ht]
      exact hpast
    · rw [hsecond t ht]
      exact Int.lt_of_lt_of_le hpast hwin

theorem not_rateLimited {cfg : NonceStoreConfig} (hnone : cfg.usedBackend = none)
    (hmax : 1 ≤ cfg.rateLimitMax)
    (h : ¬ KeepsRecord cfg) : ¬ RateLimited cfg := by
  obtain ⟨hage, hrest⟩ := not_or.mp h
  obtain ⟨hwin, hlife⟩ := not_or.mp hrest
  have hwin' : 0 ≤ cfg.rateLimitWindow := Int.not_lt.mp hwin
  obtain ⟨hcharged, hstarts, hfilling⟩ := filling_start (Int.not_lt.mp hlife) hnone
  intro hlimit
  have hcount :=
    hlimit [challengeAt 0 nonce1 "first"] (readAt 0) (bareReport nonce1) "first"
      Device.name (overrun cfg)
    (overrun_clock hwin') hcharged hstarts
  rw [passTimes, passTime_charged hcharged] at hcount
  have hpasses := overrun_passes hmax hwin' (Int.not_le.mp hage) hfilling
  rw [reportAt] at hpasses
  rw [hpasses, List.countP_append, List.countP_append, List.countP_replicate, List.countP_singleton,
    List.countP_singleton] at hcount
  have hzero : decide ((readAt 0).rateNow ≤ (readAt 0).rateNow + cfg.rateLimitWindow) = true :=
    decide_eq_true (Int.le_add_of_nonneg_right hwin')
  have hend : decide (cfg.rateLimitWindow ≤ (readAt 0).rateNow + cfg.rateLimitWindow) = true :=
    decide_eq_true (Int.le_of_eq (Int.zero_add _).symm)
  have hfill : decide ((0 : Time) ≤ (readAt 0).rateNow + cfg.rateLimitWindow) = true := hzero
  rw [if_pos hzero, if_pos hend, if_pos hfill] at hcount
  omega

/-- **Rate limit.** Whatever history of used nonces the store starts with: over
every run with a clock that does not go back, from the start of a window of an
identity until `RateLimitWindow` later at most `RateLimitMax` of its reports
pass the check, exactly when the window is at most three nonce lifetimes, or
one of the two is negative. -/
theorem rate_limit_iff (cfg : NonceStoreConfig) (hmax : 1 ≤ cfg.rateLimitMax) :
    (∀ backend, RateLimited { cfg with usedBackend := backend }) ↔ KeepsRecord cfg := by
  constructor
  · intro h
    by_contra hkeep
    have hnot : ¬ RateLimited { cfg with usedBackend := none } := not_rateLimited rfl hmax hkeep
    exact hnot (h none)
  · exact fun hkeep backend => rateLimited_of_keeps hmax hkeep

theorem rate_limit_default : KeepsRecord defaultNonceStoreConfig ∧
    ∀ backend, RateLimited { defaultNonceStoreConfig with usedBackend := backend } := by
  have hkeep : KeepsRecord defaultNonceStoreConfig := .inl (by decide)
  exact ⟨hkeep, (rate_limit_iff defaultNonceStoreConfig (by decide)).mpr hkeep⟩

/-- Three reports a minute, with a nonce lifetime of ten seconds: a fourth
report passes before the minute is over. -/
theorem rate_limit_exceeded :
    ¬ RateLimited { defaultNonceStoreConfig with lifetime := 10000000000, rateLimitMax := 3 } := by
  refine not_rateLimited rfl (by decide) ?_
  rintro (h | h | h)
  · exact absurd h (by decide)
  · exact absurd h (by decide)
  · exact absurd h (by decide)

end Lota.L3.Runs

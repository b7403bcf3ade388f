import Lota.Core.Clock
import Lota.Core.Machine
import Lota.L1Wire.Attest

/-!
# Challenges and their nonces (`verifier/verify/nonce.go`, `sqlite_nonce.go`)

A `NonceStore` hands out challenges, takes a nonce back at most once and
keeps counters per binding (the connection a challenge was sent on) and per
identity (the certified device).

What the environment decides is an argument of each call: clock readings,
the bytes of the random source, and which statements of the SQLite backend
fail.

Results:
* `generateChallenge_cases`, `verifyNonce_cases`, `cleanup_pending`: what a
  call can do to the pending map.
* `accepted_at_most_issued`: over every run, a nonce is accepted at most as
  often as it was issued, and each acceptance answers the latest issue of
  its nonce, on the same binding and within the lifetime, with a quote over
  this very report.
-/
namespace Lota.L2.Nonce
open Lota.Core Lota.L1.Report Lota.L1.Attest

/-! ## The history of used nonces -/

/-- mirrors src/verifier/verify/nonce.go:60-63 -/
structure UsedNonceEntry where
  key : String
  usedAt : Time
  deriving DecidableEq

/-- The linked list holds numbered elements and the index their numbers;
`nextElem` numbers the next one.
mirrors src/verifier/verify/nonce.go:54-58 -/
structure MemoryUsedNonceBackend where
  index : GoMap String Nat := ∅
  order : List (Nat × UsedNonceEntry) := []
  nextElem : Nat := 0
  maxSize : Int

namespace MemoryUsedNonceBackend

/-- `m.order.Remove(elem)` and `delete(m.index, key)`. -/
def remove (m : MemoryUsedNonceBackend) (elem : Nat) (key : String) : MemoryUsedNonceBackend :=
  { m with order := m.order.filter fun e => e.1 ≠ elem, index := m.index.erase key }

/-- A key that is recorded again moves to the back.
mirrors src/verifier/verify/nonce.go:77-80 -/
def dropExisting (m : MemoryUsedNonceBackend) (nonceKey : String) : MemoryUsedNonceBackend :=
  match m.index.lookup nonceKey with
  | some elem => m.remove elem nonceKey
  | none => m

/-- A full table gives up its front.
mirrors src/verifier/verify/nonce.go:82-91 -/
def evictFront (m : MemoryUsedNonceBackend) : MemoryUsedNonceBackend :=
  if m.maxSize ≤ m.index.keys.length then
    match m.order.head? with
    | some front => m.remove front.1 front.2.key
    | none => m
  else m

/-- mirrors src/verifier/verify/nonce.go:93-95 -/
def pushBack (m : MemoryUsedNonceBackend) (nonceKey : String) (usedAt : Time) :
    MemoryUsedNonceBackend :=
  { m with
    order := m.order ++ [(m.nextElem, ⟨nonceKey, usedAt⟩)]
    index := m.index.insert nonceKey m.nextElem
    nextElem := m.nextElem + 1 }

/-- mirrors src/verifier/verify/nonce.go:72-96 (`Record`) -/
def record (m : MemoryUsedNonceBackend) (nonceKey : String) (usedAt : Time) : MemoryUsedNonceBackend :=
  if m.maxSize ≤ 0 then m
  else (m.dropExisting nonceKey).evictFront.pushBack nonceKey usedAt

/-- mirrors src/verifier/verify/nonce.go:98-101 (`Contains`) -/
def contains (m : MemoryUsedNonceBackend) (nonceKey : String) : Bool := (m.index.lookup nonceKey).isSome

/-- mirrors src/verifier/verify/nonce.go:107-117 (`Cleanup`) -/
def cleanup (m : MemoryUsedNonceBackend) (olderThan : Time) : MemoryUsedNonceBackend :=
  m.order.foldl (fun m e => if e.2.usedAt < olderThan then m.remove e.1 e.2.key else m) m

end MemoryUsedNonceBackend

/-- The rows of `used_nonces`: `used_at` by `nonce_hash`. -/
abbrev SQLiteUsedNonceBackend := GoMap String Time

namespace SQLiteUsedNonceBackend

/-- mirrors src/verifier/verify/sqlite_nonce.go:60-62 (`hexEncode`) -/
def nonceHash (nonceKey : String) : String := hexEncode (ascii nonceKey)

/-- `INSERT OR IGNORE`.
mirrors src/verifier/verify/sqlite_nonce.go:26-33 (`Record`) -/
def record (t : SQLiteUsedNonceBackend) (nonceKey : String) (usedAt : Time) : SQLiteUsedNonceBackend :=
  match t.lookup (nonceHash nonceKey) with
  | some _ => t
  | none => t.insert (nonceHash nonceKey) usedAt

/-- mirrors src/verifier/verify/sqlite_nonce.go:35-42 (`Contains`) -/
def contains (t : SQLiteUsedNonceBackend) (nonceKey : String) : Bool :=
  (t.lookup (nonceHash nonceKey)).isSome

/-- mirrors src/verifier/verify/sqlite_nonce.go:52-56 (`Cleanup`) -/
def cleanup (t : SQLiteUsedNonceBackend) (olderThan : Time) : SQLiteUsedNonceBackend :=
  t.entries.foldl (fun t e => if e.2 < olderThan then AList.erase e.1 t else t) t

end SQLiteUsedNonceBackend

/-- mirrors src/verifier/verify/nonce.go:37-50 -/
inductive UsedNonceBackend where
  | memory (m : MemoryUsedNonceBackend)
  | sqlite (t : SQLiteUsedNonceBackend)

namespace UsedNonceBackend

/-- A failing statement changes nothing and reports its error. -/
def record (b : UsedNonceBackend) (fault : Option String) (nonceKey : String) (usedAt : Time) :
    UsedNonceBackend × Except String Unit :=
  match b, fault with
  | .memory m, _ => (.memory (m.record nonceKey usedAt), .ok ())
  | .sqlite t, none => (.sqlite (t.record nonceKey usedAt), .ok ())
  | .sqlite t, some e => (.sqlite t, .error e)

/-- A failing query counts as "not there". -/
def contains (b : UsedNonceBackend) (fails : Bool) (nonceKey : String) : Bool :=
  match b with
  | .memory m => m.contains nonceKey
  | .sqlite t => !fails && t.contains nonceKey

def cleanup (b : UsedNonceBackend) (fails : Bool) (olderThan : Time) : UsedNonceBackend :=
  match b with
  | .memory m => .memory (m.cleanup olderThan)
  | .sqlite t => .sqlite (if fails then t else t.cleanup olderThan)

end UsedNonceBackend

/-! ## The store -/

/-- mirrors src/verifier/verify/nonce.go:147-153 -/
structure NonceEntry where
  nonce : Nonce
  createdAt : Time
  bindingID : String
  counter : UInt64
  challengeFlags : UInt32
  deriving DecidableEq

/-- mirrors src/verifier/verify/nonce.go:156-162 -/
structure ClientState where
  pendingCount : Int := 0
  windowStart : Time := zeroTime
  windowCount : Int := 0
  attestCounter : UInt64 := 0
  lastAttestation : Time := zeroTime
  deriving DecidableEq

/-- mirrors src/verifier/verify/nonce.go:165-186 -/
structure NonceStoreConfig where
  lifetime : Duration
  maxPendingPerClient : Int
  rateLimitMax : Int
  rateLimitWindow : Duration
  usedNonceHistory : Int
  usedBackend : Option UsedNonceBackend := none

/-- mirrors src/verifier/verify/nonce.go:189-197 -/
def defaultNonceStoreConfig : NonceStoreConfig where
  lifetime := 300000000000
  maxPendingPerClient := 5
  rateLimitMax := 30
  rateLimitWindow := 60000000000
  usedNonceHistory := 10000

/-- mirrors src/verifier/verify/nonce.go:120-145 -/
structure NonceStore where
  pending : GoMap String NonceEntry := ∅
  lifetime : Duration
  usedBackend : UsedNonceBackend
  bindingChallenges : GoMap String ClientState := ∅
  identityChallenges : GoMap String ClientState := ∅
  maxPending : Int
  rateLimitWindow : Duration
  rateLimitMax : Int

/-- mirrors src/verifier/verify/nonce.go:201-228 -/
def newNonceStoreFromConfig (cfg : NonceStoreConfig) : NonceStore where
  lifetime := cfg.lifetime
  usedBackend := cfg.usedBackend.getD (.memory { maxSize := cfg.usedNonceHistory })
  maxPending := cfg.maxPendingPerClient
  rateLimitWindow := cfg.rateLimitWindow
  rateLimitMax := cfg.rateLimitMax

/-- `hex.EncodeToString(nonce[:])`. -/
def nonceKey (nonce : Nonce) : String := hexEncode nonce.toList

theorem nonceKey_inj {n n' : Nonce} : nonceKey n = nonceKey n' ↔ n = n' := by
  refine ⟨fun h => ?_, fun h => h ▸ rfl⟩
  exact List.Vector.toList_injective (hexEncode_injective h)

/-- What the environment decides in a `GenerateChallenge` call: per attempt,
the bytes of the random source and whether the history query fails. -/
structure GenerateEnv where
  rand : Nat → Except String Nonce
  queryFails : Nat → Bool := fun _ => false
  limitNow : Time := 0
  createdNow : Time := 0

/-- What the environment decides in a `VerifyNonce` call: the readings for
the lifetime, the rate limit, the history and the identity's record. -/
structure VerifyEnv where
  queryFails : Bool := false
  sinceNow : Time := 0
  rateNow : Time := 0
  usedNow : Time := 0
  attestNow : Time := 0
  recordFault : Option String := none

namespace NonceStore

/-! ### Issuing -/

/-- mirrors src/verifier/verify/nonce.go:424-444 -/
def checkPendingLimit (ns : NonceStore) (bindingID : String) (now : Time) : Except String NonceStore :=
  match ns.bindingChallenges.lookup bindingID with
  | some cs =>
    if cs.pendingCount ≥ ns.maxPending then
      .error (s!"too many outstanding challenges for client {bindingID} " ++
        s!"({cs.pendingCount}/{ns.maxPending})")
    else .ok { ns with bindingChallenges := ns.bindingChallenges.insert bindingID cs }
  | none =>
    .ok { ns with bindingChallenges := ns.bindingChallenges.insert bindingID { windowStart := now } }

def maxNonceGenerationAttempts : Nat := 8

/-- The loop of `generateUniqueNonceLocked` with `n` attempts left.
mirrors src/verifier/verify/nonce.go:279-299 -/
def generateUniqueNonce (ns : NonceStore) (env : GenerateEnv) : (n attempt : Nat) → Except String Nonce
  | 0, _ => .error "nonce generation failed: repeated collisions"
  | n + 1, attempt =>
    match env.rand attempt with
    | .error e => .error ("nonce generation failed: " ++ e)
    | .ok nonce =>
      if (ns.pending.lookup (nonceKey nonce)).isSome then ns.generateUniqueNonce env n (attempt + 1)
      else if ns.usedBackend.contains (env.queryFails attempt) (nonceKey nonce) then
        ns.generateUniqueNonce env n (attempt + 1)
      else .ok nonce

/-- mirrors src/verifier/verify/nonce.go:239-277 (`GenerateChallenge`) -/
def generateChallenge (ns : NonceStore) (env : GenerateEnv) (bindingID : String) (pcrMask : UInt32) :
    NonceStore × Except String Challenge :=
  match ns.checkPendingLimit bindingID env.limitNow with
  | .error e => (ns, .error e)
  | .ok ns =>
    match ns.generateUniqueNonce env maxNonceGenerationAttempts 0 with
    | .error e => (ns, .error e)
    | .ok nonce =>
      let cs := (ns.bindingChallenges.lookup bindingID).getD {}
      let cs := { cs with attestCounter := cs.attestCounter + 1, pendingCount := cs.pendingCount + 1 }
      let entry : NonceEntry :=
        { nonce, createdAt := env.createdNow, bindingID, counter := cs.attestCounter,
          challengeFlags := challengeFlagBootCommitmentV1 }
      ({ ns with bindingChallenges := ns.bindingChallenges.insert bindingID cs
                 pending := ns.pending.insert (nonceKey nonce) entry },
        .ok { magic := reportMagic, version := reportVersion, nonce, pcrMask,
              flags := challengeFlagBootCommitmentV1 })

/-! ### Taking a nonce back -/

/-- One challenge of the binding less, never below zero. The source repeats
these lines where a nonce is consumed, refused for its rate and expired.
mirrors src/verifier/verify/nonce.go:389-396 -/
def releasePending (ns : NonceStore) (bindingID : String) : NonceStore :=
  match ns.bindingChallenges.lookup bindingID with
  | none => ns
  | some cs =>
    let pendingCount := if cs.pendingCount - 1 < 0 then 0 else cs.pendingCount - 1
    { ns with bindingChallenges := ns.bindingChallenges.insert bindingID { cs with pendingCount } }

/-- mirrors src/verifier/verify/nonce.go:447-463 -/
def checkIdentityRateLimit (ns : NonceStore) (identityID : String) (now : Time) :
    Except String NonceStore :=
  let cs := (ns.identityChallenges.lookup identityID).getD {}
  if cs.windowStart = zeroTime ∨ now - cs.windowStart > ns.rateLimitWindow then
    .ok { ns with identityChallenges :=
            ns.identityChallenges.insert identityID { cs with windowStart := now, windowCount := 1 } }
  else if cs.windowCount ≥ ns.rateLimitMax then
    .error (s!"rate limit exceeded for hardware identity {identityID} ({cs.windowCount}/{ns.rateLimitMax} per " ++
      fmtDuration ns.rateLimitWindow ++ ")")
  else
    .ok { ns with identityChallenges :=
            ns.identityChallenges.insert identityID { cs with windowCount := cs.windowCount + 1 } }

/-- mirrors src/verifier/verify/nonce.go:405-421 -/
def verifyChallengeCapabilities (report : AttestationReport) (challengeFlags : UInt32) :
    Except String Unit :=
  if hasFlag report.header.flags flagBootCommitmentV1 ∧
      ¬ hasFlag challengeFlags challengeFlagBootCommitmentV1 then
    .error "report requested boot-commitment v1 not advertised by challenge"
  else if hasFlag report.header.flags flagInitramfsLockV1 ∧
      ¬ hasFlag challengeFlags challengeFlagBootCommitmentV1 then
    .error "report requested initramfs-lock v1 without boot-commitment v1 challenge support"
  else .ok ()

/-- The nonce of a refused report is spent. A failing record leaves the
count of the binding as it is.
mirrors src/verifier/verify/nonce.go:349-361 -/
def rejectNonce (ns : NonceStore) (env : VerifyEnv) (key : String) (entry : NonceEntry) (err : String) :
    NonceStore × Except String Unit :=
  let ns := { ns with pending := ns.pending.erase key }
  match ns.usedBackend.record env.recordFault key env.usedNow with
  | (b, .error e) =>
    ({ ns with usedBackend := b }, .error (err ++ "; failed to record rejected nonce: " ++ e))
  | (b, .ok ()) => ({ ns with usedBackend := b }.releasePending entry.bindingID, .error err)

/-- mirrors src/verifier/verify/nonce.go:363-378 -/
def checkQuoteNonce (report : AttestationReport) (nonce : Nonce) : Except String Unit :=
  let size := report.tpm.attestSize.toNat
  if size = 0 then .error "no attestation data - cannot verify nonce binding"
  else if size > maxAttestSize then .error s!"invalid attestation size: {size} > {maxAttestSize}"
  else
    let bindingNonce := computeAttestationBindingNonce nonce report
    match verifyNonceInAttest (report.tpm.attestData.toList.take size) bindingNonce.toList with
    | .error e => .error ("TPMS_ATTEST nonce verification failed: " ++ e)
    | .ok () => .ok ()

/-- mirrors src/verifier/verify/nonce.go:380-402 -/
def consumeNonce (ns : NonceStore) (env : VerifyEnv) (key : String) (entry : NonceEntry)
    (identityID : String) : NonceStore × Except String Unit :=
  let ns := { ns with pending := ns.pending.erase key }
  match ns.usedBackend.record env.recordFault key env.usedNow with
  | (b, .error e) => ({ ns with usedBackend := b }, .error ("failed to record used nonce: " ++ e))
  | (b, .ok ()) =>
    let ns := { ns with usedBackend := b }.releasePending entry.bindingID
    let ics := (ns.identityChallenges.lookup identityID).getD {}
    let ics := { ics with attestCounter := ics.attestCounter + 1, lastAttestation := env.attestNow }
    ({ ns with identityChallenges := ns.identityChallenges.insert identityID ics }, .ok ())

/-- mirrors src/verifier/verify/nonce.go:312-403 (`VerifyNonce`) -/
def verifyNonce (ns : NonceStore) (env : VerifyEnv) (report : AttestationReport)
    (bindingID identityID : String) : NonceStore × Except String Unit :=
  let key := nonceKey report.tpm.nonce
  if ns.usedBackend.contains env.queryFails key then
    (ns, .error "nonce already used - replay attack detected")
  else
    match ns.pending.lookup key with
    | none => (ns, .error "unknown nonce - possible replay attack")
    | some entry =>
      if env.sinceNow - entry.createdAt > ns.lifetime then
        -- the binding's count is not released here
        ({ ns with pending := ns.pending.erase key }, .error "nonce expired")
      else if entry.bindingID ≠ "" ∧ entry.bindingID ≠ bindingID then
        (ns, .error "nonce bound to different challenge")
      else if entry.nonce ≠ report.tpm.nonce then (ns, .error "nonce mismatch in report header")
      else
        match verifyChallengeCapabilities report entry.challengeFlags with
        | .error e => (ns, .error e)
        | .ok () =>
          match ns.checkIdentityRateLimit identityID env.rateNow with
          | .error e => ns.rejectNonce env key entry e
          | .ok ns =>
            match checkQuoteNonce report entry.nonce with
            | .error e => (ns, .error e)
            | .ok () => ns.consumeNonce env key entry identityID

/-! ### Cleaning up -/

/-- `for k, v := range m { if p(v) { delete(m, k) } }`. -/
def deleteIf {V : Type} (p : V → Bool) (m : GoMap String V) : GoMap String V :=
  m.entries.foldl (fun acc e => if p e.2 then acc.erase e.1 else acc) m

theorem lookup_deleteIf {V : Type} (p : V → Bool) (m : GoMap String V) (k : String) :
    (deleteIf p m).lookup k = (m.lookup k).filter fun v => ¬ p v = true :=
  lookup_prune (fun v => p v = true) m k

/-- One round of the loop over the pending map.
mirrors src/verifier/verify/nonce.go:488-499 -/
def expirePending (now : Time) (ns : NonceStore) (key : String) (entry : NonceEntry) : NonceStore :=
  if now - entry.createdAt > ns.lifetime then
    { ns.releasePending entry.bindingID with pending := ns.pending.erase key }
  else ns

/-- mirrors src/verifier/verify/nonce.go:481-519 (`cleanup`) -/
def cleanup (ns : NonceStore) (now : Time) (deleteFails : Bool) : NonceStore :=
  let ns := ns.pending.entries.foldl (fun ns e => ns.expirePending now e.1 e.2) ns
  let cutoff := now + wrap64 (-ns.lifetime * 3)
  { ns with
    usedBackend := ns.usedBackend.cleanup deleteFails cutoff
    bindingChallenges :=
      deleteIf (fun cs => cs.pendingCount ≤ 0 ∧ cs.lastAttestation < cutoff) ns.bindingChallenges
    identityChallenges :=
      deleteIf (fun cs => cs.lastAttestation < cutoff ∧
        (cs.windowStart = zeroTime ∨ cs.windowStart < cutoff))
        ns.identityChallenges }

/-! ### What a call does to the pending map -/

@[simp] theorem releasePending_pending (ns : NonceStore) (b : String) :
    (ns.releasePending b).pending = ns.pending := by
  unfold releasePending
  split <;> rfl

@[simp] theorem releasePending_lifetime (ns : NonceStore) (b : String) :
    (ns.releasePending b).lifetime = ns.lifetime := by
  unfold releasePending
  split <;> rfl

theorem checkPendingLimit_ok {ns ns' : NonceStore} {b : String} {now : Time}
    (h : ns.checkPendingLimit b now = .ok ns') :
    ns'.pending = ns.pending ∧ ns'.lifetime = ns.lifetime := by
  unfold checkPendingLimit at h
  split at h
  · split at h
    · cases h
    · cases h; exact ⟨rfl, rfl⟩
  · cases h; exact ⟨rfl, rfl⟩

theorem checkIdentityRateLimit_ok {ns ns' : NonceStore} {id : String} {now : Time}
    (h : ns.checkIdentityRateLimit id now = .ok ns') :
    ns' = { ns with identityChallenges := ns'.identityChallenges } := by
  unfold checkIdentityRateLimit at h
  simp only at h
  split at h
  · cases h; rfl
  · split at h
    · cases h
    · cases h; rfl

/-- A generated nonce is not pending. -/
theorem generateUniqueNonce_fresh {ns : NonceStore} {env : GenerateEnv} {n attempt : Nat}
    {nonce : Nonce}
    (h : ns.generateUniqueNonce env n attempt = .ok nonce) :
    ns.pending.lookup (nonceKey nonce) = none := by
  induction n generalizing attempt with
  | zero => cases h
  | succ n ih =>
    unfold generateUniqueNonce at h
    split at h
    · cases h
    · split at h
      · exact ih h
      · rename_i hp
        split at h
        · exact ih h
        · cases h
          simpa using hp

/-- A challenge is issued and its nonce pending, or the call fails and the
pending map stays. -/
theorem generateChallenge_cases (ns : NonceStore) (env : GenerateEnv) (b : String) (mask : UInt32) :
    let r := ns.generateChallenge env b mask
    r.1.lifetime = ns.lifetime ∧
    ((∃ e, r.2 = .error e) ∧ r.1.pending = ns.pending ∨
     ∃ c entry, r.2 = .ok c ∧ c.pcrMask = mask ∧ ns.pending.lookup (nonceKey c.nonce) = none ∧
       r.1.pending = ns.pending.insert (nonceKey c.nonce) entry ∧
       entry.nonce = c.nonce ∧ entry.createdAt = env.createdNow ∧ entry.bindingID = b) := by
  unfold generateChallenge
  cases hl : ns.checkPendingLimit b env.limitNow with
  | error e => exact ⟨rfl, .inl ⟨⟨e, rfl⟩, rfl⟩⟩
  | ok ns₁ =>
    obtain ⟨hp, ht⟩ := checkPendingLimit_ok hl
    simp only
    cases hg : ns₁.generateUniqueNonce env maxNonceGenerationAttempts 0 with
    | error e => exact ⟨ht, .inl ⟨⟨e, rfl⟩, hp⟩⟩
    | ok nonce =>
      have hf := generateUniqueNonce_fresh hg
      rw [← hp]
      exact ⟨ht, .inr ⟨_, _, rfl, rfl, hf, rfl, rfl, rfl, rfl⟩⟩

/-- The report answers the pending challenge `entry` in time, on its binding
and with a quote over itself. -/
structure Answers (ns : NonceStore) (sinceNow : Time) (report : AttestationReport) (bindingID : String)
    (entry : NonceEntry) : Prop where
  pending : ns.pending.lookup (nonceKey report.tpm.nonce) = some entry
  age : sinceNow - entry.createdAt ≤ ns.lifetime
  binding : entry.bindingID = "" ∨ entry.bindingID = bindingID
  nonce : entry.nonce = report.tpm.nonce
  quote : checkQuoteNonce report report.tpm.nonce = .ok ()

theorem rejectNonce_spec (ns : NonceStore) (env : VerifyEnv) (key : String) (entry : NonceEntry)
    (err : String) : (ns.rejectNonce env key entry err).1.lifetime = ns.lifetime ∧
    (ns.rejectNonce env key entry err).1.pending = ns.pending.erase key ∧
    ∃ e, (ns.rejectNonce env key entry err).2 = .error e := by
  unfold rejectNonce
  simp only
  rcases ns.usedBackend.record env.recordFault key env.usedNow with ⟨b, e | u⟩
  · exact ⟨rfl, rfl, _, rfl⟩
  · exact ⟨releasePending_lifetime _ _, releasePending_pending _ _, _, rfl⟩

theorem consumeNonce_spec (ns : NonceStore) (env : VerifyEnv) (key : String) (entry : NonceEntry)
    (id : String) : (ns.consumeNonce env key entry id).1.lifetime = ns.lifetime ∧
    (ns.consumeNonce env key entry id).1.pending = ns.pending.erase key := by
  unfold consumeNonce
  simp only
  rcases ns.usedBackend.record env.recordFault key env.usedNow with ⟨b, e | u⟩
  · exact ⟨rfl, rfl⟩
  · exact ⟨releasePending_lifetime _ _, releasePending_pending _ _⟩

/-- A nonce is accepted and no longer pending, or it is refused and the
pending map loses at most this nonce. -/
theorem verifyNonce_cases (ns : NonceStore) (env : VerifyEnv) (report : AttestationReport)
    (b id : String) : let r := ns.verifyNonce env report b id
    r.1.lifetime = ns.lifetime ∧
    ((∃ e, r.2 = .error e) ∧
        (r.1.pending = ns.pending ∨ r.1.pending = ns.pending.erase (nonceKey report.tpm.nonce)) ∨
     r.1.pending = ns.pending.erase (nonceKey report.tpm.nonce) ∧
        ∃ entry, ns.Answers env.sinceNow report b entry) := by
  have herr : ∀ e : String, (∃ e', (Except.error e : Except String Unit) = .error e') ∧
      (ns.pending = ns.pending ∨ ns.pending = ns.pending.erase (nonceKey report.tpm.nonce)) :=
    fun e => ⟨⟨e, rfl⟩, .inl rfl⟩
  unfold verifyNonce
  simp only
  split
  · exact ⟨rfl, .inl (herr _)⟩
  · split
    · exact ⟨rfl, .inl (herr _)⟩
    · rename_i entry hp
      split
      · exact ⟨rfl, .inl ⟨⟨_, rfl⟩, .inr rfl⟩⟩
      · rename_i hage
        split
        · exact ⟨rfl, .inl (herr _)⟩
        · rename_i hbind
          split
          · exact ⟨rfl, .inl (herr _)⟩
          · rename_i hnonce
            split
            · exact ⟨rfl, .inl (herr _)⟩
            · split
              · obtain ⟨h1, h2, h3⟩ :=
                  ns.rejectNonce_spec env (nonceKey report.tpm.nonce) entry ‹String›
                exact ⟨h1, .inl ⟨h3, .inr h2⟩⟩
              · rename_i ns₁ hrate
                have hns := checkIdentityRateLimit_ok hrate
                have hp₁ : ns₁.pending = ns.pending := by rw [hns]
                have hl₁ : ns₁.lifetime = ns.lifetime := by rw [hns]
                split
                · exact ⟨hl₁, .inl ⟨⟨_, rfl⟩, .inl hp₁⟩⟩
                · rename_i hq
                  obtain ⟨h1, h2⟩ := ns₁.consumeNonce_spec env (nonceKey report.tpm.nonce) entry id
                  have hn := not_not.mp hnonce
                  refine ⟨h1.trans hl₁,
                    .inr ⟨by rw [h2, hp₁], entry, hp, Int.not_lt.mp hage, ?_, hn, hn ▸ hq⟩⟩
                  rcases not_and_or.mp hbind with h | h
                  · exact .inl (not_not.mp h)
                  · exact .inr (not_not.mp h)

/-- Cleaning up only removes pending nonces. -/
theorem cleanup_pending (ns : NonceStore) (now : Time) (deleteFails : Bool) :
    (ns.cleanup now deleteFails).lifetime = ns.lifetime ∧
    ∀ k e, (ns.cleanup now deleteFails).pending.lookup k = some e → ns.pending.lookup k = some e := by
  -- the loop, over any list of rounds
  have hloop : ∀ (l : List (Sigma fun _ : String => NonceEntry)) (ns : NonceStore),
      (l.foldl (fun ns e => ns.expirePending now e.1 e.2) ns).lifetime = ns.lifetime ∧
      ∀ k e, (l.foldl (fun ns e => ns.expirePending now e.1 e.2) ns).pending.lookup k = some e →
        ns.pending.lookup k = some e := by
    intro l
    induction l with
    | nil => exact fun ns => ⟨rfl, fun k e h => h⟩
    | cons x l ih =>
      intro ns
      obtain ⟨h1, h2⟩ := ih (ns.expirePending now x.1 x.2)
      have hx : (ns.expirePending now x.1 x.2).lifetime = ns.lifetime ∧
          ∀ k e, (ns.expirePending now x.1 x.2).pending.lookup k = some e →
          ns.pending.lookup k = some e := by
        unfold expirePending
        split
        · exact ⟨releasePending_lifetime _ _, fun k e h => lookup_of_erase h⟩
        · exact ⟨rfl, fun k e h => h⟩
      exact ⟨h1.trans hx.1, fun k e h => hx.2 k e (h2 k e h)⟩
  exact hloop ns.pending.entries ns

end NonceStore

/-! ## Runs -/

inductive Op where
  | generateChallenge (env : GenerateEnv) (bindingID : String) (pcrMask : UInt32)
  | verifyNonce (env : VerifyEnv) (report : AttestationReport) (bindingID identityID : String)
  | cleanup (now : Time) (deleteFails : Bool)

inductive Reply where
  | challenge (r : Except String Challenge)
  | verdict (r : Except String Unit)
  | done

def call (ns : NonceStore) : Op → NonceStore × Reply
  | .generateChallenge env b mask =>
    let r := ns.generateChallenge env b mask
    (r.1, .challenge r.2)
  | .verifyNonce env report b id =>
    let r := ns.verifyNonce env report b id
    (r.1, .verdict r.2)
  | .cleanup now deleteFails => (ns.cleanup now deleteFails, .done)

def calls : Machine NonceStore Op Reply := ⟨call⟩

abbrev Event := Op × Reply

/-- A challenge with this nonce was sent out. -/
def issues (n : Nonce) : Event → Bool
  | (.generateChallenge .., .challenge (.ok c)) => c.nonce = n
  | _ => false

/-- A report with this nonce got past `VerifyNonce`. -/
def accepts (n : Nonce) : Event → Bool
  | (.verifyNonce _ report _ _, .verdict (.ok ())) => report.tpm.nonce = n
  | _ => false

/-- The latest challenge with nonce `n` went to binding `b` at time `t`, and
the nonce was not accepted since. -/
def LastIssue (h : List Event) (n : Nonce) (b : String) (t : Time) : Prop :=
  ∃ before env mask c after, h = before ++ (.generateChallenge env b mask, .challenge (.ok c)) ::
    after ∧ c.nonce = n ∧ env.createdNow = t ∧ ∀ x ∈ after, issues n x = false ∧ accepts n x = false

/-- The signed `extraData` is the binding nonce of this report. -/
def QuoteBinds (report : AttestationReport) : Prop :=
  ∃ attest, parseTPMSAttest (report.tpm.attestData.toList.take report.tpm.attestSize.toNat) =
    .ok attest ∧ attest.extraData = (computeAttestationBindingNonce report.tpm.nonce report).toList

/-- Why accepting `report` on binding `b` is right after history `h`. -/
def Justified (lifetime : Duration) (h : List Event) (sinceNow : Time) (report : AttestationReport)
    (b : String) : Prop :=
  QuoteBinds report ∧ ∃ b' t, LastIssue h report.tpm.nonce b' t ∧ (b' = "" ∨ b' = b) ∧
    sinceNow - t ≤ lifetime

theorem quoteBinds_of_checkQuoteNonce {report : AttestationReport}
    (h : NonceStore.checkQuoteNonce report report.tpm.nonce = .ok ()) : QuoteBinds report := by
  unfold NonceStore.checkQuoteNonce at h
  simp only at h
  split at h
  · cases h
  · split at h
    · cases h
    · split at h
      · cases h
      · rename_i hv
        exact verifyNonceInAttest_ok hv

theorem LastIssue.snoc {h : List Event} {n : Nonce} {b : String} {t : Time} {x : Event}
    (hl : LastIssue h n b t)
    (hi : issues n x = false) (ha : accepts n x = false) : LastIssue (h ++ [x]) n b t := by
  obtain ⟨before, env, mask, c, after, rfl, hn, ht, hq⟩ := hl
  refine ⟨before, env, mask, c, after ++ [x], by simp, hn, ht, fun y hy => ?_⟩
  rcases List.mem_append.mp hy with hy | hy
  · exact hq y hy
  · rw [List.mem_singleton.mp hy]
    exact ⟨hi, ha⟩

/-- One for a pending nonce. -/
def outstanding (ns : NonceStore) (n : Nonce) : Nat :=
  if (ns.pending.lookup (nonceKey n)).isSome then 1 else 0

/-- What holds of the store after history `h`. A pending nonce is one issue
that no acceptance has used up. -/
structure Inv (L : Duration) (h : List Event) (ns : NonceStore) : Prop where
  lifetime : ns.lifetime = L
  count : ∀ n, h.countP (accepts n) + outstanding ns n ≤ h.countP (issues n)
  pending : ∀ n entry, ns.pending.lookup (nonceKey n) = some entry →
    LastIssue h n entry.bindingID entry.createdAt
  accepted : ∀ before env report b id after,
    h = before ++ (.verifyNonce env report b id, .verdict (.ok ())) :: after →
    Justified L before env.sinceNow report b

theorem accepted_snoc {L : Duration} {h : List Event} {ns : NonceStore} (hi : Inv L h ns) {x : Event}
    (hx : ∀ env report b id, x = (.verifyNonce env report b id, .verdict (.ok ())) →
      Justified L h env.sinceNow report b)
    {before : List Event} {env : VerifyEnv} {report : AttestationReport} {b id : String}
    {after : List Event}
    (he : h ++ [x] = before ++ (.verifyNonce env report b id, .verdict (.ok ())) :: after) :
    Justified L before env.sinceNow report b := by
  rcases append_singleton_split he with ⟨-, h1, h2⟩ | ⟨after', h1⟩
  · exact h1 ▸ hx env report b id h2
  · exact hi.accepted before env report b id after' h1

/-- An event that neither issues nor accepts, and pends nothing new. -/
theorem Inv.quiet {L : Duration} {h : List Event} {ns ns' : NonceStore} (hi : Inv L h ns) {x : Event}
    (hx : ∀ n, issues n x = false ∧ accepts n x = false) (hl : ns'.lifetime = ns.lifetime)
    (hp : ∀ k e, ns'.pending.lookup k = some e → ns.pending.lookup k = some e) :
    Inv L (h ++ [x]) ns' where
  lifetime := hl.trans hi.lifetime
  count n := by
    have hc := hi.count n
    have ho : outstanding ns' n ≤ outstanding ns n := by
      unfold outstanding
      cases hn : ns'.pending.lookup (nonceKey n) with
      | none => simp
      | some e => simp [hp _ e hn]
    simp only [List.countP_append, List.countP_singleton, hx n]
    simp only [Bool.false_eq_true, if_false]
    omega
  pending n e he := (hi.pending n e (hp _ e he)).snoc (hx n).1 (hx n).2
  accepted before env report b id after := by
    apply accepted_snoc hi
    intro env report b id h
    have := (hx report.tpm.nonce).2
    rw [h] at this
    simp [accepts] at this

/-- An event that issues a nonce which was not pending. -/
theorem Inv.issue {L : Duration} {h : List Event} {ns ns' : NonceStore} (hi : Inv L h ns)
    {env : GenerateEnv}
    {b : String} {mask : UInt32} {c : Challenge} {entry : NonceEntry} (hl : ns'.lifetime = ns.lifetime)
    (hfresh : ns.pending.lookup (nonceKey c.nonce) = none)
    (hp : ns'.pending = ns.pending.insert (nonceKey c.nonce) entry)
    (ht : entry.createdAt = env.createdNow) (hb : entry.bindingID = b) :
    Inv L (h ++ [(.generateChallenge env b mask, .challenge (.ok c))]) ns' where
  lifetime := hl.trans hi.lifetime
  count n := by
    have hc := hi.count n
    simp only [List.countP_append, List.countP_singleton, issues, accepts]
    unfold outstanding at hc ⊢
    simp only [hp, lookup_insert_ite, nonceKey_inj]
    by_cases hn : n = c.nonce
    · subst hn
      simp [hfresh] at hc ⊢
      omega
    · simp [hn, Ne.symm hn] at hc ⊢
      omega
  pending n e he := by
    rw [hp, lookup_insert_ite] at he
    split at he
    · rename_i hk
      cases he
      exact ⟨h, env, mask, c, [], by rw [hb], (nonceKey_inj.mp hk).symm, ht.symm, by simp⟩
    · rename_i hk
      have hne : c.nonce ≠ n := fun h => hk (h ▸ rfl)
      exact (hi.pending n e he).snoc (by simp [issues, hne]) rfl
  accepted before env report b id after := by
    apply accepted_snoc hi
    intro env report b id h
    cases h

/-- An event that accepts a pending nonce, which is then gone. -/
theorem Inv.accept {L : Duration} {h : List Event} {ns ns' : NonceStore} (hi : Inv L h ns)
    {env : VerifyEnv}
    {report : AttestationReport} {b id : String} {entry : NonceEntry} (hl : ns'.lifetime = ns.lifetime)
    (ha : ns.Answers env.sinceNow report b entry)
    (hp : ns'.pending = ns.pending.erase (nonceKey report.tpm.nonce)) :
    Inv L (h ++ [(.verifyNonce env report b id, .verdict (.ok ()))]) ns' where
  lifetime := hl.trans hi.lifetime
  count n := by
    have hc := hi.count n
    simp only [List.countP_append, List.countP_singleton, issues, accepts]
    unfold outstanding at hc ⊢
    simp only [hp, lookup_erase_ite, nonceKey_inj]
    by_cases hn : n = report.tpm.nonce
    · subst hn
      simp [ha.pending] at hc ⊢
      omega
    · simp [hn, Ne.symm hn] at hc ⊢
      omega
  pending n e he := by
    rw [hp, lookup_erase_ite] at he
    split at he
    · cases he
    · rename_i hk
      have hne : report.tpm.nonce ≠ n := fun h => hk (h ▸ rfl)
      exact (hi.pending n e he).snoc rfl (by simp [accepts, hne])
  accepted before env' report' b' id' after := by
    apply accepted_snoc hi
    intro env'' report'' b'' id'' h
    cases h
    have hage := ha.age
    rw [hi.lifetime] at hage
    exact ⟨quoteBinds_of_checkQuoteNonce ha.quote, entry.bindingID, entry.createdAt,
      hi.pending _ entry ha.pending, ha.binding, hage⟩

/-- **Step.** Every call keeps the invariant. -/
theorem call_inv {L : Duration} {h : List Event} {ns : NonceStore} (op : Op) (hi : Inv L h ns) :
    Inv L (h ++ [(op, (call ns op).2)]) (call ns op).1 := by
  cases op with
  | generateChallenge env b mask =>
    show Inv L (h ++ [(_, .challenge (ns.generateChallenge env b mask).2)])
        (ns.generateChallenge env b mask).1
    obtain ⟨hl, ⟨⟨e, he⟩, hp⟩ | ⟨c, entry, hc, -, hf, hp, -, ht, hb⟩⟩ :=
      ns.generateChallenge_cases env b mask
    · rw [he]
      exact hi.quiet (fun n => ⟨rfl, rfl⟩) hl fun k e h => hp ▸ h
    · rw [hc]
      exact hi.issue hl hf hp ht hb
  | verifyNonce env report b id =>
    show Inv L (h ++ [(_, .verdict (ns.verifyNonce env report b id).2)])
        (ns.verifyNonce env report b id).1
    obtain ⟨hl, hcases⟩ := ns.verifyNonce_cases env report b id
    cases hr : (ns.verifyNonce env report b id).2 with
    | error e =>
      refine hi.quiet (fun n => ⟨rfl, rfl⟩) hl fun k e h => ?_
      rcases hcases with ⟨-, hp | hp⟩ | ⟨hp, -⟩
      · exact hp ▸ h
      · exact lookup_of_erase (hp ▸ h)
      · exact lookup_of_erase (hp ▸ h)
    | ok u =>
      rcases hcases with ⟨⟨e, he⟩, -⟩ | ⟨hp, entry, ha⟩
      · rw [hr] at he; cases he
      · exact hi.accept hl ha hp
  | cleanup now deleteFails =>
    obtain ⟨hl, hp⟩ := ns.cleanup_pending now deleteFails
    exact hi.quiet (fun n => ⟨rfl, rfl⟩) hl hp

theorem inv_new (cfg : NonceStoreConfig) : Inv cfg.lifetime [] (newNonceStoreFromConfig cfg) where
  lifetime := rfl
  count n := by simp [outstanding, newNonceStoreFromConfig]
  pending n e he := by simp [newNonceStoreFromConfig] at he
  accepted before env report b id after he := by simp at he

/-- **Nonces are used up.** In every run of a new store, with any
configuration and used-nonce backend, every nonce is accepted at most as
often as it was issued, and every acceptance is justified by what happened
before it. -/
theorem accepted_at_most_issued (cfg : NonceStoreConfig) (ops : List Op) :
    let h := calls.hist (newNonceStoreFromConfig cfg) ops
    (∀ n, h.countP (accepts n) ≤ h.countP (issues n)) ∧
    ∀ before env report b id after,
      h = before ++ (.verifyNonce env report b id, .verdict (.ok ())) :: after →
      Justified cfg.lifetime before env.sinceNow report b := by
  have hi := Machine.hist_inv (M := calls) (J := Inv cfg.lifetime) (fun h s op => call_inv op)
    ops (inv_new cfg)
  refine ⟨fun n => ?_, hi.accepted⟩
  have := hi.count n
  exact Nat.le_trans (Nat.le_add_right _ _) this

end Lota.L2.Nonce

import Lota.L4Sdk.TokenWire
import Lota.L6Agent.ProtectedSet
import Lota.L6Agent.RuntimeImage

/-!
# `GET_TOKEN` among other peers (`agent/ipc.c`)

A token binds every protected process, whoever registered it, with its image
digest. The agent fails closed: when one protected process cannot be measured,
or when the reply does not fit the payload, no client gets a token.

* `checkRateLimit`: the per-UID limiter in front of the request.
* `ready_of_answered`, `answered_of_ready`: when a request is answered with a
  token.
* `peer_step`, `peers_run`: what requests of unprivileged peers leave alone.
* `opting_in_harmless`: a client that would get a token gets it after any
  behaviour of peers that registered themselves, when they are measurable and
  the reply has room for them.
* `opting_in_harms`: a peer that maps a file without fs-verity.
-/
namespace Lota.L6.GetToken
open Lota.Core Lota.L1.Report Lota.L4.Token Lota.L6.Protect Lota.L6.ProtectedSet Lota.L6.RuntimeImage

/-! ## The rate limit -/

structure UidRate where
  uid : UInt32
  count : Nat
  windowStartSec : UInt64
  deriving DecidableEq

def tokenRateLimit : Int32 := 10
def tokenRateWindowSec : Int32 := 60
def maxRateEntries : Nat := 256

/-- The parameters of one limiter and the reading of its clock. -/
structure Limiter where
  requestLimit : Int32
  windowSec : Int32
  now : UInt64

namespace Limiter

/-- `(uint64_t)window_sec`, read only when it is positive. -/
def window (l : Limiter) : UInt64 := UInt64.ofNat l.windowSec.toInt.toNat

def expired (l : Limiter) (e : UidRate) : Bool :=
  l.now < e.windowStartSec || l.now - e.windowStartSec ≥ l.window

def fresh (l : Limiter) (uid : UInt32) : UidRate where
  uid := uid
  count := 1
  windowStartSec := l.now

/-- The loop over the entries of the UID: the first one decides. -/
def charge (l : Limiter) (uid : UInt32) : List UidRate → Option (List UidRate × Bool)
  | [] => none
  | e :: es =>
    if e.uid = uid then
      if l.expired e then some (l.fresh uid :: es, true)
      else if e.count ≥ l.requestLimit.toInt then some (e :: es, false)
      else some ({ e with count := e.count + 1 } :: es, true)
    else (l.charge uid es).map fun (es', allowed) => (e :: es', allowed)

/-- The loop over a full table: the first expired entry is taken over. -/
def reuse (l : Limiter) (uid : UInt32) : List UidRate → Option (List UidRate)
  | [] => none
  | e :: es => if l.expired e then some (l.fresh uid :: es) else (l.reuse uid es).map (e :: ·)

end Limiter

/-- mirrors src/agent/ipc.c:94-157 -/
def checkRateLimit (l : Limiter) (table : List UidRate) (uid : UInt32) : List UidRate × Bool :=
  if l.requestLimit ≤ 0 || l.windowSec ≤ 0 then (table, false)
  else match l.charge uid table with
  | some r => r
  | none =>
    if table.length < maxRateEntries then (table ++ [l.fresh uid], true)
    else match l.reuse uid table with
      | some table => (table, true)
      | none => (table, false)

/-! ## The token -/

structure IpcState where
  agent : AgentState
  policyDigest : Hash
  statusFlags : UInt32
  validUntil : UInt64
  quotePcrMask : UInt32
  /-- `ctx->tpm` is there. -/
  tpm : Bool
  tokenRateTable : List UidRate

structure QuoteResponse where
  attestData : Bytes
  signature : Bytes
  sigAlg : UInt16
  hashAlg : UInt16
  pcrMask : UInt32

inductive QuoteError where
  /-- `tpm_is_locked_out` holds afterwards. -/
  | lockedOut
  | failed
  deriving DecidableEq, Repr

/-- A request, with what the agent finds while it serves it. -/
structure TokenCall where
  peerUid : UInt32
  /-- The payload, when it is long enough for one. -/
  nonce : Option Hash
  /-- `monotonic_now_sec` -/
  now : UInt64
  procfs : Procfs
  tpmQuote : Hash → UInt32 → Except QuoteError QuoteResponse

/-- `struct lota_ipc_token` and what follows it. -/
structure IpcToken where
  validUntil : UInt64
  flags : UInt32
  clientNonce : Hash
  sigAlg : UInt16
  hashAlg : UInt16
  pcrMask : UInt32
  policyDigest : Hash
  runtimeProtectDigest : Hash
  protectPidCount : Nat
  runtimeProtectEpoch : UInt64
  runtimeProtectVersion : UInt16
  protectedPids : List UInt32
  imageDigests : List Hash
  attestData : Bytes
  signature : Bytes

def statusAttested : UInt32 := 1
def statusTpmLockout : UInt32 := 32
def ipcMaxPayload : Nat := 8192
def tokenHeaderSize : Nat := 136
def tokenMaxProtectPids : Nat := 1024

/-- mirrors include/lota_token_quote_nonce.h:52-100 -/
def tokenQuoteNonce (validUntil : UInt64) (flags pcrMask : UInt32)
    (clientNonce policyDigest runtimeProtectDigest : Hash)
    (runtimeProtectEpoch : UInt64) : Hash :=
  sha256 (toLE 8 validUntil.toNat ++
    (toLE 4 flags.toNat ++ (toLE 4 pcrMask.toNat ++ (clientNonce.toList ++
    (policyDigest.toList ++ (runtimeProtectDigest.toList ++ toLE 8 runtimeProtectEpoch.toNat))))))

/-- mirrors include/lota_runtime_protect_digest.h:117-166 -/
def runtimeProtectDigestV2 (pids : List UInt32) (images : List Hash) : Option Hash :=
  if canonicalPIDs pids
    then some (sha256 (protectMessageV2 pids (images.flatMap List.Vector.toList))) else none

/-- Each process in turn, up to the first that cannot be measured. -/
def measureAll (procfs : Procfs) : List UInt32 → Option (List Hash)
  | [] => some []
  | pid :: pids =>
    match runtimeMeasurePid procfs pid with
    | .error _ => none
    | .ok digest => (measureAll procfs pids).map (digest :: ·)

/-- The reply without its header, with one PID and one image digest for each
protected process. -/
def totalSize (n : Nat) (quote : QuoteResponse) : Nat :=
  tokenHeaderSize + n * 4 + n * 32 + quote.attestData.length + quote.signature.length

/-- mirrors src/agent/ipc.c:781-966 -/
def issueToken (s : IpcState) (c : TokenCall) : Except IpcResult IpcToken :=
  if s.agent.policyDigestSet = false then .error .internal
  else match buildCanonicalRuntimePidList s.agent with
  | none => .error .internal
  | some pids =>
    if pids.length > tokenMaxProtectPids then .error .internal
    else if pids.length * 4 > 0xFFFF then .error .internal
    else match measureAll c.procfs pids with
    | none => .error .internal
    | some images =>
      match runtimeProtectDigestV2 pids images with
      | none => .error .internal
      | some digest =>
        let clientNonce := c.nonce.getD (List.Vector.replicate 32 0)
        let epoch := s.agent.policyProtectEpoch
        if s.tpm = false then .error .tpmFailure
        else
          let nonce :=
            tokenQuoteNonce s.validUntil s.statusFlags s.quotePcrMask clientNonce
              s.policyDigest digest epoch
          match c.tpmQuote nonce s.quotePcrMask with
          | .error .lockedOut => .error .tpmLockout
          | .error .failed => .error .tpmFailure
          | .ok quote =>
            if totalSize pids.length quote > ipcMaxPayload then .error .internal
            else if quote.pcrMask ≠ s.quotePcrMask then .error .tpmFailure
            else .ok {
              validUntil := s.validUntil
              flags := s.statusFlags
              clientNonce := clientNonce
              sigAlg := quote.sigAlg
              hashAlg := quote.hashAlg
              pcrMask := s.quotePcrMask
              policyDigest := s.policyDigest
              runtimeProtectDigest := digest
              protectPidCount := pids.length
              runtimeProtectEpoch := epoch
              runtimeProtectVersion := runtimeProtectV2
              protectedPids := pids
              imageDigests := images
              attestData := quote.attestData
              signature := quote.signature }

def TokenCall.limiter (c : TokenCall) : Limiter := ⟨tokenRateLimit, tokenRateWindowSec, c.now⟩

/-- A quote that finds the TPM locked out sets the flag.
mirrors src/agent/ipc.c:723-985 -/
def handleGetToken (s : IpcState) (c : TokenCall) : IpcState × Except IpcResult IpcToken :=
  if hasFlag s.statusFlags statusAttested = false then (s, .error .notAttested)
  else if hasFlag s.statusFlags statusTpmLockout = true then (s, .error .tpmLockout)
  else
    let r := checkRateLimit c.limiter s.tokenRateTable c.peerUid
    let s := { s with tokenRateTable := r.1 }
    if r.2 = false then (s, .error .rateLimited)
    else match issueToken s c with
      | .ok token => (s, .ok token)
      | .error .tpmLockout =>
        ({ s with statusFlags := s.statusFlags ||| statusTpmLockout }, .error .tpmLockout)
      | .error e => (s, .error e)

/-! ## When there is a token -/

theorem measureAll_iff {procfs : Procfs} {pids : List UInt32} :
    (∃ images, measureAll procfs pids = some images) ↔ ∀ pid ∈ pids, Measurable procfs pid := by
  induction pids with
  | nil => simp [measureAll]
  | cons pid pids ih =>
    rw [List.forall_mem_cons, ← ih, ← measure_iff]
    cases hm : runtimeMeasurePid procfs pid with
    | error e => simp [measureAll, hm]
    | ok digest => cases hr : measureAll procfs pids <;> simp [measureAll, hm, hr]

theorem canonicalPIDs_of_sorted {pids : List UInt32} (h : pids.Pairwise (· < ·)) :
    canonicalPIDs pids = true := by
  induction pids with
  | nil => rfl
  | cons a l ih =>
    cases l with
    | nil => rfl
    | cons b l =>
      obtain ⟨ha, hl⟩ := List.pairwise_cons.mp h
      have hab : a < b := ha b List.mem_cons_self
      simp [canonicalPIDs, hab, ih hl]

/-- The part of the state that decides about a token, apart from the limiter
and the processes. -/
structure Ready (s : IpcState) : Prop where
  attested : hasFlag s.statusFlags statusAttested = true
  unlocked : hasFlag s.statusFlags statusTpmLockout = false
  policyDigestSet : s.agent.policyDigestSet = true
  nodup : s.agent.policyProtectPids.Nodup
  count : s.agent.policyProtectPids.length ≤ tokenMaxProtectPids
  tpm : s.tpm = true

/-- `check_get_token_rate_limit` lets the request through. -/
def WithinRate (s : IpcState) (c : TokenCall) : Prop :=
  (checkRateLimit c.limiter s.tokenRateTable c.peerUid).2 = true

/-- Every quote over this PCR selection succeeds and reports it. -/
def TpmWorks (c : TokenCall) (pcrMask : UInt32) : Prop :=
  ∀ nonce, ∃ quote, c.tpmQuote nonce pcrMask = .ok quote ∧ quote.pcrMask = pcrMask

/-- The reply for `n` protected processes fits the payload. -/
def Fits (c : TokenCall) (pcrMask : UInt32) (n : Nat) : Prop :=
  ∀ nonce quote, c.tpmQuote nonce pcrMask = .ok quote → totalSize n quote ≤ ipcMaxPayload

/-- The request is answered with a token. -/
def Answered (s : IpcState) (c : TokenCall) : Prop := ∃ token, (handleGetToken s c).2 = .ok token

/-- What the agent found on its way to a token: the sorted PIDs, their images
and the quote. -/
structure Issued (s : IpcState) (c : TokenCall) (token : IpcToken) (quote : QuoteResponse) : Prop where
  policyDigestSet : s.agent.policyDigestSet = true
  tpm : s.tpm = true
  canonical : buildCanonicalRuntimePidList s.agent = some token.protectedPids
  count : token.protectedPids.length ≤ tokenMaxProtectPids
  measured : measureAll c.procfs token.protectedPids = some token.imageDigests
  quoted : ∃ nonce, c.tpmQuote nonce s.quotePcrMask = .ok quote
  fits : totalSize token.protectedPids.length quote ≤ ipcMaxPayload
  attestData : token.attestData = quote.attestData
  signature : token.signature = quote.signature
  version : token.runtimeProtectVersion = runtimeProtectV2
  protectPidCount : token.protectPidCount = token.protectedPids.length
  nonce : token.clientNonce = c.nonce.getD (List.Vector.replicate 32 0)

theorem issue_ok {s : IpcState} {c : TokenCall} {token : IpcToken} (h : issueToken s c = .ok token) :
    ∃ quote, Issued s c token quote := by
  unfold issueToken at h
  split at h
  · cases h
  next hset =>
  split at h
  · cases h
  next pids hcanon =>
  split at h
  · cases h
  next hcount =>
  split at h
  · cases h
  split at h
  · cases h
  next images himages =>
  split at h
  · cases h
  simp only at h
  split at h
  · cases h
  next htpm =>
  split at h
  · cases h
  · cases h
  next quote hquote =>
  split at h
  · cases h
  next hfits =>
  split at h
  · cases h
  cases h
  exact ⟨quote,
    by simpa using hset, by simpa using htpm, hcanon, Nat.not_lt.mp hcount, himages, ⟨_, hquote⟩,
    Nat.not_lt.mp hfits, rfl, rfl, rfl, rfl, rfl⟩

/-- A request that is answered got past the status flags and the limiter,
which leave the agent's state alone. -/
theorem handleGetToken_ok {s : IpcState} {c : TokenCall} {token : IpcToken}
    (h : (handleGetToken s c).2 = .ok token) :
    hasFlag s.statusFlags statusAttested = true ∧ hasFlag s.statusFlags statusTpmLockout = false ∧
      issueToken
      { s with tokenRateTable := (checkRateLimit c.limiter s.tokenRateTable c.peerUid).1 } c =
      .ok token := by
  unfold handleGetToken at h
  split at h
  · cases h
  next hattested =>
  split at h
  · cases h
  next hunlocked =>
  simp only at h
  split at h
  · cases h
  split at h
  · next token' hissue =>
    cases h
    exact ⟨by simpa using hattested, by simpa using hunlocked, hissue⟩
  · cases h
  · cases h

theorem issue_of_ready {s : IpcState} {c : TokenCall} (hset : s.agent.policyDigestSet = true)
    (htpm : s.tpm = true)
    (hcount : s.agent.policyProtectPids.length ≤ tokenMaxProtectPids)
    (hnd : s.agent.policyProtectPids.Nodup)
    (hmeas : ∀ pid ∈ s.agent.policyProtectPids, Measurable c.procfs pid)
    (hworks : TpmWorks c s.quotePcrMask)
    (hfits : Fits c s.quotePcrMask s.agent.policyProtectPids.length) :
    ∃ token, issueToken s c = .ok token := by
  obtain ⟨pids, hcanon, hperm, hstrict⟩ := canonical_of_nodup hnd
  have hlen := hperm.length_eq
  obtain ⟨images, himages⟩ := measureAll_iff.mpr fun pid hpid => hmeas pid (hperm.mem_iff.mp hpid)
  have h1 : ¬ pids.length > tokenMaxProtectPids := by omega
  have h2 : ¬ pids.length * 4 > 0xFFFF := by
    have : tokenMaxProtectPids = 1024 := rfl
    omega
  have hdigest : runtimeProtectDigestV2 pids images =
      some (sha256 (protectMessageV2 pids (images.flatMap List.Vector.toList))) :=
        if_pos (canonicalPIDs_of_sorted hstrict)
  obtain ⟨quote, hquote, hmask⟩ := hworks (tokenQuoteNonce s.validUntil s.statusFlags s.quotePcrMask
    (c.nonce.getD (List.Vector.replicate 32 0)) s.policyDigest
    (sha256 (protectMessageV2 pids (images.flatMap List.Vector.toList))) s.agent.policyProtectEpoch)
  have h3 : ¬ totalSize pids.length quote > ipcMaxPayload := by
    have := hfits _ quote hquote
    rw [hlen]
    omega
  unfold issueToken
  simp only [hset, hcanon, if_neg h1, if_neg h2, himages, hdigest, htpm, hquote,
    if_neg h3, hmask, ne_eq, not_true_eq_false, if_false, Bool.true_eq_false]
  exact ⟨_, rfl⟩

/-- A token says that the agent is ready and that every protected process was
measured. -/
theorem ready_of_answered {s : IpcState} {c : TokenCall} (h : Answered s c) :
    Ready s ∧ ∀ pid ∈ s.agent.policyProtectPids, Measurable c.procfs pid := by
  obtain ⟨token, h⟩ := h
  obtain ⟨hattested, hunlocked, hissue⟩ := handleGetToken_ok h
  obtain ⟨quote, hi⟩ := issue_ok hissue
  obtain ⟨hperm, hnd⟩ := canonical_perm hi.canonical
  have hcount : s.agent.policyProtectPids.length ≤ tokenMaxProtectPids := by
    rw [← hperm.length_eq]
    exact hi.count
  have hmeas := measureAll_iff.mp ⟨_, hi.measured⟩
  refine ⟨⟨hattested, hunlocked, hi.policyDigestSet, hnd, hcount, hi.tpm⟩, ?_⟩
  intro pid hpid
  exact hmeas pid (hperm.mem_iff.mpr hpid)

/-- A ready agent answers a request within the limit when every protected
process is measurable and the reply fits. -/
theorem answered_of_ready {s : IpcState} {c : TokenCall} (h : Ready s) (hrate : WithinRate s c)
    (hmeas : ∀ pid ∈ s.agent.policyProtectPids, Measurable c.procfs pid)
    (hworks : TpmWorks c s.quotePcrMask)
    (hfits : Fits c s.quotePcrMask s.agent.policyProtectPids.length) : Answered s c := by
  unfold Answered handleGetToken
  have hlimit : (checkRateLimit c.limiter s.tokenRateTable c.peerUid).2 = true := hrate
  obtain ⟨token, htoken⟩ := issue_of_ready
    (s := { s with tokenRateTable := (checkRateLimit c.limiter s.tokenRateTable c.peerUid).1 })
    h.policyDigestSet h.tpm h.count h.nodup hmeas hworks hfits
  simp only [h.attested, h.unlocked, hlimit, htoken, Bool.true_eq_false, Bool.false_eq_true, if_false]
  exact ⟨token, rfl⟩

/-! ## Peers -/

inductive PeerEvent where
  /-- A `PROTECT_PID` request. -/
  | protect (r : PidRequest)
  /-- A `GET_TOKEN` request of the peer's own. -/
  | getToken (c : TokenCall)
  /-- The peer ends. -/
  | exit (tgid : UInt32)

/-- What happens to the processes shows in the `procfs` of a later call. -/
def peerStep (s : IpcState) : PeerEvent → IpcState × Unit
  | .protect r => ({ s with agent := (handleProtectPidUpdate s.agent r).1 }, ())
  | .getToken c => ((handleGetToken s c).1, ())
  | .exit tgid => ({ s with agent := (ProtectedSet.step s.agent (.exit tgid)).1 }, ())

def peers : Machine IpcState PeerEvent Unit := ⟨peerStep⟩

/-- The event is one of an unprivileged peer that registers no process but its
own, with a TPM that works. -/
def ByPeer (s : IpcState) : PeerEvent → Prop
  | .protect r => r.add = true ∧ r.pid = r.peerPid ∧ r.privileged = false
  | .getToken c => TpmWorks c s.quotePcrMask
  | .exit _ => True

/-- The processes that were registered. -/
def optedIn (evs : List PeerEvent) : List UInt32 :=
  evs.filterMap fun
    | .protect r => some r.pid
    | _ => none

/-- What `GET_TOKEN` reads is as before, apart from the limiter and the list,
and the list has only grown by the given PIDs. -/
structure Grown (new : List UInt32) (s s' : IpcState) : Prop where
  statusFlags : s'.statusFlags = s.statusFlags
  quotePcrMask : s'.quotePcrMask = s.quotePcrMask
  tpm : s'.tpm = s.tpm
  policyDigestSet : s'.agent.policyDigestSet = s.agent.policyDigestSet
  nodup : s.agent.policyProtectPids.Nodup → s'.agent.policyProtectPids.Nodup
  count : s.agent.policyProtectPids.length ≤ tokenMaxProtectPids →
    s'.agent.policyProtectPids.length ≤ tokenMaxProtectPids
  pids : ∀ pid ∈ s'.agent.policyProtectPids, pid ∈ s.agent.policyProtectPids ∨ pid ∈ new

/-- A step that leaves these fields alone. -/
theorem Grown.of_same {new : List UInt32} {s s' : IpcState} (hflags : s'.statusFlags = s.statusFlags)
    (hmask : s'.quotePcrMask = s.quotePcrMask) (htpm : s'.tpm = s.tpm)
    (hset : s'.agent.policyDigestSet = s.agent.policyDigestSet)
    (hpids : s'.agent.policyProtectPids = s.agent.policyProtectPids) : Grown new s s' where
  statusFlags := hflags
  quotePcrMask := hmask
  tpm := htpm
  policyDigestSet := hset
  nodup h := hpids ▸ h
  count h := hpids ▸ h
  pids _ h := .inl (hpids ▸ h)

theorem Grown.trans {new new' : List UInt32} {s s' s'' : IpcState} (h : Grown new s s')
    (h' : Grown new' s' s'') : Grown (new ++ new') s s'' where
  statusFlags := h'.statusFlags.trans h.statusFlags
  quotePcrMask := h'.quotePcrMask.trans h.quotePcrMask
  tpm := h'.tpm.trans h.tpm
  policyDigestSet := h'.policyDigestSet.trans h.policyDigestSet
  nodup hnd := h'.nodup (h.nodup hnd)
  count hc := h'.count (h.count hc)
  pids pid hpid := by
    rcases h'.pids pid hpid with hold | hnew
    · exact (h.pids pid hold).imp_right (List.mem_append_left new')
    · exact .inr (List.mem_append_right new hnew)

/-- A request for a PID grows the list by that PID at most. -/
theorem protect_grown (s : IpcState) (r : PidRequest) :
    Grown [r.pid] s { s with agent := (handleProtectPidUpdate s.agent r).1 } := by
  rcases handle_cases s.agent r with hs | ⟨-, m, ⟨hroom, -, hs⟩ | ⟨-, hs⟩⟩
  · rw [hs]
    exact .of_same rfl rfl rfl rfl rfl
  · rw [hs]
    refine ⟨rfl, rfl, rfl, rfl, pidSetAdd_nodup r.pid, fun _ => ?_, fun pid hpid => ?_⟩
    · exact pidSetAdd_length.trans (Nat.succ_le_of_lt hroom)
    · exact (mem_pidSetAdd.mp hpid).symm.imp_right List.mem_singleton.mpr
  · rw [hs]
    refine ⟨rfl, rfl, rfl, rfl, fun hnd => hnd.filter _, fun hc => ?_, fun pid hpid => ?_⟩
    · exact (List.length_filter_le _ _).trans hc
    · exact .inl (mem_pidSetRemove.mp hpid).2

/-- A token does not depend on the limiter's table. -/
theorem issueToken_rate (s : IpcState) (c : TokenCall) (table : List UidRate) :
    issueToken { s with tokenRateTable := table } c = issueToken s c :=
  rfl

/-- Every check before the quote passes, and the quote finds the TPM locked
out. -/
structure QuoteLocked (s : IpcState) (c : TokenCall) : Prop where
  policyDigestSet : s.agent.policyDigestSet = true
  tpm : s.tpm = true
  quote : ∃ pids images digest, buildCanonicalRuntimePidList s.agent = some pids ∧
    pids.length ≤ tokenMaxProtectPids ∧ measureAll c.procfs pids = some images ∧
    runtimeProtectDigestV2 pids images = some digest ∧
    c.tpmQuote (tokenQuoteNonce s.validUntil s.statusFlags s.quotePcrMask
      (c.nonce.getD (List.Vector.replicate 32 0))
      s.policyDigest digest s.agent.policyProtectEpoch) s.quotePcrMask = .error .lockedOut

theorem locked_of_issue {s : IpcState} {c : TokenCall} (h : issueToken s c = .error .tpmLockout) :
    QuoteLocked s c := by
  unfold issueToken at h
  split at h
  · cases h
  next hset =>
  split at h
  · cases h
  next pids hcanon =>
  split at h
  · cases h
  next hcount =>
  split at h
  · cases h
  split at h
  · cases h
  next images himages =>
  split at h
  · cases h
  next digest hdigest =>
  simp only at h
  split at h
  · cases h
  next htpm =>
  split at h
  next hquote =>
    exact ⟨by simpa using hset,
      by simpa using htpm, pids, images, digest, hcanon, Nat.not_lt.mp hcount, himages,
      hdigest, hquote⟩
  · cases h
  -- with a quote the answers left are other errors and the token
  split at h
  · cases h
  split at h <;> cases h

/-- The agent answers a lockout when its own quote meets one, and only then. -/
theorem issue_locked_iff {s : IpcState} {c : TokenCall} :
    issueToken s c = .error .tpmLockout ↔ QuoteLocked s c := by
  refine ⟨locked_of_issue,
    fun ⟨hset, htpm, pids, images, digest, hcanon, hcount, himages, hdigest, hquote⟩ => ?_⟩
  have hbytes : ¬ pids.length * 4 > 0xFFFF := by
    have : tokenMaxProtectPids = 1024 := rfl
    omega
  unfold issueToken
  simp only [hset, hcanon, if_neg (Nat.not_lt.mpr hcount), if_neg hbytes, himages,
    hdigest, htpm, hquote, Bool.true_eq_false, if_false]

/-- With a TPM that works there is no lockout. -/
theorem issue_unlocked {s : IpcState} {c : TokenCall} (h : TpmWorks c s.quotePcrMask) :
    issueToken s c ≠ .error .tpmLockout := by
  intro hissue
  obtain ⟨pids, images, digest, -, -, -, -, hlocked⟩ := (issue_locked_iff.mp hissue).quote
  obtain ⟨quote, hquote, -⟩ := h (tokenQuoteNonce s.validUntil s.statusFlags s.quotePcrMask
    (c.nonce.getD (List.Vector.replicate 32 0)) s.policyDigest digest s.agent.policyProtectEpoch)
  rw [hquote] at hlocked
  cases hlocked

/-- A `GET_TOKEN` request charges the limiter and changes nothing else. -/
theorem getToken_grown {s : IpcState} {c : TokenCall} (h : TpmWorks c s.quotePcrMask) :
    Grown [] s (handleGetToken s c).1 := by
  unfold handleGetToken
  split
  · exact .of_same rfl rfl rfl rfl rfl
  split
  · exact .of_same rfl rfl rfl rfl rfl
  simp only
  split
  · exact .of_same rfl rfl rfl rfl rfl
  split
  · exact .of_same rfl rfl rfl rfl rfl
  · next hissue => exact absurd hissue (issue_unlocked h)
  · exact .of_same rfl rfl rfl rfl rfl

/-- **Step.** -/
theorem peer_step {s : IpcState} {ev : PeerEvent} (h : ByPeer s ev) :
    Grown (optedIn [ev]) s (peerStep s ev).1 := by
  cases ev with
  | protect r => exact protect_grown s r
  | getToken c => exact getToken_grown h
  | exit tgid => exact .of_same rfl rfl rfl rfl rfl

theorem optedIn_cons (ev : PeerEvent) (evs : List PeerEvent) :
    optedIn (ev :: evs) = optedIn [ev] ++ optedIn evs :=
  List.filterMap_append (l := [ev])

/-- **Run.** Peers leave alone what `GET_TOKEN` reads, apart from the limiter
and their own entries in the list. -/
theorem peers_run {s : IpcState} {evs : List PeerEvent} (h : peers.AllSteps ByPeer s evs) :
    Grown (optedIn evs) s (peers.run s evs) := by
  induction evs generalizing s with
  | nil => exact .of_same rfl rfl rfl rfl rfl
  | cons ev evs ih =>
    rw [optedIn_cons]
    exact (peer_step h.1).trans (ih h.2)

/-- **Opting in does not harm others.** When `GET_TOKEN` succeeds for a client,
it still succeeds after any sequence of requests of unprivileged peers for
their own PIDs and any behaviour of theirs, given that the other protected
processes are measurable, the TPM works and the limiter lets the client
through, that the processes that registered are measurable when the token is
made, and that the reply has room for them. -/
theorem opting_in_harmless (s : IpcState) (before : TokenCall) (hbefore : Answered s before)
    (evs : List PeerEvent)
    (hpeers : peers.AllSteps ByPeer s evs) (c : TokenCall)
    (hown : ∀ pid ∈ s.agent.policyProtectPids, pid ∉ optedIn evs → Measurable c.procfs pid)
    (hworks : TpmWorks c s.quotePcrMask) (hrate : WithinRate (peers.run s evs) c)
    (hregistered : ∀ pid ∈ (peers.run s evs).agent.policyProtectPids, pid ∈ optedIn evs →
      Measurable c.procfs pid)
    (hfits : Fits c s.quotePcrMask (peers.run s evs).agent.policyProtectPids.length) :
    Answered (peers.run s evs) c := by
  have hgrown := peers_run hpeers
  obtain ⟨hready, -⟩ := ready_of_answered hbefore
  have hready' : Ready (peers.run s evs) := {
    attested := hgrown.statusFlags ▸ hready.attested
    unlocked := hgrown.statusFlags ▸ hready.unlocked
    policyDigestSet := hgrown.policyDigestSet.trans hready.policyDigestSet
    nodup := hgrown.nodup hready.nodup
    count := hgrown.count hready.count
    tpm := hgrown.tpm.trans hready.tpm }
  refine answered_of_ready hready' hrate (fun pid hpid => ?_) (hgrown.quotePcrMask ▸ hworks)
    (hgrown.quotePcrMask ▸ hfits)
  by_cases hin : pid ∈ optedIn evs
  · exact hregistered pid hpid hin
  · rcases hgrown.pids pid hpid with hold | hnew
    · exact hown pid hold hin
    · exact absurd hnew hin

/-! ## A client and a peer -/

/-- A program with one executable file; `verity` is what the kernel says of
it. -/
def program (verity : Except RuntimeImage.Errno Bytes) : Process where
  maps := [{ start := 0x400000, stop := 0x401000, perms := ['r', '-', 'x', 'p'], devMajor := 8,
             devMinor := 1, ino := 42, rest := [0x2f, 0x67, 0x0a] }]
  mapFile _ _ := .ok { regular := true, devMajor := 8, devMinor := 1, ino := 42, verity }

/-- The client runs as PID 100 from a measured file and the peer as PID 200. -/
def twoProcesses (peer : Except RuntimeImage.Errno Bytes) : Procfs := fun pid =>
  if pid = 100 then .ok (program (.ok (List.replicate 64 7)))
  else if pid = 200 then .ok (program peer)
  else .error .enoent

def smallQuote (_ : Hash) (pcrMask : UInt32) : Except QuoteError QuoteResponse :=
  .ok { attestData := [], signature := [], sigAlg := 0x14, hashAlg := 0x0b, pcrMask }

def clientCall (peer : Except RuntimeImage.Errno Bytes) : TokenCall where
  peerUid := 1000
  nonce := none
  now := 500
  procfs := twoProcesses peer
  tpmQuote := smallQuote

/-- An attested agent with the client's process protected. -/
def clientProtected : IpcState where
  agent := started twoAlive [100]
  policyDigest := List.Vector.replicate 32 1
  statusFlags := statusAttested
  validUntil := 1000
  quotePcrMask := 0x4000
  tpm := true
  tokenRateTable := []

/-- The kernel's `ENODATA` for a file without fs-verity. -/
def noVerity : Except RuntimeImage.Errno Bytes := .error (.sys 61)

theorem program_measurable {procfs : Procfs} {pid : UInt32}
    (h : procfs pid = .ok (program (.ok (List.replicate 64 7)))) : Measurable procfs pid := by
  refine ⟨_, _, h, rfl, List.cons_ne_nil _ _, fun e he => ⟨List.replicate 64 7, ?_⟩⟩
  rw [List.mem_singleton.mp he]
  rfl

theorem program_unmeasurable {procfs : Procfs} {pid : UInt32}
    (h : procfs pid = .ok (program noVerity)) : ¬ Measurable procfs pid := by
  rintro ⟨proc, entries, hproc, hcol, hne, hmeas⟩
  cases h.symm.trans hproc
  cases hcol
  obtain ⟨digest, hd⟩ := hmeas _ List.mem_cons_self
  cases hd

theorem clientCall_works (peer : Except RuntimeImage.Errno Bytes) : TpmWorks (clientCall peer) 0x4000 :=
  fun _ => ⟨_, rfl, rfl⟩

theorem clientCall_fits (peer : Except RuntimeImage.Errno Bytes) {n : Nat} (h : n ≤ 2) :
    Fits (clientCall peer) 0x4000 n := by
  intro nonce quote hq
  cases hq
  have htotal : totalSize n ⟨[], [], 0x14, 0x0b, 0x4000⟩ = 136 + n * 4 + n * 32 := rfl
  rw [htotal]
  have : ipcMaxPayload = 8192 := rfl
  omega

/-- The first request of all is let through. -/
theorem withinRate_first {s : IpcState} (c : TokenCall) (h : s.tokenRateTable = []) :
    WithinRate s c := by
  unfold WithinRate
  rw [h]
  rfl

theorem client_pids : clientProtected.agent.policyProtectPids = [100] := by decide +kernel

theorem registered_pids :
    (peers.run clientProtected [.protect register200]).agent.policyProtectPids = [100, 200] := by
  decide +kernel

theorem client_answered (peer : Except RuntimeImage.Errno Bytes) :
    Answered clientProtected (clientCall peer) := by
  have hready : Ready clientProtected :=
    ⟨by decide, by decide, rfl, by rw [client_pids]; decide, by rw [client_pids]; decide, rfl⟩
  refine answered_of_ready hready (withinRate_first _ rfl) ?_ (clientCall_works peer) ?_
  · rw [client_pids]
    intro pid hpid
    rw [List.mem_singleton.mp hpid]
    exact program_measurable rfl
  · rw [client_pids]
    exact clientCall_fits peer (by decide)

theorem opting_in_harmless_verity : Answered (peers.run clientProtected [.protect register200])
    (clientCall (.ok (List.replicate 64 7))) := by
  refine opting_in_harmless clientProtected (clientCall noVerity) (client_answered noVerity)
    [.protect register200]
    ⟨⟨rfl, rfl, rfl⟩, trivial⟩ (clientCall (.ok (List.replicate 64 7))) ?_ (clientCall_works _)
      (withinRate_first _ rfl) ?_ ?_
  · rw [client_pids]
    intro pid hpid _
    rw [List.mem_singleton.mp hpid]
    exact program_measurable rfl
  · intro pid _ hin
    rw [List.mem_singleton.mp hin]
    exact program_measurable rfl
  · rw [registered_pids]
    exact clientCall_fits _ (by decide)

/-- A peer without privileges registers its own PID and then maps a file
without fs-verity: the client, which is measurable and would get a token
before, gets none. -/
theorem opting_in_harms :
    Answered clientProtected (clientCall noVerity) ∧ peers.AllSteps ByPeer clientProtected
    [.protect register200] ∧
    (∀ pid ∈ clientProtected.agent.policyProtectPids, Measurable (clientCall noVerity).procfs pid) ∧
    TpmWorks (clientCall noVerity) clientProtected.quotePcrMask ∧
    WithinRate (peers.run clientProtected [.protect register200]) (clientCall noVerity) ∧
    ¬ Answered (peers.run clientProtected [.protect register200]) (clientCall noVerity) := by
  refine ⟨client_answered noVerity, ⟨⟨rfl, rfl, rfl⟩, trivial⟩, ?_, clientCall_works _,
    withinRate_first _ rfl, ?_⟩
  · rw [client_pids]
    intro pid hpid
    rw [List.mem_singleton.mp hpid]
    exact program_measurable rfl
  · intro h
    obtain ⟨-, hmeas⟩ := ready_of_answered h
    rw [registered_pids] at hmeas
    exact program_unmeasurable rfl (hmeas 200 (by decide))

end Lota.L6.GetToken

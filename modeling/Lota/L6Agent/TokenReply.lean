import Lota.L4Sdk.IpcToken
import Lota.L6Agent.GetToken

/-!
# A token from the agent to the SDK (`agent/ipc.c`, `sdk/lota_gaming.c`)

`handle_get_token` writes its answer into the client's send buffer and
`lota_get_token` reads it on the other end of the connection. The agent
answers as long as the reply fits `LOTA_IPC_MAX_PAYLOAD`, 8192 bytes. The
client has a buffer of `LOTA_IPC_TOKEN_MAX_SIZE`, 5768 bytes, which has no
room for image digests.

* `replyPayload_eq`: what the agent writes is the reply that the client reads.
* `token_reaches_sdk_iff`: the client gets the token exactly when the reply
  has at most 5768 bytes.
* `many_pids_lost`: 114 protected processes.
-/
namespace Lota.L6.TokenReply
open Lota.Core Lota.L1.Report Lota.L4.Token Lota.L4.Gaming Lota.L6.Protect Lota.L6.ProtectedSet
  Lota.L6.RuntimeImage
open Lota.L6.GetToken

/-- The `struct lota_ipc_token` in the send buffer and the data behind it.
mirrors src/agent/ipc.c:776-800, 860-872 and 917-953 -/
def replyPayload (token : IpcToken) : Bytes :=
  (toLE 8 token.validUntil.toNat ++ (toLE 4 token.flags.toNat ++ (token.clientNonce.toList ++
  (toLE 2 (UInt16.ofNat token.attestData.length).toNat ++
    (toLE 2 (UInt16.ofNat token.signature.length).toNat ++
  (toLE 2 token.sigAlg.toNat ++ (toLE 2 token.hashAlg.toNat ++ (toLE 4 token.pcrMask.toNat ++
  (token.policyDigest.toList ++ (token.runtimeProtectDigest.toList ++
  (toLE 4 (UInt32.ofNat token.protectPidCount).toNat ++ (toLE 8 token.runtimeProtectEpoch.toNat ++
  (toLE 2 (UInt16.ofNat (token.protectPidCount * 4)).toNat ++
  toLE 2 token.runtimeProtectVersion.toNat))))))))))))) ++
  (wirePIDs token.protectedPids ++ (token.imageDigests.flatMap List.Vector.toList ++
    (token.attestData ++ token.signature)))

/-- The answer on the connection.
mirrors src/agent/ipc.c:955-961 -/
def reply (token : IpcToken) : Reply := .response ipcMagic 0 (replyPayload token)

/-- The token of the SDK has what the agent wrote. -/
structure SameToken (token : IpcToken) (t : LotaToken) : Prop where
  validUntil : t.validUntil = token.validUntil
  flags : t.flags = token.flags
  nonce : t.nonce = token.clientNonce
  sigAlg : t.sigAlg = token.sigAlg
  hashAlg : t.hashAlg = token.hashAlg
  pcrMask : t.pcrMask = token.pcrMask
  policyDigest : t.policyDigest = token.policyDigest
  runtimeProtectDigest : t.runtimeProtectDigest = token.runtimeProtectDigest
  runtimeProtectEpoch : t.runtimeProtectEpoch = token.runtimeProtectEpoch
  runtimeProtectVersion : t.runtimeProtectVersion = token.runtimeProtectVersion
  protectedPIDs : t.protectedPIDs = token.protectedPids
  protectedImageDigests : t.protectedImageDigests = token.imageDigests
  attestData : t.attestData = token.attestData
  signature : t.signature = token.signature

/-- Every quote of this TPM is within the limits of `include/lota_ipc.h`. -/
def QuoteLimits (c : TokenCall) (pcrMask : UInt32) : Prop :=
  ∀ nonce quote, c.tpmQuote nonce pcrMask = .ok quote →
    quote.attestData.length ≤ maxAttestSize ∧ quote.signature.length ≤ maxSigSize

/-! ## One format -/

theorem measureAll_length {procfs : Procfs} {pids : List UInt32} {images : List Hash}
    (h : measureAll procfs pids = some images) : images.length = pids.length := by
  induction pids generalizing images with
  | nil =>
    cases h
    rfl
  | cons pid pids ih =>
    simp only [measureAll] at h
    split at h
    · cases h
    · obtain ⟨rest, hrest, rfl⟩ := Option.map_eq_some_iff.mp h
      rw [List.length_cons, List.length_cons, ih hrest]

section
variable {s : IpcState} {c : TokenCall} {token : IpcToken} {quote : QuoteResponse}

/-- The token as the SDK holds it. -/
def sdkToken (hi : Issued s c token quote) : LotaToken where
  validUntil := token.validUntil
  flags := token.flags
  nonce := token.clientNonce
  sigAlg := token.sigAlg
  hashAlg := token.hashAlg
  pcrMask := token.pcrMask
  policyDigest := token.policyDigest
  runtimeProtectDigest := token.runtimeProtectDigest
  runtimeProtectEpoch := token.runtimeProtectEpoch
  runtimeProtectVersion := token.runtimeProtectVersion
  protectedPIDs := token.protectedPids
  protectedImageDigests := token.imageDigests
  attestData := token.attestData
  signature := token.signature
  images_length := fun _ => measureAll_length hi.measured

variable (hi : Issued s c token quote)

theorem sdkToken_same : SameToken token (sdkToken hi) :=
  ⟨rfl, rfl, rfl, rfl, rfl, rfl, rfl, rfl, rfl, rfl, rfl, rfl, rfl, rfl⟩

theorem sdkToken_limits (hq : QuoteLimits c s.quotePcrMask) : IpcLimits (sdkToken hi) := by
  obtain ⟨nonce, hquote⟩ := hi.quoted
  obtain ⟨hattest, hsig⟩ := hq nonce quote hquote
  refine ⟨hi.count, fun hv => absurd hi.version hv, ?_, ?_, ?_⟩
  · show token.runtimeProtectVersion ≤ runtimeProtectV2
    rw [hi.version]
    exact UInt16.le_refl _
  · show token.attestData.length ≤ maxAttestSize
    rw [hi.attestData]
    exact hattest
  · show token.signature.length ≤ maxSigSize
    rw [hi.signature]
    exact hsig

theorem replyPayload_eq : replyPayload token = ipcTokenBytes (sdkToken hi) := by
  have himages : (sdkToken hi).imageBytes = token.imageDigests.flatMap List.Vector.toList :=
    if_pos hi.version
  unfold replyPayload ipcTokenBytes ipcTokenHeader
  rw [himages, hi.protectPidCount]
  rfl

include hi in
theorem replyPayload_length :
    (replyPayload token).length = totalSize s.agent.policyProtectPids.length quote := by
  obtain ⟨hperm, -⟩ := canonical_perm hi.canonical
  have hsize : (sdkToken hi).imagesSize = token.protectedPids.length * 32 := if_pos hi.version
  rw [replyPayload_eq hi, ipcTokenBytes_length, hsize, ← hperm.length_eq,
    totalSize, ← hi.attestData, ← hi.signature]
  rfl

theorem getToken_issued (hq : QuoteLimits c s.quotePcrMask) :
    getToken (reply token) =
      if 136 + 36 * s.agent.policyProtectPids.length + quote.attestData.length +
        quote.signature.length ≤ 5768
      then .ok (sdkToken hi) else .error .protocol := by
  have hlen : (ipcTokenBytes (sdkToken hi)).length ≤ ipcTokenMaxSize ↔
      136 + 36 * s.agent.policyProtectPids.length + quote.attestData.length +
      quote.signature.length ≤ 5768 := by
    rw [← replyPayload_eq hi, replyPayload_length hi]
    show 136 + s.agent.policyProtectPids.length * 4 + s.agent.policyProtectPids.length * 32 +
        _ + _ ≤ 5768 ↔ _
    omega
  unfold reply
  rw [replyPayload_eq hi, getToken_reply (sdkToken_limits hi hq)]
  exact if_congr hlen rfl rfl

end

/-! ## Both ends -/

/-- **Tokens reach the SDK.** When the agent answers a request, the client
returns a token with all that the agent wrote exactly when the structure, four
bytes and a digest for each protected process, the attest data and the
signature together take at most 5768 bytes. -/
theorem token_reaches_sdk_iff (s : IpcState) (c : TokenCall) (hq : QuoteLimits c s.quotePcrMask)
    (token : IpcToken)
    (h : (handleGetToken s c).2 = .ok token) :
    ∃ quote, (∃ nonce, c.tpmQuote nonce s.quotePcrMask = .ok quote) ∧
      token.attestData = quote.attestData ∧ token.signature = quote.signature ∧
      ((∃ t, getToken (reply token) = .ok t ∧ SameToken token t) ↔
        136 + 36 * s.agent.policyProtectPids.length + quote.attestData.length +
        quote.signature.length ≤ 5768) := by
  obtain ⟨-, -, hissue⟩ := handleGetToken_ok h
  obtain ⟨quote, hi⟩ := issue_ok hissue
  have hget := getToken_issued hi hq
  refine ⟨quote, hi.quoted, hi.attestData, hi.signature, ?_⟩
  constructor
  · rintro ⟨t, ht, -⟩
    by_contra hbig
    rw [if_neg hbig, ht] at hget
    cases hget
  · intro hle
    exact ⟨sdkToken hi, hget.trans (if_pos hle), sdkToken_same hi⟩

theorem token_reaches_sdk_iff_one :
    ∃ token t, (handleGetToken clientProtected (clientCall noVerity)).2 = .ok token ∧
      getToken (reply token) = .ok t ∧ SameToken token t := by
  have hq : QuoteLimits (clientCall noVerity) clientProtected.quotePcrMask := by
    intro nonce quote hquote
    cases hquote
    exact ⟨Nat.zero_le _, Nat.zero_le _⟩
  obtain ⟨token, htoken⟩ := client_answered noVerity
  obtain ⟨quote, ⟨nonce, hquote⟩, -, -, hiff⟩ :=
    token_reaches_sdk_iff clientProtected (clientCall noVerity) hq token htoken
  cases hquote
  obtain ⟨t, ht, hsame⟩ := hiff.mpr (by rw [client_pids]; decide)
  exact ⟨token, t, htoken, ht, hsame⟩

/-- The PIDs from 1 to `n`. -/
def pidsUpTo (n : Nat) : List UInt32 := (List.range' 1 n).map UInt32.ofNat

/-- The largest attest data and the largest signature. -/
def largeQuote (pcrMask : UInt32) : QuoteResponse where
  attestData := List.replicate maxAttestSize 0
  signature := List.replicate maxSigSize 0
  sigAlg := 0x14
  hashAlg := 0x0b
  pcrMask := pcrMask

theorem largeQuote_sizes (pcrMask : UInt32) :
    (largeQuote pcrMask).attestData.length = maxAttestSize ∧
    (largeQuote pcrMask).signature.length = maxSigSize :=
  ⟨List.length_replicate, List.length_replicate⟩

/-- Every process runs from one measured file. -/
def crowdCall : TokenCall where
  peerUid := 1000
  nonce := none
  now := 500
  procfs := fun _ => .ok (program (.ok (List.replicate 64 7)))
  tpmQuote := fun _ pcrMask => .ok (largeQuote pcrMask)

/-- `n` protected processes. -/
def crowd (n : Nat) : IpcState :=
  { clientProtected with agent := started (fun _ => some 7) (pidsUpTo n) }

theorem crowd_pids : (crowd 114).agent.policyProtectPids.length = 114 ∧
    (crowd 114).agent.policyProtectPids.Nodup := by
  have hnd : (pidsUpTo 114).Nodup := by decide +kernel
  have hperm : (canonicalizeU32Set (pidsUpTo 114)).Perm (pidsUpTo 114).dedup := List.mergeSort_perm _ _
  rw [hnd.dedup] at hperm
  exact ⟨hperm.length_eq.trans (by simp [pidsUpTo]), hperm.nodup_iff.mpr hnd⟩

/-- 114 protected processes: the agent answers with 5776 bytes, which is less
than its limit of 8192, and the client has no room for them. -/
theorem many_pids_lost :
    ∃ token, QuoteLimits crowdCall (crowd 114).quotePcrMask ∧
    (handleGetToken (crowd 114) crowdCall).2 = .ok token ∧
      getToken (reply token) = .error .protocol := by
  obtain ⟨hlen, hnd⟩ := crowd_pids
  obtain ⟨hattest, hsig⟩ := largeQuote_sizes (crowd 114).quotePcrMask
  have hq : QuoteLimits crowdCall (crowd 114).quotePcrMask := by
    intro nonce quote hquote
    cases hquote
    exact ⟨Nat.le_of_eq hattest, Nat.le_of_eq hsig⟩
  have hready : Ready (crowd 114) := ⟨by decide, by decide, rfl, hnd, by rw [hlen]; decide, rfl⟩
  have hanswered : Answered (crowd 114) crowdCall := by
    refine answered_of_ready hready (withinRate_first _ rfl) (fun pid _ => program_measurable rfl)
      (fun _ => ⟨_, rfl, rfl⟩) ?_
    intro nonce quote hquote
    cases hquote
    rw [hlen, totalSize, hattest, hsig]
    decide
  obtain ⟨token, htoken⟩ := hanswered
  obtain ⟨-, -, hissue⟩ := handleGetToken_ok htoken
  obtain ⟨quote, hi⟩ := issue_ok hissue
  have hget := getToken_issued hi hq
  obtain ⟨nonce, hquote⟩ := hi.quoted
  cases hquote
  refine ⟨token, hq, htoken, hget.trans (if_neg ?_)⟩
  rw [hlen, hattest, hsig]
  decide

end Lota.L6.TokenReply

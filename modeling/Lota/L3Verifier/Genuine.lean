import Lota.L3Verifier.Pinning

/-!
# An honest device is accepted

What a device with the given flags, agent hash and registers reports to a
challenge, from the TPM's quote over its report to the bytes on the wire,
and that `VerifyReport` takes it as far as the baseline store.

The device's AIK changes with every quote and the AIK store knows keys by
their fingerprint.

Results:
* `generate_round`, `verify_round`: a store with nothing pending issues a
  new nonce and takes it back once.
* `genuine_authenticated`: the report of an honest device passes every check
  in front of the baseline store.
-/
namespace Lota.L3.Verify
open Lota.Core Lota.L1.Report Lota.L1.Attest Lota.L1.EventLog
open Lota.L2 Lota.L2.Baseline Lota.L2.SqliteBaseline Lota.L2.Nonce
open Lota.L3.BootCommitment Lota.L3.Policy Lota.L3.Signature

/-! ## The report of an honest device -/

/-- What a device reports. -/
structure Device where
  nonce : Nonce
  flags : UInt32
  agentHash : Hash
  pcrValues : PCRTable
  pcrMask : UInt32
  eventLog : Bytes := headerOnlyLog

theorem toBlob_take {n k : Nat} {bs : Bytes} (h : bs.length = k) (hk : k ≤ n) :
    (toBlob n bs).toList.take k = bs := by
  show ((bs ++ List.replicate n 0).take n).take k = bs
  rw [List.take_take, Nat.min_eq_left hk, ← h, List.take_left]

namespace Device

variable (d : Device)

/-- Everything but the TPM's evidence. -/
def system : SystemMeasurement where
  kernelHash := Blob.zero 32
  agentHash := d.agentHash
  kernelPath := Blob.zero 256
  iommu := { vendor := 0, flags := 0, unitCount := 0, cmdlineParam := Blob.zero 64 }

/-- The report before the quote is taken. -/
def draft : AttestationReport where
  header := { magic := reportMagic, version := reportVersion, reportSize := 8024, flags := d.flags }
  tpm :=
    { pcrValues := d.pcrValues, pcrMask := d.pcrMask
      quoteSignature := Blob.zero 512, quoteSigSize := 0
      attestData := Blob.zero 1024, attestSize := 0
      aikPublic := Blob.zero 512, aikPublicSize := 0
      aikCertificate := Blob.zero 2048, aikCertSize := 0
      ekCertificate := Blob.zero 2048, ekCertSize := 0
      nonce := d.nonce, hardwareID := Blob.zero 32, aikGeneration := 0
      prevAIKPublic := Blob.zero 512, prevAIKSize := 0
      quoteSigAlg := tpmAlgRSASSA, quoteSigHashAlg := tpmAlgSHA256 }
  system := d.system
  bpf := { totalExecEvents := 0, uniqueBinaries := 0, firstEventTS := 0, lastEventTS := 0 }
  eventLog := d.eventLog

/-- The three bytes of the selection are the mask. -/
def quoteInfo : QuoteInfo where
  pcrSelect := wireSelections tpmAlgSHA256 [toLE 3 d.pcrMask.toNat]
  pcrDigest := (sha256 (pcrString d.pcrValues d.pcrMask)).toList
  pcrHashAlg := tpmAlgSHA256

/-- The TPM's quote over the registers and the report. -/
def quote : TPMSAttest where
  magic := tpmGeneratedValue
  type := tpmSTAttestQuote
  qualifiedSigner := []
  extraData := (computeAttestationBindingNonce d.nonce d.draft).toList
  clockInfo := { clock := 0, resetCount := 0, restartCount := 0, safe := true }
  firmwareVersion := 0
  quoteInfo := some d.quoteInfo

def quoteDigest : Hash := sha256 (wireAttest d.quote)

def aik : RSAPublicKey := sampleKey d.quoteDigest.toList

/-- The certificate of an AIK is its fingerprint. -/
def fingerprint (key : RSAPublicKey) : Hash := sha256 (marshalSPKI key.n)

/-- The report as sent. -/
def report : AttestationReport :=
  { d.draft with tpm :=
    { d.draft.tpm with
      quoteSignature := toBlob 512 (sampleSignature d.quoteDigest.toList), quoteSigSize := 256
      attestData := toBlob 1024 (wireAttest d.quote), attestSize := 111
      aikPublic := toBlob 512 (marshalSPKI d.aik.n), aikPublicSize := 292
      aikCertificate := toBlob 2048 (fingerprint d.aik).toList, aikCertSize := 32 } }

/-- The name in the certificate. -/
def name : String := "4c4f54412d6465766963652d30303030303030303030303030303030303030a1"

/-- The hardware the name stands for. -/
def hardware : Blob 32 := toBlob 32 (ascii "LOTA-device-0000000000000000000" ++ [0xa1])

/-- An AIK store that knows keys by their fingerprint. -/
def knownAIK (key : RSAPublicKey) (cert : Bytes) : Except String String :=
  if cert = (fingerprint key).toList then .ok name else .error "unknown AIK"

theorem wireAttest_quote_length : (wireAttest d.quote).length = 111 := by
  simp only [wireAttest, wireAttestCommon, quote, quoteInfo, Option.map_some, Option.getD_some,
    wireQuoteInfo,
    wireSelections, wireSelection, List.flatMap_cons, List.flatMap_nil, List.length_append,
    toBE_length, toLE_length, List.Vector.toList_length, List.length_nil]

theorem quoteInfo_encodes : d.quoteInfo.Encodes [toLE 3 d.pcrMask.toNat] where
  pcrSelect := rfl
  count := by simp
  size sel h := by
    rw [List.mem_singleton.mp h, toLE_length]
    omega
  nonempty := by simp
  digest := by
    rw [quoteInfo, List.Vector.toList_length]
    omega

theorem quote_wellFormed : d.quote.WellFormed where
  magic := rfl
  signer := by simp [quote]
  extraData := by
    rw [quote, List.Vector.toList_length]
    omega
  quote := ⟨fun _ => rfl, fun _ => rfl⟩
  quoteInfo q h := by
    cases h
    exact ⟨_, d.quoteInfo_encodes⟩

theorem report_attestData :
    d.report.tpm.attestData.toList.take d.report.tpm.attestSize.toNat = wireAttest d.quote :=
  toBlob_take (k := 111) d.wireAttest_quote_length (by decide)

theorem report_aikPublic :
    d.report.tpm.aikPublic.toList.take d.report.tpm.aikPublicSize.toNat = marshalSPKI d.aik.n :=
  toBlob_take (k := 292) (marshalSPKI_length _) (by decide)

theorem report_aikCertificate :
    d.report.tpm.aikCertificate.toList.take d.report.tpm.aikCertSize.toNat =
    (fingerprint d.aik).toList :=
  toBlob_take (k := 32) (List.Vector.toList_length _) (by decide)

theorem report_signed :
    SignedBy d.report (wireAttest d.quote) (sampleSignature (sha256 (wireAttest d.quote)).toList) where
  attest := d.report_attestData
  attestSize := ⟨by simp [report], by simp [report, maxAttestSize]⟩
  sig := toBlob_take (k := 256) (sampleSignature_length _) (by decide)
  sigSize := ⟨by simp [report], by simp [report, maxSigSize]⟩
  alg := rfl
  hashAlg := rfl

/-- The event log has a length and explains the registers. -/
structure LogOK (d : Device) : Prop where
  short : d.eventLog.length < 2 ^ 32
  nonempty : d.eventLog.length > 0
  replays : verifyEventLog d.report = .ok ()

theorem report_wellFormed (h : d.LogOK) : WellFormed d.report where
  magic := rfl
  version := rfl
  quoteSig := by simp [report, maxSigSize]
  attest := by simp [report, maxAttestSize]
  aikPublic := by simp [report, maxAIKPubSize]
  aikCert := by simp [report, maxAIKCertSize]
  ekCert := by simp [report, draft, maxEKCertSize]
  prevAIK := by simp [report, draft, maxAIKPubSize]
  eventLog := h.short

/-- The identity the verifier reads off the report. -/
def identity : Identity where
  report := d.report
  aik := d.aik
  clientID := name
  hardwareID := hardware

theorem decodeDevicePseudonym_name : decodeDevicePseudonym name = .ok hardware := by
  unfold decodeDevicePseudonym
  rw [if_neg (by decide)]
  rfl

theorem identified {env : ReportEnv} (h : env.verifyAIKCertificate = some knownAIK) (hlog : d.LogOK) :
    Identified rsaCrypto env (wireReport d.report) d.identity where
  parsed := parseReport_wireReport d.report (d.report_wellFormed hlog)
  sizes := rfl
  aikSize := by
    show (292 : UInt16) ≠ 0
    decide
  aik := by
    show rsaCrypto.parseRSAPublicKey
        (d.report.tpm.aikPublic.toList.take d.report.tpm.aikPublicSize.toNat) = .ok d.aik
    rw [report_aikPublic]
    exact parseRSAPublicKey_rsa d.quoteDigest
  certSize := by
    show (32 : UInt16) ≠ 0
    decide
  cert := by
    refine ⟨knownAIK, h, ?_⟩
    show knownAIK d.aik (d.report.tpm.aikCertificate.toList.take d.report.tpm.aikCertSize.toNat) =
        .ok name
    rw [report_aikCertificate, knownAIK, if_pos rfl]
  hardwareID := decodeDevicePseudonym_name

/-- The quote signs the registers under the mask. -/
theorem quote_signs : verifyPCRDigestParsed d.quote d.pcrValues d.pcrMask = .ok () :=
  verifyPCRDigestParsed_ok.mpr ⟨rfl, _, rfl, rfl, rfl⟩

theorem quote_parses :
    parseTPMSAttest (d.report.tpm.attestData.toList.take d.report.tpm.attestSize.toNat) =
    .ok d.quote := by
  rw [report_attestData]
  exact parseTPMSAttest_wireAttest d.quote_wellFormed

/-- A log without entries explains everything. -/
theorem logOK_headerOnly {d : Device} (h : d.eventLog = headerOnlyLog) : d.LogOK where
  short := by
    rw [h]
    decide
  nonempty := by
    rw [h]
    decide
  replays := by
    have hparse : parseEventLog d.report.eventLog =
        .ok { entries := [], algorithmList := [algSHA256] } := by
      show parseEventLog d.eventLog = _
      rw [h]
      exact parseEventLog_headerOnlyLog
    exact verifyEventLog_ok.mpr ⟨_, hparse, fun i hi => absurd rfl hi⟩

/-- A policy that passes is all the evidence still needs. -/
theorem evident {v : Verifier} (hp : v.pcrVerifier.verifyReport d.report = .ok ()) (hlog : d.LogOK) :
    Evident rsaCrypto v d.identity (some d.quote) where
  signature := verifyReportSignature_rsa d.report_signed
  quote := checkQuote_of (by show (111 : UInt16) ≠ 0; decide) d.quote_parses d.quote_signs
  policy := hp
  eventLog := ⟨hlog.nonempty, hlog.replays⟩

/-- The binding nonce does not cover the TPM's own evidence. -/
theorem binding_report :
    computeAttestationBindingNonce d.report.tpm.nonce d.report = computeAttestationBindingNonce
    d.nonce d.draft := by
  have hnonce : d.report.tpm.nonce = d.nonce := rfl
  have hid : d.report.tpm.hardwareID = d.draft.tpm.hardwareID := rfl
  have hheader : d.report.header = d.draft.header := rfl
  have hsystem : d.report.system = d.draft.system := rfl
  unfold computeAttestationBindingNonce
  rw [hnonce, hid, hheader, hsystem]

theorem quoteNonce_ok : NonceStore.checkQuoteNonce d.report d.report.tpm.nonce = .ok () := by
  have hbound : verifyNonceInAttest (d.report.tpm.attestData.toList.take d.report.tpm.attestSize.toNat)
      (computeAttestationBindingNonce d.report.tpm.nonce d.report).toList = .ok () := by
    unfold verifyNonceInAttest
    rw [quote_parses, binding_report]
    simp only [quote, ne_eq, not_true_eq_false, if_false]
  have hsize : d.report.tpm.attestSize.toNat = 111 := rfl
  unfold NonceStore.checkQuoteNonce
  simp only [hbound]
  rw [hsize, if_neg (by decide), if_neg (by decide)]

/-- Registers outside the mask can be changed under the same quote. -/
theorem quote_withPCRs {t : PCRTable} (h : pcrString t d.pcrMask = pcrString d.pcrValues d.pcrMask) :
    ({ d with pcrValues := t } : Device).quote = d.quote := by
  unfold quote quoteInfo computeAttestationBindingNonce
  simp only [h]
  rfl

theorem report_withPCRs {t : PCRTable} (h : pcrString t d.pcrMask = pcrString d.pcrValues d.pcrMask) :
    ({ d with pcrValues := t } : Device).report =
      { d.report with tpm := { d.report.tpm with pcrValues := t } } := by
  have hq := d.quote_withPCRs h
  unfold report aik quoteDigest
  rw [hq]
  rfl

end Device

/-! ## The nonce of a challenge -/

/-- What a store with the default limits has seen: no nonce outside `used`
was used, and no identity attested more than `k` times in its window. -/
structure Seen (ns : NonceStore) (used : List Nonce) (k : Int) : Prop where
  lifetime : 0 ≤ ns.lifetime
  maxPending : 0 < ns.maxPending
  rateLimit : ns.rateLimitMax = 30
  memory : ∃ m, ns.usedBackend = .memory m ∧ ∀ n, n ∉ used → m.contains (nonceKey n) = false
  rate : 0 ≤ k ∧ ∀ id cs, ns.identityChallenges.lookup id = some cs → cs.windowCount ≤ k

/-- Nothing is pending. -/
structure Idle (ns : NonceStore) (used : List Nonce) (k : Int) : Prop extends Seen ns used k where
  pending : ns.pending = ∅
  bindings : ∀ b cs, ns.bindingChallenges.lookup b = some cs → cs.pendingCount = 0

/-- The challenge with nonce `n` is pending, and nothing else. -/
structure Waiting (ns : NonceStore) (used : List Nonce) (k : Int) (n : Nonce) (b : String) : Prop
    extends Seen ns used k where
  pending : ∃ entry : NonceEntry, ns.pending = AList.insert (nonceKey n) entry ∅ ∧ entry.nonce = n ∧
    entry.createdAt = 0 ∧ entry.bindingID = b ∧ entry.challengeFlags = challengeFlagBootCommitmentV1
  bindings : ∀ b' cs, ns.bindingChallenges.lookup b' = some cs →
    cs.pendingCount = if b' = b then 1 else 0

theorem idle_new : Idle (newNonceStoreFromConfig defaultNonceStoreConfig) [] 0 where
  lifetime := by decide
  maxPending := by decide
  rateLimit := rfl
  memory := ⟨_, rfl, fun n _ => by simp [MemoryUsedNonceBackend.contains]⟩
  rate := ⟨by decide, fun id cs h => by simp [newNonceStoreFromConfig] at h⟩
  pending := rfl
  bindings b cs h := by simp [newNonceStoreFromConfig] at h

/-- Recording a nonce adds no other. -/
theorem contains_record {m : MemoryUsedNonceBackend} {key key' : String} {t : Time} (hne : key' ≠ key)
    (h : m.contains key' = false) : (m.record key t).contains key' = false := by
  have hremove : ∀ (m : MemoryUsedNonceBackend) (elem : Nat) (k : String), m.contains key' = false →
      (m.remove elem k).contains key' = false := by
    intro m elem k h
    simp only [MemoryUsedNonceBackend.contains, MemoryUsedNonceBackend.remove, lookup_erase_ite] at h ⊢
    split
    · rfl
    · exact h
  have hdrop : (m.dropExisting key).contains key' = false := by
    unfold MemoryUsedNonceBackend.dropExisting
    split
    · exact hremove m _ _ h
    · exact h
  have hevict : (m.dropExisting key).evictFront.contains key' = false := by
    unfold MemoryUsedNonceBackend.evictFront
    split
    · split
      · exact hremove _ _ _ hdrop
      · exact hdrop
    · exact hdrop
  unfold MemoryUsedNonceBackend.record
  split
  · exact h
  · simp only [MemoryUsedNonceBackend.contains, MemoryUsedNonceBackend.pushBack,
      lookup_insert_ite, if_neg hne]
    exact hevict


/-- The random source gives `n`. -/
def drawing (n : Nonce) : GenerateEnv := { rand := fun _ => .ok n }

/-- A store with nothing pending issues a nonce that was not used. -/
theorem generate_round {ns : NonceStore} {used : List Nonce} {k : Int} (hi : Idle ns used k) {n : Nonce}
    (hn : n ∉ used) (b : String) (mask : UInt32) :
    (∃ c, (ns.generateChallenge (drawing n) b mask).2 = .ok c ∧ c.nonce = n ∧ c.pcrMask = mask) ∧
      Waiting (ns.generateChallenge (drawing n) b mask).1 used k n b := by
  obtain ⟨m, hm, hfresh⟩ := hi.memory
  -- the binding gets a record with nothing pending
  have hlimit : ∃ cs, cs.pendingCount = 0 ∧ ns.checkPendingLimit b 0 =
      .ok { ns with bindingChallenges := ns.bindingChallenges.insert b cs } := by
    unfold NonceStore.checkPendingLimit
    cases hb : ns.bindingChallenges.lookup b with
    | none => exact ⟨_, rfl, rfl⟩
    | some cs =>
      have h0 := hi.bindings b cs hb
      refine ⟨cs, h0, ?_⟩
      simp only [h0, ge_iff_le, Int.not_le.mpr hi.maxPending, if_false]
  obtain ⟨cs, hcs, hlimit⟩ := hlimit
  have hdraw :
      NonceStore.generateUniqueNonce { ns with bindingChallenges := ns.bindingChallenges.insert b cs }
      (drawing n) NonceStore.maxNonceGenerationAttempts 0 = .ok n := by
    unfold NonceStore.maxNonceGenerationAttempts NonceStore.generateUniqueNonce
    simp only [drawing, hi.pending, AList.lookup_empty, Option.isSome_none,
      Bool.false_eq_true, if_false, hm, UsedNonceBackend.contains, hfresh n hn]
  unfold NonceStore.generateChallenge
  rw [show (drawing n).limitNow = 0 from rfl, hlimit]
  simp only [hdraw, AList.lookup_insert, Option.getD_some]
  refine ⟨⟨_, rfl, rfl, rfl⟩, ?_⟩
  exact {
    lifetime := hi.lifetime
    maxPending := hi.maxPending
    rateLimit := hi.rateLimit
    memory := ⟨m, hm, hfresh⟩
    rate := hi.rate
    pending := by
      rw [hi.pending]
      exact ⟨_, rfl, rfl, rfl, rfl, rfl⟩
    bindings := by
      intro b' cs' h
      simp only [lookup_insert_ite] at h
      split at h
      · rename_i hb
        cases h
        rw [if_pos hb, hcs]
        rfl
      · rename_i hb
        rw [if_neg hb]
        exact hi.bindings b' cs' h }

theorem release_frame (ns : NonceStore) (b : String) :
    ns.releasePending b = { ns with bindingChallenges := (ns.releasePending b).bindingChallenges } := by
  unfold NonceStore.releasePending
  split <;> rfl

/-- Releasing the one pending challenge leaves none. -/
theorem release_bindings {ns : NonceStore} {b b' : String} {cs : ClientState}
    (hl : (ns.releasePending b).bindingChallenges.lookup b' = some cs)
    (h : ∀ b' cs, ns.bindingChallenges.lookup b' = some cs → cs.pendingCount = if b' = b
      then 1 else 0) :
    cs.pendingCount = 0 := by
  unfold NonceStore.releasePending at hl
  cases hb : ns.bindingChallenges.lookup b with
  | none =>
    rw [hb] at hl
    have hne : b' ≠ b := by
      intro he
      rw [he, hb] at hl
      cases hl
    rw [h b' cs hl, if_neg hne]
  | some cs₀ =>
    rw [hb] at hl
    have h1 : cs₀.pendingCount = 1 := by rw [h b cs₀ hb, if_pos rfl]
    simp only [lookup_insert_ite, h1] at hl
    split at hl
    · cases hl
      rfl
    · rename_i hne
      rw [h b' cs hl, if_neg hne]

theorem erase_insert_empty {V : Type} (k : String) (x : V) :
    AList.erase k (AList.insert k x (∅ : GoMap String V)) = ∅ := by
  refine AList.ext ?_
  show List.kerase k (List.kinsert (β := fun _ => V) k x []) = []
  simp

/-- A nonce that waits gets as far as the rate limit. -/
theorem verifyNonce_waiting {ns : NonceStore} {used : List Nonce} {k : Int} {b : String}
    {report : AttestationReport}
    (hw : Waiting ns used k report.tpm.nonce b) (hn : report.tpm.nonce ∉ used) (id : String) :
    ∃ entry, ns.pending = AList.insert (nonceKey report.tpm.nonce) entry ∅ ∧ entry.bindingID = b ∧
      ns.verifyNonce {} report b id = match ns.checkIdentityRateLimit id 0 with
        | .error e => ns.rejectNonce {} (nonceKey report.tpm.nonce) entry e
        | .ok ns' => match NonceStore.checkQuoteNonce report report.tpm.nonce with
          | .error e => (ns', .error e)
          | .ok () => ns'.consumeNonce {} (nonceKey report.tpm.nonce) entry id := by
  obtain ⟨m, hm, hfresh⟩ := hw.memory
  obtain ⟨entry, hp, he, ht, hb, hf⟩ := hw.pending
  have hcap : NonceStore.verifyChallengeCapabilities report entry.challengeFlags = .ok () := by
    have hoffer : hasFlag challengeFlagBootCommitmentV1 challengeFlagBootCommitmentV1 = true := by
      decide
    unfold NonceStore.verifyChallengeCapabilities
    rw [hf]
    simp only [hoffer, not_true_eq_false, and_false, if_false]
  have hunused : ns.usedBackend.contains false (nonceKey report.tpm.nonce) = false := by
    rw [hm]
    exact hfresh _ hn
  have hlookup : ns.pending.lookup (nonceKey report.tpm.nonce) = some entry := by
    rw [hp]
    exact AList.lookup_insert _
  have hage : ¬ (0 : Time) - entry.createdAt > ns.lifetime := by
    rw [ht]
    exact Int.not_lt.mpr hw.lifetime
  have hbind : ¬ (entry.bindingID ≠ "" ∧ entry.bindingID ≠ b) := fun h => h.2 hb
  refine ⟨entry, hp, hb, ?_⟩
  unfold NonceStore.verifyNonce
  simp only [hunused, hlookup]
  rw [if_neg Bool.false_ne_true, if_neg hage, if_neg hbind, if_neg (not_not.mpr he), hcap]
  exact he ▸ rfl

/-- A report with the pending nonce and a quote bound to it is taken, and
nothing is pending any more. -/
theorem verify_round {ns : NonceStore} {used : List Nonce} {k : Int} {b : String}
    {report : AttestationReport}
    (hw : Waiting ns used k report.tpm.nonce b) (hn : report.tpm.nonce ∉ used) (hk : k < 30)
    (hq : NonceStore.checkQuoteNonce report report.tpm.nonce = .ok ()) (id : String) :
    (ns.verifyNonce {} report b id).2 = .ok () ∧
      Idle (ns.verifyNonce {} report b id).1 (report.tpm.nonce :: used) (k + 1) := by
  obtain ⟨m, hm, hfresh⟩ := hw.memory
  obtain ⟨entry, hp, hb, hverify⟩ := verifyNonce_waiting hw hn id
  -- the identity's record counts one more
  have hrate : ∃ cs, cs.windowCount ≤ k + 1 ∧ ns.checkIdentityRateLimit id 0 =
      .ok { ns with identityChallenges := ns.identityChallenges.insert id cs } := by
    have hcount : ((ns.identityChallenges.lookup id).getD {}).windowCount ≤ k := by
      cases hl : ns.identityChallenges.lookup id with
      | none => exact hw.rate.1
      | some cs => exact hw.rate.2 id cs hl
    have hlow : ¬ ((ns.identityChallenges.lookup id).getD {}).windowCount ≥ ns.rateLimitMax := by
      rw [hw.rateLimit]
      omega
    have hone : (1 : Int) ≤ k + 1 := by
      have := hw.rate.1
      omega
    have hmore : ((ns.identityChallenges.lookup id).getD {}).windowCount + 1 ≤ k + 1 := by omega
    unfold NonceStore.checkIdentityRateLimit
    simp only [hlow, if_false]
    split
    · exact ⟨_, hone, rfl⟩
    · exact ⟨_, hmore, rfl⟩
  obtain ⟨cs, hcs, hrate⟩ := hrate
  rw [hverify, hrate, hq]
  unfold NonceStore.consumeNonce
  simp only [hm, UsedNonceBackend.record, hb]
  rw [release_frame]
  refine ⟨trivial, ?_⟩
  exact {
    lifetime := hw.lifetime
    maxPending := hw.maxPending
    rateLimit := hw.rateLimit
    memory := by
      refine ⟨_, rfl, fun n' hn' => ?_⟩
      obtain ⟨hne, hold⟩ := not_or.mp (fun h => hn' (List.mem_cons.mpr h))
      exact contains_record (fun h => hne (nonceKey_inj.mp h)) (hfresh n' hold)
    rate := by
      refine ⟨by have := hw.rate.1; omega, fun id' cs' h => ?_⟩
      rw [lookup_insert_ite] at h
      split at h
      · cases h
        rw [AList.lookup_insert]
        exact hcs
      · rename_i hid
        rw [AList.lookup_insert_ne hid] at h
        have := hw.rate.2 id' cs' h
        omega
    pending := by
      rw [hp]
      exact erase_insert_empty _ _
    bindings := fun b' cs' h => release_bindings h hw.bindings }

/-! ## One round of a verifier -/

/-- Nothing fails, and the AIK store knows the device. -/
def honestEnv : ReportEnv := { verifyAIKCertificate := some Device.knownAIK }

/-- What the baseline store is asked about the device. -/
def Device.evidence (d : Device) : Evidence := { id := d.identity, attest := some d.quote }

/-- A verifier whose active policy asks for nothing, with a signing key and
without revocations or bans. -/
structure Lenient (v : Verifier) : Prop where
  policy : ∃ name, v.pcrVerifier.getActivePolicyConfig = some { name }
  key : ∃ key, v.sessionTokenKey = some key
  revocations : v.revocationStore = none
  bans : v.banStore = none

/-- A lenient verifier waits for the report of `d`. -/
structure Ready (v : Verifier) (used : List Nonce) (k : Int) (b : String) (d : Device) : Prop where
  lenient : Lenient v
  waiting : Waiting v.nonceStore used k d.nonce b
  fresh : d.nonce ∉ used
  rate : k < 30
  flags : FlagsOK v.cfg d.report
  log : d.LogOK

/-- It does after a challenge with a new nonce. -/
theorem ready_of_idle {v : Verifier} {used : List Nonce} {k : Int} {d : Device} (hl : Lenient v)
    (hi : Idle v.nonceStore used k) (hn : d.nonce ∉ used) (hk : k < 30) (hf : FlagsOK v.cfg d.report)
    (hlog : d.LogOK) (b : String) : Ready (generateChallenge v (drawing d.nonce) b).1 used k b d where
  lenient := ⟨hl.policy, hl.key, hl.revocations, hl.bans⟩
  waiting := (generate_round hi hn b v.pcrVerifier.getActivePolicyMask).2
  fresh := hn
  rate := hk
  flags := hf
  log := hlog

section Rounds

variable {v : Verifier} {used : List Nonce} {k : Int} {b : String} {d : Device}

/-- **Completeness.** The report of an honest device to the pending challenge
passes every check before the baseline store and uses up its nonce. -/
theorem genuine_authenticated (h : Ready v used k b d) :
    ∃ ns, Authenticated rsaCrypto v honestEnv b (wireReport d.report) ns d.evidence ∧
      Idle ns (d.nonce :: used) (k + 1) := by
  obtain ⟨hok, hidle⟩ := verify_round h.waiting h.fresh h.rate d.quoteNonce_ok Device.name
  obtain ⟨name, hp⟩ := h.lenient.policy
  refine ⟨_, ⟨d.identified rfl h.log, ?_, Prod.ext rfl hok, d.evident ?_ h.log, h.flags⟩, hidle⟩
  · unfold checkEnforcement
    simp only [h.lenient.revocations, h.lenient.bans, Option.bind_none]
  · unfold PCRVerifier.verifyReport
    rw [hp]
    exact PCRPolicy.verifyAgainstPolicy_empty name d.report

/-- Whatever becomes of the report, the verifier can issue the next
challenge. -/
theorem report_next (h : Ready v used k b d) :
    Lenient (verifyReport rsaCrypto v honestEnv b (wireReport d.report)).1 ∧
      Idle (verifyReport rsaCrypto v honestEnv b (wireReport d.report)).1.nonceStore
      (d.nonce :: used) (k + 1) := by
  obtain ⟨ns, ha, hidle⟩ := genuine_authenticated h
  rw [verifyReport_frame, authenticate_ok.mpr ha]
  exact ⟨⟨h.lenient.policy, h.lenient.key, h.lenient.revocations, h.lenient.bans⟩, hidle⟩

/-- Nothing fails in an honest environment. -/
theorem legacyServed_honest (v : Verifier) (c : String) : LegacyServed v honestEnv c := by
  unfold LegacyServed BaselineStorer.RowServed BaselineStorer.BootServed
  cases v.baselineStore with
  | memory s => exact ⟨trivial, trivial⟩
  | sqlite db => exact ⟨⟨rfl, fun _ => rfl⟩, rfl, rfl⟩

theorem pinBaseline_legacy {env : ReportEnv} {ev : Evidence}
    (h : useBootCommitment ev.id.report = false) : pinBaseline v env ev = pinLegacy v env ev :=
  if_neg (by rw [h]; exact Bool.false_ne_true)

/-- An honest report without `FlagBootCommitmentV1` is accepted when its
PCR 14 is that of the device's row and no other boot registers are pinned. -/
theorem legacy_accepted (h : Ready v used k b d) (hflag : useBootCommitment d.report = false)
    (hrow : (v.baselineStore.pins Device.name).pcr14 = none ∨
      (v.baselineStore.pins Device.name).pcr14 = some (pcr14Of d.report))
    (hboot : (v.baselineStore.pins Device.name).conflict (bootPCRsOf d.report) = false) :
    (verifyReport rsaCrypto v honestEnv b (wireReport d.report)).2.accepted = true := by
  obtain ⟨ns, ha, -⟩ := genuine_authenticated h
  obtain ⟨key, hkey⟩ := h.lenient.key
  refine verifyReport_accepts ha ?_ hkey
  rw [show pinBaseline v honestEnv d.evidence = pinLegacy v honestEnv d.evidence
    from pinBaseline_legacy hflag]
  exact pinLegacy_accepts (legacyServed_honest v Device.name) hrow hboot

/-- A report with `FlagBootCommitmentV1` is accepted when it reaches the
store, agrees with the pins and is no backfill. -/
theorem commit_accepted (h : Ready v used k b d) (hflag : useBootCommitment d.report = true)
    (hreach : ReachesStore v honestEnv d.evidence)
    (hagree : (attestPins v d.evidence).2.refused = false)
    (hfill : (attestPins v d.evidence).2.agentHashResult ≠ .legacyBackfill) :
    (verifyReport rsaCrypto v honestEnv b (wireReport d.report)).2.accepted = true := by
  obtain ⟨ns, ha, -⟩ := genuine_authenticated h
  obtain ⟨key, hkey⟩ := h.lenient.key
  refine verifyReport_accepts ha ?_ hkey
  rw [show pinBaseline v honestEnv d.evidence = pinBootCommitment v honestEnv d.evidence
    from if_pos hflag]
  exact pinBootCommitment_accepts hreach rfl hagree hfill

/-- Accepted or not, such a report is committed when it reaches the store. -/
theorem commit_pins (h : Ready v used k b d) (hflag : useBootCommitment d.report = true)
    (hreach : ReachesStore v honestEnv d.evidence) :
    (verifyReport rsaCrypto v honestEnv b (wireReport d.report)).1.baselineStore.pins =
      Function.update v.baselineStore.pins Device.name
      (v.baselineStore.shown (attestPins v d.evidence).1) := by
  obtain ⟨ns, ha, -⟩ := genuine_authenticated h
  rw [verifyReport_baselineStore ha,
    show pinBaseline v honestEnv d.evidence = pinBootCommitment v honestEnv d.evidence
        from if_pos hflag]
  exact pinBootCommitment_served hreach rfl

end Rounds

/-! ## A verifier to run -/

/-- A new verifier with a policy that asks for nothing. -/
def openVerifier (cfg : VerifierConfig) : Verifier :=
  let v := newVerifier { cfg, sessionTokenKey := some (Blob.zero 32) }
  { v with pcrVerifier := (v.pcrVerifier.addPolicy { name := "open" }).1 }

theorem openVerifier_lenient (cfg : VerifierConfig) : Lenient (openVerifier cfg) where
  policy := ⟨"open", rfl⟩
  key := ⟨_, rfl⟩
  revocations := rfl
  bans := rfl

theorem openVerifier_idle (cfg : VerifierConfig) : Idle (openVerifier cfg).nonceStore [] 0 := idle_new

end Lota.L3.Verify
